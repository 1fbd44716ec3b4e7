import SourceSurvey.Text.Pattern
import SourceSurvey.Text.Letter

namespace SourceSurvey

namespace Declared

def interpreters : List (String × List String) := [
  ("Shell", ["ash", "bash", "dash", "ksh", "mksh", "pdksh", "rc", "sh", "zsh"]),
  ("Python", ["python", "python2", "python3", "py", "pypy", "pypy3", "uv"]),
  ("JavaScript", ["chakra", "d8", "gjs", "js", "node", "nodejs", "qjs", "rhino", "v8", "v8-shell"]),
  ("TypeScript", ["bun", "deno", "ts-node", "tsx"]),
  ("Ruby", ["ruby", "macruby", "rake", "jruby", "rbx"]),
  ("Perl", ["perl", "cperl"]),
  ("PHP", ["php"]),
  ("Lua", ["lua", "luajit"]),
  ("R", ["Rscript"]),
  ("Haskell", ["runghc", "runhaskell", "runhugs"]),
  ("Scala", ["scala"]),
  ("Rust", ["rust-script"]),
  ("C", ["tcc"]),
  ("Dart", ["dart"])]

def aliases : List (String × List String) := [
  ("Python", ["python", "py", "python3", "rusthon"]),
  ("JavaScript", ["javascript", "js"]),
  ("TypeScript", ["typescript", "ts"]),
  ("Java", ["java"]),
  ("C", ["c"]),
  ("C++", ["c++", "cpp"]),
  ("C#", ["c#", "csharp", "cake", "cakescript"]),
  ("Go", ["go", "golang"]),
  ("Rust", ["rust", "rs"]),
  ("Ruby", ["ruby", "jruby", "macruby", "rake", "rb", "rbx"]),
  ("PHP", ["php", "inc"]),
  ("Swift", ["swift"]),
  ("Kotlin", ["kotlin"]),
  ("Scala", ["scala"]),
  ("Shell", ["shell", "sh", "shell-script", "bash", "zsh", "envrc"]),
  ("Lua", ["lua"]),
  ("Perl", ["perl", "cperl"]),
  ("R", ["r", "rscript", "splus"]),
  ("SQL", ["sql"]),
  ("Haskell", ["haskell"]),
  ("Dart", ["dart"])]

def languagesNamed (table : List (String × List String)) (word : Bytes) : List String :=
  (table.filter fun (_, ws) => ws.any fun w => utf8 w = word).map (·.1)

def pathEnd (s : Bytes) : Bytes := ((s.splitByte 47).getLast?).getD []

def execLine? (line : Bytes) : Option Bytes := open Pattern in
  ((lit "exec " ++ name (many1 .word) ++ many1 .notNewline ++ lit "$0" ++ many1 .notNewline ++ lit "$@").search
    line).map (·.name)

/-- A version number after the name is dropped together with all that follows its point. -/
def dropVersion (interpreter : Bytes) : Bytes := open Pattern in
  if (lit "python" ++ one .digit ++ lit "." ++ one .digit).occursIn interpreter then
    interpreter.takeWhile (· ≠ 46)
  else interpreter

def interpreter? (text : Bytes) : Option Bytes := do
  let lines := text.splitByte Bytes.newline
  let rest ← Bytes.dropStart? (utf8 "#!") (lines.headD [])
  let command :: arguments := rest.words | none
  let named ←
    if pathEnd command = utf8 "env" then
      (arguments.find? fun w => !(w.head? = some 45 || w.contains 61)).map pathEnd
    else some (pathEnd command)
  let found := if named = utf8 "sh" then ((lines.take 5).findSome? execLine?).getD named else named
  some (dropVersion found)

def byInterpreter (text : Bytes) : List String :=
  match interpreter? text with
  | some i => languagesNamed interpreters i
  | none => []

/-- A language by its name or a nickname: up to the first comma, blanks as underscores. -/
def byAlias (word : Bytes) : List String :=
  let key := Bytes.lower ((word.takeWhile (· ≠ 44)).map fun b => if b = 32 then 95 else b)
  languagesNamed aliases key

/-- Mode lines are looked for in the first and last five lines; of a longer text the fifth line
and the first of the last five are read as one. -/
def modeScope (text : Bytes) : List Bytes :=
  let lines := text.splitByte Bytes.newline
  if lines.length ≤ 10 then lines
  else
    match lines.drop 4, lines.drop (lines.length - 5) with
    | fifth :: _, first :: rest => lines.take 4 ++ (fifth ++ first) :: rest
    | _, _ => lines

def lastSome? {α : Type} (f : Bytes → Option α) (lines : List Bytes) : Option α :=
  (lines.filterMap f).getLast?

def markedMode? (line : Bytes) : Option Bytes := do
  let (before, _) ← line.cutLast? (utf8 "-*-")
  let (_, inner) ← before.cutLast? (utf8 "-*-")
  guard !inner.isEmpty
  some inner.strip

open Pattern in
def modeName (inner : Bytes) : Bytes :=
  match (many .notNewline ++ anyCase "mode" ++ gap ++ lit ":" ++ gap ++ name (many1 (.except " \t\n\x0c\r;"))).search inner with
  | some c => c.name
  | none => inner

open Pattern in
/-- The settings of a line that addresses the other editor. -/
def settings? (line : Bytes) : Option Bytes :=
  ((anyOf [anyOf [start, one .blank] ++ lit "vi" ++
      opt (anyOf [lit "m" ++ opt (one (.among "<=>")) ++ many1 .digit, lit "m"]),
    many (.among "\t ") ++ lit "ex"] ++ gap ++ lit ":" ++ gap ++ name (many .notNewline)).search line).map (·.name)

open Pattern in
def fileType : Pattern :=
  anyOf [anyCase "filetype", anyCase "ft", anyCase "syntax"] ++ gap ++ lit "=" ++ name (many1 .word) ++
    anyOf [one .blank, lit ":", stop]

def fileTypes (settings : Bytes) : Nat → List Bytes
  | 0 => []
  | n + 1 =>
    match fileType.searchFrom (.ofText settings) with
    | none => []
    | some (_, e) => e.captures.name :: fileTypes e.rest n

/-- Languages named by a mode line; two different file types in one line name none. -/
def byModeline (text : Bytes) : List String :=
  let lines := modeScope text
  let marked := ((lastSome? markedMode? lines).map fun m => byAlias (modeName m)).getD []
  if !marked.isEmpty then marked
  else
    match (lastSome? settings? lines).map fun s => fileTypes s s.length with
    | some (t :: ts) => if ts.all (· = t) then byAlias t else []
    | _ => []

end Declared

end SourceSurvey
