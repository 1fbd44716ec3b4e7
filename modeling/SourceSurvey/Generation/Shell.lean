import SourceSurvey.Generation.Command

/-!
A stand-in for starting processes, so that the program can be run as a whole. It is no part of what is
modelled: the generators take any launcher, and nothing is proved about this one. It knows simple
commands with quoting, redirection of their output, pipes, the connectives `;`, `&&` and `||`, and the
time that commands spend sleeping.
-/

namespace SourceSurvey

namespace Shell

inductive Connective
  | always
  | onSuccess
  | onFailure
  | pipe
  deriving Repr, DecidableEq

inductive Token
  | word (s : String)
  | connective (c : Connective)
  | into (stream : Nat)
  | likewise (stream target : Nat)
  | outOf
  deriving Repr, DecidableEq

inductive Quoting
  | none
  | single
  | double
  deriving Repr, DecidableEq

def flush (word : Option (List Char)) (done : List Token) : List Token :=
  match word with
  | some cs => .word (String.ofList cs.reverse) :: done
  | none => done

/-- The stream a redirection is about: the number directly in front of it, or the given one. -/
def streamOf (word : Option (List Char)) (done : List Token) (default : Nat) : Nat × List Token :=
  match word with
  | some [c] => if c.isDigit then (c.toNat - 48, done) else (default, flush word done)
  | _ => (default, flush word done)

def ownNumber : List Char := ['1']

def tokens? : Quoting → (word : Option (List Char)) → (done : List Token) → List Char → Option (List Token)
  | .none, w, done, [] => some (flush w done).reverse
  | _, _, _, [] => none
  | .single, w, done, c :: s =>
    if c = '\'' then tokens? .none w done s else tokens? .single (some (c :: w.getD [])) done s
  | .double, w, done, '\\' :: c :: s =>
    if c = '"' || c = '\\' || c = '$' then tokens? .double (some (c :: w.getD [])) done s
    else tokens? .double (some (c :: '\\' :: w.getD [])) done s
  | .double, w, done, '$' :: '$' :: s => tokens? .double (some (ownNumber ++ w.getD [])) done s
  | .double, w, done, c :: s =>
    if c = '"' then tokens? .none w done s else tokens? .double (some (c :: w.getD [])) done s
  | .none, w, done, '&' :: '&' :: s => tokens? .none none (.connective .onSuccess :: flush w done) s
  | .none, w, done, '|' :: '|' :: s => tokens? .none none (.connective .onFailure :: flush w done) s
  | .none, w, done, '|' :: s => tokens? .none none (.connective .pipe :: flush w done) s
  | .none, w, done, ';' :: s => tokens? .none none (.connective .always :: flush w done) s
  | .none, w, done, '\n' :: s => tokens? .none none (.connective .always :: flush w done) s
  | .none, w, done, '>' :: '&' :: c :: s =>
    let (stream, done) := streamOf w done 1
    tokens? .none none (.likewise stream (c.toNat - 48) :: done) s
  | .none, w, done, '>' :: '>' :: s =>
    let (stream, done) := streamOf w done 1
    tokens? .none none (.into stream :: done) s
  | .none, w, done, '>' :: s =>
    let (stream, done) := streamOf w done 1
    tokens? .none none (.into stream :: done) s
  | .none, w, done, '<' :: s => tokens? .none none (.outOf :: (streamOf w done 0).2) s
  | .none, w, done, '\\' :: c :: s => tokens? .none (some (c :: w.getD [])) done s
  | .none, w, done, '$' :: '$' :: s => tokens? .none (some (ownNumber ++ w.getD [])) done s
  | .none, w, done, c :: s =>
    if c = '\'' then tokens? .single (some (w.getD [])) done s
    else if c = '"' then tokens? .double (some (w.getD [])) done s
    else if c = ' ' || c = '\t' then tokens? .none none (flush w done) s
    else tokens? .none (some (c :: w.getD [])) done s

inductive Sink
  | output
  | diagnostics
  | nowhere
  deriving Repr, DecidableEq

structure Simple where
  words : List String := []
  output : Sink := .output
  diagnostics : Sink := .diagnostics
  deaf : Bool := false
  deriving Repr, DecidableEq

def Simple.send (c : Simple) (stream : Nat) (sink : Sink) : Simple :=
  if stream = 1 then { c with output := sink } else if stream = 2 then { c with diagnostics := sink } else c

def commands : (c : Simple) → (before : Connective) → List Token → List (Connective × Simple)
  | c, b, [] => [(b, c)]
  | c, b, .connective k :: ts => (b, c) :: commands {} k ts
  | c, b, .into s :: .word _ :: ts => commands (c.send s .nowhere) b ts
  | c, b, .likewise s t :: ts => commands (c.send s (if t = 1 then c.output else c.diagnostics)) b ts
  | c, b, .outOf :: .word _ :: ts => commands { c with deaf := true } b ts
  | c, b, .word w :: ts => commands { c with words := c.words ++ [w] } b ts
  | c, b, .into _ :: ts | c, b, .outOf :: ts => commands c b ts

structure Effect where
  output : Bytes := []
  input : Bytes
  status : Int := 0
  time : Int := 0
  stops : Bool := false

def unescape : List Char → List Char
  | '\\' :: 'n' :: s => '\n' :: unescape s
  | '\\' :: 't' :: s => '\t' :: unescape s
  | '\\' :: 'r' :: s => '\r' :: unescape s
  | '\\' :: '\\' :: s => '\\' :: unescape s
  | c :: s => c :: unescape s
  | [] => []

/-- A format with its places filled in by the arguments in turn. A place begins with a percent sign, and says how
wide it is at least; `width` is what has been read of the place that is being read. -/
def format : (width : Option Nat) → List Char → (arguments : List String) → List Char
  | none, '%' :: s, as => format (some 0) s as
  | none, c :: s, as => c :: format none s as
  | none, [], _ => []
  | some width, c :: s, as =>
    let fill (argument : String) : List Char := argument.toList.leftpad width ' '
    if c.isDigit then format (some (10 * width + (c.toNat - 48))) s as
    else if c = 's' then fill (as.headD "") ++ format none s as.tail
    else if c = 'd' then fill (as.headD "0") ++ format none s as.tail
    else if c = '%' then '%' :: format none s as
    else '%' :: c :: format none s as
  | some _, [], _ => ['%']

def notFound : Int := 127

def secondsOf (s : String) : Int :=
  match s.splitOn "." with
  | [a] => (a.toNat?.getD 0 : Nat) * 1000000000
  | [a, b] => (a.toNat?.getD 0 : Nat) * 1000000000 + ((b.toNat?.getD 0) * 1000000000 / Nat.pow 10 b.length : Nat)
  | _ => 0

def perform (status : Int) (input : Bytes) : List String → Effect
  | [] => { input, status }
  | "exec" :: words => { perform status input words with stops := true }
  | name :: arguments =>
    let words := " ".intercalate arguments
    match ((name.splitOn "/").getLast?).getD "" with
    | "cat" => if arguments.isEmpty || arguments = ["-"] then { output := input, input := [] } else { input, status := 1 }
    | "echo" =>
      if arguments.head? = some "-n" then { output := utf8 (" ".intercalate arguments.tail), input }
      else { output := utf8 (String.ofList (unescape words.toList) ++ "\n"), input }
    | "printf" =>
      { output := utf8 (String.ofList (format none (unescape (arguments.headD "").toList) arguments.tail)), input }
    | "true" | ":" | "cd" | "set" | "export" => { input }
    | "false" => { input, status := 1 }
    | "read" => { input := (input.dropWhile (· ≠ 10)).drop 1, status := if input.isEmpty then 1 else 0 }
    | "sleep" => { input, time := (arguments.map secondsOf).foldl (· + ·) 0 }
    | "exit" => { input, status := ((arguments.head?.bind String.toNat?).map fun n => ((n % 256 : Nat) : Int)).getD status,
                  stops := true }
    | "kill" => if arguments.head? = some "-0" then { input } else { input, status := -1, stops := true }
    | "head" =>
      match arguments with
      | "-c" :: n :: rest =>
        let n := n.toNat?.getD 0
        if rest = ["/dev/zero"] then { output := List.replicate n 0, input }
        else { output := input.take n, input := input.drop n }
      | _ => { input, status := 1 }
    | _ => { input, status := notFound }

structure State where
  input : Bytes
  output : Bytes := []
  status : Int := 0
  time : Int := 0
  stopped : Bool := false
  piped : Bytes := []

def State.take (s : State) (before : Connective) (c : Simple) (pipes : Bool) : State :=
  let wanted := match before with
    | .onSuccess => s.status = 0
    | .onFailure => s.status ≠ 0
    | _ => true
  if s.stopped || !wanted then s
  else
    let given := if c.deaf then [] else if before = .pipe then s.piped else s.input
    let e := perform s.status given c.words
    let shown := if c.output = .output then e.output else []
    { s with
      input := if c.deaf || before = .pipe then s.input else e.input
      output := if pipes then s.output else s.output ++ shown
      piped := if pipes then shown else []
      status := e.status
      time := s.time + e.time
      stopped := e.stops && !pipes && before ≠ .pipe }

def runCommands : State → List (Connective × Simple) → State
  | s, [] => s
  | s, [(b, c)] => s.take b c false
  | s, (b, c) :: (b', c') :: rest => runCommands (s.take b c (b' = .pipe)) ((b', c') :: rest)

def syntaxError : Int := 2

def run (script : String) (input : Bytes) : State :=
  match tokens? .none none [] script.toList with
  | some ts => runCommands { input } (commands {} .always ts)
  | none => { input, status := syntaxError }

def directories : List String := ["", "/bin", "/usr/bin"]

def programs : List String := ["cat", "echo", "printf", "true", "false", "sleep", "head", "kill"]

def interpreters : List String := ["sh", "bash", "dash"]

/-- The name of a program, if it is one that can be started. -/
def program? (path : String) : Option String :=
  let parts := path.splitOn "/"
  let name := parts.getLast?.getD ""
  if directories.contains ("/".intercalate parts.dropLast) && (programs ++ interpreters).contains name then some name
  else none

def missing (path : String) : String :=
  if path.contains '/' then "fork/exec " ++ path ++ ": no such file or directory"
  else "exec: " ++ quoted path ++ ": executable file not found in $PATH"

def start (name : String) (arguments : List String) (input : Bytes) : State :=
  if interpreters.contains name then
    match arguments with
    | "-c" :: script :: _ => run script input
    | _ => { input }
  else
    let e := perform 0 input (name :: arguments)
    { input := e.input, output := e.output, status := e.status, time := e.time }

def launch : Launcher := fun call command input =>
  match command with
  | [] => .notStarted (missing "")
  | path :: arguments =>
    match program? path with
    | none => .notStarted (missing path)
    | some name =>
      match call.context.ended? .begun with
      | some ending => .refused ending
      | none =>
        let s := start name arguments input
        let late := (call.patience.map fun p => decide (p < s.time)).getD false
        .ran {
          request := (call.context.ended? .generated).or (if late then some .deadline else none)
          status := s.status
          output := s.output }

end Shell

end SourceSurvey
