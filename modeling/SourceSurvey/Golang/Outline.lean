import SourceSurvey.Golang.Grammar

namespace SourceSurvey

namespace Golang

structure Func where
  name : String
  isMethod : Bool
  line : Int
  deriving Repr, DecidableEq

inductive TypeKind
  | struct
  | interface
  | other
  deriving Repr, DecidableEq

structure TypeDecl where
  name : String
  kind : TypeKind
  line : Int
  deriving Repr, DecidableEq

inductive Decl
  | imports (paths : List String)
  | values
  | types (specs : List TypeDecl)
  | function (f : Func)
  deriving Repr, DecidableEq

structure Outline where
  decls : List Decl := []
  doc : Bytes := []
  deriving Repr, DecidableEq

def Outline.imports (o : Outline) : List String :=
  o.decls.flatMap fun
    | .imports paths => paths
    | _ => []

def unescape : List Char → Bytes × List Char
  | c :: cs =>
    let digits (base n : Nat) (cs : List Char) := (cs.take n).foldl (fun v d => v * base + Lex.digitValue d) 0
    match "abfnrtv".toList.idxOf? c with
    | some i => ([([7, 8, 12, 10, 13, 9, 11] : Bytes).getD i 0], cs)
    | none =>
      if '0' ≤ c && c ≤ '7' then ([(digits 8 3 (c :: cs)).toUInt8], cs.drop 2)
      else if c = 'x' then ([(digits 16 2 cs).toUInt8], cs.drop 2)
      else if c = 'u' then (Utf8.encodeChar (Char.ofNat (digits 16 4 cs)), cs.drop 4)
      else if c = 'U' then (Utf8.encodeChar (Char.ofNat (digits 16 8 cs)), cs.drop 8)
      else (Utf8.encodeChar c, cs)
  | [] => ([], [])

def unquoteFrom : Nat → List Char → Bytes
  | 0, _ => []
  | _, [] => []
  | n + 1, '\\' :: cs =>
    let (b, rest) := unescape cs
    b ++ unquoteFrom n rest
  | n + 1, c :: cs => Utf8.encodeChar c ++ unquoteFrom n cs

def unquote (literal : String) : Bytes :=
  let inner := (literal.toList.drop 1).dropLast
  if literal.toList.head? = some '`' then Utf8.encode inner else unquoteFrom inner.length inner

/-- Whether a line comment, without its slashes, gives orders to a tool instead of documenting. -/
def isToolComment (c : List Char) : Bool :=
  let plain (d : Char) := ('a' ≤ d && d ≤ 'z') || d.isDigit
  let word := c.takeWhile (· ≠ ':')
  ["line ", "extern ", "export "].any (fun p => p.toList.isPrefixOf c) ||
    (c.contains ':' && !word.isEmpty && word.all plain && ((c.drop (word.length + 1)).head?.map plain) = some true)

def docText (c : Comment) : Option (List Char) :=
  let cs := c.text.toList
  if (cs.drop 1).head? = some '*' then some ((cs.drop 2).take (cs.length - 4))
  else
    let c := cs.drop 2
    if c.head? = some ' ' then some (c.drop 1) else if isToolComment c then none else some c

def lastLine (c : Comment) : Int := c.line + c.text.toList.count '\n'

/-- The comments on successive lines up to the last one, after those already grouped. -/
def lastGroup (group : List Comment) : List Comment → List Comment
  | [] => group
  | c :: cs =>
    match group.getLast? with
    | some d => if c.line ≤ lastLine d + 1 then lastGroup (group ++ [c]) cs else lastGroup [c] cs
    | none => lastGroup [c] cs

def docBefore (line : Int) (comments : List Comment) : Bytes :=
  let group := lastGroup [] comments
  match group.getLast? with
  | some c => if lastLine c + 1 = line then .join [10] ((group.filterMap docText).map Utf8.encode) else []
  | none => []

open Golang.Parser

def typeDecl (s : Rules.TypeSpec) : TypeDecl where
  name := s.name.text
  kind := match s.type with
    | .structType => .struct
    | .interfaceType => .interface
    | _ => .other
  line := s.name.line

def funcDecl (g : Rules) : Parser Func := do
  let line := (← peek).line
  expect "func"
  let isMethod ← atMark "("
  if isMethod then g.parameters {}
  let name ← ident
  if ← atMark "[" then
    guard !isMethod
    g.typeParameters {}
  g.parameters {}
  g.results {}
  if ← atMark "\x7b" then
    g.body {}
    semi
  else if ← atKind .semicolon then
    skip
    guard !(← atMark "\x7b")
  else semi
  return ⟨name.text, isMethod, line⟩

def declaration (g : Rules) (importsOk : Bool) : Parser Decl := do
  let t ← peek
  guard (t.kind = .mark)
  match t.text with
  | "import" =>
    guard importsOk
    skip
    return .imports (← Rules.group Rules.importSpec)
  | "const" | "var" =>
    skip
    let _ ← Rules.group (g.valueSpec {} (t.text = "const"))
    return .values
  | "type" =>
    skip
    let specs ← Rules.group (g.typeSpec {})
    return .types (specs.map typeDecl)
  | "func" => return .function (← funcDecl g)
  | _ => failure

/-- The declarations up to the end; those that import come before all others. -/
def declarations (g : Rules) : Nat → (importsOk : Bool) → Parser (List Decl)
  | 0, _ => failure
  | n + 1, importsOk => do
    if ← atEnd then return []
    let d ← declaration g importsOk
    let rest ← declarations g n (match d with | .imports _ => true | _ => false)
    return d :: rest

def sourceFile (comments : List Comment) : Parser Outline := do
  let tokens ← get
  let g := Rules.ofDepth (4 * tokens.length + 8)
  let doc := docBefore (← peek).line comments
  expect "package"
  let _ ← ident
  semi
  let decls ← declarations g (tokens.length + 1) true
  return { decls, doc }

def outline? (text : Bytes) : Option Outline := do
  let (tokens, comments) ← tokens? text
  (sourceFile comments).run' tokens

end Golang

end SourceSurvey
