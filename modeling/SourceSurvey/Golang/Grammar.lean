import SourceSurvey.Golang.Token

/-!
The grammar of Go source files, as far as it decides whether a text is a source file and what it
declares at the top. Every rule is a parser over the remaining tokens; rules that refer back to
themselves do so through a record of the rules one level deeper, so nesting is bounded by a number
that the length of the text always exceeds.
-/

namespace SourceSurvey

namespace Golang

inductive ChannelDir
  | both
  | send
  | receive
  deriving Repr, DecidableEq

/-- What later rules ask of an expression or type. -/
inductive Term
  | name (text : String)
  | selector
  | index
  | arrayType
  | structType
  | mapType
  | funcType
  | interfaceType
  | chanType (dir : ChannelDir) (elem : Term)
  | call (fn : Term) (args : List Term) (spread : Bool)
  | binary (op : String) (x y : Term)
  | unary (op : String) (x : Term)
  | star (x : Term)
  | paren (x : Term)
  | assertion (isSwitch : Bool)
  | other
  deriving Inhabited

/-- What later rules ask of a simple statement. -/
inductive Simple
  | expr (x : Term)
  | assign (left : Nat) (op : String) (right : List Term)
  | range (left : Nat)
  | labeled
  | other

/-- A parser takes tokens off the front or fails. -/
abbrev Parser := StateT (List Token) Option

/-- Where an expression stands: below zero the braces after it open a block, and on a right-hand
side a lone equals sign is a mistake. -/
structure Place where
  level : Int := 0
  right : Bool := false

def Place.deeper (p : Place) : Place := { p with level := p.level + 1 }
def Place.onRight (p : Place) : Place := { p with right := true }
def Place.onLeft (p : Place) : Place := { p with right := false }
def Place.header (p : Place) : Place := { p with level := -1 }

namespace Parser

def endToken : Token := ⟨.mark, "", 0⟩

def peek : Parser Token := do return ((← get).head?).getD endToken

def skip : Parser Unit := modify List.tail

def atMark (s : String) : Parser Bool := do
  let t ← peek
  return t.kind = .mark && t.text = s

def atAny (ss : List String) : Parser Bool := do
  let t ← peek
  return t.kind = .mark && ss.contains t.text

def atKind (k : TokenKind) : Parser Bool := do return (← peek).kind = k

def atEnd : Parser Bool := do return (← get).isEmpty

def expect (s : String) : Parser Unit := do
  guard (← atMark s)
  skip

def accept (s : String) : Parser Bool := do
  if ← atMark s then skip; return true else return false

def ident : Parser Token := do
  let t ← peek
  guard (t.kind = .name)
  skip
  return t

/-- A semicolon, which may be missing in front of a closing bracket. -/
def semi : Parser Unit := do
  if ← atAny [")", "\x7d"] then return
  guard (← atKind .semicolon)
  skip

def repeatWhile : Nat → Parser Bool → Parser Unit
  | 0, _ => failure
  | n + 1, step => do if ← step then repeatWhile n step

def loop (step : Parser Bool) : Parser Unit := do repeatWhile ((← get).length + 1) step

/-- Collects items until the step says to stop, handing each new list on. -/
def collectWhile {α : Type} : Nat → List α → Parser (Option α) → Parser (List α)
  | 0, _, _ => failure
  | n + 1, seen, step => do
    match ← step with
    | some a => collectWhile n (a :: seen) step
    | none => return seen.reverse

def collect {α : Type} (step : Parser (Option α)) : Parser (List α) := do
  collectWhile ((← get).length + 1) [] step

def commaList {α : Type} (closing : String) (item : Parser α) : Parser (List α) := do
  let rec go : Nat → List α → Parser (List α)
    | 0, _ => failure
    | n + 1, seen => do
      if (← atMark closing) || (← atEnd) then return seen.reverse
      let a ← item
      if ← atMark closing then return (a :: seen).reverse
      expect ","
      go n (a :: seen)
  go ((← get).length + 1) []

end Parser

open Golang.Parser

/-- The rules that others refer back to. -/
structure Rules where
  expr : Place → Parser Term
  unary : Place → Parser Term
  binary : Place → Term → Nat → Parser Term
  type? : Place → Parser (Option Term)
  literal : Place → Parser Unit
  body : Place → Parser Unit
  stmt : Place → Parser Bool

namespace Rules

variable (g : Rules)

def rhs (p : Place) : Parser Term := g.expr p.onRight

def exprList (p : Place) : Parser (List Term) := do
  let first ← g.expr p
  let rest ← collect do
    if ← accept "," then return some (← g.expr p) else return none
  return first :: rest

def typ (p : Place) : Parser Term := do
  match ← g.type? p with
  | some t => return t
  | none => failure

def typeArguments (p : Place) : Parser Unit := do
  expect "["
  let list ← commaList "]" (g.typ p.deeper)
  guard !list.isEmpty
  expect "]"

def typeName (first : Option Token) : Parser Term := do
  let name ← match first with
    | some t => pure t
    | none => ident
  if ← accept "." then
    let _ ← ident
    return .selector
  return .name name.text

def qualified (p : Place) (first : Option Token) : Parser Term := do
  let t ← typeName first
  if ← atMark "[" then
    g.typeArguments p
    return .index
  return t

def arrayRest (p : Place) (lengthRead : Bool) : Parser Term := do
  if !lengthRead then
    if !(← accept "...") then
      if !(← atMark "]") then
        let _ ← g.rhs p.deeper
  expect "]"
  let _ ← g.typ p
  return .arrayType

/-- After a name, either an array type, which makes it the name of a field or parameter, or type
arguments, which make it a type. -/
def arrayOrInstance (p : Place) : Parser (Bool × Term) := do
  expect "["
  let args ← collectArgs
  expect "]"
  if args.1 = 0 then
    let _ ← g.typ p
    return (true, .arrayType)
  if args.1 = 1 then
    match ← g.type? p with
    | some _ =>
      guard !args.2
      return (true, .arrayType)
    | none => return (false, .index)
  return (false, .index)
where
  /-- How many arguments there are, and whether a comma follows the last. -/
  collectArgs : Parser (Nat × Bool) := do
    let rec more : Nat → Nat → Parser (Nat × Bool)
      | 0, _ => failure
      | n + 1, count => do
        let _ ← g.rhs p.deeper
        if ← accept "," then
          if ← atMark "]" then return (count + 1, true)
          more n (count + 1)
        else return (count + 1, false)
    if ← atMark "]" then return (0, false)
    more ((← get).length + 1) 0

def field (p : Place) : Parser Unit := do
  if ← accept "*" then
    let _ ← g.qualified p none
  else
    let name ← ident
    if (← atMark ".") then
      let _ ← g.qualified p (some name)
    else if (← atKind .string) || (← atKind .semicolon) || (← atMark "\x7d") then pure ()
    else
      let more ← collect do
        if ← accept "," then return some (← ident) else return none
      if more.isEmpty && (← atMark "[") then
        let _ ← g.arrayOrInstance p
      else
        let _ ← g.typ p
  if ← atKind .string then skip
  semi

def structType (p : Place) : Parser Term := do
  expect "struct"
  expect "\x7b"
  loop do
    if (← atKind .name) || (← atMark "*") then
      g.field p
      return true
    return false
  expect "\x7d"
  return .structType

def embeddedTerm (p : Place) : Parser Term := do
  if ← accept "~" then return .unary "~" (← g.typ p)
  g.typ p

/-- Terms divided by bars, of which the first may have been read. -/
def embedded (p : Place) (first : Option Term) : Parser Term := do
  let x ← match first with
    | some x => pure x
    | none => g.embeddedTerm p
  let more ← collect do
    if ← accept "|" then return some (← g.embeddedTerm p) else return none
  return more.foldl (.binary "|") x

structure Param where
  named : Bool
  type? : Option Term

def parameter (p : Place) (typeParams : Bool) (first : Option Token) : Parser Param := do
  let alternatives (r : Param) : Parser Param := do
    if typeParams && (← atMark "|") then
      match r.type? with
      | some t => return { r with type? := some (← g.embedded p (some t)) }
      | none => return r
    return r
  if first.isNone && typeParams && (← atMark "~") then
    return ⟨false, some (← g.embedded p none)⟩
  if first.isSome || (← atKind .name) then
    let name ← match first with
      | some t => pure t
      | none => ident
    if ← atMark "[" then
      let (isField, t) ← g.arrayOrInstance p
      alternatives ⟨isField, some t⟩
    else if ← accept "..." then
      return ⟨true, some (← g.typ p)⟩
    else if ← atMark "." then
      alternatives ⟨false, some (← g.qualified p (some name))⟩
    else if typeParams && (← atMark "~") then
      return ⟨true, some (← g.embedded p none)⟩
    else if typeParams && (← atMark "|") then
      return ⟨false, some (← g.embedded p (some (.name name.text)))⟩
    else
      alternatives ⟨true, ← g.type? p⟩
  else if ← accept "..." then
    return ⟨false, some (← g.typ p)⟩
  else
    alternatives ⟨false, some (← g.typ p)⟩

/-- Either no parameter has both a name and a type, or all have a name and the last has a type. -/
def parametersOk (typeParams : Bool) (list : List Param) : Bool :=
  let full := list.countP fun r => r.named && r.type?.isSome
  if list.isEmpty then true
  else if full = 0 then !typeParams
  else list.all (·.named) && (list.getLast?.map fun r => r.type?.isSome) = some true

def parameterList (p : Place) (closing : String) (first : Option (Token × Option Term)) : Parser (List Param) := do
  let typeParams := closing = "]"
  let start ← match first with
    | none => pure none
    | some (name, none) => some <$> g.parameter p typeParams (some name)
    | some (_, some t) => (fun t => some ⟨true, some t⟩) <$> g.embedded p (some t)
  let list ← match start with
    | none => commaList closing (g.parameter p typeParams none)
    | some r =>
      if ← atMark closing then pure [r]
      else
        expect ","
        (r :: ·) <$> commaList closing (g.parameter p typeParams none)
  guard (parametersOk typeParams list)
  return list

def typeParameters (p : Place) : Parser Unit := do
  expect "["
  let list ← g.parameterList p "]" none
  guard !list.isEmpty
  expect "]"

def parameters (p : Place) : Parser Unit := do
  expect "("
  let _ ← g.parameterList p ")" none
  expect ")"

def results (p : Place) : Parser Unit := do
  if ← atMark "(" then g.parameters p
  else let _ ← g.type? p

def funcType (p : Place) : Parser Term := do
  expect "func"
  g.parameters p
  g.results p
  return .funcType

def methodOrEmbedded (p : Place) : Parser Unit := do
  let x ← typeName none
  match x with
  | .name _ =>
    if ← atMark "(" then
      g.parameters p
      g.results p
    else if ← accept "[" then
      let _ ← g.expr p.deeper
      if ← accept "," then
        let _ ← commaList "]" (g.typ p.deeper)
      expect "]"
      let _ ← g.embedded p (some .index)
    else
      let _ ← g.embedded p (some x)
  | _ =>
    if ← atMark "[" then g.typeArguments p
    let _ ← g.embedded p (some x)

def interfaceType (p : Place) : Parser Term := do
  expect "interface"
  expect "\x7b"
  loop do
    if ← atKind .name then
      g.methodOrEmbedded p
      semi
      return true
    if ← atMark "~" then
      let _ ← g.embedded p none
      semi
      return true
    match ← g.type? p with
    | some t =>
      let _ ← g.embedded p (some t)
      semi
      return true
    | none => return false
  expect "\x7d"
  return .interfaceType

def typeRule (p : Place) : Parser (Option Term) := do
  let t ← peek
  match t.kind, t.text with
  | .name, _ => return some (← g.qualified p none)
  | .mark, "[" =>
    skip
    return some (← g.arrayRest p false)
  | .mark, "struct" => return some (← g.structType p)
  | .mark, "*" =>
    skip
    return some (.star (← g.typ p))
  | .mark, "func" => return some (← g.funcType p)
  | .mark, "interface" => return some (← g.interfaceType p)
  | .mark, "map" =>
    skip
    expect "["
    let _ ← g.typ p
    expect "]"
    let _ ← g.typ p
    return some .mapType
  | .mark, "chan" =>
    skip
    let dir := if ← accept "<-" then ChannelDir.send else .both
    return some (.chanType dir (← g.typ p))
  | .mark, "<-" =>
    skip
    expect "chan"
    return some (.chanType .receive (← g.typ p))
  | .mark, "(" =>
    skip
    let x ← g.typ p
    expect ")"
    return some (.paren x)
  | _, _ => return none

def operand (p : Place) : Parser Term := do
  let t ← peek
  match t.kind, t.text with
  | .name, n =>
    skip
    return .name n
  | .number, _ | .rune, _ | .string, _ =>
    skip
    return .other
  | .mark, "(" =>
    skip
    let x ← g.rhs p.deeper
    expect ")"
    return .paren x
  | .mark, "func" =>
    let t ← g.funcType p
    if ← atMark "\x7b" then
      g.body p.deeper
      return .other
    return t
  | _, _ => g.typ p

def indexOrSlice (p : Place) : Parser Term := do
  expect "["
  let inner := p.deeper
  let present : Parser Bool := do
    if (← atMark ":") || (← atMark "]") then return false
    let _ ← g.rhs inner
    return true
  let first ← present
  if ← accept ":" then
    let second ← present
    if ← accept ":" then
      let third ← present
      guard (second && third)
    expect "]"
    return .other
  guard first
  let _ ← collect do
    if ← accept "," then
      if !(← atMark "]") then
        let _ ← g.typ inner
      return some ()
    return none
  expect "]"
  return .index

def callArguments (p : Place) (fn : Term) : Parser Term := do
  expect "("
  let inner := p.deeper
  let rec go : Nat → List Term → Parser (List Term × Bool)
    | 0, _ => failure
    | n + 1, seen => do
      if (← atMark ")") || (← atEnd) then return (seen.reverse, false)
      let x ← g.rhs inner
      let spread ← accept "..."
      if ← atMark ")" then return ((x :: seen).reverse, spread)
      expect ","
      if spread then return ((x :: seen).reverse, true)
      go n (x :: seen)
  let (args, spread) ← go ((← get).length + 1) []
  expect ")"
  return .call fn args spread

def isLiteralType (p : Place) : Term → Bool
  | .name _ | .selector | .index => 0 ≤ p.level
  | .arrayType | .structType | .mapType => true
  | _ => false

def unparen : Term → Term
  | .paren x => unparen x
  | x => x

def isParen : Term → Bool
  | .paren _ => true
  | _ => false

def suffixes (p : Place) : Nat → Term → Parser Term
  | 0, _ => failure
  | n + 1, x => do
    if ← accept "." then
      if ← atKind .name then
        skip
        suffixes p n .selector
      else
        expect "("
        let isSwitch ← accept "type"
        if !isSwitch then
          let _ ← g.typ p
        expect ")"
        suffixes p n (.assertion isSwitch)
    else if ← atMark "[" then suffixes p n (← g.indexOrSlice p)
    else if ← atMark "(" then suffixes p n (← g.callArguments p x)
    else if (← atMark "\x7b") && isLiteralType p (unparen x) then
      guard !isParen x
      g.literal p
      suffixes p n .other
    else return x

def primaryFrom (p : Place) (x : Term) : Parser Term := do g.suffixes p ((← get).length + 1) x

def receiveFrom : Term → Option Term
  | .chanType .both e => some (.chanType .receive e)
  | .chanType .send (.chanType d e) => (receiveFrom (.chanType d e)).map (.chanType .receive ·)
  | .chanType _ _ => none
  | x => some (.unary "<-" x)

def unaryRule (p : Place) : Parser Term := do
  let t ← peek
  if t.kind = .mark && ["+", "-", "!", "^", "&", "~"].contains t.text then
    skip
    return .unary t.text (← g.unary p)
  if ← accept "<-" then
    match receiveFrom (← g.unary p) with
    | some x => return x
    | none => failure
  if ← accept "*" then return .star (← g.unary p)
  g.primaryFrom p (← g.operand p)

def precedence (t : Token) : Nat :=
  if t.kind ≠ .mark then 0
  else if t.text = "||" then 1
  else if t.text = "&&" then 2
  else if ["==", "!=", "<", "<=", ">", ">="].contains t.text then 3
  else if ["+", "-", "|", "^"].contains t.text then 4
  else if ["*", "/", "%", "<<", ">>", "&", "&^"].contains t.text then 5
  else 0

def operators (p : Place) (least : Nat) : Nat → Term → Parser Term
  | 0, _ => failure
  | n + 1, x => do
    let t ← peek
    if p.right && t.kind = .mark && t.text = "=" && least ≤ 3 then failure
    let prec := precedence t
    if prec < least || prec = 0 then return x
    skip
    let first ← g.unary p
    let y ← g.binary p first (prec + 1)
    operators p least n (.binary t.text x y)

def exprRule (p : Place) : Parser Term := do
  let first ← g.unary p
  g.binary p first 1

def element (p : Place) : Parser Unit := do
  let value : Parser Unit := do
    if ← atMark "\x7b" then g.literal p
    else let _ ← g.expr p
  value
  if ← accept ":" then value

def literalRule (p : Place) : Parser Unit := do
  expect "\x7b"
  let _ ← commaList "\x7d" (g.element p.deeper)
  expect "\x7d"

inductive Mode
  | basic
  | label
  | range
  deriving DecidableEq

def assignOps : List String :=
  [":=", "=", "+=", "-=", "*=", "/=", "%=", "&=", "|=", "^=", "<<=", ">>=", "&^="]

def simple (p : Place) (mode : Mode) : Parser Simple := do
  let left ← g.exprList p.onLeft
  let t ← peek
  if t.kind = .mark && assignOps.contains t.text then
    skip
    if mode = .range && (t.text = ":=" || t.text = "=") && (← accept "range") then
      let _ ← g.rhs p
      return .range left.length
    return .assign left.length t.text (← g.exprList p.onRight)
  guard (left.length = 1)
  let x := left.headD .other
  if ← accept ":" then
    guard (mode = .label)
    match x with
    | .name _ =>
      let _ ← g.stmt p
      return .labeled
    | _ => failure
  if ← accept "<-" then
    let _ ← g.rhs p
    return .other
  if (← accept "++") || (← accept "--") then return .other
  return .expr x

def needsExpr : Option Simple → Bool
  | none => true
  | some (.expr _) => true
  | _ => false

def isTypeSwitch : Term → Bool
  | .assertion b => b
  | _ => false

def isGuard : Option Simple → Option Bool
  | some (.expr x) => some (isTypeSwitch x)
  | some (.assign 1 op [x]) =>
    if isTypeSwitch x then if op = ":=" then some true else if op = "=" then none else some false
    else some false
  | _ => some false

def ifHeader (p : Place) : Parser Unit := do
  guard !(← atMark "\x7b")
  let h := p.header
  let init ← if ← atKind .semicolon then pure none else some <$> g.simple h .basic
  if ← atMark "\x7b" then guard (needsExpr init)
  else
    guard (← atKind .semicolon)
    skip
    guard !(← atMark "\x7b")
    let cond ← g.simple h .basic
    guard (needsExpr (some cond))

def ifRule (p : Place) : Nat → Parser Unit
  | 0 => failure
  | n + 1 => do
    expect "if"
    g.ifHeader p
    g.body p
    if ← accept "else" then
      if ← atMark "if" then ifRule p n
      else
        g.body p
        semi
    else semi

def stmtList (p : Place) : Parser Unit := loop do
  if (← atAny ["case", "default", "\x7d"]) || (← atEnd) then return false
  let _ ← g.stmt p
  return true

def switchRule (p : Place) : Parser Unit := do
  expect "switch"
  let h := p.header
  let tag ←
    if ← atMark "\x7b" then pure none
    else
      let s ← if ← atKind .semicolon then pure none else some <$> g.simple h .basic
      if ← atKind .semicolon then
        skip
        if ← atMark "\x7b" then pure none else some <$> g.simple h .basic
      else pure s
  let isType ← match isGuard tag with
    | some b => pure b
    | none => failure
  expect "\x7b"
  loop do
    if ← accept "case" then
      let _ ← g.exprList p.onRight
    else if !(← accept "default") then return false
    expect ":"
    g.stmtList p
    return true
  expect "\x7d"
  semi
  guard (isType || needsExpr tag)

def selectRule (p : Place) : Parser Unit := do
  expect "select"
  expect "\x7b"
  loop do
    if ← accept "case" then
      let left ← g.exprList p.onLeft
      if ← accept "<-" then
        guard (left.length = 1)
        let _ ← g.rhs p
      else if (← accept "=") || (← accept ":=") then
        guard (left.length ≤ 2)
        let _ ← g.rhs p
      else guard (left.length = 1)
    else if !(← accept "default") then return false
    expect ":"
    g.stmtList p
    return true
  expect "\x7d"
  semi

def forRule (p : Place) : Parser Unit := do
  expect "for"
  let h := p.header
  let cond : Option Simple ←
    if ← atMark "\x7b" then pure none
    else
      let first ←
        if ← atKind .semicolon then pure none
        else if ← accept "range" then
          let _ ← g.rhs h
          pure (some (Simple.range 0))
        else some <$> g.simple h .range
      match first with
      | some (.range n) => pure (some (.range n))
      | first =>
        if ← atKind .semicolon then
          skip
          let cond ← if ← atKind .semicolon then pure none
            else
              guard !(← atMark "\x7b")
              some <$> g.simple h .basic
          semi
          if !(← atMark "\x7b") then
            let _ ← g.simple h .basic
          pure cond
        else pure first
  g.body p
  semi
  match cond with
  | some (.range n) => guard (n ≤ 2)
  | c => guard (needsExpr c)

def callStatement (p : Place) : Parser Unit := do
  match ← g.rhs p with
  | .call _ _ _ => semi
  | _ => failure

def importSpec : Parser String := do
  if ← atKind .name then skip
  else if ← atMark "." then skip
  let t ← peek
  guard (t.kind = .string)
  skip
  semi
  return t.text

def valueSpec (p : Place) (isConst : Bool) : Parser Unit := do
  let _ ← ident
  let _ ← collect do
    if ← accept "," then return some (← ident) else return none
  if isConst then
    if !((← atEnd) || (← atKind .semicolon) || (← atMark ")")) then
      let _ ← g.type? p
      if ← accept "=" then
        let _ ← g.exprList p.onRight
  else
    if !(← atMark "=") then
      let _ ← g.typ p
    if ← accept "=" then
      let _ ← g.exprList p.onRight
  semi

def isTypeElem : Term → Bool
  | .arrayType | .structType | .funcType | .interfaceType | .mapType | .chanType _ _ => true
  | .binary _ x y => isTypeElem x || isTypeElem y
  | .unary op _ => op = "~"
  | .paren x => isTypeElem x
  | _ => false

def splitName (force : Bool) : Term → Option (String × Option Term)
  | .name n => some (n, none)
  | .binary "*" (.name n) y => if force || isTypeElem y then some (n, some (.star y)) else none
  | .binary "|" x y =>
    match splitName (force || isTypeElem y) x with
    | some (n, some l) => some (n, some (.binary "|" l y))
    | _ => none
  | .call (.name n) [x] false => if force || isTypeElem x then some (n, some x) else none
  | _ => none

structure TypeSpec where
  name : Token
  type : Term

def typeSpec (p : Place) : Parser TypeSpec := do
  let name ← ident
  let body : Parser Term := do
    let _ ← accept "="
    g.typ p
  let type ←
    if ← accept "[" then
      if ← atKind .name then
        let first ← ident
        let x ←
          if ← atMark "[" then pure (.name first.text)
          else
            let inner := p.deeper
            g.binary inner (← g.primaryFrom inner (.name first.text)) 1
        let comma ← atMark ","
        let bracket ← atMark "]"
        match splitName comma x with
        | some (n, t) =>
          if t.isSome || !bracket then
            let _ ← g.parameterList p "]" (some ({ first with text := n }, t))
            expect "]"
            body
          else g.arrayRest p true
        | none => g.arrayRest p true
      else g.arrayRest p false
    else body
  semi
  return ⟨name, type⟩

def group {α : Type} (spec : Parser α) : Parser (List α) := do
  if ← accept "(" then
    let list ← collect do
      if (← atMark ")") || (← atEnd) then return none
      return some (← spec)
    expect ")"
    semi
    return list
  return [← spec]

def declStatement (p : Place) : Parser Unit := do
  if ← accept "type" then
    let _ ← group (g.typeSpec p)
  else if ← accept "const" then
    let _ ← group (g.valueSpec p true)
  else
    expect "var"
    let _ ← group (g.valueSpec p false)

def bodyRule (p : Place) : Parser Unit := do
  expect "\x7b"
  g.stmtList p
  expect "\x7d"

def startsExpr (t : Token) : Bool :=
  match t.kind with
  | .semicolon => false
  | .mark => ["func", "(", "[", "struct", "map", "chan", "interface", "+", "-", "*", "&", "^", "<-", "!"].contains t.text
  | _ => true

def stmtRule (p : Place) : Parser Bool := do
  let t ← peek
  if startsExpr t then
    match ← g.simple p .label with
    | .labeled => pure ()
    | _ => semi
  else if t.kind = .semicolon then skip
  else
    match t.text with
    | "const" | "type" | "var" => g.declStatement p
    | "go" | "defer" =>
      skip
      g.callStatement p
    | "return" =>
      skip
      if !((← atKind .semicolon) || (← atMark "\x7d")) then
        let _ ← g.exprList p.onRight
      semi
    | "break" | "continue" | "goto" =>
      skip
      if ← atKind .name then skip
      semi
    | "fallthrough" =>
      skip
      semi
    | "\x7b" =>
      g.body p
      semi
    | "if" => g.ifRule p ((← get).length + 1)
    | "switch" => g.switchRule p
    | "select" => g.selectRule p
    | "for" => g.forRule p
    | "\x7d" => pure ()
    | _ => failure
  return true

def ofDepth : Nat → Rules
  | 0 =>
    { expr := fun _ => failure, unary := fun _ => failure, binary := fun _ _ _ => failure
      type? := fun _ => failure, literal := fun _ => failure, body := fun _ => failure
      stmt := fun _ => failure }
  | n + 1 =>
    let g := ofDepth n
    { expr := g.exprRule
      unary := g.unaryRule
      binary := fun p x least => do g.operators p least ((← get).length + 1) x
      type? := g.typeRule
      literal := g.literalRule
      body := g.bodyRule
      stmt := g.stmtRule }

end Rules

end Golang

end SourceSurvey
