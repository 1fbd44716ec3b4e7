import SourceSurvey.Text.Letter

namespace SourceSurvey

namespace Golang

inductive TokenKind
  | name
  | number
  | rune
  | string
  | mark
  | semicolon
  deriving Repr, DecidableEq

structure Token where
  kind : TokenKind
  text : String
  line : Int
  deriving Repr, DecidableEq

structure Comment where
  text : String
  line : Int
  deriving Repr, DecidableEq

def keywords : List String :=
  ["break", "case", "chan", "const", "continue", "default", "defer", "else", "fallthrough", "for", "func",
    "go", "goto", "if", "import", "interface", "map", "package", "range", "return", "select", "struct",
    "switch", "type", "var"]

def operators : List String :=
  ["<<=", ">>=", "&^=", "...", "&&", "||", "<-", "++", "--", "==", "!=", "<=", ">=", ":=", "+=", "-=", "*=",
    "/=", "%=", "&=", "|=", "^=", "<<", ">>", "&^", "+", "-", "*", "/", "%", "&", "|", "^", "<", ">", "=",
    "!", "(", ")", "[", "]", "\x7b", "\x7d", ",", ".", ":", "~"]

/-- Marks after which a newline ends a statement. -/
def enders : List String := ["break", "continue", "fallthrough", "return", "++", "--", ")", "]", "\x7d"]

def Token.endsStatement (t : Token) : Bool :=
  match t.kind with
  | .mark => enders.contains t.text
  | .semicolon => false
  | _ => true

namespace Lex

def isNameStart (c : Char) : Bool := c = '_' || Letter.isLetter c

def isNamePart (c : Char) : Bool := isNameStart c || Letter.isDigit c

def digitValue (c : Char) : Nat :=
  if c.isDigit then c.toNat - 48
  else if 'a' ≤ c && c ≤ 'f' then c.toNat - 87
  else if 'A' ≤ c && c ≤ 'F' then c.toNat - 55
  else 16

def isHex (c : Char) : Bool := digitValue c < 16

/-- The rest after `n` digits of a base, if their value is a code unit no greater than `max`. -/
def escapeDigits (base max : Nat) (cs : List Char) (n : Nat) : Option (List Char) :=
  let ds := cs.take n
  let v := ds.foldl (fun v c => v * base + digitValue c) 0
  if ds.length = n && ds.all (fun c => digitValue c < base) && v ≤ max && !(0xD800 ≤ v && v < 0xE000) then
    some (cs.drop n)
  else none

def escape? (quote : Char) : List Char → Option (List Char)
  | [] => none
  | c :: cs =>
    if "abfnrtv\\".toList.contains c || c = quote then some cs
    else if '0' ≤ c && c ≤ '7' then escapeDigits 8 255 (c :: cs) 3
    else if c = 'x' then escapeDigits 16 255 cs 2
    else if c = 'u' then escapeDigits 16 0x10FFFF cs 4
    else if c = 'U' then escapeDigits 16 0x10FFFF cs 8
    else none

def quoted? (quote : Char) : (fuel count : Nat) → List Char → Option (List Char × Nat)
  | 0, _, _ => none
  | _, _, [] => none
  | fuel + 1, count, c :: cs =>
    if c = '\n' then none
    else if c = quote then some (cs, count)
    else if c = '\\' then (escape? quote cs).bind (quoted? quote fuel (count + 1) ·)
    else quoted? quote fuel (count + 1) cs

def separatorsOk (literal : List Char) : Bool :=
  let hex := ((literal.drop 1).head?.map (·.toLower)) = some 'x' && literal.head? = some '0'
  let based := literal.head? = some '0' && ((literal.drop 1).head?.map fun c => "xob".toList.contains c.toLower) = some true
  let step (s : Bool × Char) (c : Char) : Bool × Char :=
    if c = '_' then (s.1 && s.2 = '0', '_')
    else if c.isDigit || (hex && isHex c) then (s.1, '0')
    else (s.1 && s.2 ≠ '_', '.')
  let r := (if based then literal.drop 2 else literal).foldl step (true, if based then '0' else '.')
  r.1 && r.2 ≠ '_'

def number? (cs : List Char) : Option (List Char) :=
  let after (n : Nat) := cs.drop n
  let (base, mark, rest) : Nat × Char × List Char :=
    if cs.head? = some '0' then
      match ((after 1).head?.map (·.toLower)).getD ' ' with
      | 'x' => (16, 'x', after 2)
      | 'o' => (8, 'o', after 2)
      | 'b' => (2, 'b', after 2)
      | _ => (8, '0', after 1)
    else (10, 'd', cs)
  let isDigit (c : Char) := c = '_' || (if base = 16 then isHex c else c.isDigit)
  let whole := rest.takeWhile isDigit
  let rest := rest.dropWhile isDigit
  let pointed := rest.head? = some '.'
  let fraction := if pointed then (rest.drop 1).takeWhile isDigit else []
  let rest := if pointed then (rest.drop 1).dropWhile isDigit else rest
  let hasDigit := mark = '0' || (whole ++ fraction).any (· ≠ '_')
  let e := (rest.head?.map (·.toLower)).getD ' '
  let exponent := e = 'e' || e = 'p'
  let tail := if exponent then rest.drop 1 else rest
  let tail := if exponent && (tail.head? = some '+' || tail.head? = some '-') then tail.drop 1 else tail
  let isExp (c : Char) := c = '_' || c.isDigit
  let power := if exponent then tail.takeWhile isExp else []
  let rest := if exponent then tail.dropWhile isExp else rest
  let isInteger := !pointed && !exponent
  let imaginary := rest.head? = some 'i'
  let literal := cs.take (cs.length - rest.length)
  let ok := hasDigit && !(pointed && (mark = 'o' || mark = 'b')) &&
    !(e = 'e' && mark ≠ 'd' && mark ≠ '0') && !(e = 'p' && mark ≠ 'x') &&
    (!exponent || power.any (· ≠ '_')) && !(mark = 'x' && pointed && !exponent) &&
    !(isInteger && !imaginary && whole.any fun c => c ≠ '_' && base ≤ digitValue c) &&
    separatorsOk literal
  if ok then some (if imaginary then rest.drop 1 else rest) else none

def trailingNumber? (text : List Char) : Option (List Char × Option Nat) :=
  if text.contains ':' then
    let digits := (text.reverse.takeWhile (· ≠ ':')).reverse
    let before := text.take (text.length - digits.length - 1)
    let value := if !digits.isEmpty && digits.all (·.isDigit) then (String.ofList digits).toNat? else none
    some (before, value.filter (· < Nat.pow 2 64))
  else none

/-- The line that a directive gives to what follows it: nothing for other comments, and an error for
a directive with a bad number. -/
def directive? (text : List Char) : Option (Option Nat) :=
  let ok (n : Nat) : Bool := 0 < n && n ≤ Nat.pow 2 30
  match trailingNumber? text with
  | none => some none
  | some (_, none) => none
  | some (before, some n) =>
    match trailingNumber? before with
    | some (_, some line) => if ok n && ok line then some (some line) else none
    | _ => if ok n then some (some n) else none

structure State where
  line : Nat := 1
  atStart : Bool := true
  shift : Int := 0
  /-- Whether a newline ends a statement here. -/
  ends : Bool := false
  tokens : List Token := []
  leading : List Comment := []

def State.push (s : State) (t : Token) : State :=
  { s with tokens := t :: s.tokens, ends := t.endsStatement, atStart := false }

def State.shown (s : State) : Int := s.line + s.shift

def State.semicolon (s : State) : State :=
  if s.ends then s.push ⟨.semicolon, "\n", s.shown⟩ else s

def State.newline (s : State) : State :=
  let s := s.semicolon
  { s with line := s.line + 1, atStart := true }

/-- Takes note of a comment; `body` is its text without the two marks in front and any closing ones. -/
def State.comment (s : State) (text body : List Char) (block : Bool) : Option State := do
  let newlines := text.count '\n'
  let clean := String.ofList (text.filter (· ≠ '\r'))
  let s' := if s.tokens.isEmpty then { s with leading := s.leading ++ [⟨clean, s.shown⟩] } else s
  let isDirective := (block || s.atStart) && "line ".toList.isPrefixOf body
  let target ← if isDirective then directive? (body.drop 5) else some none
  let s' := if 0 < newlines then s'.semicolon else s'
  let s' := { s' with line := s'.line + newlines, atStart := false }
  let base : Int := if block then s'.line else s'.line + 1
  some (match target with
    | some n => { s' with shift := n - base }
    | none => s')

def block? : List Char → List Char → Option (List Char × List Char)
  | _, [] => none
  | seen, '*' :: '/' :: cs => some (seen.reverse, cs)
  | seen, c :: cs => block? (c :: seen) cs

def dropReturn (cs : List Char) : List Char := if cs.getLast? = some '\r' then cs.dropLast else cs

def run : (fuel : Nat) → State → List Char → Option State
  | 0, _, _ => none
  | _, s, [] => some s.semicolon
  | fuel + 1, s, c :: cs =>
    if c = '\n' then run fuel s.newline cs
    else if c = ' ' || c = '\t' || c = '\r' then run fuel { s with atStart := false } cs
    else if c = '/' && cs.head? = some '/' then
      let text := (c :: cs).takeWhile (· ≠ '\n')
      let kept := dropReturn text
      match s.comment kept (kept.drop 2) false with
      | some s => run fuel s (cs.drop (text.length - 1))
      | none => none
    else if c = '/' && cs.head? = some '*' then
      match block? [] (cs.drop 1) with
      | none => none
      | some (body, rest) =>
        match s.comment ("/*".toList ++ body ++ "*/".toList) body true with
        | some s => run fuel s rest
        | none => none
    else if isNameStart c then
      let name := String.ofList (c :: cs.takeWhile isNamePart)
      let kind := if keywords.contains name then .mark else .name
      run fuel (s.push ⟨kind, name, s.shown⟩) (cs.dropWhile isNamePart)
    else if c.isDigit || (c = '.' && (cs.head?.map (·.isDigit)) = some true) then
      match number? (c :: cs) with
      | some rest => run fuel (s.push ⟨.number, "", s.shown⟩) rest
      | none => none
    else if c = '"' then
      match quoted? '"' (cs.length + 1) 0 cs with
      | some (rest, _) =>
        run fuel (s.push ⟨.string, String.ofList ((c :: cs).take (cs.length + 1 - rest.length)), s.shown⟩) rest
      | none => none
    else if c = '\'' then
      match quoted? '\'' (cs.length + 1) 0 cs with
      | some (rest, 1) => run fuel (s.push ⟨.rune, "", s.shown⟩) rest
      | _ => none
    else if c = '`' then
      if cs.contains '`' then
        let body := cs.takeWhile (· ≠ '`')
        let text := String.ofList (c :: body.filter (· ≠ '\r') ++ [c])
        let s' := s.push ⟨.string, text, s.shown⟩
        run fuel { s' with line := s'.line + body.count '\n' } (cs.drop (body.length + 1))
      else none
    else if c = ';' then run fuel (s.push ⟨.semicolon, ";", s.shown⟩) cs
    else
      match operators.find? fun o => o.toList.isPrefixOf (c :: cs) with
      | some o => run fuel (s.push ⟨.mark, o, s.shown⟩) ((c :: cs).drop o.length)
      | none => none

end Lex

def tokens? (text : Bytes) : Option (List Token × List Comment) :=
  let cs := Utf8.chars text
  let cs := if cs.head? = some '\uFEFF' then cs.drop 1 else cs
  if !Utf8.isValid text || cs.contains '\uFEFF' || cs.contains '\x00' then none
  else (Lex.run (cs.length + 1) {} cs).map fun s => (s.tokens.reverse, s.leading)

end Golang

end SourceSurvey
