import SourceSurvey.Text.Letter

namespace SourceSurvey

namespace EnvFile

def isBlank (c : Char) : Bool :=
  c = '\t' || c = '\x0b' || c = '\x0c' || c = '\r' || c = ' ' || c.toNat = 0x85 || c.toNat = 0xA0

def isNameChar (c : Char) : Bool :=
  c = '_' || c = '.' || Letter.isLetter c || Letter.isDigit c

def skip : (comment : Bool) → List Char → List Char
  | _, [] => []
  | true, c :: s => skip (c ≠ '\n') s
  | false, c :: s => if Letter.isSpace c then skip false s else if c = '#' then skip true s else c :: s

def afterExport (s : List Char) : List Char :=
  match s with
  | 'e' :: 'x' :: 'p' :: 'o' :: 'r' :: 't' :: c :: r => if isBlank c then r.dropWhile isBlank else s
  | _ => s

def trimRight (s : List Char) : List Char := (s.reverse.dropWhile Letter.isSpace).reverse

def name? : (seen : List Char) → List Char → Option (List Char × List Char)
  | _, [] => none
  | seen, c :: s =>
    if c = '=' || c = ':' then some (trimRight seen.reverse, s.dropWhile isBlank)
    else if isBlank c || isNameChar c then name? (c :: seen) s
    else none

/-- Text with references to variables replaced; a backslash keeps a reference as it is. -/
def expand (vars : List (String × String)) : (fuel : Nat) → List Char → List Char
  | 0, s => s
  | fuel + 1, s =>
    let isName (c : Char) : Bool := c.isUpper || c.isDigit || c = '_'
    match s with
    | [] => []
    | '\\' :: '$' :: r =>
      let skipped := r.takeWhile fun c => c = '(' || c = '\x7b' || isName c || c = '\x7d'
      '$' :: skipped ++ expand vars fuel (r.drop skipped.length)
    | '$' :: r =>
      let opened := match r with
        | '(' :: t => t
        | _ => r
      let inner := match opened with
        | '\x7b' :: t => t
        | _ => opened
      let name := inner.takeWhile isName
      let after := match inner.drop name.length with
        | '\x7d' :: t => t
        | t => t
      if name.isEmpty then '$' :: expand vars fuel r
      else ((vars.lookup (String.ofList name)).getD "").toList ++ expand vars fuel after
    | c :: r => c :: expand vars fuel r

/-- Text between double quotes: line ends may be escaped, and a backslash before another character is
dropped. -/
def unescape : List Char → List Char
  | '\\' :: 'n' :: s => '\n' :: unescape s
  | '\\' :: 'r' :: s => '\r' :: unescape s
  | '\\' :: '$' :: s => '\\' :: '$' :: unescape s
  | '\\' :: c :: s => c :: unescape s
  | c :: s => c :: unescape s
  | [] => []

def untilQuote? (quote : Char) : (seen : List Char) → (previous : Char) → List Char → Option (List Char × List Char)
  | _, _, [] => none
  | seen, previous, c :: s =>
    if c = quote && previous ≠ '\\' then some (seen.reverse, s) else untilQuote? quote (c :: seen) c s

def beforeComment : (seen : List Char) → List Char → List Char
  | seen, [] => seen.reverse
  | seen, c :: s =>
    if c = '#' && (seen.head?.map isBlank).getD false then seen.reverse else beforeComment (c :: seen) s

def trimBlanks (s : List Char) : List Char := ((s.dropWhile isBlank).reverse.dropWhile isBlank).reverse

def value? (vars : List (String × String)) (s : List Char) : Option (List Char × List Char) :=
  let quoted (q : Char) (r : List Char) : Option (List Char × List Char) :=
    (untilQuote? q [] q r).map fun (v, rest) =>
      let isQuote (c : Char) : Bool := c = q
      (((v.dropWhile isQuote).reverse.dropWhile isQuote).reverse, rest)
  match s with
  | '"' :: r => (quoted '"' r).map fun (v, rest) =>
      let v := unescape v
      (expand vars v.length v, rest)
  | '\'' :: r => quoted '\'' r
  | _ =>
    let line := s.takeWhile (· ≠ '\n')
    let v := trimBlanks (beforeComment [] line)
    some (expand vars v.length v, s.dropWhile (· ≠ '\n'))

def assignments? : (fuel : Nat) → (vars : List (String × String)) → List Char → Option (List (String × String))
  | 0, vars, _ => some vars
  | fuel + 1, vars, s =>
    match skip false s with
    | [] => some vars
    | s =>
      match name? [] (afterExport s) with
      | none | some ([], _) => none
      | some (name, rest) =>
        match value? vars rest with
        | none => none
        | some (v, rest) => assignments? fuel ((String.ofList name, String.ofList v) :: vars) rest

/-- The variables of a file, latest first; `none` if it cannot be read. -/
def parse? (s : Bytes) : Option (List (String × String)) :=
  let text := (Utf8.toString s).replace "\r\n" "\n"
  assignments? (text.length + 1) [] text.toList

end EnvFile

end SourceSurvey
