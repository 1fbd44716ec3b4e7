import SourceSurvey.Datum.Yaml.Scalar
import SourceSurvey.Text.Letter

namespace SourceSurvey

namespace Yaml

inductive Style
  | plain
  | single
  | double
  | literal
  deriving Repr, DecidableEq

def isBreak (c : Char) : Bool :=
  c = '\n' || c = '\r' || c.toNat = 0x85 || c.toNat = 0x2028 || c.toNat = 0x2029

def isBlank (c : Char) : Bool := c = ' ' || c = '\t'

/-- Characters that need no escape. -/
def isPrintable (c : Char) : Bool :=
  let n := c.toNat
  n = 10 || (0x20 ≤ n && n ≤ 0x7E) || (0xA0 ≤ n && n ≤ 0xD7FF) || (0xE000 ≤ n && n ≤ 0xFFFD && n ≠ 0xFEFF)

def anyPair (r : Char → Char → Bool) : List Char → Bool
  | a :: b :: cs => r a b || anyPair r (b :: cs)
  | _ => false

/-- Whether a colon before a blank or the end, or a number sign after a blank, would cut the plain
scalar short. -/
def isCut : List Char → Bool
  | [] => false
  | [c] => c = ':'
  | c :: d :: cs => (c = ':' && isBlank d) || ((isBlank c || isBreak c) && d = '#') || isCut (d :: cs)

def startsMarked (cs : List Char) : Bool :=
  match cs with
  | [] => false
  | c :: r =>
    "#,[]\x7b\x7d&*!|>'\"%@`".toList.contains c ||
      ("?:-".toList.contains c && (r.head?.map isBlank).getD true) ||
      cs.take 3 = ['-', '-', '-'] || cs.take 3 = ['.', '.', '.']

def styleOf (isKey : Bool) (s : Bytes) : Style :=
  let cs := Utf8.chars s
  let first (p : Char → Bool) := (cs.head?.map p).getD false
  let last (p : Char → Bool) := (cs.getLast?.map p).getD false
  let breaks := cs.any isBreak
  let special := cs.any fun c => c ≠ '\t' && !isPrintable c
  let spaceBreak := anyPair (fun a b => a = ' ' && isBreak b) cs
  let breakSpace := anyPair (fun a b => isBreak a && b = ' ') cs
  let quotable := !breakSpace && !spaceBreak && !cs.contains '\t' && !special
  let plainable := quotable && !breaks && !first (· = ' ') && !last (· = ' ') && !startsMarked cs && !isCut cs
  let blockable := !last (· = ' ') && !spaceBreak && !special
  if cs.contains '\n' then if blockable && !isKey then .literal else .double
  else if !readsAsText s || (isKey && breaks) then .double
  else if plainable then .plain
  else if quotable then .single
  else .double

def hexDigit (n : Nat) : Char := Char.ofNat (if n < 10 then 48 + n else 55 + n)

def hex : (width : Nat) → Nat → List Char
  | 0, _ => []
  | w + 1, n => hex w (n / 16) ++ [hexDigit (n % 16)]

def shortEscapes : List (Nat × Char) :=
  [(0, '0'), (7, 'a'), (8, 'b'), (9, 't'), (10, 'n'), (11, 'v'), (12, 'f'), (13, 'r'), (27, 'e'), (34, '"'),
    (92, '\\'), (0x85, 'N'), (0xA0, '_'), (0x2028, 'L'), (0x2029, 'P')]

def escapeChar (c : Char) : List Char :=
  let n := c.toNat
  if isPrintable c && !isBreak c && c ≠ '"' && c ≠ '\\' then [c]
  else
    match shortEscapes.lookup n with
    | some e => ['\\', e]
    | none =>
      if n ≤ 0xFF then ['\\', 'x'] ++ hex 2 n
      else if n ≤ 0xFFFF then ['\\', 'u'] ++ hex 4 n
      else ['\\', 'U'] ++ hex 8 n

def doubleQuoted (s : Bytes) : Bytes := 34 :: (Utf8.encode ((Utf8.chars s).flatMap escapeChar) ++ [34])

/-- The lines of a scalar, indented; `fresh` says whether a line has just begun. -/
def indentLines (indent : Nat) : (fresh : Bool) → List Char → List Char
  | _, [] => []
  | fresh, c :: cs =>
    if isBreak c then c :: indentLines indent true cs
    else (if fresh then List.replicate indent ' ' else []) ++ c :: indentLines indent false cs

def singleQuoted (indent : Nat) (s : Bytes) : Bytes :=
  let doubled := (Utf8.chars s).flatMap fun c => if c = '\'' then [c, c] else [c]
  39 :: (Utf8.encode (indentLines indent false doubled) ++ [39])

/-- A literal block; its header says how deep it is indented if its first character would hide that,
and which line breaks at its end belong to it. -/
def literal (indent : Nat) (s : Bytes) : Bytes :=
  let cs := Utf8.chars s
  let startsFresh := (cs.head?.map isBreak).getD false
  let depth := if startsFresh || cs.head? = some ' ' then "4" else ""
  let chomp := match cs.reverse with
    | [] => "-"
    | [c] => if isBreak c then "+" else "-"
    | c :: d :: _ => if !isBreak c then "-" else if isBreak d then "+" else ""
  let endsFresh := (cs.getLast?.map isBreak).getD false
  utf8 ("|" ++ depth ++ chomp) ++ (if startsFresh then [] else [10]) ++
    Utf8.encode (indentLines indent true cs) ++ (if endsFresh then [] else [10])

def base64Digit (n : Nat) : UInt8 :=
  (if n < 26 then 65 + n else if n < 52 then 71 + n else if n < 62 then n - 4 else if n = 62 then 43 else 47).toUInt8

def base64 : Bytes → Bytes
  | [] => []
  | [a] => [base64Digit (a.toNat / 4), base64Digit (a.toNat % 4 * 16), 61, 61]
  | [a, b] =>
    [base64Digit (a.toNat / 4), base64Digit (a.toNat % 4 * 16 + b.toNat / 16), base64Digit (b.toNat % 16 * 4), 61]
  | a :: b :: c :: s =>
    base64Digit (a.toNat / 4) :: base64Digit (a.toNat % 4 * 16 + b.toNat / 16) ::
      base64Digit (b.toNat % 16 * 4 + c.toNat / 64) :: base64Digit (c.toNat % 64) :: base64 s

def wrapped (width : Nat) : (fuel : Nat) → Bytes → Bytes
  | 0, _ => []
  | _, [] => []
  | fuel + 1, s => s.take width ++ 10 :: wrapped width fuel (s.drop width)

/-- A text after its key or dash, with the newline that ends it. Bytes that are no text are tagged
and written in base 64. -/
def textValue (indent : Nat) (s : Bytes) : Bytes :=
  let ended (b : Bytes) : Bytes := 32 :: (b ++ [10])
  if !Utf8.isValid s then
    let code := base64 s
    if code.length < 70 then ended (utf8 "!!binary " ++ code)
    else utf8 " !!binary " ++ literal indent (wrapped 70 code.length code)
  else
    match styleOf false s with
    | .plain => ended s
    | .single => ended (singleQuoted indent s)
    | .double => ended (doubleQuoted s)
    | .literal => 32 :: literal indent s

def keyText (s : Bytes) : Bytes :=
  match styleOf true s with
  | .plain => s
  | .single => singleQuoted 0 s
  | _ => doubleQuoted s

/-- The order of field names whose record has none of its own: letters come after other characters,
and runs of digits are compared by value. -/
def natural : List Char → List Char → Bool := go false []
where
  go (digits : Bool) (before : List Char) : List Char → List Char → Bool
  | [], bs => !bs.isEmpty
  | _ :: _, [] => false
  | a :: as, b :: bs =>
    if a = b then go (Letter.isDigit a) (a :: before) as bs
    else
      match Letter.isLetter a, Letter.isLetter b with
      | true, true => a < b
      | true, false => digits
      | false, true => !digits
      | false, false =>
        let significant := (before.takeWhile Letter.isDigit).any (· ≠ '0')
        let start := if (a = '0' || b = '0') && significant then 1 else 0
        let run (cs : List Char) := cs.takeWhile Letter.isDigit
        let value (cs : List Char) : Int := (run cs).foldl (fun n c => n * 10 + ((c.toNat : Int) - 48)) start
        let (va, vb) := (value (a :: as), value (b :: bs))
        let (la, lb) := ((run (a :: as)).length, (run (b :: bs)).length)
        if va ≠ vb then va < vb else if la ≠ lb then la < lb else a < b

def deeper (indent : Nat) : Nat := 4 * ((indent + 4) / 4)

mutual

def afterKey (indent : Nat) : Datum → Bytes
  | .null => utf8 " null\n"
  | .bool b => utf8 (if b then " true\n" else " false\n")
  | .number literal => 32 :: (literal ++ [10])
  | .text s => textValue (deeper indent) s
  | .list items => if items.isEmpty then utf8 " []\n" else 10 :: dashed (deeper indent) false items
  | .record fields => if fields.isEmpty then utf8 " \x7b\x7d\n" else 10 :: keyed (deeper indent) false fields

def afterDash (indent : Nat) : Datum → Bytes
  | .null => utf8 " null\n"
  | .bool b => utf8 (if b then " true\n" else " false\n")
  | .number literal => 32 :: (literal ++ [10])
  | .text s => textValue (indent + 2) s
  | .list items => if items.isEmpty then utf8 " []\n" else 32 :: dashed (indent + 2) true items
  | .record fields => if fields.isEmpty then utf8 " \x7b\x7d\n" else 32 :: keyed (indent + 2) true fields

def dashed (indent : Nat) (begun : Bool) : List Datum → Bytes
  | [] => []
  | d :: ds => (if begun then [] else List.replicate indent 32) ++ 45 :: afterDash indent d ++ dashed indent false ds

def keyed (indent : Nat) (begun : Bool) : List (Bytes × Datum) → Bytes
  | [] => []
  | (k, d) :: fs =>
    (if begun then [] else List.replicate indent 32) ++ keyText k ++ 58 :: afterKey indent d ++
      keyed indent false fs

end

def render (fields : List (Bytes × Datum)) : Bytes :=
  if fields.isEmpty then utf8 "\x7b\x7d\n" else keyed 0 false fields

end Yaml

end SourceSurvey
