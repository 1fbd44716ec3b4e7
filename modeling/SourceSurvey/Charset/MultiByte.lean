import SourceSurvey.Text.Utf8
import SourceSurvey.Charset.Table.Jis0208
import SourceSurvey.Charset.Table.Jis0212
import SourceSurvey.Charset.Table.Hangul
import SourceSurvey.Charset.Table.Big5
import SourceSurvey.Charset.Table.Gbk

/-!
Encodings of several bytes per character. Each is a rule for what stands at one byte of the text,
given the bytes after it; a text is read by applying the rule from left to right.
-/

namespace SourceSurvey

namespace Charset

/-- What is read at one byte: characters, how many of the following bytes belong to them, and the
mode in which the rest is read. -/
structure Reading (Mode : Type) where
  chars : List Char
  further : Nat
  mode : Mode

def readFrom {Mode : Type} (rule : Mode → UInt8 → Bytes → Reading Mode) (mode : Mode) (seen : List Char) :
    Bytes → List Char
  | [] => seen.reverse
  | b :: rest =>
    let r := rule mode b rest
    readFrom rule r.mode (r.chars.reverse ++ seen) (rest.drop r.further)
termination_by s => s.length
decreasing_by simp only [List.length_drop, List.length_cons]; omega

def readAll (rule : UInt8 → Bytes → Reading Unit) (s : Bytes) : List Char :=
  readFrom (fun _ => rule) () [] s

def single (c : Char) (further : Nat) : Reading Unit := ⟨[c], further, ()⟩

def unreadable (further : Nat) : Reading Unit := single Utf8.replacement further

def tableOf (runs : List (Nat × String)) : Array Char :=
  runs.foldl (fun t (start, cs) =>
    t ++ Array.replicate (start - t.size) Utf8.replacement ++ cs.toList.toArray) #[]

def jis0208 : Array Char := tableOf jis0208Runs

def jis0212 : Array Char := tableOf jis0212Runs

def hangul : Array Char := tableOf hangulRuns

def big5 : Array Char := tableOf big5Runs

def gbk : Array Char := tableOf gbkRuns

def cell (table : Array Char) (position : Nat) : Char := table.getD position Utf8.replacement

def utf16At (bigEndian : Bool) (a : UInt8) (rest : Bytes) : Reading Unit :=
  let unit (x y : UInt8) := if bigEndian then x.toNat * 256 + y.toNat else y.toNat * 256 + x.toNat
  match rest with
  | [] => unreadable 0
  | b :: rest =>
    let u := unit a b
    if u < 0xD800 || 0xE000 ≤ u then single (Char.ofNat u) 1
    else
      match rest with
      | c :: d :: _ =>
        let v := unit c d
        if u < 0xDC00 && 0xDC00 ≤ v && v < 0xE000 then
          single (Char.ofNat (0x10000 + (u - 0xD800) * 0x400 + (v - 0xDC00))) 3
        else unreadable 1
      | _ => unreadable 1

def katakana (b : UInt8) : Char := Char.ofNat (0xFF61 + (b.toNat - 0xA1))

def shiftJisAt (a : UInt8) (rest : Bytes) : Reading Unit :=
  if a ≤ 0x80 then single (Char.ofNat a.toNat) 0
  else if 0xA1 ≤ a && a < 0xE0 then single (katakana a) 0
  else if a = 0xA0 || 0xFD ≤ a then unreadable 0
  else
    match rest with
    | [] => unreadable 0
    | b :: _ =>
      if b < 0x40 || b = 0x7F then unreadable 0
      else if 0xFD ≤ b then unreadable 1
      else
        let row := a.toNat - (if a < 0xA0 then 0x81 else 0xC1)
        let column := b.toNat - (if b < 0x7F then 0x40 else 0x41)
        single (cell jis0208 (row * 188 + column)) 1

def isUpper94 (b : UInt8) : Bool := 0xA1 ≤ b && b ≤ 0xFE

def position94 (a b : UInt8) : Nat := (a.toNat - 0xA1) * 94 + (b.toNat - 0xA1)

def eucJpAt (a : UInt8) (rest : Bytes) : Reading Unit :=
  if a < 0x80 then single (Char.ofNat a.toNat) 0
  else if a = 0x8E then
    match rest with
    | [] => unreadable 0
    | b :: _ =>
      if b < 0xA1 || b = 0xFF then unreadable 0
      else if 0xDF < b then unreadable 1
      else single (katakana b) 1
  else if a = 0x8F then
    match rest with
    | b :: c :: _ =>
      if !isUpper94 b then unreadable 0
      else if !isUpper94 c then unreadable 1
      else single (cell jis0212 (position94 b c)) 2
    | [b] => unreadable (if isUpper94 b && b < 0xFE then 1 else 0)
    | [] => unreadable 0
  else if isUpper94 a then
    match rest with
    | [] => unreadable 0
    | b :: _ => if isUpper94 b then single (cell jis0208 (position94 a b)) 1 else unreadable 0
  else unreadable 0

inductive JisSet
  | ascii
  | katakana
  | basic
  | supplement
  deriving Repr, DecidableEq

def JisSet.chosen? : Bytes → Option (JisSet × Nat)
  | 0x24 :: 0x40 :: _ => some (.basic, 2)
  | 0x24 :: 0x42 :: _ => some (.basic, 2)
  | 0x24 :: 0x28 :: 0x44 :: _ => some (.supplement, 3)
  | 0x28 :: 0x42 :: _ => some (.ascii, 2)
  | 0x28 :: 0x4A :: _ => some (.ascii, 2)
  | 0x28 :: 0x49 :: _ => some (.katakana, 2)
  | _ => none

def iso2022JpAt (set : JisSet) (a : UInt8) (rest : Bytes) : Reading JisSet :=
  let unread (further : Nat) : Reading JisSet := ⟨[Utf8.replacement], further, set⟩
  /- Differences of bytes wrap around, so a second byte below 21 points far into the table. -/
  let pair (table : Array Char) : Reading JisSet :=
    if a = 0x0A then ⟨['\n'], 0, .ascii⟩
    else
      match rest with
      | [] => unread 0
      | b :: _ => ⟨[cell table ((a - 0x21).toNat * 94 + (b - 0x21).toNat)], 1, set⟩
  if 0x80 ≤ a then unread 0
  else if a = 0x1B then
    match JisSet.chosen? rest with
    | some (chosen, further) => ⟨[], further, chosen⟩
    | none => unread 0
  else
    match set with
    | .ascii => ⟨[Char.ofNat a.toNat], 0, set⟩
    | .katakana =>
      if a < 0x21 || 0x60 ≤ a then unread 0 else ⟨[Char.ofNat (0xFF61 + (a.toNat - 0x21))], 0, set⟩
    | .basic => pair jis0208
    | .supplement => pair jis0212

def eucKrAt (a : UInt8) (rest : Bytes) : Reading Unit :=
  if a < 0x80 then single (Char.ofNat a.toNat) 0
  else if a = 0x80 || a = 0xFF then unreadable 0
  else
    match rest with
    | [] => unreadable 0
    | b :: _ =>
      let position? : Option Nat :=
        if a < 0xC7 then
          let start := 178 * (a.toNat - 0x81)
          if 0x41 ≤ b && b < 0x5B then some (start + (b.toNat - 0x41))
          else if 0x61 ≤ b && b < 0x7B then some (start + 26 + (b.toNat - 0x61))
          else if 0x81 ≤ b && b < 0xFF then some (start + 52 + (b.toNat - 0x81))
          else none
        else if isUpper94 b then some (178 * 70 + 94 * (a.toNat - 0xC7) + (b.toNat - 0xA1))
        else none
      let c := (position?.map (cell hangul)).getD Utf8.replacement
      single c (if c = Utf8.replacement && b < 0x80 then 0 else 1)

/-- The two letters with two marks, which have no code point of their own. -/
def big5Pairs : List (Nat × List Char) := [
  (1133, ['\u00CA', '\u0304']), (1135, ['\u00CA', '\u030C']),
  (1164, ['\u00EA', '\u0304']), (1166, ['\u00EA', '\u030C'])]

def big5At (a : UInt8) (rest : Bytes) : Reading Unit :=
  if a < 0x80 then single (Char.ofNat a.toNat) 0
  else if a = 0x80 || a = 0xFF then unreadable 0
  else
    match rest with
    | [] => unreadable 0
    | b :: _ =>
      if b < 0x40 then unreadable 0
      else if b < 0x7F || isUpper94 b then
        let position := (a.toNat - 0x81) * 157 + (b.toNat - (if b < 0x7F then 0x40 else 0x62))
        match big5Pairs.lookup position with
        | some cs => ⟨cs, 1, ()⟩
        | none => single (cell big5 position) 1
      else unreadable 1

/-- The character at a position of the two-byte table, the cells for private use included. -/
def gbkCell (position : Nat) : Char :=
  match gbkPrivate.find? fun (start, _, count) => start ≤ position && position < start + count with
  | some (start, first, _) => Char.ofNat (first + (position - start))
  | none => cell gbk position

def gbFourByte? (a b c d : UInt8) : Option Char :=
  let n := (((a.toNat - 0x81) * 10 + (b.toNat - 0x30)) * 126 + (c.toNat - 0x81)) * 10 + (d.toNat - 0x30)
  if n < 39420 then
    (gbFourByteRanges.findRev? fun (start, _) => start ≤ n).map fun (start, first) =>
      Char.ofNat (first + (n - start))
  else if 189000 ≤ n && n < 189000 + 0x100000 then some (Char.ofNat (n - 189000 + 0x10000))
  else none

def gbAt (fourBytes : Bool) (a : UInt8) (rest : Bytes) : Reading Unit :=
  if a < 0x80 then single (Char.ofNat a.toNat) 0
  else if a = 0x80 then single '€' 0
  else if a = 0xFF then unreadable 0
  else
    match rest with
    | [] => unreadable 0
    | b :: rest =>
      if 0x40 ≤ b && b != 0x7F && b != 0xFF then
        single (gbkCell ((a.toNat - 0x81) * 190 + (b.toNat - (if b < 0x7F then 0x40 else 0x41)))) 1
      else if fourBytes && 0x30 ≤ b && b < 0x40 then
        match rest with
        | c :: d :: _ =>
          if 0x81 ≤ c && c < 0xFF && 0x30 ≤ d && d < 0x3A then
            match gbFourByte? a b c d with
            | some x => single x 3
            | none => unreadable 0
          else unreadable 0
        | _ => unreadable 0
      else unreadable 0

end Charset

end SourceSurvey
