/-!
Texts as byte strings. A source file may hold any bytes, valid UTF-8 or not, so every text of the
library is a list of bytes; searching, cutting and joining work on bytes and never decode them.
-/

namespace SourceSurvey

abbrev Bytes := List UInt8

def utf8 (s : String) : Bytes := s.toUTF8.data.toList

namespace Bytes

def newline : UInt8 := 10
def carriageReturn : UInt8 := 13
def space : UInt8 := 32

variable (s : Bytes)

/-- The rest of `s` after the leading `p`, if `s` begins with it. -/
def dropStart? : (p s : Bytes) → Option Bytes
  | [], s => some s
  | _ :: _, [] => none
  | a :: p, b :: s => if a = b then dropStart? p s else none

def startsWith (p : Bytes) : Bool := (dropStart? p s).isSome

def endsWith (p : Bytes) : Bool := startsWith s.reverse p.reverse

def cutFrom (p : Bytes) : (passed : Bytes) → Bytes → Option (Bytes × Bytes)
  | passed, [] => if p.isEmpty then some (passed.reverse, []) else none
  | passed, b :: s =>
    match dropStart? p (b :: s) with
    | some rest => some (passed.reverse, rest)
    | none => cutFrom p (b :: passed) s

def cut? (p : Bytes) : Option (Bytes × Bytes) := cutFrom p [] s

def includes (p : Bytes) : Bool := (cut? s p).isSome

def position? (p : Bytes) : Option Nat := (cut? s p).map (·.1.length)

def cutLast? (p : Bytes) : Option (Bytes × Bytes) :=
  (cut? s.reverse p.reverse).map fun (after, before) => (before.reverse, after.reverse)

def dropStart (p : Bytes) : Bytes := (dropStart? p s).getD s

def dropEnd (p : Bytes) : Bytes := (dropStart s.reverse p.reverse).reverse

def splitByteFrom (b : UInt8) : (piece : Bytes) → Bytes → List Bytes
  | piece, [] => [piece.reverse]
  | piece, c :: s =>
    if c = b then piece.reverse :: splitByteFrom b [] s else splitByteFrom b (c :: piece) s

def splitByte (b : UInt8) : List Bytes := splitByteFrom b [] s

/-- The pieces between non-overlapping occurrences of `sep`, left to right. `skip` bytes of an
occurrence already found are still to be passed over. -/
def splitOnFrom (sep : Bytes) : (skip : Nat) → (piece : Bytes) → Bytes → List Bytes
  | _, piece, [] => [piece.reverse]
  | skip + 1, piece, _ :: s => splitOnFrom sep skip piece s
  | 0, piece, b :: s =>
    if startsWith (b :: s) sep then piece.reverse :: splitOnFrom sep (sep.length - 1) [] s
    else splitOnFrom sep 0 (b :: piece) s

def splitOn (sep : Bytes) : List Bytes := splitOnFrom sep 0 [] s

def join (sep : Bytes) (pieces : List Bytes) : Bytes := (pieces.intersperse sep).flatten

def dropLeft (drop : UInt8 → Bool) : Bytes := s.dropWhile drop

def dropRight (drop : UInt8 → Bool) : Bytes := (s.reverse.dropWhile drop).reverse

def isDigit (b : UInt8) : Bool := 48 ≤ b && b ≤ 57
def isUpper (b : UInt8) : Bool := 65 ≤ b && b ≤ 90
def isLower (b : UInt8) : Bool := 97 ≤ b && b ≤ 122
def isAlpha (b : UInt8) : Bool := isUpper b || isLower b

def isWord (b : UInt8) : Bool := b = 95 || isDigit b || isAlpha b

def isIndent (b : UInt8) : Bool := b = 32 || b = 9

def lowerByte (b : UInt8) : UInt8 := if isUpper b then b + 32 else b
def upperByte (b : UInt8) : UInt8 := if isLower b then b - 32 else b

def lowerAscii : Bytes := s.map lowerByte

def upperAscii : Bytes := s.map upperByte

def le : Bytes → Bytes → Bool
  | [], _ => true
  | _ :: _, [] => false
  | a :: s, b :: t => a < b || (a = b && le s t)

theorem dropStart?_length {p s r : Bytes} (h : dropStart? p s = some r) : r.length ≤ s.length := by
  fun_induction dropStart? p s <;> grind

theorem cutFrom_length {p passed s before rest : Bytes} (h : cutFrom p passed s = some (before, rest)) :
    rest.length ≤ s.length := by
  fun_induction cutFrom p passed s with
  | case1 => simp_all
  | case2 => simp_all
  | case3 _ _ _ r hr => have := dropStart?_length hr; simp_all
  | case4 _ _ _ _ ih => have := ih h; simp only [List.length_cons]; omega

theorem cut?_length {s p before rest : Bytes} (h : cut? s p = some (before, rest)) :
    rest.length ≤ s.length := cutFrom_length h

end Bytes

end SourceSurvey
