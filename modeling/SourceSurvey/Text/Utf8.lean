import SourceSurvey.Text.Bytes

/-!
Characters of a byte string. A byte that begins no well-formed UTF-8 sequence stands for the
replacement character and is one byte wide, so every byte string has a sequence of characters and
the raw bytes of that sequence are the byte string itself.
-/

namespace SourceSurvey

structure Glyph where
  char : Char
  raw : Bytes
  deriving Repr, DecidableEq

namespace Utf8

def replacement : Char := '\uFFFD'

def encodeChar (c : Char) : Bytes :=
  let n := c.toNat
  if n < 0x80 then [n.toUInt8]
  else if n < 0x800 then [(0xC0 + n / 0x40).toUInt8, (0x80 + n % 0x40).toUInt8]
  else if n < 0x10000 then
    [(0xE0 + n / 0x1000).toUInt8, (0x80 + n / 0x40 % 0x40).toUInt8, (0x80 + n % 0x40).toUInt8]
  else
    [(0xF0 + n / 0x40000).toUInt8, (0x80 + n / 0x1000 % 0x40).toUInt8,
      (0x80 + n / 0x40 % 0x40).toUInt8, (0x80 + n % 0x40).toUInt8]

def encode (cs : List Char) : Bytes := cs.flatMap encodeChar

def isContinuation (b : UInt8) : Bool := 0x80 ≤ b && b ≤ 0xBF

/-- The second byte a lead byte allows: overlong forms, surrogates and values past the last code
point are already ruled out here. -/
def secondOk (lead second : UInt8) : Bool :=
  let low := if lead = 0xE0 then 0xA0 else if lead = 0xF0 then 0x90 else 0x80
  let high := if lead = 0xED then 0x9F else if lead = 0xF4 then 0x8F else 0xBF
  low ≤ second && second ≤ high

def bits (b : UInt8) (keep : Nat) : Nat := b.toNat % keep

def next? : Bytes → Option (Glyph × Bytes)
  | [] => none
  | a :: s =>
    let bad := some (⟨replacement, [a]⟩, s)
    if a < 0x80 then some (⟨Char.ofNat a.toNat, [a]⟩, s)
    else if a < 0xC2 then bad
    else if a < 0xE0 then
      match s with
      | b :: r =>
        if isContinuation b then some (⟨Char.ofNat (bits a 32 * 0x40 + bits b 64), [a, b]⟩, r) else bad
      | _ => bad
    else if a < 0xF0 then
      match s with
      | b :: c :: r =>
        if secondOk a b && isContinuation c then
          some (⟨Char.ofNat (bits a 16 * 0x1000 + bits b 64 * 0x40 + bits c 64), [a, b, c]⟩, r)
        else bad
      | _ => bad
    else if a < 0xF5 then
      match s with
      | b :: c :: d :: r =>
        if secondOk a b && isContinuation c && isContinuation d then
          some (⟨Char.ofNat (bits a 8 * 0x40000 + bits b 64 * 0x1000 + bits c 64 * 0x40 + bits d 64),
            [a, b, c, d]⟩, r)
        else bad
      | _ => bad
    else bad

theorem next?_raw {s r : Bytes} {g : Glyph} (h : next? s = some (g, r)) : g.raw ++ r = s := by
  unfold next? at h
  grind

theorem next?_length {s r : Bytes} {g : Glyph} (h : next? s = some (g, r)) :
    r.length < s.length := by
  unfold next? at h
  grind

def glyphsFrom (seen : List Glyph) (s : Bytes) : List Glyph :=
  match _h : next? s with
  | none => seen.reverse
  | some (g, r) => glyphsFrom (g :: seen) r
termination_by s.length
decreasing_by exact next?_length _h

def glyphs (s : Bytes) : List Glyph := glyphsFrom [] s

def chars (s : Bytes) : List Char := (glyphs s).map (·.char)

def length (s : Bytes) : Nat := (glyphs s).length

def join (gs : List Glyph) : Bytes := gs.flatMap (·.raw)

def isStray (g : Glyph) : Bool := g.char = replacement && g.raw.length = 1

def isValid (s : Bytes) : Bool := !(glyphs s).any isStray

def repair (s : Bytes) : Bytes := encode (chars s)

def toString (s : Bytes) : String := String.ofList (chars s)

def toString? (s : Bytes) : Option String := if isValid s then some (toString s) else none

end Utf8

end SourceSurvey
