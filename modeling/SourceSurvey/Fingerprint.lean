import SourceSurvey.Text.Bytes

namespace SourceSurvey

namespace Fingerprint

/-- The parts as one text, each after its length in decimal and a colon. -/
def encodeParts (parts : List Bytes) : Bytes := parts.flatMap fun p => utf8 (toString p.length) ++ 58 :: p

def prime1 : UInt64 := 0x9E3779B185EBCA87
def prime2 : UInt64 := 0xC2B2AE3D27D4EB4F
def prime3 : UInt64 := 0x165667B19E3779F9
def prime4 : UInt64 := 0x85EBCA77C2B2AE63
def prime5 : UInt64 := 0x27D4EB2F165667C5

def rotate (x : UInt64) (n : UInt64) : UInt64 := (x <<< n) ||| (x >>> (64 - n))

def word (s : Bytes) : UInt64 := s.reverse.foldl (fun w b => w <<< 8 ||| b.toUInt64) 0

def round (acc input : UInt64) : UInt64 := rotate (acc + input * prime2) 31 * prime1

def merge (acc value : UInt64) : UInt64 := (acc ^^^ round 0 value) * prime1 + prime4

structure Lanes where
  a : UInt64
  b : UInt64
  c : UInt64
  d : UInt64

def Lanes.start : Lanes := ⟨prime1 + prime2, prime2, 0, 0 - prime1⟩

def Lanes.add (l : Lanes) (s : Bytes) : Lanes where
  a := round l.a (word (s.take 8))
  b := round l.b (word ((s.drop 8).take 8))
  c := round l.c (word ((s.drop 16).take 8))
  d := round l.d (word ((s.drop 24).take 8))

def Lanes.total (l : Lanes) : UInt64 :=
  let sum := rotate l.a 1 + rotate l.b 7 + rotate l.c 12 + rotate l.d 18
  merge (merge (merge (merge sum l.a) l.b) l.c) l.d

def stripes : (fuel : Nat) → Lanes → Bytes → Lanes × Bytes
  | 0, l, s => (l, s)
  | fuel + 1, l, s =>
    let stripe := s.take 32
    if stripe.length = 32 then stripes fuel (l.add stripe) (s.drop 32) else (l, s)

def tail : (fuel : Nat) → UInt64 → Bytes → UInt64
  | 0, h, _ => h
  | _, h, [] => h
  | fuel + 1, h, b :: s =>
    let all := b :: s
    if 8 ≤ all.length then tail fuel (rotate (h ^^^ round 0 (word (all.take 8))) 27 * prime1 + prime4) (all.drop 8)
    else if 4 ≤ all.length then
      tail fuel (rotate (h ^^^ (word (all.take 4) * prime1)) 23 * prime2 + prime3) (all.drop 4)
    else tail fuel (rotate (h ^^^ (b.toUInt64 * prime5)) 11 * prime1) s

def avalanche (h : UInt64) : UInt64 :=
  let h := (h ^^^ (h >>> 33)) * prime2
  let h := (h ^^^ (h >>> 29)) * prime3
  h ^^^ (h >>> 32)

def hash (s : Bytes) : UInt64 :=
  let (lanes, rest) := stripes s.length .start s
  let h := if 32 ≤ s.length then lanes.total else prime5
  avalanche (tail 32 (h + s.length.toUInt64) rest)

/-- The fingerprint of parts, in hexadecimal without leading zeros. -/
def ofParts (parts : List Bytes) : String := String.ofList (Nat.toDigits 16 (hash (encodeParts parts)).toNat)

end Fingerprint

def fingerprint (s : Bytes) : String := Fingerprint.ofParts [s]

end SourceSurvey
