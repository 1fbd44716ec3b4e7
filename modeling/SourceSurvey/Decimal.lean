namespace SourceSurvey

namespace Decimal

def roundDiv (n d : Nat) : Nat :=
  let q := n / d
  let r := n % d
  if 2 * r < d then q else if d < 2 * r then q + 1 else q + q % 2

/-- The nearest value with 53 significant bits, of the values between the smallest normal and the
largest. -/
def nearestDouble (x : Rat) : Rat :=
  if x.num = 0 then 0
  else
    let n := x.num.natAbs
    let d := x.den
    -- the scale at which the quotient has 53 bits
    let e : Int := (Nat.log2 n : Int) - Nat.log2 d - 52
    let quotient (e : Int) : Nat :=
      if 0 ≤ e then roundDiv n (d * Nat.pow 2 e.toNat) else roundDiv (n * Nat.pow 2 (-e).toNat) d
    let floor (e : Int) : Nat :=
      if 0 ≤ e then n / (d * Nat.pow 2 e.toNat) else n * Nat.pow 2 (-e).toNat / d
    let e := if floor e < Nat.pow 2 52 then e - 1 else e
    let e := max e (-1074)
    let m := quotient e
    let v : Rat := if 0 ≤ e then ((m * Nat.pow 2 e.toNat : Nat) : Rat) else (m : Rat) / (Nat.pow 2 (-e).toNat : Nat)
    if x < 0 then -v else v

def pad (width : Nat) (n : Nat) : String :=
  let s := toString n
  "".pushn '0' (width - s.length) ++ s

def fixed (places : Nat) (x : Rat) : String :=
  let m := roundDiv (x.num.natAbs * Nat.pow 10 places) x.den
  let sign := if x < 0 then "-" else ""
  let whole := toString (m / Nat.pow 10 places)
  if places = 0 then sign ++ whole else sign ++ whole ++ "." ++ pad places (m % Nat.pow 10 places)

def leadingPower (x : Rat) : Int :=
  let n := x.num.natAbs
  let power : Int := ((toString n).length : Int) - (toString x.den).length
  let reaches := if 0 ≤ power then x.den * Nat.pow 10 power.toNat ≤ n else x.den ≤ n * Nat.pow 10 (-power).toNat
  if reaches then power else power - 1

def scaled (m : Nat) (power : Int) : Rat :=
  if 0 ≤ power then ((m * Nat.pow 10 power.toNat : Nat) : Rat) else (m : Rat) / (Nat.pow 10 (-power).toNat : Nat)

def toDigits (x : Rat) (count : Nat) : Nat × Int :=
  let unit := leadingPower x - (count : Int) + 1
  let n := x.num.natAbs
  (if 0 ≤ unit then roundDiv n (x.den * Nat.pow 10 unit.toNat) else roundDiv (n * Nat.pow 10 (-unit).toNat) x.den, unit)

def shortest (x : Rat) : Nat × Int :=
  let counts := (List.range 17).map (· + 1)
  let reads (c : Nat) : Bool := nearestDouble (scaled (toDigits x c).1 (toDigits x c).2) = x
  toDigits x ((counts.find? reads).getD 17)

end Decimal

end SourceSurvey
