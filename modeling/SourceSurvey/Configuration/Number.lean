import SourceSurvey.Datum.Yaml.Scalar
import SourceSurvey.Decimal
import SourceSurvey.Text.Quoted

namespace SourceSurvey

inductive NumberFault
  | notInteger (s : String)
  | integerRange (s : String)
  | notTruth (s : String)
  deriving Repr, DecidableEq

def NumberFault.message : NumberFault → String
  | notInteger s => "strconv.ParseInt: parsing " ++ quoted s ++ ": invalid syntax"
  | integerRange s => "strconv.ParseInt: parsing " ++ quoted s ++ ": value out of range"
  | notTruth s => "strconv.ParseBool: parsing " ++ quoted s ++ ": invalid syntax"

namespace Number

def baseOf (s : Bytes) : Nat × Bytes :=
  match s with
  | 48 :: m :: r =>
    let m' := Bytes.lowerByte m
    if m' = 120 then (16, r) else if m' = 98 then (2, r) else if m' = 111 then (8, r) else (8, m :: r)
  | _ => (10, s)

/-- Whether every underscore stands between digits; a base in front counts as a digit. -/
def separated : (before : Bool) → Bytes → Bool
  | _, [] => true
  | before, 95 :: s => before && !s.isEmpty && s.head? ≠ some 95 && separated false s
  | _, _ :: s => separated true s

def parseInt (text : String) : Except NumberFault Int :=
  let s := utf8 text
  let negative := s.head? = some 45
  let body := Yaml.dropSign s
  let (base, digits) := baseOf body
  match Yaml.digitsOf? base (digits.filter (· ≠ 95)) with
  | none => .error (.notInteger text)
  | some n =>
    if !separated (base ≠ 10) digits then .error (.notInteger text)
    else if negative then if n ≤ Nat.pow 2 63 then .ok (-n) else .error (.integerRange text)
    else if n < Nat.pow 2 63 then .ok n
    else .error (.integerRange text)

def parseBool (s : String) : Except NumberFault Bool :=
  if ["1", "t", "T", "TRUE", "true", "True"].contains s then .ok true
  else if ["0", "f", "F", "FALSE", "false", "False"].contains s then .ok false
  else .error (.notTruth s)

def fraction? (s : Bytes) : Option Rat :=
  match Yaml.Fraction.parse? s with
  | some f =>
    if !f.inRange then none
    else if f.magnitude < -400 then some 0
    else some (Decimal.nearestDouble f.value)
  | none => none

/-- The digits of a fraction and the power of ten of the first; `none` for zero. -/
def significant? (x : Rat) : Option (List Char × Int) :=
  if x = 0 then none
  else
    let (m, unit) := Decimal.shortest (if x < 0 then -x else x)
    let all := (toString m).toList
    some ((all.reverse.dropWhile (· = '0')).reverse, (all.length : Int) - 1 + unit)

def positional (digits : List Char) (power : Int) : String :=
  if power < 0 then "0." ++ "".pushn '0' (-power - 1).toNat ++ String.ofList digits
  else
    let whole := (power + 1).toNat
    let front := digits.take whole ++ List.replicate (whole - digits.length) '0'
    let back := digits.drop whole
    String.ofList front ++ (if back.isEmpty then "" else "." ++ String.ofList back)

def plain (x : Rat) : String :=
  let sign := if x < 0 then "-" else ""
  match significant? x with
  | none => "0"
  | some (digits, power) => sign ++ positional digits power

def general (x : Rat) : String :=
  let sign := if x < 0 then "-" else ""
  match significant? x with
  | none => "0"
  | some (digits, power) =>
    if power < -4 || 6 ≤ power then
      let rest := digits.drop 1
      let mantissa := String.ofList (digits.take 1) ++ (if rest.isEmpty then "" else "." ++ String.ofList rest)
      sign ++ mantissa ++ "e" ++ (if power < 0 then "-" else "+") ++ Decimal.pad 2 power.natAbs
    else sign ++ positional digits power

end Number

end SourceSurvey
