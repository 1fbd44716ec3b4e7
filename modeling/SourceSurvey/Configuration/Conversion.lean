import SourceSurvey.Configuration.Number
import SourceSurvey.Duration

namespace SourceSurvey

namespace Conversion

def numberOf? (literal : Bytes) : Option Rat :=
  match Datum.intOf? literal with
  | some n => some n
  | none => Number.fraction? literal

/-- A number as an integer of 64 bits. A fraction is cut off; what does not fit becomes the least
integer, or wraps if it is whole. -/
def wrap (x : Rat) : Int :=
  let n : Int := if x < 0 then -((-x).floor) else x.floor
  let limit : Int := Nat.pow 2 63
  if -limit ≤ n && n < limit then n
  else if x.den = 1 && 0 ≤ n && n < 2 * limit then n - 2 * limit
  else -limit

def text? : Datum → Option String
  | .text s => some (Utf8.toString s)
  | .bool b => some (if b then "1" else "0")
  | .number l =>
    match Datum.intOf? l with
    | some n => some (toString n)
    | none => (Number.fraction? l).map Number.plain
  | _ => none

def int? : Datum → Option Int
  | .text s =>
    let t := Utf8.toString s
    if t = "" then some 0 else (Number.parseInt t).toOption
  | .bool b => some (if b then 1 else 0)
  | .number l => (numberOf? l).map wrap
  | _ => none

def bool? : Datum → Option Bool
  | .text s =>
    let t := Utf8.toString s
    if t = "" then some false else (Number.parseBool t).toOption
  | .bool b => some b
  | .number l => (numberOf? l).map (· ≠ 0)
  | _ => none

def fraction? : Datum → Option Rat
  | .text s => if s = [] then some 0 else Number.fraction? s
  | .bool b => some (if b then 1 else 0)
  | .number l => (numberOf? l).map Decimal.nearestDouble
  | _ => none

/-- A duration; a bare number counts nanoseconds. -/
def duration? : Datum → Option Int
  | .text s => (Duration.parse (Utf8.toString s)).toOption
  | d => int? d

/-- An item of a list; an absent one is empty. -/
def item? : Datum → Option String
  | .null => some ""
  | d => text? d

/-- A list of texts. A text is cut at its commas, and any other single value is a list of one. -/
def texts? : Datum → Option (List String)
  | .text s => some (if s = [] then [] else (Utf8.toString s).splitOn ",")
  | .list items => items.mapM item?
  | .record [] => some []
  | d => (item? d).map fun t => [t]

end Conversion

end SourceSurvey
