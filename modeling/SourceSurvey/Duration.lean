import SourceSurvey.Decimal
import SourceSurvey.Text.Quoted

namespace SourceSurvey

namespace Duration

def second : Int := 1000000000

/-- A number of units with its fraction, of which the trailing zeros are left out. -/
def withFraction (n unit : Nat) : String :=
  let places := (toString unit).length - 1
  let digits := Decimal.pad places (n % unit)
  let shown := (digits.toList.reverse.dropWhile (· = '0')).reverse
  toString (n / unit) ++ (if shown.isEmpty then "" else "." ++ String.ofList shown)

/-- Below a second the largest unit that fits is used; from a minute on all larger units are named. -/
def render (d : Int) : String :=
  let n := d.natAbs
  let sign := if d < 0 then "-" else ""
  if n = 0 then "0s"
  else if n < 1000 then sign ++ s!"{n}ns"
  else if n < 1000000 then sign ++ withFraction n 1000 ++ "µs"
  else if n < 1000000000 then sign ++ withFraction n 1000000 ++ "ms"
  else
    let minutes := n / 60000000000
    let seconds := withFraction (n % 60000000000) 1000000000 ++ "s"
    if minutes = 0 then sign ++ seconds
    else if minutes < 60 then sign ++ s!"{minutes}m" ++ seconds
    else sign ++ s!"{minutes / 60}h{minutes % 60}m" ++ seconds

inductive Fault
  | invalid (s : String)
  | missingUnit (s : String)
  | unknownUnit (unit s : String)
  deriving Repr, DecidableEq

def Fault.message : Fault → String
  | invalid s => "time: invalid duration " ++ quoted s
  | missingUnit s => "time: missing unit in duration " ++ quoted s
  | unknownUnit u s => "time: unknown unit " ++ quoted u ++ " in duration " ++ quoted s

def units : List (String × Nat) :=
  [("ns", 1), ("us", 1000), ("µs", 1000), ("μs", 1000), ("ms", 1000000), ("s", 1000000000), ("m", 60000000000),
    ("h", 3600000000000)]

def natOf (cs : List Char) : Nat := cs.foldl (fun n c => n * 10 + (c.toNat - 48)) 0

def sum (whole : String) : (fuel : Nat) → (total : Nat) → List Char → Except Fault Nat
  | _, total, [] => .ok total
  | 0, _, _ => .error (.invalid whole)
  | fuel + 1, total, c :: s =>
    if !(c.isDigit || c = '.') then .error (.invalid whole)
    else
      let digits := (c :: s).takeWhile Char.isDigit
      let rest := (c :: s).dropWhile Char.isDigit
      let (places, rest) := match rest with
        | '.' :: r => (r.takeWhile Char.isDigit, r.dropWhile Char.isDigit)
        | _ => ([], rest)
      let unit := rest.takeWhile fun c => !(c.isDigit || c = '.')
      let rest := rest.dropWhile fun c => !(c.isDigit || c = '.')
      if digits.isEmpty && places.isEmpty then .error (.invalid whole)
      else if unit.isEmpty then .error (.missingUnit whole)
      else
        match units.lookup (String.ofList unit) with
        | none => .error (.unknownUnit (String.ofList unit) whole)
        | some u =>
          let total := total + natOf digits * u + natOf places * u / Nat.pow 10 places.length
          if Nat.pow 2 63 < total then .error (.invalid whole) else sum whole fuel total rest

def parse (s : String) : Except Fault Int :=
  let negative := s.startsWith "-"
  let body := if negative || s.startsWith "+" then s.toList.drop 1 else s.toList
  if body = ['0'] then .ok 0
  else if body.isEmpty then .error (.invalid s)
  else
    match sum s body.length 0 body with
    | .error e => .error e
    | .ok n => if negative then .ok (-n) else if n = Nat.pow 2 63 then .error (.invalid s) else .ok n

end Duration

end SourceSurvey
