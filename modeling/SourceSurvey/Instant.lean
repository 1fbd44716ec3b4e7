import SourceSurvey.Decimal
import SourceSurvey.Text.Bytes

namespace SourceSurvey

abbrev Instant := Int

namespace Instant

def nanosecondsPerSecond : Int := 1000000000

def epoch : Instant := -62135596800 * nanosecondsPerSecond

/-- Days from the beginning of 1970 to a date; the year is taken to begin in March, so that the leap
day comes last. -/
def daysTo (year : Int) (month day : Nat) : Int :=
  let y := if month ≤ 2 then year - 1 else year
  let era := y / 400
  let yearOfEra := y % 400
  let monthFromMarch := (month + 9) % 12
  let dayOfYear := (153 * monthFromMarch + 2) / 5 + day - 1
  era * 146097 + (yearOfEra * 365 + yearOfEra / 4 - yearOfEra / 100 + dayOfYear) - 719468

def dateOf (days : Int) : Int × Nat × Nat :=
  let z := days + 719468
  let era := z / 146097
  let dayOfEra := z % 146097
  let yearOfEra := (dayOfEra - dayOfEra / 1460 + dayOfEra / 36524 - dayOfEra / 146096) / 365
  let dayOfYear := dayOfEra - (365 * yearOfEra + yearOfEra / 4 - yearOfEra / 100)
  let m := (5 * dayOfYear + 2) / 153
  let day := dayOfYear - (153 * m + 2) / 5 + 1
  let month := if m < 10 then m + 3 else m - 9
  (yearOfEra + era * 400 + (if month ≤ 2 then 1 else 0), month.toNat, day.toNat)

def isLeap (year : Nat) : Bool := year % 4 = 0 && (year % 100 ≠ 0 || year % 400 = 0)

def daysIn (year month : Nat) : Nat :=
  if month = 2 then if isLeap year then 29 else 28 else if [4, 6, 9, 11].contains month then 30 else 31

/-- An offset from universal time in seconds, written in hours and minutes; odd seconds are left out. -/
def zoneText (offset : Int) : String :=
  if offset = 0 then "Z"
  else
    let minutes := offset.tdiv 60
    (if minutes < 0 then "-" else "+") ++ Decimal.pad 2 (minutes.natAbs / 60) ++ ":" ++
      Decimal.pad 2 (minutes.natAbs % 60)

def render (i : Instant) (offset : Int) : String :=
  let seconds := i / nanosecondsPerSecond + offset
  let fraction := (i % nanosecondsPerSecond).toNat
  let (year, month, day) := dateOf (seconds / 86400)
  let clock := (seconds % 86400).toNat
  let p := Decimal.pad 2
  let digits := ((Decimal.pad 9 fraction).toList.reverse.dropWhile (· = '0')).reverse
  Decimal.pad 4 year.toNat ++ "-" ++ p month ++ "-" ++ p day ++ "T" ++ p (clock / 3600) ++ ":" ++
    p (clock / 60 % 60) ++ ":" ++ p (clock % 60) ++
    (if digits.isEmpty then "" else "." ++ String.ofList digits) ++ zoneText offset

def number? (s : Bytes) (lo hi : Nat) : Option Nat :=
  if s.isEmpty || !s.all Bytes.isDigit then none
  else
    let n := s.foldl (fun n b => n * 10 + (b.toNat - 48)) 0
    if lo ≤ n && n ≤ hi then some n else none

def zone? (s : Bytes) : Option Int :=
  if s = [90] then some 0
  else
    match s with
    | [sign, a, b, 58, c, d] => do
      let hours ← number? [a, b] 0 23
      let minutes ← number? [c, d] 0 59
      let n : Int := hours * 3600 + minutes * 60
      if sign = 43 then some n else if sign = 45 then some (-n) else none
    | _ => none

def nanoseconds (digits : Bytes) : Nat :=
  let nine : Bytes := digits.take 9 ++ List.replicate (9 - digits.length) 48
  nine.foldl (fun n b => n * 10 + (b.toNat - 48)) 0

end Instant

/-- An instant on a clock that is so many seconds ahead of universal time. -/
structure Timestamp where
  instant : Instant
  offset : Int
  deriving Repr, DecidableEq

namespace Timestamp

open Instant

def universal (i : Instant) : Timestamp := ⟨i, 0⟩

instance : Coe Instant Timestamp := ⟨universal⟩

def render (m : Timestamp) : String := Instant.render m.instant m.offset

/-- What keeps a timestamp from being written: in text, the year that its clock shows or the hours of its
offset; in binary, an offset that has no place in sixteen bits or is the mark of universal time. -/
inductive Flaw
  | year
  | hour
  | offset
  deriving Repr, DecidableEq

def Flaw.message : Flaw → String
  | year => text ++ "year outside of range [0,9999]"
  | hour => text ++ "timezone hour outside of range [0,23]"
  | offset => "Time.MarshalBinary: unexpected zone offset"
where
  text := "json: error calling MarshalJSON for type time.Time: Time.MarshalJSON: "

def textFlaw? (m : Timestamp) : Option Flaw :=
  let (year, _, _) := dateOf ((m.instant / nanosecondsPerSecond + m.offset) / 86400)
  if year < 0 || 9999 < year then some .year
  else if 24 ≤ (m.offset.tdiv 60).natAbs / 60 then some .hour
  else none

def binaryFlaw? (m : Timestamp) : Option Flaw :=
  let minutes := m.offset.tdiv 60
  if minutes < -32768 || minutes = -1 || 32767 < minutes then some .offset else none

/-- What is read where a timestamp was written: the clock shows the same, but its offset has lost the odd
seconds, and the instant has moved by them. -/
def stored (m : Timestamp) : Timestamp :=
  ⟨m.instant + m.offset.tmod 60 * nanosecondsPerSecond, m.offset.tdiv 60 * 60⟩

def parse? (s : Bytes) : Option Timestamp := do
  let part (from_ n : Nat) : Bytes := (s.drop from_).take n
  let year ← number? (part 0 4) 0 9999
  let month ← number? (part 5 2) 1 12
  let day ← number? (part 8 2) 1 (daysIn year month)
  let hour ← number? (part 11 2) 0 23
  let minute ← number? (part 14 2) 0 59
  let second ← number? (part 17 2) 0 59
  if [part 4 1, part 7 1, part 10 1, part 13 1, part 16 1] ≠ [[45], [45], [84], [58], [58]] || s.length < 19 then none
  let rest := s.drop 19
  let digits : Bytes := match rest with
    | 46 :: r => r.takeWhile Bytes.isDigit
    | _ => []
  let offset ← zone? (if digits.isEmpty then rest else rest.drop (digits.length + 1))
  let seconds := daysTo year month day * 86400 + (hour * 3600 + minute * 60 + second : Nat) - offset
  return ⟨seconds * nanosecondsPerSecond + nanoseconds digits, offset⟩

end Timestamp

end SourceSurvey
