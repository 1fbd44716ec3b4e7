import SourceSurvey.Datum.Basic

namespace SourceSurvey

namespace Yaml

inductive Meaning
  | null
  | bool (b : Bool)
  | int
  | float
  | timestamp
  | text
  deriving Repr, DecidableEq

def trueWords : List String := ["true", "True", "TRUE"]

def falseWords : List String := ["false", "False", "FALSE"]

def nullWords : List String := ["", "~", "null", "Null", "NULL"]

def floatWords : List String :=
  [".nan", ".NaN", ".NAN", ".inf", ".Inf", ".INF", "+.inf", "+.Inf", "+.INF", "-.inf", "-.Inf", "-.INF"]

def oldBools : List String :=
  ["y", "Y", "yes", "Yes", "YES", "on", "On", "ON", "n", "N", "no", "No", "NO", "off", "Off", "OFF"]

def isOneOf (words : List String) (s : Bytes) : Bool := words.any fun w => utf8 w = s

def isSign (b : UInt8) : Bool := b = 43 || b = 45

def dropSign (s : Bytes) : Bytes :=
  match s with
  | b :: r => if isSign b then r else s
  | [] => []

def digitsOf? (base : Nat) (s : Bytes) : Option Nat :=
  let value (b : UInt8) : Nat :=
    if Bytes.isDigit b then b.toNat - 48
    else if Bytes.isLower b then b.toNat - 87
    else if Bytes.isUpper b then b.toNat - 55
    else base
  if s.isEmpty || s.any (base ≤ value ·) then none else some (s.foldl (fun n b => n * base + value b) 0)

def intOf? (s : Bytes) : Option Int :=
  let sign : Bytes := (s.take 1).filter isSign
  let digits := dropSign s
  let magnitude := match digits with
    | 48 :: m :: r =>
      let m := Bytes.lowerByte m
      if m = 120 then digitsOf? 16 r
      else if m = 98 then digitsOf? 2 r
      else if m = 111 then digitsOf? 8 r
      else digitsOf? 8 (m :: r)
    | _ => digitsOf? 10 digits
  match magnitude with
  | none => none
  | some n =>
    if sign = [45] then if n ≤ Nat.pow 2 63 then some (-n) else none
    else if n < Nat.pow 2 63 || (sign = [] && n < Nat.pow 2 64) then some n
    else none

/-- A decimal fraction: digits, a point and an exponent, with at least one digit before the
exponent. -/
structure Fraction where
  negative : Bool
  digits : Nat
  places : Nat
  exponent : Int

def Fraction.parse? (s : Bytes) : Option Fraction :=
  let negative := s.take 1 = [45]
  let body := dropSign s
  let whole := body.takeWhile Bytes.isDigit
  let rest := body.dropWhile Bytes.isDigit
  let (places, rest) := match rest with
    | 46 :: r => (r.takeWhile Bytes.isDigit, r.dropWhile Bytes.isDigit)
    | _ => ([], rest)
  match digitsOf? 10 (whole ++ places) with
  | none => none
  | some n =>
    match rest with
    | [] => some ⟨negative, n, places.length, 0⟩
    | e :: r =>
      if e = 101 || e = 69 then
        (digitsOf? 10 (dropSign r)).map fun x =>
          ⟨negative, n, places.length, if r.take 1 = [45] then -x else x⟩
      else none

def Fraction.magnitude (f : Fraction) : Int := (toString f.digits).length + f.exponent - f.places

def Fraction.inRange (f : Fraction) : Bool :=
  let magnitude := f.magnitude
  f.digits = 0 || magnitude < 309 ||
    (magnitude ≤ 309 &&
      (if 0 ≤ f.exponent - f.places then decide (f.digits * Nat.pow 10 (f.exponent - f.places).toNat < Nat.pow 2 1024 - Nat.pow 2 970)
       else decide (f.digits < (Nat.pow 2 1024 - Nat.pow 2 970) * Nat.pow 10 (f.places - f.exponent).toNat)))

def Fraction.value (f : Fraction) : Rat :=
  let e := f.exponent - f.places
  let m : Rat := if 0 ≤ e then ((f.digits * Nat.pow 10 e.toNat : Nat) : Rat) else (f.digits : Rat) / (Nat.pow 10 (-e).toNat : Nat)
  if f.negative then -m else m

def isFloat (s : Bytes) : Bool := ((Fraction.parse? s).map (·.inRange)).getD false

def shortNumber? : Bytes → Option (Nat × Bytes)
  | a :: b :: s =>
    if !Bytes.isDigit a then none
    else if Bytes.isDigit b then some ((a.toNat - 48) * 10 + (b.toNat - 48), s)
    else some (a.toNat - 48, b :: s)
  | [a] => if Bytes.isDigit a then some (a.toNat - 48, []) else none
  | [] => none

def daysIn (year month : Nat) : Nat :=
  if month = 2 then if year % 4 = 0 && (year % 100 ≠ 0 || year % 400 = 0) then 29 else 28
  else if [4, 6, 9, 11].contains month then 30
  else 31

def skip? (b : UInt8) : Bytes → Option Bytes
  | c :: s => if c = b then some s else none
  | [] => none

def date? (s : Bytes) : Option Bytes := do
  let year ← digitsOf? 10 (s.take 4)
  let (month, s) ← shortNumber? (← skip? 45 (s.drop 4))
  let (day, s) ← shortNumber? (← skip? 45 s)
  if 1 ≤ month && month ≤ 12 && 1 ≤ day && day ≤ daysIn year month then some s else none

def clock? (s : Bytes) : Option Bytes := do
  let (hour, s) ← shortNumber? s
  let (minute, s) ← shortNumber? (← skip? 58 s)
  let (second, s) ← shortNumber? (← skip? 58 s)
  if 24 ≤ hour || 60 ≤ minute || 60 ≤ second then none
  else
    match s with
    | p :: d :: _ => if (p = 46 || p = 44) && Bytes.isDigit d then some ((s.drop 1).dropWhile Bytes.isDigit) else some s
    | _ => some s

def isZone (s : Bytes) : Bool :=
  match s with
  | [90] => true
  | [sign, a, b, 58, c, d] =>
    isSign sign && [a, b, c, d].all Bytes.isDigit && (a.toNat - 48) * 10 + (b.toNat - 48) ≤ 24 &&
      (c.toNat - 48) * 10 + (d.toNat - 48) ≤ 60
  | _ => false

def isTimestamp (s : Bytes) : Bool :=
  (s.takeWhile Bytes.isDigit).length = 4 &&
    match date? s with
    | none => false
    | some [] => true
    | some (t :: r) =>
      if t = 84 || t = 116 then ((clock? r).map isZone).getD false
      else if t = 32 then (clock? (r.dropWhile (· = 32))) = some []
      else false

def meaning (s : Bytes) : Meaning :=
  if isOneOf trueWords s then .bool true
  else if isOneOf falseWords s then .bool false
  else if isOneOf nullWords s then .null
  else if isOneOf floatWords s then .float
  else
    match s with
    | [] => .null
    | b :: _ =>
      if b = 46 then if isFloat s then .float else .text
      else if Bytes.isDigit b || isSign b then
        let plain := s.filter (· ≠ 95)
        if isTimestamp s then .timestamp
        else if (intOf? plain).isSome then .int
        else if isFloat plain then .float
        else .text
      else .text

def isBase60 (s : Bytes) : Bool :=
  let body := dropSign s
  let isGroup (g : Bytes) : Bool :=
    match g with
    | [a] => Bytes.isDigit a
    | [a, b] => 48 ≤ a && a ≤ 53 && Bytes.isDigit b
    | _ => false
  let digitOrBar (b : UInt8) : Bool := Bytes.isDigit b || b = 95
  match Bytes.splitByte body 58 with
  | first :: group :: groups =>
    let last := (group :: groups).getLast?.getD []
    let middle := (group :: groups).dropLast
    let (head, tail) := (last.takeWhile (· ≠ 46), last.dropWhile (· ≠ 46))
    (first.head?.map Bytes.isDigit).getD false && first.all digitOrBar && middle.all isGroup && isGroup head &&
      (tail.drop 1).all digitOrBar
  | _ => false

/-- Whether a text may be written without quotes and still be read as that text. -/
def readsAsText (s : Bytes) : Bool := meaning s = .text && !isBase60 s && !isOneOf oldBools s

end Yaml

end SourceSurvey
