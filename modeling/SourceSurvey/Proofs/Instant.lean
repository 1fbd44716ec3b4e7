import Mathlib.Tactic.IntervalCases
import Mathlib.Tactic.Ring
import SourceSurvey.Instant
import SourceSurvey.Proofs.Text.Numeral

namespace SourceSurvey

namespace Instant

/-- A day of four hundred years by the century it lies in, the four years, the year and the day of the year. Years
begin in March; only the last of four has 366 days, and the last of a century only in the last century. -/
structure CycleDay (dayOfEra century fours year day : Int) : Prop where
  sum : dayOfEra = 36524 * century + 1461 * fours + 365 * year + day
  century_bounds : 0 ≤ century ∧ century ≤ 3
  fours_bounds : 0 ≤ fours ∧ fours ≤ 24
  year_bounds : 0 ≤ year ∧ year ≤ 3
  day_nonneg : 0 ≤ day
  length : day ≤ 364 ∨ day = 365 ∧ year = 3 ∧ (fours ≤ 23 ∨ century = 3)

variable {z c q a d : Int}

theorem exists_cycleDay (h : 0 ≤ z ∧ z < 146097) : ∃ c q a d, CycleDay z c q a d := by
  obtain ⟨c, r, rfl, hc, hr⟩ : ∃ c r, z = 36524 * c + r ∧ (0 ≤ c ∧ c ≤ 3) ∧ 0 ≤ r ∧ (r < 36524 ∨ c = 3 ∧ r = 36524) :=
    ⟨min (z / 36524) 3, z - 36524 * min (z / 36524) 3, by omega, by omega, by omega, by omega⟩
  obtain ⟨q, s, rfl, hq, hs⟩ : ∃ q s, r = 1461 * q + s ∧ (0 ≤ q ∧ q ≤ 24) ∧ 0 ≤ s ∧ s ≤ 1460 :=
    ⟨r / 1461, r % 1461, by omega, by omega, by omega, by omega⟩
  obtain ⟨a, d, rfl, ha, hd⟩ : ∃ a d, s = 365 * a + d ∧ (0 ≤ a ∧ a ≤ 3) ∧ 0 ≤ d ∧ (d ≤ 364 ∨ a = 3 ∧ d = 365) :=
    ⟨min (s / 365) 3, s - 365 * min (s / 365) 3, by omega, by omega, by omega, by omega⟩
  exact ⟨c, q, a, d, by omega, hc, hq, ha, hd.1, by omega⟩

theorem CycleDay.yearOfEra (h : CycleDay z c q a d) :
    (z - z / 1460 + z / 36524 - z / 146096) / 365 = 100 * c + 4 * q + a := by
  obtain ⟨hsum, hc, hq, ha, hd, hlength⟩ := h
  have hcentury : z / 36524 - z / 146096 = c := by
    have hz : z < 36524 * (c + 1) ∨ c = 3 ∧ z = 146096 := by omega
    omega
  obtain ⟨e, he, hcases⟩ : ∃ e, z / 1460 = 25 * c + q + e ∧
      (e = 0 ∧ 24 * c + q + 365 * a + d < 1460 ∨ e = 1 ∧ 1460 ≤ 24 * c + q + 365 * a + d) :=
    ⟨z / 1460 - 25 * c - q, by omega, by omega⟩
  omega

theorem CycleDay.dayOfYear (h : CycleDay z c q a d) :
    (100 * c + 4 * q + a) * 365 + (100 * c + 4 * q + a) / 4 - (100 * c + 4 * q + a) / 100 + d = z := by
  have hfours : (100 * c + 4 * q + a) / 4 = 25 * c + q := by
    have ha := h.year_bounds
    omega
  have hcentury : (100 * c + 4 * q + a) / 100 = c := by
    have hq := h.fours_bounds
    have ha := h.year_bounds
    omega
  rw [hfours, hcentury, h.sum]
  ring

/-- Where a day lies: the era of four hundred years, the year in it and the day of the year. -/
structure DayAt (days era year day : Int) : Prop where
  sum : days + 719468 = era * 146097 + (year * 365 + year / 4 - year / 100 + day)
  year_bounds : 0 ≤ year ∧ year ≤ 399
  day_bounds : 0 ≤ day ∧ day ≤ 365
  leap : day = 365 → (year + 1) % 4 = 0 ∧ ((year + 1) % 100 ≠ 0 ∨ (year + 1) % 400 = 0)

theorem CycleDay.dayAt {days era : Int} (h : CycleDay z c q a d) (hdays : days + 719468 = era * 146097 + z) :
    DayAt days era (100 * c + 4 * q + a) d := by
  refine ⟨by rw [hdays, h.dayOfYear], ?_, ?_, ?_⟩
  all_goals
    obtain ⟨-, hc, hq, ha, hd, hlength⟩ := h
    omega

def dateAt (era year day : Int) : Int × Nat × Nat :=
  let m := (5 * day + 2) / 153
  let month := if m < 10 then m + 3 else m - 9
  (year + era * 400 + (if month ≤ 2 then 1 else 0), month.toNat, (day - (153 * m + 2) / 5 + 1).toNat)

theorem exists_dayAt (days : Int) : ∃ era year day, DayAt days era year day ∧ dateOf days = dateAt era year day := by
  obtain ⟨c, q, a, d, h⟩ := exists_cycleDay (z := (days + 719468) % 146097) (by omega)
  refine ⟨(days + 719468) / 146097, 100 * c + 4 * q + a, d, h.dayAt (by omega), ?_⟩
  have hday : (days + 719468) % 146097 - (365 * (100 * c + 4 * q + a) + (100 * c + 4 * q + a) / 4 -
      (100 * c + 4 * q + a) / 100) = d := by
    rw [← h.dayOfYear]
    ring
  rw [dateOf]
  simp only [h.yearOfEra, hday]
  rfl

variable {days era year day : Int}

theorem DayAt.month (h : DayAt days era year day) : ∃ m n : Nat, (5 * day + 2) / 153 = m ∧ m ≤ 11 ∧
    day = (153 * m + 2) / 5 + n ∧ n < (153 * (m + 1) + 2) / 5 - (153 * m + 2) / 5 := by
  obtain ⟨hlow, hhigh⟩ := h.day_bounds
  obtain ⟨d, rfl⟩ := Int.eq_ofNat_of_zero_le hlow
  obtain ⟨m, hm, hfrom, hto⟩ : ∃ m : Nat, (5 * d + 2) / 153 = m ∧ 153 * m ≤ 5 * d + 2 ∧ 5 * d + 2 < 153 * (m + 1) :=
    ⟨_, rfl, by omega, by omega⟩
  exact ⟨m, d - (153 * m + 2) / 5, by omega, by omega, by omega, by omega⟩

theorem dateAt_month {m n : Nat} (hm : (5 * day + 2) / 153 = m) (hle : m ≤ 11) (hday : day = (153 * m + 2) / 5 + n) :
    dateAt era year day = (year + era * 400 + (if (m + 2) % 12 + 1 ≤ 2 then 1 else 0), (m + 2) % 12 + 1, n + 1) := by
  have hmonth : (if (m : Int) < 10 then (m : Int) + 3 else m - 9) = ((m + 2) % 12 + 1 : Nat) := by
    split <;> omega
  have hnumber : (day - (153 * m + 2) / 5 + 1).toNat = n + 1 := by omega
  have hearly : (((m + 2) % 12 + 1 : Nat) : Int) ≤ 2 ↔ (m + 2) % 12 + 1 ≤ 2 := by omega
  rw [dateAt, hm]
  simp only [hmonth, hnumber, hearly, Int.toNat_natCast]

theorem DayAt.daysTo_dateAt (h : DayAt days era year day) :
    daysTo (dateAt era year day).1 (dateAt era year day).2.1 (dateAt era year day).2.2 = days := by
  obtain ⟨m, n, hm, hle, hday, -⟩ := h.month
  have hyear := h.year_bounds
  have hera : (year + era * 400) / 400 = era := by omega
  have hyearOfEra : (year + era * 400) % 400 = year := by omega
  have hmarch : ((m + 2) % 12 + 1 + 9) % 12 = m := by omega
  have hstart : (if (m + 2) % 12 + 1 ≤ 2 then year + era * 400 + (if (m + 2) % 12 + 1 ≤ 2 then 1 else 0) - 1
      else year + era * 400 + (if (m + 2) % 12 + 1 ≤ 2 then 1 else 0)) = year + era * 400 := by
    split <;> omega
  have hnumber : (((153 * m + 2) / 5 + (n + 1) - 1 : Nat) : Int) = day := by omega
  rw [dateAt_month hm hle hday, daysTo]
  simp only [hstart, hera, hyearOfEra, hmarch, hnumber, ← h.sum]
  omega

theorem isLeap_of_int {y : Int} (hfour : y % 4 = 0) (hcentury : y % 100 ≠ 0 ∨ y % 400 = 0) :
    isLeap y.toNat := by
  simp only [isLeap, ne_eq, Bool.and_eq_true, Bool.or_eq_true, decide_eq_true_eq]
  omega

theorem DayAt.le_daysIn (h : DayAt days era year day) {m n : Nat} (hle : m ≤ 11) (hday : day = (153 * m + 2) / 5 + n)
    (hlength : n < (153 * (m + 1) + 2) / 5 - (153 * m + 2) / 5)
    (hyear : 0 ≤ year + era * 400 + (if (m + 2) % 12 + 1 ≤ 2 then 1 else 0)) :
    n + 1 ≤ daysIn (year + era * 400 + (if (m + 2) % 12 + 1 ≤ 2 then 1 else 0)).toNat ((m + 2) % 12 + 1) := by
  by_cases hlast : m = 11
  · subst hlast
    have hbounds := h.day_bounds
    have hleap := h.leap
    rw [if_pos (by decide)] at hyear ⊢
    change n + 1 ≤ if isLeap (year + era * 400 + 1).toNat then 29 else 28
    by_cases hn : n = 28
    · obtain ⟨hfour, hcentury⟩ := hleap (by omega)
      rw [if_pos (isLeap_of_int (by omega) (by omega)), hn]
    · split <;> omega
  · have hmonth : m < 11 := by omega
    clear hyear h hday hle hlast
    interval_cases m <;> simp [daysIn] <;> omega

theorem dateOf_spec (days : Int) : ∃ (year : Int) (month day : Nat), dateOf days = (year, month, day) ∧
    daysTo year month day = days ∧ (1 ≤ month ∧ month ≤ 12) ∧ 1 ≤ day ∧ (0 ≤ year → day ≤ daysIn year.toNat month) := by
  obtain ⟨era, yearOfEra, dayOfYear, h, hdate⟩ := exists_dayAt days
  have hinverse := h.daysTo_dateAt
  obtain ⟨m, n, hm, hle, hday, hlength⟩ := h.month
  rw [dateAt_month hm hle hday] at hinverse hdate
  exact ⟨_, _, _, hdate, hinverse, by omega, by omega, h.le_daysIn hle hday hlength⟩

structure Spells (width n : Nat) (s : Bytes) : Prop where
  length : s.length = width
  digits : s.all Bytes.isDigit
  value : Numeral.value s = n

theorem toList_pad (width n : Nat) : (Decimal.pad width n).toList =
    List.replicate (width - (toString n).length) '0' ++ (toString n).toList := by
  have hpush : ∀ k, ("".pushn '0' k).toList = List.replicate k '0' := by
    intro k
    induction k with
    | zero => rfl
    | succ k ih =>
        rw [String.pushn_eq_repeat_push] at ih ⊢
        rw [Nat.repeat, String.toList_push, ih, ← List.replicate_succ']
  rw [Decimal.pad, String.toList_append, hpush]

theorem isDigit_of_mem_pad {width n : Nat} {c : Char} (h : c ∈ (Decimal.pad width n).toList) : c.isDigit := by
  rw [toList_pad, List.mem_append] at h
  obtain h | h := h
  · rw [List.eq_of_mem_replicate h]
    rfl
  · exact Numeral.isDigit_of_mem_nat h

theorem utf8_pad (width n : Nat) : utf8 (Decimal.pad width n) = (Decimal.pad width n).toList.map Numeral.byteOf := by
  rw [utf8_eq, Numeral.encode_digits fun c => isDigit_of_mem_pad]

theorem spells_pad {width n : Nat} (hwidth : 0 < width) (hn : n < 10 ^ width) :
    Spells width n (utf8 (Decimal.pad width n)) := by
  have hlength : (toString n).length ≤ width := by
    rw [← String.length_toList, Numeral.toList_toString_nat, Nat.length_toDigits_le_iff (by decide) hwidth]
    exact hn
  refine ⟨?_, ?_, ?_⟩
  · rw [utf8_pad, List.length_map, toList_pad, List.length_append, List.length_replicate, String.length_toList]
    omega
  · rw [utf8_pad, List.all_map, List.all_eq_true]
    exact fun c hc => Numeral.isDigit_byteOf (isDigit_of_mem_pad hc)
  · have hzeros : ∀ k, (List.replicate k (Numeral.byteOf '0')).foldl (fun n d => n * 10 + (d.toNat - 48)) 0 = 0 := by
      intro k
      induction k with
      | zero => rfl
      | succ k ih => exact ih
    rw [utf8_pad, toList_pad, List.map_append, List.map_replicate, Numeral.value, List.foldl_append, hzeros]
    have hvalue := Numeral.value_nat n
    rwa [Numeral.utf8_nat, ← Numeral.toList_toString_nat] at hvalue

theorem Spells.number? {width n lo hi : Nat} {s : Bytes} (h : Spells width n s) (hwidth : 0 < width)
    (hn : lo ≤ n ∧ n ≤ hi) : number? s lo hi = some n := by
  have hne : s.isEmpty = false := by
    rw [List.isEmpty_eq_false_iff, ← List.length_pos_iff, h.length]
    exact hwidth
  have hvalue : s.foldl (fun n b => n * 10 + (b.toNat - 48)) 0 = n := h.value
  rw [Instant.number?, hne, h.digits]
  simp [hvalue, hn]

theorem Spells.two {n : Nat} {s : Bytes} (h : Spells 2 n s) : ∃ a b, s = [a, b] := List.length_eq_two.mp h.length

theorem Spells.four {n : Nat} {s : Bytes} (h : Spells 4 n s) : ∃ a b c d, s = [a, b, c, d] := by
  have hlength := h.length
  match s, hlength with
  | [a, b, c, d], _ => exact ⟨a, b, c, d, rfl⟩

def fractionDigits (fraction : Nat) : List Char :=
  ((Decimal.pad 9 fraction).toList.reverse.dropWhile (· = '0')).reverse

theorem fractionDigits_zeros {fraction : Nat} (h : fraction < 10 ^ 9) :
    fractionDigits fraction ++ List.replicate (9 - (fractionDigits fraction).length) '0' =
      (Decimal.pad 9 fraction).toList := by
  have hlength := (spells_pad (by decide) h).length
  rw [utf8_pad, List.length_map] at hlength
  generalize hcs : (Decimal.pad 9 fraction).toList = cs at hlength
  have hsplit := congrArg List.reverse (List.takeWhile_append_dropWhile (p := (· = '0')) (l := cs.reverse))
  rw [List.reverse_append, List.reverse_reverse] at hsplit
  have hdigits : fractionDigits fraction = (cs.reverse.dropWhile (· = '0')).reverse := by rw [fractionDigits, hcs]
  rw [← hdigits] at hsplit
  have hzeros : (cs.reverse.takeWhile (· = '0')).reverse =
      List.replicate (9 - (fractionDigits fraction).length) '0' := by
    rw [List.eq_replicate_iff]
    constructor
    · have hsum := congrArg List.length hsplit
      rw [List.length_append, hlength] at hsum
      omega
    · intro c hc
      simpa using List.mem_takeWhile_imp (List.mem_reverse.mp hc)
  rw [← hzeros, hsplit]

theorem isDigit_of_mem_fractionDigits {fraction : Nat} {c : Char} (h : c ∈ fractionDigits fraction) : c.isDigit :=
  isDigit_of_mem_pad (List.mem_reverse.mp ((List.dropWhile_sublist _).mem (List.mem_reverse.mp h)))

theorem nanoseconds_fractionDigits {fraction : Nat} (h : fraction < 10 ^ 9) :
    nanoseconds ((fractionDigits fraction).map Numeral.byteOf) = fraction := by
  have hzeros := fractionDigits_zeros h
  have hshort : (fractionDigits fraction).length ≤ 9 := by
    have hlength := (spells_pad (by decide) h).length
    rw [utf8_pad, List.length_map, ← hzeros, List.length_append] at hlength
    omega
  have hvalue := (spells_pad (by decide) h).value
  rw [utf8_pad, ← hzeros, List.map_append, List.map_replicate] at hvalue
  rw [nanoseconds, List.take_of_length_le (by simpa using hshort), List.length_map]
  exact hvalue

theorem number?_pad {n hi : Nat} (hn : n < 100) (hle : n ≤ hi) : number? (utf8 (Decimal.pad 2 n)) 0 hi = some n :=
  (spells_pad (by decide) (by omega)).number? (by decide) ⟨Nat.zero_le _, hle⟩

theorem zone?_signed (sign : UInt8) {hours minutes : Nat} (hh : hours ≤ 23) (hm : minutes ≤ 59) :
    zone? (sign :: (utf8 (Decimal.pad 2 hours) ++ 58 :: utf8 (Decimal.pad 2 minutes))) =
      if sign = 43 then some (hours * 3600 + minutes * 60 : Int)
      else if sign = 45 then some (-(hours * 3600 + minutes * 60 : Int)) else none := by
  have hhours := number?_pad (by omega) hh
  have hminutes := number?_pad (by omega) hm
  obtain ⟨a, b, hab⟩ := (show Spells 2 hours _ from spells_pad (by decide) (by omega)).two
  obtain ⟨c, d, hcd⟩ := (show Spells 2 minutes _ from spells_pad (by decide) (by omega)).two
  rw [hab] at hhours ⊢
  rw [hcd] at hminutes ⊢
  simp [zone?, hhours, hminutes]

theorem zone?_zoneText {offset : Int} (h : (offset.tdiv 60).natAbs / 60 < 24) :
    zone? (utf8 (zoneText offset)) = some (offset.tdiv 60 * 60) := by
  have hcolon : utf8 ":" = [58] := by decide
  rw [zoneText]
  split
  · next hzero =>
      rw [hzero]
      rfl
  · generalize offset.tdiv 60 = minutes at h
    have hsigned (sign : UInt8) := zone?_signed sign (show minutes.natAbs / 60 ≤ 23 by omega)
      (show minutes.natAbs % 60 ≤ 59 by omega)
    simp only [utf8_append, hcolon, List.append_assoc, List.singleton_append]
    split
    · have hsign : utf8 "-" = [45] := by decide
      rw [hsign, List.singleton_append, hsigned, if_neg (by decide), if_pos rfl, Option.some_inj]
      omega
    · have hsign : utf8 "+" = [43] := by decide
      rw [hsign, List.singleton_append, hsigned, if_pos rfl, Option.some_inj]
      omega

theorem exists_head_of_zone? {s : Bytes} {offset : Int} (h : zone? s = some offset) :
    ∃ b rest, s = b :: rest ∧ b ≠ 46 ∧ Bytes.isDigit b = false := by
  by_cases huniversal : s = [90]
  · exact ⟨90, [], huniversal, by decide, by decide⟩
  rw [zone?.eq_def, if_neg huniversal] at h
  match s, h with
  | sign :: rest, h =>
    by_cases hsign : sign = 43 ∨ sign = 45
    · obtain rfl | rfl := hsign <;> exact ⟨_, _, rfl, by decide, by decide⟩
    · rw [not_or] at hsign
      split at h
      · next heq =>
          obtain ⟨rfl, -⟩ := List.cons.inj heq
          simp [hsign.1, hsign.2] at h
      · cases h

def tail (digits zone : Bytes) : Bytes := (if digits.isEmpty then [] else 46 :: digits) ++ zone

theorem parse?_spelled {ys mos ds hs mis ss digits zone : Bytes} {year month day hour minute second : Nat}
    {offset : Int} (hy : Spells 4 year ys) (hmo : Spells 2 month mos) (hd : Spells 2 day ds) (hh : Spells 2 hour hs)
    (hmi : Spells 2 minute mis) (hs' : Spells 2 second ss) (hdigits : digits.all Bytes.isDigit)
    (hzone : zone? zone = some offset) (hyear : year ≤ 9999) (hmonth : 1 ≤ month ∧ month ≤ 12)
    (hday : 1 ≤ day ∧ day ≤ daysIn year month) (hhour : hour ≤ 23) (hminute : minute ≤ 59) (hsecond : second ≤ 59) :
    Timestamp.parse? (ys ++ 45 :: mos ++ 45 :: ds ++ 84 :: hs ++ 58 :: mis ++ 58 :: ss ++ tail digits zone) =
      some ⟨(daysTo year month day * 86400 + (hour * 3600 + minute * 60 + second : Nat) - offset) *
        nanosecondsPerSecond + nanoseconds digits, offset⟩ := by
  have hys := hy.number? (by decide) ⟨Nat.zero_le _, hyear⟩
  have hmos := hmo.number? (by decide) hmonth
  have hds := hd.number? (by decide) hday
  have hhs := hh.number? (by decide) ⟨Nat.zero_le _, hhour⟩
  have hmis := hmi.number? (by decide) ⟨Nat.zero_le _, hminute⟩
  have hss := hs'.number? (by decide) ⟨Nat.zero_le _, hsecond⟩
  -- With each digit on its own the text can be taken apart by position.
  obtain ⟨y₁, y₂, y₃, y₄, rfl⟩ := hy.four
  obtain ⟨m₁, m₂, rfl⟩ := hmo.two
  obtain ⟨d₁, d₂, rfl⟩ := hd.two
  obtain ⟨h₁, h₂, rfl⟩ := hh.two
  obtain ⟨n₁, n₂, rfl⟩ := hmi.two
  obtain ⟨s₁, s₂, rfl⟩ := hs'.two
  obtain ⟨b, rest, rfl, hpoint, hletter⟩ := exists_head_of_zone? hzone
  rw [Timestamp.parse?]
  simp only [List.cons_append, List.nil_append, List.drop_succ_cons, List.drop_zero, List.take_succ_cons,
    List.take_zero, hys, hmos, hhs, hmis, hss]
  by_cases hnil : digits = []
  · subst hnil
    simp [tail, hds, hzone, hpoint]
  · have htail : tail digits (b :: rest) = 46 :: (digits ++ b :: rest) := by simp [tail, hnil]
    have htake : (digits ++ b :: rest).takeWhile Bytes.isDigit = digits := by
      rw [List.takeWhile_append_of_pos (List.all_eq_true.mp hdigits)]
      simp [hletter]
    simp [htail, htake, hnil, hds, hzone]

theorem utf8_render {i : Instant} {offset seconds year : Int} {month day nanos : Nat}
    (hclock : i / nanosecondsPerSecond + offset = seconds) (hnanos : (i % nanosecondsPerSecond).toNat = nanos)
    (hdate : dateOf (seconds / 86400) = (year, month, day)) : utf8 (render i offset) =
      utf8 (Decimal.pad 4 year.toNat) ++ 45 :: utf8 (Decimal.pad 2 month) ++ 45 :: utf8 (Decimal.pad 2 day) ++ 84 ::
      utf8 (Decimal.pad 2 ((seconds % 86400).toNat / 3600)) ++ 58 ::
      utf8 (Decimal.pad 2 ((seconds % 86400).toNat / 60 % 60)) ++ 58 ::
      utf8 (Decimal.pad 2 ((seconds % 86400).toNat % 60)) ++
      tail ((fractionDigits nanos).map Numeral.byteOf) (utf8 (zoneText offset)) := by
  have hdigits : utf8 (String.ofList (fractionDigits nanos)) = (fractionDigits nanos).map Numeral.byteOf := by
    rw [utf8_eq, String.toList_ofList, Numeral.encode_digits fun c => isDigit_of_mem_fractionDigits]
  have htail : utf8 (if (fractionDigits nanos).isEmpty then "" else "." ++ String.ofList (fractionDigits nanos)) ++
      utf8 (zoneText offset) = tail ((fractionDigits nanos).map Numeral.byteOf) (utf8 (zoneText offset)) := by
    have hpoint : utf8 "." = [46] := by decide
    rw [tail, List.isEmpty_map]
    split
    · rfl
    · rw [utf8_append, hpoint, hdigits]
      rfl
  have htrimmed : ((Decimal.pad 9 nanos).toList.reverse.dropWhile (· = '0')).reverse = fractionDigits nanos := rfl
  have hdash : utf8 "-" = [45] := by decide
  have htee : utf8 "T" = [84] := by decide
  have hcolon : utf8 ":" = [58] := by decide
  rw [render]
  simp only [hclock, hnanos, hdate, htrimmed, utf8_append, hdash, htee, hcolon, List.append_assoc, List.cons_append,
    List.nil_append, htail]

theorem clock_sum {seconds : Int} (h : 0 ≤ seconds) :
    ((seconds.toNat / 3600 * 3600 + seconds.toNat / 60 % 60 * 60 + seconds.toNat % 60 : Nat) : Int) = seconds := by
  omega

end Instant

namespace Timestamp

open Instant

variable {t : Timestamp} {seconds : Int}

/-- The clock of a timestamp without a flaw shows a year of four digits, and its offset has less than a day. -/
theorem bounds_of_textFlaw?_eq_none (h : t.textFlaw? = none)
    (hclock : t.instant / nanosecondsPerSecond + t.offset = seconds) {year : Int} {month day : Nat}
    (hdate : dateOf (seconds / 86400) = (year, month, day)) :
    (0 ≤ year ∧ year ≤ 9999) ∧ (t.offset.tdiv 60).natAbs / 60 < 24 := by
  rw [textFlaw?, hclock, hdate] at h
  simp only [Bool.or_eq_true, decide_eq_true_eq] at h
  split_ifs at h
  omega

theorem seconds_sum {whole offset : Int} (h : whole + offset = seconds) :
    seconds / 86400 * 86400 + seconds % 86400 - offset.tdiv 60 * 60 = whole + offset.tmod 60 := by
  have hodd := Int.mul_tdiv_add_tmod offset 60
  omega

/-- Days, seconds of the day and nanoseconds make up the instant again, and what the offset has lost is added. -/
theorem instant_sum (hclock : t.instant / nanosecondsPerSecond + t.offset = seconds) :
    (seconds / 86400 * 86400 + seconds % 86400 - t.offset.tdiv 60 * 60) * nanosecondsPerSecond +
      (t.instant % nanosecondsPerSecond).toNat = t.stored.instant := by
  have hwhole := Int.mul_ediv_add_emod t.instant nanosecondsPerSecond
  have hpart : ((t.instant % nanosecondsPerSecond).toNat : Int) = t.instant % nanosecondsPerSecond :=
    Int.toNat_of_nonneg (Int.emod_nonneg _ (by decide))
  calc
    _ = nanosecondsPerSecond * (t.instant / nanosecondsPerSecond) + t.instant % nanosecondsPerSecond +
        t.offset.tmod 60 * nanosecondsPerSecond := by rw [seconds_sum hclock, hpart]; ring
    _ = _ := by rw [hwhole, stored]

/-- A timestamp is read as it is stored, where it can be written at all. -/
theorem parse?_render (h : t.textFlaw? = none) : parse? (utf8 t.render) = some t.stored := by
  obtain ⟨seconds, hclock⟩ : ∃ seconds, t.instant / nanosecondsPerSecond + t.offset = seconds := ⟨_, rfl⟩
  obtain ⟨year, month, day, hdate, hdays, hmonth, hday, hlast⟩ := dateOf_spec (seconds / 86400)
  obtain ⟨⟨hpositive, hfour⟩, hhours⟩ := bounds_of_textFlaw?_eq_none h hclock hdate
  have hfraction : (t.instant % nanosecondsPerSecond).toNat < 10 ^ 9 := by
    rw [nanosecondsPerSecond]
    omega
  have hyear : (year.toNat : Int) = year := Int.toNat_of_nonneg hpositive
  have hdaysIn := hlast hpositive
  have hthirty : daysIn year.toNat month ≤ 31 := by
    rw [daysIn]
    split_ifs <;> omega
  have hdigits : ((fractionDigits (t.instant % nanosecondsPerSecond).toNat).map Numeral.byteOf).all Bytes.isDigit := by
    rw [List.all_map, List.all_eq_true]
    exact fun c hc => Numeral.isDigit_byteOf (isDigit_of_mem_fractionDigits hc)
  rw [render, utf8_render hclock rfl hdate, parse?_spelled (spells_pad (by decide) (by omega))
    (spells_pad (by decide) (by omega)) (spells_pad (by decide) (by omega)) (spells_pad (by decide) (by omega))
    (spells_pad (by decide) (by omega)) (spells_pad (by decide) (by omega)) hdigits (zone?_zoneText hhours) (by omega)
    hmonth ⟨hday, hdaysIn⟩ (by omega) (by omega) (by omega), nanoseconds_fractionDigits hfraction, hyear, hdays,
    clock_sum (Int.emod_nonneg _ (by decide)), instant_sum hclock]
  rfl

theorem stored_eq_self (h : t.offset.tmod 60 = 0) : t.stored = t := by
  have hoffset := Int.mul_tdiv_add_tmod t.offset 60
  rw [h, Int.add_zero, Int.mul_comm] at hoffset
  rw [stored, h, hoffset, Int.zero_mul, Int.add_zero]

end Timestamp

end SourceSurvey
