import SourceSurvey.Datum.Basic
import SourceSurvey.Proofs.Text.Encoding

namespace SourceSurvey

namespace Numeral

theorem toList_toString_nat (n : Nat) : (toString n).toList = Nat.toDigits 10 n := by
  rw [Nat.toString_eq_repr, Nat.repr_eq_ofList_toDigits, String.toList_ofList]

theorem isDigit_of_mem_nat {n : Nat} {c : Char} (h : c ∈ (toString n).toList) : c.isDigit := by
  rw [toList_toString_nat] at h
  exact Nat.isDigit_of_mem_toDigits (by decide) (by decide) h

theorem toString_int (n : Int) :
    toString n = if 0 ≤ n then toString n.toNat else "-" ++ toString (-n).toNat := by
  rw [Int.toString_eq_repr, Int.repr_eq_if]
  rfl

theorem of_mem_int {n : Int} {c : Char} (h : c ∈ (toString n).toList) : c = '-' ∨ c.isDigit := by
  rw [toString_int] at h
  split at h
  · exact .inr (isDigit_of_mem_nat h)
  · rw [String.toList_append, List.mem_append] at h
    obtain h | h := h
    · exact .inl (by simpa using h)
    · exact .inr (isDigit_of_mem_nat h)

theorem of_mem_rat {q : Rat} {c : Char} (h : c ∈ (toString q).toList) : c = '/' ∨ c = '-' ∨ c.isDigit := by
  change c ∈ String.toList (if q.den = 1 then toString q.num else toString q.num ++ "/" ++ toString q.den) at h
  split at h
  · exact .inr (of_mem_int h)
  · simp only [String.toList_append, List.mem_append] at h
    obtain (h | h) | h := h
    · exact .inr (of_mem_int h)
    · exact .inl (by simpa using h)
    · exact .inr (.inr (isDigit_of_mem_nat h))

def byteOf (c : Char) : UInt8 := c.toNat.toUInt8

theorem toNat_of_isDigit {c : Char} (h : c.isDigit) : 48 ≤ c.toNat ∧ c.toNat ≤ 57 := by
  simp only [Char.isDigit, ge_iff_le, Bool.and_eq_true, decide_eq_true_eq, UInt32.le_iff_toNat_le] at h
  exact h

theorem toNat_byteOf {c : Char} (h : c.isDigit) : (byteOf c).toNat = c.toNat :=
  Utf8.toNat_toUInt8 (Nat.lt_of_le_of_lt (toNat_of_isDigit h).2 (by decide))

theorem isDigit_byteOf {c : Char} (h : c.isDigit) : Bytes.isDigit (byteOf c) := by
  simp only [Bytes.isDigit, Bool.and_eq_true, decide_eq_true_eq, UInt8.le_iff_toNat_le, toNat_byteOf h]
  exact toNat_of_isDigit h

theorem encode_digits {cs : List Char} (h : ∀ c ∈ cs, c.isDigit) : Utf8.encode cs = cs.map byteOf := by
  induction cs with
  | nil => rfl
  | cons c cs ih =>
      have hc : c.toNat < 0x80 := Nat.lt_of_le_of_lt (toNat_of_isDigit (h c List.mem_cons_self)).2 (by decide)
      rw [Utf8.encode, List.flatMap_cons, ← Utf8.encode, ih fun c hc => h c (List.mem_cons_of_mem _ hc),
        Utf8.encodeChar, if_pos hc]
      rfl

theorem utf8_nat (n : Nat) : utf8 (toString n) = (Nat.toDigits 10 n).map byteOf := by
  rw [utf8_eq, encode_digits fun c => isDigit_of_mem_nat, toList_toString_nat]

theorem utf8_nat_ne_nil (n : Nat) : utf8 (toString n) ≠ [] := by
  rw [utf8_nat, ne_eq, List.map_eq_nil_iff]
  exact Nat.toDigits_ne_nil

theorem head?_toDigits {n : Nat} (h : n ≠ 0) : (Nat.toDigits 10 n).head? ≠ some '0' := by
  induction n using Nat.strongRecOn with
  | ind n ih =>
      by_cases hn : n < 10
      · rw [Nat.toDigits_of_lt_base hn]
        simpa using h
      · rw [Nat.toDigits_of_base_le (by decide) (by omega), List.head?_append_of_ne_nil _ Nat.toDigits_ne_nil]
        exact ih (n / 10) (by omega) (by omega)

theorem head?_utf8_nat {n : Nat} (h : n ≠ 0) : (utf8 (toString n)).head? ≠ some 48 := by
  rw [utf8_nat, List.head?_map]
  intro hzero
  obtain ⟨c, hc, hbyte⟩ := Option.map_eq_some_iff.mp hzero
  have hdigit : c.isDigit := Nat.isDigit_of_mem_toDigits (by decide) (by decide) (List.mem_of_mem_head? hc)
  have hvalue : c.toNat = 48 := by rw [← toNat_byteOf hdigit, hbyte]; rfl
  exact head?_toDigits h (hc.trans (congrArg some (Char.ext (UInt32.toNat_inj.mp hvalue))))

theorem all_isDigit_nat (n : Nat) : (utf8 (toString n)).all Bytes.isDigit := by
  rw [utf8_nat, List.all_map, List.all_eq_true]
  intro c hc
  exact isDigit_byteOf (Nat.isDigit_of_mem_toDigits (by decide) (by decide) hc)

theorem foldl_digits {cs : List Char} (h : ∀ c ∈ cs, c.isDigit) (n : Nat) :
    (cs.map byteOf).foldl (fun n d => n * 10 + (d.toNat - 48)) n = Nat.ofDigitChars 10 cs n := by
  induction cs generalizing n with
  | nil => rfl
  | cons c cs ih =>
      rw [List.map_cons, List.foldl_cons, toNat_byteOf (h c List.mem_cons_self), Nat.mul_comm n,
        ih fun c hc => h c (List.mem_cons_of_mem _ hc), Nat.ofDigitChars_cons]
      rfl

def value (digits : Bytes) : Nat := digits.foldl (fun n d => n * 10 + (d.toNat - 48)) 0

theorem value_nat (n : Nat) : value (utf8 (toString n)) = n := by
  rw [value, utf8_nat, foldl_digits fun c hc => Nat.isDigit_of_mem_toDigits (by decide) (by decide) hc,
    Nat.ofDigitChars_toDigits (by decide) (by decide)]

end Numeral

namespace Datum

open Numeral

variable {s : Bytes}

theorem intOf?_digits (hne : s ≠ []) (hdigits : s.all Bytes.isDigit) : intOf? s = some (value s : Int) := by
  have hminus : ∀ ds, s ≠ 45 :: ds := by
    rintro ds rfl
    simp [Bytes.isDigit] at hdigits
  rw [intOf?]
  · simp [hne, hdigits, value]
  · exact hminus

theorem intOf?_minus_digits (hne : s ≠ []) (hdigits : s.all Bytes.isDigit) :
    intOf? (45 :: s) = some (-(value s : Int)) := by
  simp [intOf?, hne, hdigits, value]

@[simp] theorem intOf?_nat (n : Nat) : intOf? (utf8 (toString n)) = some (n : Int) := by
  rw [intOf?_digits (utf8_nat_ne_nil n) (all_isDigit_nat n), value_nat]

@[simp] theorem intOf?_int (n : Int) : intOf? (utf8 (toString n)) = some n := by
  rw [toString_int]
  split
  · rw [intOf?_nat, Int.toNat_of_nonneg ‹_›]
  · have hsign : utf8 "-" = [45] := by decide
    rw [utf8_append, hsign, List.singleton_append, intOf?_minus_digits (utf8_nat_ne_nil _) (all_isDigit_nat _),
      value_nat]
    congr 1
    omega

end Datum

end SourceSurvey
