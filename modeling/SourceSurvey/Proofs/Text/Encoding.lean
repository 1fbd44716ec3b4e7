import Mathlib.Data.List.Basic
import Mathlib.Tactic.SplitIfs
import SourceSurvey.Proofs.Text.Glyphs

namespace SourceSurvey

namespace Utf8

theorem toNat_lt (c : Char) : c.toNat < 0x110000 := by
  rcases c.valid with h | h
  · exact Nat.lt_trans h (by decide)
  · exact h.2

theorem not_surrogate (c : Char) : c.toNat < 0xD800 ∨ 0xDFFF < c.toNat := by
  rcases c.valid with h | h
  · exact .inl h
  · exact .inr h.1

theorem toNat_toUInt8 {n : Nat} (h : n < 256) : n.toUInt8.toNat = n := by
  rw [Nat.toUInt8, UInt8.toNat_ofNat', Nat.mod_eq_of_lt h]

variable {a b c d : UInt8} {r : Bytes}

theorem next?_two (ha : 0xC2 ≤ a.toNat ∧ a.toNat < 0xE0) (hb : isContinuation b) :
    next? (a :: b :: r) = some (⟨Char.ofNat (bits a 32 * 0x40 + bits b 64), [a, b]⟩, r) := by
  have h₁ : ¬a < 0x80 := by rw [UInt8.lt_iff_toNat_lt]; exact Nat.not_lt.mpr (Nat.le_trans (by decide) ha.1)
  have h₂ : ¬a < 0xC2 := by rw [UInt8.lt_iff_toNat_lt]; exact Nat.not_lt.mpr ha.1
  have h₃ : a < 0xE0 := UInt8.lt_iff_toNat_lt.mpr ha.2
  simp [next?, h₁, h₂, h₃, hb]

theorem next?_three (ha : 0xE0 ≤ a.toNat ∧ a.toNat < 0xF0) (hb : secondOk a b) (hc : isContinuation c) :
    next? (a :: b :: c :: r) =
      some (⟨Char.ofNat (bits a 16 * 0x1000 + bits b 64 * 0x40 + bits c 64), [a, b, c]⟩, r) := by
  have hlow : ∀ n : UInt8, n.toNat ≤ 0xE0 → ¬a < n := fun n hn => by
    rw [UInt8.lt_iff_toNat_lt]
    exact Nat.not_lt.mpr (Nat.le_trans hn ha.1)
  have hhigh : a < 0xF0 := UInt8.lt_iff_toNat_lt.mpr ha.2
  simp [next?, hlow 0x80 (by decide), hlow 0xC2 (by decide), hlow 0xE0 (by decide), hhigh, hb, hc]

theorem next?_four (ha : 0xF0 ≤ a.toNat ∧ a.toNat < 0xF5) (hb : secondOk a b) (hc : isContinuation c)
    (hd : isContinuation d) :
    next? (a :: b :: c :: d :: r) = some (⟨Char.ofNat
      (bits a 8 * 0x40000 + bits b 64 * 0x1000 + bits c 64 * 0x40 + bits d 64), [a, b, c, d]⟩, r) := by
  have hlow : ∀ n : UInt8, n.toNat ≤ 0xF0 → ¬a < n := fun n hn => by
    rw [UInt8.lt_iff_toNat_lt]
    exact Nat.not_lt.mpr (Nat.le_trans hn ha.1)
  have hhigh : a < 0xF5 := UInt8.lt_iff_toNat_lt.mpr ha.2
  simp [next?, hlow 0x80 (by decide), hlow 0xC2 (by decide), hlow 0xE0 (by decide), hlow 0xF0 (by decide), hhigh, hb,
    hc, hd]

theorem isContinuation_toUInt8 {n : Nat} (h : n < 0x40) : isContinuation (0x80 + n).toUInt8 := by
  have hn : (0x80 + n).toUInt8.toNat = 0x80 + n := toNat_toUInt8 (by omega)
  simp only [isContinuation, Bool.and_eq_true, decide_eq_true_eq, UInt8.le_iff_toNat_le, hn, UInt8.reduceToNat]
  omega

theorem secondOk_toUInt8 {lead second : Nat} (hlead : lead < 256) (hlow : 0x80 ≤ second) (hhigh : second ≤ 0xBF)
    (h3low : lead = 0xE0 → 0xA0 ≤ second) (h3high : lead = 0xED → second ≤ 0x9F)
    (h4low : lead = 0xF0 → 0x90 ≤ second) (h4high : lead = 0xF4 → second ≤ 0x8F) :
    secondOk lead.toUInt8 second.toUInt8 := by
  have hl := toNat_toUInt8 hlead
  have hs := toNat_toUInt8 (n := second) (by omega)
  have heq : ∀ n : UInt8, lead.toUInt8 = n ↔ lead = n.toNat := fun n => by rw [← UInt8.toNat_inj, hl]
  simp only [secondOk, heq, Bool.and_eq_true, decide_eq_true_eq, UInt8.le_iff_toNat_le, hs, apply_ite UInt8.toNat,
    UInt8.reduceToNat]
  constructor
  · split_ifs <;> omega
  · split_ifs <;> omega

theorem bits_toUInt8 {n keep : Nat} (h : n < 256) : bits n.toUInt8 keep = n % keep := by
  rw [bits, toNat_toUInt8 h]

theorem next?_encodeChar (c : Char) (r : Bytes) : next? (encodeChar c ++ r) = some (⟨c, encodeChar c⟩, r) := by
  have hmax := toNat_lt c
  have hvalid := not_surrogate c
  have hchar : ∀ m, m = c.toNat → Char.ofNat m = c := by
    rintro m rfl
    exact Char.ofNat_toNat c
  rw [encodeChar]
  generalize c.toNat = n at hmax hvalid hchar
  split
  · rename_i hn
    have hbyte : n.toUInt8 < 0x80 := by
      rw [UInt8.lt_iff_toNat_lt, toNat_toUInt8 (by omega)]
      exact hn
    rw [List.singleton_append, next?_ascii hbyte, ascii, toNat_toUInt8 (by omega), hchar n rfl]
  split
  · have ha : (0xC0 + n / 0x40).toUInt8.toNat = 0xC0 + n / 0x40 := toNat_toUInt8 (by omega)
    have hb : isContinuation (0x80 + n % 0x40).toUInt8 := isContinuation_toUInt8 (by omega)
    rw [List.cons_append, List.singleton_append, next?_two (by omega) hb, bits_toUInt8 (by omega),
      bits_toUInt8 (by omega), hchar _ (by omega)]
  split
  · have ha : (0xE0 + n / 0x1000).toUInt8.toNat = 0xE0 + n / 0x1000 := toNat_toUInt8 (by omega)
    have hb : secondOk (0xE0 + n / 0x1000).toUInt8 (0x80 + n / 0x40 % 0x40).toUInt8 := by
      apply secondOk_toUInt8 <;> omega
    have hc : isContinuation (0x80 + n % 0x40).toUInt8 := isContinuation_toUInt8 (by omega)
    rw [List.cons_append, List.cons_append, List.singleton_append, next?_three (by omega) hb hc,
      bits_toUInt8 (by omega), bits_toUInt8 (by omega), bits_toUInt8 (by omega), hchar _ (by omega)]
  · have ha : (0xF0 + n / 0x40000).toUInt8.toNat = 0xF0 + n / 0x40000 := toNat_toUInt8 (by omega)
    have hb : secondOk (0xF0 + n / 0x40000).toUInt8 (0x80 + n / 0x1000 % 0x40).toUInt8 := by
      apply secondOk_toUInt8 <;> omega
    have hc : isContinuation (0x80 + n / 0x40 % 0x40).toUInt8 := isContinuation_toUInt8 (by omega)
    have hd : isContinuation (0x80 + n % 0x40).toUInt8 := isContinuation_toUInt8 (by omega)
    rw [List.cons_append, List.cons_append, List.cons_append, List.singleton_append, next?_four (by omega) hb hc hd,
      bits_toUInt8 (by omega), bits_toUInt8 (by omega), bits_toUInt8 (by omega), bits_toUInt8 (by omega),
      hchar _ (by omega)]

theorem glyphs_encode_append (cs : List Char) (r : Bytes) :
    glyphs (encode cs ++ r) = (cs.map fun c => ⟨c, encodeChar c⟩) ++ glyphs r := by
  induction cs with
  | nil => rfl
  | cons c cs ih =>
      rw [encode, List.flatMap_cons, ← encode, List.append_assoc, glyphs_of_next? (next?_encodeChar c _), ih]
      rfl

theorem glyphs_encode (cs : List Char) : glyphs (encode cs) = cs.map fun c => ⟨c, encodeChar c⟩ := by
  simpa using glyphs_encode_append cs []

theorem chars_encode_append (cs : List Char) (r : Bytes) : chars (encode cs ++ r) = cs ++ chars r := by
  rw [chars, glyphs_encode_append, List.map_append, List.map_map]
  simp [chars, Function.comp_def]

@[simp] theorem chars_encode (cs : List Char) : chars (encode cs) = cs := by
  simpa [chars] using chars_encode_append cs []

theorem repair_encode (cs : List Char) : repair (encode cs) = encode cs := by rw [repair, chars_encode]

theorem encode_cons (c : Char) (cs : List Char) : encode (c :: cs) = encodeChar c ++ encode cs := rfl

theorem encode_append (cs ds : List Char) : encode (cs ++ ds) = encode cs ++ encode ds := List.flatMap_append

theorem isStray_encodeChar (c : Char) : isStray ⟨c, encodeChar c⟩ = false := by
  by_cases hc : c = replacement
  · subst hc
    decide
  · simp [isStray, hc]

theorem isValid_encode (cs : List Char) : isValid (encode cs) := by
  simp [isValid, glyphs_encode, isStray_encodeChar]

theorem encodeChar_eq (c : Char) : encodeChar c = String.utf8EncodeChar c := by
  have hmax := toNat_lt c
  have hval : c.val.toNat = c.toNat := rfl
  rw [encodeChar, String.utf8EncodeChar, hval]
  generalize c.toNat = n at hmax
  by_cases h₁ : n < 0x80
  · rw [if_pos h₁, if_pos (show n ≤ 127 by omega)]
  rw [if_neg h₁, if_neg (show ¬n ≤ 127 by omega)]
  by_cases h₂ : n < 0x800
  · rw [if_pos h₂, if_pos (show n ≤ 2047 by omega), show 0xC0 + n / 0x40 = n / 64 % 32 + 192 by omega,
      show 0x80 + n % 0x40 = n % 64 + 128 by omega]
  rw [if_neg h₂, if_neg (show ¬n ≤ 2047 by omega)]
  by_cases h₃ : n < 0x10000
  · rw [if_pos h₃, if_pos (show n ≤ 65535 by omega), show 0xE0 + n / 0x1000 = n / 4096 % 16 + 224 by omega,
      show 0x80 + n / 0x40 % 0x40 = n / 64 % 64 + 128 by omega, show 0x80 + n % 0x40 = n % 64 + 128 by omega]
  · rw [if_neg h₃, if_neg (show ¬n ≤ 65535 by omega), show 0xF0 + n / 0x40000 = n / 262144 % 8 + 240 by omega,
      show 0x80 + n / 0x1000 % 0x40 = n / 4096 % 64 + 128 by omega,
      show 0x80 + n / 0x40 % 0x40 = n / 64 % 64 + 128 by omega, show 0x80 + n % 0x40 = n % 64 + 128 by omega]

end Utf8

theorem utf8_eq (s : String) : utf8 s = Utf8.encode s.toList := by
  rw [utf8, String.toUTF8_eq_toByteArray, ← String.utf8Encode_toList, List.utf8Encode, List.toList_data_toByteArray]
  exact List.flatMap_congr fun c _ => (Utf8.encodeChar_eq c).symm

@[simp] theorem chars_utf8 (s : String) : Utf8.chars (utf8 s) = s.toList := by rw [utf8_eq, Utf8.chars_encode]

@[simp] theorem toString_utf8 (s : String) : Utf8.toString (utf8 s) = s := by
  rw [Utf8.toString, chars_utf8, String.ofList_toList]

theorem utf8_injective : Function.Injective utf8 := fun s t h => by
  rw [← toString_utf8 s, h, toString_utf8]

theorem utf8_append (s t : String) : utf8 (s ++ t) = utf8 s ++ utf8 t := by
  rw [utf8_eq, utf8_eq, utf8_eq, String.toList_append, Utf8.encode_append]

theorem repair_utf8 (s : String) : Utf8.repair (utf8 s) = utf8 s := by rw [utf8_eq, Utf8.repair_encode]

theorem isValid_utf8 (s : String) : Utf8.isValid (utf8 s) := by
  rw [utf8_eq]
  exact Utf8.isValid_encode s.toList

end SourceSurvey
