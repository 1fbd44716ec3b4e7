import SourceSurvey.Proofs.Text.Encoding

namespace SourceSurvey.Utf8

variable {s t r : Bytes} {g : Glyph} {a b c d : UInt8}

theorem toUInt8_eq {n : Nat} (h : n = b.toNat) : n.toUInt8 = b := by
  rw [h]
  exact UInt8.ofNat_toNat

theorem not_lt_toNat {m : UInt8} (h : ¬a < m) : m.toNat ≤ a.toNat := by
  rw [UInt8.lt_iff_toNat_lt] at h
  exact Nat.not_lt.mp h

theorem encodeChar_one (ha : a < 0x80) : encodeChar (Char.ofNat a.toNat) = [a] := by
  have hn : a.toNat < 0x80 := UInt8.lt_iff_toNat_lt.mp ha
  rw [encodeChar, toNat_ofNat (.inl (Nat.lt_trans hn (by decide))), if_pos hn, toUInt8_eq rfl]

theorem encodeChar_two (hlow : ¬a < 0xC2) (hhigh : a < 0xE0) (hb : isContinuation b) :
    encodeChar (Char.ofNat (bits a 32 * 0x40 + bits b 64)) = [a, b] := by
  have ha := not_lt_toNat hlow
  simp only [isContinuation, Bool.and_eq_true, decide_eq_true_eq, UInt8.le_iff_toNat_le, UInt8.lt_iff_toNat_lt,
    UInt8.reduceToNat, bits] at *
  rw [encodeChar, toNat_ofNat (.inl (by omega)), if_neg (by omega), if_pos (by omega), toUInt8_eq (b := a) (by omega),
    toUInt8_eq (b := b) (by omega)]

theorem secondOk_iff : secondOk a b ↔ 0x80 ≤ b.toNat ∧ b.toNat ≤ 0xBF ∧ (a.toNat = 0xE0 → 0xA0 ≤ b.toNat) ∧
    (a.toNat = 0xF0 → 0x90 ≤ b.toNat) ∧ (a.toNat = 0xED → b.toNat ≤ 0x9F) ∧ (a.toNat = 0xF4 → b.toNat ≤ 0x8F) := by
  have heq : ∀ n : UInt8, a = n ↔ a.toNat = n.toNat := fun n => UInt8.toNat_inj.symm
  simp only [secondOk, heq, Bool.and_eq_true, decide_eq_true_eq, UInt8.le_iff_toNat_le, apply_ite UInt8.toNat,
    UInt8.reduceToNat]
  constructor
  · split_ifs <;> omega
  · split_ifs <;> omega

theorem encodeChar_three (hlow : ¬a < 0xE0) (hhigh : a < 0xF0) (hb : secondOk a b) (hc : isContinuation c) :
    encodeChar (Char.ofNat (bits a 16 * 0x1000 + bits b 64 * 0x40 + bits c 64)) = [a, b, c] := by
  have ha := not_lt_toNat hlow
  rw [secondOk_iff] at hb
  simp only [isContinuation, Bool.and_eq_true, decide_eq_true_eq, UInt8.le_iff_toNat_le, UInt8.lt_iff_toNat_lt,
    UInt8.reduceToNat, bits] at *
  have hvalid : (a.toNat % 16 * 0x1000 + b.toNat % 64 * 0x40 + c.toNat % 64).isValidChar := by
    by_cases hsurrogate : a.toNat = 0xED
    · exact .inl (by omega)
    · by_cases hfirst : a.toNat < 0xED
      · exact .inl (by omega)
      · exact .inr (by omega)
  rw [encodeChar, toNat_ofNat hvalid, if_neg (by omega), if_neg (by omega), if_pos (by omega),
    toUInt8_eq (b := a) (by omega), toUInt8_eq (b := b) (by omega), toUInt8_eq (b := c) (by omega)]

theorem encodeChar_four (hlow : ¬a < 0xF0) (hhigh : a < 0xF5) (hb : secondOk a b) (hc : isContinuation c)
    (hd : isContinuation d) :
    encodeChar (Char.ofNat (bits a 8 * 0x40000 + bits b 64 * 0x1000 + bits c 64 * 0x40 + bits d 64)) =
      [a, b, c, d] := by
  have ha := not_lt_toNat hlow
  rw [secondOk_iff] at hb
  simp only [isContinuation, Bool.and_eq_true, decide_eq_true_eq, UInt8.le_iff_toNat_le, UInt8.lt_iff_toNat_lt,
    UInt8.reduceToNat, bits] at *
  rw [encodeChar, toNat_ofNat (.inr (by omega)), if_neg (by omega), if_neg (by omega), if_neg (by omega),
    toUInt8_eq (b := a) (by omega), toUInt8_eq (b := b) (by omega), toUInt8_eq (b := c) (by omega),
    toUInt8_eq (b := d) (by omega)]

theorem raw_of_next? (h : next? s = some (g, r)) (hg : isStray g = false) : g.raw = encodeChar g.char := by
  have hbad : ∀ b : UInt8, g ≠ ⟨replacement, [b]⟩ := by
    rintro b rfl
    cases hg
  cases s with
  | nil => simp [next?] at h
  | cons a s =>
      unfold next? at h
      dsimp only at h
      split at h
      · cases h
        exact (encodeChar_one ‹_›).symm
      split at h
      · grind
      split at h
      · grind [encodeChar_two]
      split at h
      · grind [encodeChar_three]
      split at h
      · grind [encodeChar_four]
      · grind

theorem encode_chars (h : isValid s) : encode (chars s) = s := by
  induction s using glyph_induction with
  | nil => rw [chars, glyphs_nil]; rfl
  | next s g r hnext ih =>
      rw [isValid, glyphs_of_next? hnext, List.any_cons, Bool.not_or, Bool.and_eq_true, Bool.not_eq_true',
        ← isValid] at h
      rw [chars, glyphs_of_next? hnext, List.map_cons, ← chars, encode_cons, ih h.2, ← raw_of_next? hnext h.1,
        next?_raw hnext]

theorem repair_of_isValid (h : isValid s) : repair s = s := encode_chars h

theorem isValid_iff : isValid s ↔ ∃ cs, s = encode cs := by
  constructor
  · intro h
    exact ⟨chars s, (encode_chars h).symm⟩
  · rintro ⟨cs, rfl⟩
    exact isValid_encode cs

end SourceSurvey.Utf8
