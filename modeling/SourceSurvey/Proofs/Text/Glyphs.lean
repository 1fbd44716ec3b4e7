import SourceSurvey.Naming
import Mathlib.Data.List.TakeWhile

namespace SourceSurvey.Utf8

theorem next?_eq_none {s : Bytes} (h : next? s = none) : s = [] := by
  cases s with
  | nil => rfl
  | cons a s =>
      unfold next? at h
      grind

theorem glyphsFrom_append (more seen : List Glyph) (s : Bytes) :
    glyphsFrom (more ++ seen) s = seen.reverse ++ glyphsFrom more s := by
  fun_induction glyphsFrom more s with
  | case1 more s h =>
      rw [glyphsFrom]
      split
      · simp
      · simp_all
  | case2 more s g r h ih =>
      rw [glyphsFrom]
      split
      · simp_all
      · simp_all

@[simp] theorem glyphs_nil : glyphs [] = [] := by
  simp [glyphs, glyphsFrom, next?]

theorem glyphs_of_next? {s r : Bytes} {g : Glyph} (h : next? s = some (g, r)) :
    glyphs s = g :: glyphs r := by
  rw [glyphs, glyphsFrom]
  split
  · simp_all
  · rename_i g' r' h'
    obtain ⟨rfl, rfl⟩ : g' = g ∧ r' = r := by simp_all
    exact glyphsFrom_append [] [g'] r'

/-- Induction over the characters of a text. -/
@[elab_as_elim]
theorem glyph_induction {motive : Bytes → Prop} (nil : motive [])
    (next : ∀ s g r, next? s = some (g, r) → motive r → motive s) (s : Bytes) : motive s := by
  cases h : next? s with
  | none => exact next?_eq_none h ▸ nil
  | some found => exact next s found.1 found.2 h (glyph_induction nil next found.2)
termination_by s.length
decreasing_by exact next?_length h

theorem join_glyphs (s : Bytes) : join (glyphs s) = s := by
  induction s using glyph_induction with
  | nil => simp [join]
  | next s g r h ih => rw [glyphs_of_next? h, join, List.flatMap_cons, ← join, ih, next?_raw h]

theorem toNat_ofNat {n : Nat} (h : n.isValidChar) : (Char.ofNat n).toNat = n := by
  rw [Char.ofNat, dif_pos h]
  rfl

def ascii (b : UInt8) : Glyph := ⟨Char.ofNat b.toNat, [b]⟩

theorem next?_ascii {b : UInt8} (hb : b < 0x80) (s : Bytes) : next? (b :: s) = some (ascii b, s) := by
  simp [next?, hb, ascii]

theorem eq_ascii_of_mem_raw {s r : Bytes} {g : Glyph} (h : next? s = some (g, r)) {b : UInt8} (hmem : b ∈ g.raw)
    (hb : b < 0x80) : g = ascii b := by
  have hcont : isContinuation b = false := by grind [isContinuation]
  have hsecond : ∀ a, secondOk a b = false := by grind [secondOk]
  cases s with
  | nil => simp [next?] at h
  | cons a s =>
      unfold next? at h
      rcases s with _ | ⟨x, _ | ⟨y, _ | ⟨z, s⟩⟩⟩ <;> grind [ascii]

theorem next?_append {b : UInt8} (hb : b < 0x80) {u r : Bytes} {g : Glyph}
    (h : next? u = some (g, r)) (v : Bytes) : next? (u ++ b :: v) = some (g, r ++ b :: v) := by
  have hcont : isContinuation b = false := by grind [isContinuation]
  have hsecond : ∀ a, secondOk a b = false := by grind [secondOk]
  cases u with
  | nil => simp [next?] at h
  | cons a u =>
      unfold next? at h ⊢
      rcases u with _ | ⟨x, _ | ⟨y, _ | ⟨z, u⟩⟩⟩ <;> grind

theorem glyphs_append_ascii {b : UInt8} (hb : b < 0x80) (u v : Bytes) :
    glyphs (u ++ b :: v) = glyphs u ++ ascii b :: glyphs v := by
  induction u using glyph_induction with
  | nil => simpa using glyphs_of_next? (next?_ascii hb v)
  | next u g r h ih => rw [glyphs_of_next? (next?_append hb h v), glyphs_of_next? h, ih, List.cons_append]

theorem glyphs_ascii {s : Bytes} (h : ∀ b ∈ s, b < 0x80) : glyphs s = s.map ascii := by
  induction s with
  | nil => simp
  | cons b s ih =>
      rw [glyphs_of_next? (next?_ascii (h b (by simp)) s), ih (fun c hc => h c (by simp [hc])), List.map_cons]

theorem join_append (gs hs : List Glyph) : join (gs ++ hs) = join gs ++ join hs := List.flatMap_append

@[simp] theorem join_ascii_cons (b : UInt8) (gs : List Glyph) : join (ascii b :: gs) = b :: join gs := rfl

end SourceSurvey.Utf8

namespace SourceSurvey.Bytes

open Utf8

def isVisible (b : UInt8) : Bool := 32 < b && b < 127

theorem lt_of_isVisible {b : UInt8} (h : isVisible b) : b < 0x80 := by
  grind [isVisible]

theorem isSpace_ascii {b : UInt8} (h : isVisible b) : Letter.isSpace (ascii b).char = false := by
  have hb : 32 < b.toNat ∧ b.toNat < 127 := by
    simpa [isVisible, UInt8.lt_iff_toNat_lt] using h
  simp only [Letter.isSpace, ascii, toNat_ofNat (n := b.toNat) (Or.inl (by omega))]
  grind

theorem isBlank_of_visible {s : Bytes} {b : UInt8} (hmem : b ∈ s) (hb : isVisible b) : s.isBlank = false := by
  obtain ⟨u, v, rfl⟩ := List.append_of_mem hmem
  rw [isBlank, glyphs_append_ascii (lt_of_isVisible hb)]
  simp [isSpace_ascii hb]

theorem isSpace_ascii_of_isIndent {b : UInt8} (h : isIndent b) : Letter.isSpace (ascii b).char := by
  obtain rfl | rfl : b = 32 ∨ b = 9 := by simpa [isIndent] using h
  all_goals decide

def stripLeft (s : Bytes) : Bytes := Utf8.join ((glyphs s).dropWhile fun g => Letter.isSpace g.char)

theorem dropSpace_append_ascii {b : UInt8} (hb : isVisible b) (gs hs : List Glyph) :
    ((gs ++ ascii b :: hs).dropWhile fun g => Letter.isSpace g.char) =
      (gs.dropWhile fun g => Letter.isSpace g.char) ++ ascii b :: hs := by
  induction gs with
  | nil => simp [isSpace_ascii hb]
  | cons g gs ih => by_cases hg : Letter.isSpace g.char <;> simp [hg, ih]

theorem strip_between {a b : UInt8} (ha : isVisible a) (hb : isVisible b) (u mid v : Bytes) :
    strip (u ++ a :: (mid ++ b :: v)) = stripLeft u ++ a :: (mid ++ b :: stripRight v) := by
  have hright := dropSpace_append_ascii hb (glyphs v).reverse
    ((glyphs mid).reverse ++ ascii a :: ((glyphs u).dropWhile fun g => Letter.isSpace g.char).reverse)
  rw [strip, glyphs_append_ascii (lt_of_isVisible ha), glyphs_append_ascii (lt_of_isVisible hb)]
  simp only [dropSpace_append_ascii ha, List.reverse_append, List.reverse_cons, List.append_assoc,
    List.cons_append, List.nil_append] at hright ⊢
  rw [hright]
  simp [join_append, stripLeft, stripRight, join_glyphs]

theorem stripLeft_indent {s : Bytes} (h : ∀ b ∈ s, isIndent b) : stripLeft s = [] := by
  have hascii : ∀ b ∈ s, b < 0x80 := by
    intro b hb
    have := h b hb
    grind [isIndent]
  have hspace : ∀ g ∈ s.map ascii, Letter.isSpace g.char := by
    intro g hg
    obtain ⟨b, hb, rfl⟩ := List.mem_map.mp hg
    exact isSpace_ascii_of_isIndent (h b hb)
  rw [stripLeft, glyphs_ascii hascii, List.dropWhile_eq_nil_iff.mpr hspace]
  rfl

theorem mem_of_mem_strip {s : Bytes} {b : UInt8} (h : b ∈ s.strip) : b ∈ s := by
  rw [← join_glyphs s]
  simp only [strip, Utf8.join, List.mem_flatMap, List.mem_reverse] at h ⊢
  obtain ⟨g, hg, hb⟩ := h
  have hdropped := List.mem_reverse.mp ((List.dropWhile_sublist _).mem hg)
  exact ⟨g, (List.dropWhile_sublist _).mem hdropped, hb⟩

theorem newline_ne_toUInt8 {n : Nat} (h : n % 256 ≠ 10) : newline ≠ n.toUInt8 := by
  intro he
  have ht := congrArg UInt8.toNat he
  rw [show newline.toNat = 10 from rfl, Nat.toUInt8, UInt8.toNat_ofNat'] at ht
  omega

theorem newline_notMem_encodeChar {c : Char} (h : c ≠ '\n') : newline ∉ encodeChar c := by
  have hn : c.toNat ≠ 10 := fun he => h (Char.toNat_inj.mp he)
  have hmax : c.toNat < 0x110000 := by
    have := c.valid
    rcases this with h | h
    · exact Nat.lt_trans h (by decide)
    · exact h.2
  simp only [encodeChar]
  split
  · simpa using newline_ne_toUInt8 (by omega)
  · split
    · simp only [List.mem_cons, List.not_mem_nil, or_false, not_or]
      exact ⟨newline_ne_toUInt8 (by omega), newline_ne_toUInt8 (by omega)⟩
    · split
      · simp only [List.mem_cons, List.not_mem_nil, or_false, not_or]
        exact ⟨newline_ne_toUInt8 (by omega), newline_ne_toUInt8 (by omega), newline_ne_toUInt8 (by omega)⟩
      · simp only [List.mem_cons, List.not_mem_nil, or_false, not_or]
        exact ⟨newline_ne_toUInt8 (by omega), newline_ne_toUInt8 (by omega), newline_ne_toUInt8 (by omega),
          newline_ne_toUInt8 (by omega)⟩

theorem newline_notMem_encode {cs : List Char} (h : '\n' ∉ cs) : newline ∉ Utf8.encode cs := by
  simp only [Utf8.encode, List.mem_flatMap, not_exists, not_and]
  intro c hc
  exact newline_notMem_encodeChar fun he => h (he ▸ hc)

theorem ofNat_ne_newline {n : Nat} (h : n ≠ 10) : Char.ofNat n ≠ '\n' := by
  intro he
  by_cases hv : n.isValidChar
  · exact h (by rw [← toNat_ofNat hv, he]; rfl)
  · rw [Char.ofNat, dif_neg hv] at he
    exact absurd (congrArg Char.toNat he) (by decide)

theorem value_two_ne_newline {a : UInt8} (b : UInt8) (hlow : ¬a < 0xC2) (hhigh : a < 0xE0) :
    bits a 32 * 0x40 + bits b 64 ≠ 10 := by
  simp only [UInt8.lt_iff_toNat_lt, UInt8.reduceToNat, bits] at *
  omega

theorem value_three_ne_newline {a b : UInt8} (c : UInt8) (hlow : ¬a < 0xE0) (hhigh : a < 0xF0)
    (hb : secondOk a b) : bits a 16 * 0x1000 + bits b 64 * 0x40 + bits c 64 ≠ 10 := by
  by_cases he : a = 0xE0
  · subst he
    simp [secondOk, UInt8.le_iff_toNat_le, bits] at *
    omega
  · simp only [UInt8.lt_iff_toNat_lt, ← UInt8.toNat_inj, UInt8.reduceToNat, bits] at *
    omega

theorem value_four_ne_newline {a b : UInt8} (c d : UInt8) (hlow : ¬a < 0xF0) (hhigh : a < 0xF5)
    (hb : secondOk a b) :
    bits a 8 * 0x40000 + bits b 64 * 0x1000 + bits c 64 * 0x40 + bits d 64 ≠ 10 := by
  by_cases he : a = 0xF0
  · subst he
    simp [secondOk, UInt8.le_iff_toNat_le, bits] at *
    omega
  · simp only [UInt8.lt_iff_toNat_lt, ← UInt8.toNat_inj, UInt8.reduceToNat, bits] at *
    omega

theorem next?_newline {s r : Bytes} {g : Glyph} (h : next? s = some (g, r)) (hg : g.char = '\n') :
    newline ∈ s := by
  cases s with
  | nil => simp [next?] at h
  | cons a s =>
      by_cases ha : a < 0x80
      · rw [next?_ascii ha, Option.some.injEq, Prod.mk.injEq] at h
        have hn : a.toNat = 10 := by
          by_contra hne
          exact ofNat_ne_newline hne (by rw [← hg, ← h.1, ascii])
        exact List.mem_cons.mpr (Or.inl (UInt8.toNat_inj.mp hn.symm))
      · have hvalue (n : Nat) (hc : g.char = Char.ofNat n) : n = 10 := by
          by_contra hne
          exact ofNat_ne_newline hne (hc ▸ hg)
        have hbad : g.char ≠ replacement := by rw [hg]; decide
        unfold next? at h
        grind [value_two_ne_newline, value_three_ne_newline, value_four_ne_newline]

theorem newline_notMem_chars {s : Bytes} (h : newline ∉ s) : '\n' ∉ chars s := by
  induction s using glyph_induction with
  | nil => simp [chars]
  | next s g r hn ih =>
      have hr : newline ∉ r := fun hmem => h (next?_raw hn ▸ List.mem_append_right _ hmem)
      rw [chars, glyphs_of_next? hn, List.map_cons, List.mem_cons, not_or]
      exact ⟨fun hg => h (next?_newline hn hg.symm), ih hr⟩

theorem newline_lt_lowering : ∀ e ∈ Letter.lowering, 10 < (e.1 : Int) + e.2.2.2 := by
  decide +kernel

theorem toLower_eq_newline {c : Char} (h : Letter.toLower c = '\n') : c = '\n' := by
  rw [Letter.toLower] at h
  split at h
  · have hlower : ∀ n < 0x80, (Char.ofNat n).toLower = '\n' → Char.ofNat n = '\n' := by decide
    rename_i hc
    simpa using hlower c.toNat (by simpa [Letter.isAscii] using hc) (by simpa using h)
  · simp only at h
    split at h
    · rename_i lo hi step delta hfound
      have hin := Array.find?_some hfound
      have hpast := newline_lt_lowering _ (Array.mem_of_find?_eq_some hfound)
      simp only [Bool.and_eq_true, decide_eq_true_eq] at hin hpast
      exact absurd h (ofNat_ne_newline (by omega))
    · exact h

theorem newline_notMem_lower {s : Bytes} (h : newline ∉ s) : newline ∉ s.lower := by
  rw [lower]
  split
  · simp only [lowerAscii, List.mem_map, not_exists, not_and]
    intro b hb he
    have hb' : b = newline := by grind [lowerByte, newline, isUpper]
    exact h (hb' ▸ hb)
  · apply newline_notMem_encode
    intro hmem
    obtain ⟨c, hc, he⟩ := List.mem_map.mp hmem
    exact newline_notMem_chars h (toLower_eq_newline he ▸ hc)

end SourceSurvey.Bytes
