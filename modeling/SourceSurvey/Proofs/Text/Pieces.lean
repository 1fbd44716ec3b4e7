import Mathlib.Data.List.DropRight
import SourceSurvey.Proofs.Text.Search
import SourceSurvey.Proofs.Text.Validity

namespace SourceSurvey

namespace Utf8

variable {s t : Bytes} {b : UInt8}

theorem join_encode (cs : List Char) : join (cs.map fun c => ⟨c, encodeChar c⟩) = encode cs := List.flatMap_map ..

theorem glyphs_append (hs : isValid s) (t : Bytes) : glyphs (s ++ t) = glyphs s ++ glyphs t := by
  obtain ⟨cs, rfl⟩ := isValid_iff.mp hs
  rw [glyphs_encode_append, glyphs_encode]

theorem isValid_append (hs : isValid s) (t : Bytes) : isValid (s ++ t) = isValid t := by
  rw [isValid, Bool.not_eq_true'] at hs
  rw [isValid, glyphs_append (by simp [isValid, hs]), List.any_append, hs, Bool.false_or, ← isValid]

theorem chars_append (hs : isValid s) (t : Bytes) : chars (s ++ t) = chars s ++ chars t := by
  rw [chars, glyphs_append hs, List.map_append, ← chars, ← chars]

theorem length_chars (s : Bytes) : (chars s).length = length s := by
  rw [chars, List.length_map, length]

theorem length_encode (cs : List Char) : length (encode cs) = cs.length := by
  rw [length, glyphs_encode, List.length_map]

theorem length_append (hs : isValid s) (t : Bytes) : length (s ++ t) = length s + length t := by
  rw [length, glyphs_append hs, List.length_append, ← length, ← length]

theorem isValid_append_ascii (hb : b < 0x80) (s t : Bytes) : isValid (s ++ b :: t) = (isValid s && isValid t) := by
  have hstray : isStray (ascii b) = false := by
    have hchar : Char.ofNat b.toNat ≠ replacement := by
      intro h
      have hn : b.toNat < 0x80 := UInt8.lt_iff_toNat_lt.mp hb
      have hcode := congrArg Char.toNat h
      rw [toNat_ofNat (.inl (Nat.lt_trans hn (by decide))), show replacement.toNat = 0xFFFD from rfl] at hcode
      omega
    simp [isStray, ascii, hchar]
  rw [isValid, glyphs_append_ascii hb, List.any_append, List.any_cons, hstray, Bool.false_or, Bool.not_or, ← isValid,
    ← isValid]

theorem isValid_ascii (h : ∀ b ∈ s, b < 0x80) : isValid s := by
  induction s with
  | nil => simp [isValid]
  | cons b s ih =>
      rw [List.forall_mem_cons] at h
      rw [← List.nil_append (b :: s), isValid_append_ascii h.1, ih h.2]
      simp [isValid]

end Utf8

namespace Bytes

variable {s t sep : Bytes} {ps : List Bytes}

open Utf8

theorem isBlank_append (hs : isValid s) (t : Bytes) : isBlank (s ++ t) = (isBlank s && isBlank t) := by
  rw [isBlank, glyphs_append hs, List.all_append, ← isBlank, ← isBlank]

theorem isBlank_iff : s.isBlank ↔ ∀ c ∈ chars s, Letter.isSpace c := by
  rw [isBlank, List.all_eq_true, chars, List.forall_mem_map]

theorem isBlank_encode (cs : List Char) : isBlank (encode cs) = cs.all Letter.isSpace := by
  rw [isBlank, glyphs_encode, List.all_map]
  rfl

/-- A valid text that holds white space alone. -/
structure Blank (s : Bytes) : Prop where
  isValid : Utf8.isValid s
  isBlank : s.isBlank

theorem Blank.append (hs : Blank s) (ht : Blank t) : Blank (s ++ t) :=
  ⟨by rw [isValid_append hs.isValid, ht.isValid], by rw [isBlank_append hs.isValid, hs.isBlank, ht.isBlank]; rfl⟩

theorem blank_nil : Blank [] := by
  constructor <;> simp [Utf8.isValid, Bytes.isBlank]

theorem blank_encode {cs : List Char} (h : ∀ c ∈ cs, Letter.isSpace c) : Blank (encode cs) := by
  refine ⟨isValid_encode cs, ?_⟩
  rw [isBlank_encode]
  exact List.all_eq_true.mpr h

theorem strip_encode (cs : List Char) :
    strip (encode cs) = encode ((cs.dropWhile Letter.isSpace).rdropWhile Letter.isSpace) := by
  rw [strip, glyphs_encode]
  dsimp only
  rw [List.dropWhile_map, ← List.map_reverse, List.dropWhile_map, ← List.map_reverse, join_encode]
  rfl

theorem exists_strip (hs : Utf8.isValid s) : ∃ u v, s = u ++ s.strip ++ v ∧ Blank u ∧ Blank v ∧
    Utf8.isValid s.strip ∧ (s.strip.isBlank → s.strip = []) := by
  obtain ⟨cs, rfl⟩ := isValid_iff.mp hs
  rw [strip_encode]
  have hleft : cs.takeWhile Letter.isSpace ++ cs.dropWhile Letter.isSpace = cs := List.takeWhile_append_dropWhile
  have hidempotent := List.dropWhile_idempotent Letter.isSpace cs
  generalize cs.dropWhile Letter.isSpace = ds at hleft hidempotent
  have hright : ds.rdropWhile Letter.isSpace ++ ds.rtakeWhile Letter.isSpace = ds := List.rdropWhile_append_rtakeWhile
  refine ⟨encode (cs.takeWhile Letter.isSpace), encode (ds.rtakeWhile Letter.isSpace), ?_,
    blank_encode fun _ => List.mem_takeWhile_imp, blank_encode fun _ => List.mem_rtakeWhile_imp, isValid_encode _, ?_⟩
  · rw [List.append_assoc, ← encode_append, ← encode_append, hright, hleft]
  · intro hblank
    rw [isBlank_encode, List.all_eq_true] at hblank
    have hall : ∀ c ∈ ds, Letter.isSpace c := by
      rw [← hright, List.forall_mem_append]
      exact ⟨hblank, fun _ => List.mem_rtakeWhile_imp⟩
    rw [← hidempotent, List.dropWhile_eq_nil_iff.mpr hall]
    rfl

theorem stripLeft_blank (hs : Blank s) (t : Bytes) : stripLeft (s ++ t) = stripLeft t := by
  have hspace : ∀ g ∈ glyphs s, Letter.isSpace g.char := List.all_eq_true.mp hs.isBlank
  rw [stripLeft, glyphs_append hs.isValid, List.dropWhile_append_of_pos hspace, ← stripLeft]

theorem stripLeft_prefix (hs : Utf8.isValid s) (t : Bytes) : stripLeft s <+: stripLeft (s ++ t) := by
  rw [stripLeft, stripLeft, glyphs_append hs, List.dropWhile_append]
  split
  · rename_i hnil
    rw [List.isEmpty_iff.mp hnil]
    exact List.nil_prefix
  · rw [Utf8.join_append]
    exact List.prefix_append _ _

theorem exists_dropRight {drop : UInt8 → Bool} (hdrop : ∀ b, drop b → b < 0x80) (hs : Utf8.isValid s) :
    ∃ tail, s = s.dropRight drop ++ tail ∧ (∀ b ∈ tail, drop b) ∧ Utf8.isValid (s.dropRight drop) := by
  have hright : s.rdropWhile drop ++ s.rtakeWhile drop = s := List.rdropWhile_append_rtakeWhile
  have htail : ∀ b ∈ s.rtakeWhile drop, drop b := fun _ => List.mem_rtakeWhile_imp
  rw [show s.dropRight drop = s.rdropWhile drop from rfl]
  refine ⟨s.rtakeWhile drop, hright.symm, htail, ?_⟩
  cases hnil : s.rtakeWhile drop with
  | nil =>
      rw [hnil, List.append_nil] at hright
      rwa [hright]
  | cons b tail =>
      rw [hnil] at htail
      rw [← hright, hnil, isValid_append_ascii (hdrop b (htail b List.mem_cons_self)), Bool.and_eq_true] at hs
      exact hs.1

@[simp] theorem join_nil (sep : Bytes) : join sep [] = [] := rfl

@[simp] theorem join_singleton (sep p : Bytes) : join sep [p] = p := by
  simp [join]

theorem join_cons (sep p : Bytes) (hps : ps ≠ []) : join sep (p :: ps) = p ++ sep ++ join sep ps := by
  cases ps with
  | nil => exact absurd rfl hps
  | cons q ps => simp [join]

theorem join_empty (ps : List Bytes) : join [] ps = ps.flatten := by
  induction ps with
  | nil => rfl
  | cons p ps ih =>
      by_cases hnil : ps = []
      · simp [hnil]
      · rw [join_cons [] p hnil, ih, List.append_nil, List.flatten_cons]

theorem join_append (sep : Bytes) {ps qs : List Bytes} (hps : ps ≠ []) (hqs : qs ≠ []) :
    join sep (ps ++ qs) = join sep ps ++ sep ++ join sep qs := by
  induction ps with
  | nil => exact absurd rfl hps
  | cons p ps ih =>
      by_cases hnil : ps = []
      · rw [hnil, List.singleton_append, join_cons sep p hqs, join_singleton]
      · rw [List.cons_append, join_cons sep p (by simp [hnil]), ih hnil, join_cons sep p hnil]
        simp

theorem splitOnFrom_ne_nil (sep : Bytes) (skip : Nat) (piece s : Bytes) : splitOnFrom sep skip piece s ≠ [] := by
  fun_induction splitOnFrom sep skip piece s <;> simp_all

theorem join_splitOnFrom (hsep : sep ≠ []) (skip : Nat) (piece s : Bytes) :
    join sep (splitOnFrom sep skip piece s) = piece.reverse ++ s.drop skip := by
  fun_induction splitOnFrom sep skip piece s with
  | case1 => simp
  | case2 piece b s skip ih => simpa using ih
  | case3 piece b s hstarts ih =>
      obtain ⟨rest, hrest⟩ := startsWith_iff.mp hstarts
      obtain ⟨a, tail, rfl⟩ := List.exists_cons_of_ne_nil hsep
      rw [join_cons _ _ (splitOnFrom_ne_nil _ _ _ _), ih, List.drop_zero, hrest, List.reverse_nil, List.nil_append,
        (List.cons.inj hrest).2]
      simp
  | case4 piece b s hstarts ih => simpa using ih

theorem join_splitOn (hsep : sep ≠ []) (s : Bytes) : join sep (splitOn s sep) = s := by
  rw [splitOn, join_splitOnFrom hsep]
  rfl

theorem isValid_of_join (hascii : ∀ b ∈ sep, b < 0x80) (hsep : sep ≠ []) (h : Utf8.isValid (join sep ps)) :
    ∀ p ∈ ps, Utf8.isValid p := by
  obtain ⟨b, tail, rfl⟩ := List.exists_cons_of_ne_nil hsep
  rw [List.forall_mem_cons] at hascii
  induction ps with
  | nil => simp
  | cons p ps ih =>
      by_cases hnil : ps = []
      · rw [hnil, join_singleton] at h
        simp [hnil, h]
      · rw [join_cons _ _ hnil, List.append_assoc, List.cons_append, isValid_append_ascii hascii.1,
          Bool.and_eq_true, isValid_append (isValid_ascii hascii.2)] at h
        exact List.forall_mem_cons.mpr ⟨h.1, ih h.2⟩

end Bytes

end SourceSurvey
