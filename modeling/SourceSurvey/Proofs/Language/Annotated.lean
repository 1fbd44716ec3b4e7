import Mathlib
import SourceSurvey.Language.Identification
import SourceSurvey.Proofs.Annotation.Rescan
import SourceSurvey.Proofs.Language.Terminators

namespace SourceSurvey

namespace Bytes

theorem strip_of_isBlank {s : Bytes} (h : s.isBlank) : s.strip = [] := by
  have hnil : (Utf8.glyphs s).dropWhile (fun g => Letter.isSpace g.char) = [] := by
    rw [List.dropWhile_eq_nil_iff]
    exact List.all_eq_true.mp h
  simp [strip, hnil, Utf8.join]

end Bytes

namespace Annotation

open Bytes Line

variable {p : Profile}

theorem strip_commentLine {m s : Bytes} (hm : m.head?.any isVisible) (decl : Line) :
    (commentLine m decl (s ++ [46])).strip = m ++ space :: (s ++ [46]) := by
  rw [commentLine]
  split
  · rw [strip_return, strip_commentText hm rfl]
  · rw [List.append_nil, strip_commentText hm rfl]

/-- What stands on the line of a comment that is put in begins with a marker of the profile. -/
theorem IsCommentFor.strip {l : Line} {c : Bytes} (h : IsCommentFor p l c) :
    ∃ m s, m ∈ p.lineComments ∧ Bytes.strip c.dropLast = m ++ space :: s := by
  obtain ⟨-, -, m, s, -, hm, -, rfl⟩ := h
  refine ⟨m, s ++ [46], hm.1, ?_⟩
  rw [comment_eq, List.dropLast_concat, strip_commentLine hm.2.1]

theorem IsCommentFor.isBlank {l : Line} {c : Bytes} (h : IsCommentFor p l c) : Bytes.isBlank c.dropLast = false := by
  obtain ⟨m, s, -, hstrip⟩ := h.strip
  by_contra hblank
  rw [strip_of_isBlank (by simpa using hblank)] at hstrip
  simp at hstrip

def comments (p : Profile) (text : Bytes) : List Bytes := ((slots p text).map (Option.map List.dropLast)).reduceOption

theorem exists_isCommentFor_of_mem (hp : p.Annotatable) {text c : Bytes} (h : c ∈ comments p text) :
    ∃ l d, IsCommentFor p l d ∧ c = d.dropLast := by
  obtain ⟨slot, hslot, hc⟩ := List.mem_map.mp (List.reduceOption_mem_iff.mp h)
  obtain ⟨d, rfl, rfl⟩ := Option.map_eq_some_iff.mp hc
  obtain ⟨l, -, hl⟩ := exists_isCommentFor (slots_forall₂ hp text) hslot rfl
  exact ⟨l, d, hl, rfl⟩

theorem split_annotate_perm (hp : p.Annotatable) (text : Bytes) :
    (split (annotate p text)).Perm (comments p text ++ split text) := by
  have hslots := slots_forall₂ hp text
  have hlength : (slots p text).length = (split text).length := by
    rw [hslots.length_eq, scan, length_readAll]
  rw [annotate_eq_weave, split_weave (holdsLine_of_isCommentFor hslots) hlength.le]
  exact interleave_perm (by rwa [List.length_map])

end Annotation

namespace Corroboration

open Bytes Line Annotation

variable {p : Profile}

theorem le_lineWeight_of_isCommentFor {l : Line} {c : Bytes} (h : IsCommentFor p l c) :
    1 ≤ lineWeight p c.dropLast := by
  obtain ⟨m, s, hm, hstrip⟩ := h.strip
  have hcomment : p.lineComments.any ((Bytes.strip c.dropLast).startsWith ·) = true :=
    List.any_eq_true.mpr ⟨m, hm, startsWith_iff.mpr ⟨space :: s, hstrip⟩⟩
  simp only [lineWeight, hcomment, if_true]
  split_ifs <;> decide

theorem weights_annotate_perm (hp : p.Annotatable) (text : Bytes) :
    (weights p 0 (annotate p text)).Perm ((comments p text).map (lineWeight p) ++ weights p 0 text) := by
  have hkept : (comments p text).filter (fun l => !l.isBlank) = comments p text := by
    rw [List.filter_eq_self]
    intro c hc
    obtain ⟨l, d, hd, rfl⟩ := exists_isCommentFor_of_mem hp hc
    rw [hd.isBlank, Bool.not_false]
  have hsample := (split_annotate_perm hp text).filter fun l => !l.isBlank
  rw [List.filter_append, hkept] at hsample
  have hmap := hsample.map (lineWeight p)
  rwa [List.map_append] at hmap

def mean (ws : List Nat) : Rat := (ws.sum : Rat) / (4 * ws.length : Nat)

theorem score_eq_mean (hp : p.hasConstructs) (limit : Int) (text : Bytes) :
    score p limit text = mean (weights p limit text) := by
  rw [score, mean, hp]
  cases weights p limit text with
  | nil => simp
  | cons w ws => rfl

theorem mean_of_perm {ws vs : List Nat} (h : ws.Perm vs) : mean ws = mean vs := by
  rw [mean, mean, h.sum_nat, h.length_eq]

theorem mul_length_le_sum {ws : List Nat} {q : Rat} (h : q ≤ mean ws) : q * (4 * ws.length) ≤ ws.sum := by
  rcases Nat.eq_zero_or_pos ws.length with hnil | hpos
  · rw [hnil, Nat.cast_zero, mul_zero, mul_zero]
    exact Nat.cast_nonneg _
  · have hpos' : (0 : Rat) < (4 * ws.length : Nat) := by exact_mod_cast Nat.mul_pos (by decide) hpos
    rw [mean, le_div_iff₀ hpos'] at h
    exact_mod_cast h

theorem min_le_mean_append {cs ws : List Nat} (h : ∀ c ∈ cs, 1 ≤ c) : min (mean ws) (1 / 4) ≤ mean (cs ++ ws) := by
  -- Neither the comments nor the other lines come to less, on average, than the lower of the two values.
  have hcs : min (mean ws) (1 / 4) * (4 * cs.length) ≤ cs.sum := by
    have hsum : (cs.length : Rat) ≤ cs.sum := by
      have hcard := List.card_nsmul_le_sum cs 1 h
      rw [nsmul_one] at hcard
      exact_mod_cast hcard
    calc min (mean ws) (1 / 4) * (4 * cs.length) ≤ 1 / 4 * (4 * cs.length) := by
          gcongr
          exact min_le_right _ _
      _ ≤ cs.sum := by linarith
  have hws : min (mean ws) (1 / 4) * (4 * ws.length) ≤ ws.sum := mul_length_le_sum (min_le_left _ _)
  rcases Nat.eq_zero_or_pos (cs ++ ws).length with hnil | hpos
  · obtain ⟨rfl, rfl⟩ := List.append_eq_nil_iff.mp (List.length_eq_zero_iff.mp hnil)
    exact min_le_left _ _
  · have hpos' : (0 : Rat) < (4 * (cs ++ ws).length : Nat) := by exact_mod_cast Nat.mul_pos (by decide) hpos
    rw [mean.eq_def (cs ++ ws), le_div_iff₀ hpos', List.sum_append, List.length_append, Nat.cast_mul, Nat.cast_add,
      Nat.cast_add, Nat.cast_ofNat]
    linarith

/-- Annotation does not take a text below the lower of its own score and what a comment counts, so what its
language accepts by default it still accepts. -/
theorem score_annotate (hp : p ∈ Registry.profiles) (text : Bytes) :
    min (score p 0 text) (1 / 4) ≤ score p 0 (annotate p text) ∧
      (({} : IdentifyConfig).withDefaults.acceptance ≤ score p 0 text →
        ({} : IdentifyConfig).withDefaults.acceptance ≤ score p 0 (annotate p text)) := by
  have hannotatable := Profile.annotatable_of_mem hp
  have hmin : min (score p 0 text) (1 / 4) ≤ score p 0 (annotate p text) := by
    by_cases hc : p.hasConstructs
    · rw [score_eq_mean hc, score_eq_mean hc, mean_of_perm (weights_annotate_perm hannotatable text)]
      apply min_le_mean_append
      intro w hw
      obtain ⟨c, hmem, rfl⟩ := List.mem_map.mp hw
      obtain ⟨l, d, hd, rfl⟩ := exists_isCommentFor_of_mem hannotatable hmem
      exact le_lineWeight_of_isCommentFor hd
    · simp [score, hc]
  refine ⟨hmin, fun haccepted => le_trans (le_min haccepted ?_) hmin⟩
  decide +kernel

def barelyPython : Bytes := utf8 "def f(x):\n  a\n  b\n  c\n  d\n"

theorem score_annotate_barelyPython :
    Profile.python ∈ Registry.profiles ∧
      ({} : IdentifyConfig).withDefaults.acceptance = score .python 0 barelyPython ∧
      ({} : IdentifyConfig).withDefaults.acceptance ≤ score .python 0 (annotate .python barelyPython) := by
  have hmem : Profile.python ∈ Registry.profiles := by simp [Registry.profiles]
  have hweights : weights .python 0 barelyPython = [4, 0, 0, 0, 0] := by cbv
  have hscore : ({} : IdentifyConfig).withDefaults.acceptance = score .python 0 barelyPython := by
    rw [score_eq_mean rfl, hweights]
    decide +kernel
  exact ⟨hmem, hscore, (score_annotate hmem barelyPython).2 hscore.le⟩

end Corroboration

end SourceSurvey
