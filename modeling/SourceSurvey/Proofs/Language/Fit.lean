import Mathlib
import SourceSurvey.Proofs.Language.Merge
import SourceSurvey.Proofs.Text.Lines

namespace SourceSurvey

namespace Line

open Bytes Utf8

variable {text raw above rest : Bytes}

theorem isBlank_line (raw rest : Bytes) : (raw ++ newline :: rest).isBlank = (raw.isBlank && rest.isBlank) := by
  have hspace : Letter.isSpace (ascii newline).char = true := by decide
  rw [isBlank, glyphs_append_ascii (by decide), List.all_append, List.all_cons, hspace, Bool.true_and]
  rfl

theorem isBlank_of_mem_split (h : text.isBlank) (hraw : raw ∈ split text) : raw.isBlank := by
  induction text using text_induction with
  | last last hlast =>
      rw [split_last hlast] at hraw
      split at hraw
      · simp at hraw
      · rw [List.mem_singleton] at hraw
        exact hraw ▸ h
  | line head rest hhead ih =>
      rw [isBlank_line, Bool.and_eq_true] at h
      rw [split_line hhead, List.mem_cons] at hraw
      rcases hraw with rfl | hraw
      · exact h.1
      · exact ih h.2 hraw

def FollowsLine (rest : Bytes) : Prop := ∀ b ∈ rest.head?, b = newline

theorem split_prefix (above : Bytes) (h : FollowsLine rest) : split above <+: split (above ++ rest) := by
  induction above using text_induction with
  | last last hlast =>
      cases rest with
      | nil => rw [List.append_nil]
      | cons b more =>
          obtain rfl : b = newline := h b rfl
          rw [split_line hlast, split_last hlast]
          split
          · exact List.nil_prefix
          · exact ⟨split more, rfl⟩
  | line raw tail hraw ih =>
      rw [split_line hraw, List.append_assoc, List.cons_append, split_line hraw]
      exact (List.prefix_cons_inj raw).mpr ih

end Line

namespace Corroboration

open Bytes Line

variable {limit : Int} {text text' above blank below rest : Bytes}

theorem sample_insert (habove : EndsLine above) (hends : EndsLine blank) (hblank : blank.isBlank) :
    sample limit (above ++ (blank ++ below)) = sample limit (above ++ below) := by
  have hnone : (split blank).filter (fun l => !l.isBlank) = [] := by
    rw [List.filter_eq_nil_iff]
    intro raw hraw
    simp [isBlank_of_mem_split hblank hraw]
  rw [sample, sample, split_append habove, split_append habove, split_append hends]
  simp only [List.filter_append, hnone, List.nil_append]

theorem sample_append (hlimit : 0 < limit) (hfull : limit ≤ (split above).countP fun l => !l.isBlank)
    (hrest : FollowsLine rest) : sample limit (above ++ rest) = sample limit above := by
  obtain ⟨more, hmore⟩ := split_prefix above hrest
  rw [List.countP_eq_length_filter] at hfull
  rw [sample, sample, if_pos hlimit, if_pos hlimit, ← hmore, List.filter_append]
  apply List.take_append_of_le_length
  omega

theorem lineWeight_le (p : Profile) (line : Bytes) : lineWeight p line ≤ 4 := by
  rw [lineWeight]
  split_ifs <;> decide

theorem score_le_one (p : Profile) (limit : Int) (text : Bytes) : score p limit text ≤ 1 := by
  have hsum : (weights p limit text).sum ≤ 4 * (weights p limit text).length := by
    rw [Nat.mul_comm]
    apply List.sum_le_card_nsmul
    intro w hw
    obtain ⟨line, -, rfl⟩ := List.mem_map.mp hw
    exact lineWeight_le p line
  rw [score]
  split
  · exact zero_le_one
  dsimp only
  split
  · exact zero_le_one
  · apply div_le_one_of_le₀
    · exact_mod_cast hsum
    · positivity

end Corroboration

namespace Guess

variable {gs ranked : List Guess} {g : Guess}

theorem Ranks.rank_eq_ite (h : Ranks gs ranked) (k : Int) :
    rank k gs = if 0 < k then ranked.take k.toNat else ranked := by
  rw [h.unique (ranks_mergeSort gs)]
  rfl

theorem Ranks.le_of_cut (h : Ranks gs ranked) {k : Int} (hg : g ∈ gs) (hcut : g ∉ rank k gs) :
    ∀ kept ∈ rank k gs, g.confidence ≤ kept.confidence := by
  rw [h.rank_eq_ite] at hcut ⊢
  split at hcut
  · rename_i hk
    rw [if_pos hk]
    have hmem : g ∈ ranked.take k.toNat ++ ranked.drop k.toNat := by
      rw [List.take_append_drop]
      exact h.perm.mem_iff.mpr hg
    have hdropped := (List.mem_append.mp hmem).resolve_left hcut
    have hdescending := h.descending
    rw [← List.take_append_drop k.toNat ranked, List.pairwise_append] at hdescending
    intro kept hkept
    exact hdescending.2.2 kept hkept g hdropped
  · exact absurd (h.perm.mem_iff.mpr hg) hcut

end Guess

namespace Classifier

open Bytes Line Corroboration

variable {sampleLines topK : Int} {text text' : Bytes} {g : Guess}

def fitting (sampleLines : Int) (text : Bytes) : List Guess :=
  (Registry.profiles.filter fun p => 0 < score p sampleLines text).map fun p => ⟨p.id, score p sampleLines text⟩

theorem heuristic_eq (sampleLines topK : Int) (text : Bytes) :
    heuristic sampleLines topK text = Guess.rank topK (fitting sampleLines text) := by
  rw [heuristic, fitting, List.filter_map]
  rfl

theorem heuristic_congr (topK : Int) (h : sample sampleLines text = sample sampleLines text') :
    heuristic sampleLines topK text = heuristic sampleLines topK text' := by
  have hscore : ∀ p, score p sampleLines text = score p sampleLines text' := by
    intro p
    rw [score, score, weights, weights, h]
  simp only [heuristic, hscore]

theorem mem_fitting : g ∈ fitting sampleLines text ↔
    ∃ p ∈ Registry.profiles, 0 < score p sampleLines text ∧ g = ⟨p.id, score p sampleLines text⟩ := by
  simp [fitting, and_assoc, eq_comm]

theorem nodup_identifiers : Registry.identifiers.Nodup := by decide

theorem nodup_fitting (sampleLines : Int) (text : Bytes) : ((fitting sampleLines text).map (·.language)).Nodup := by
  rw [fitting, List.map_map]
  exact nodup_identifiers.sublist (List.filter_sublist.map _)

theorem mem_fitting_of_mem_heuristic (h : g ∈ heuristic sampleLines topK text) : g ∈ fitting sampleLines text := by
  have hranks := Guess.ranks_mergeSort (fitting sampleLines text)
  rw [heuristic_eq, hranks.rank_eq_ite] at h
  apply hranks.perm.mem_iff.mp
  split at h
  · exact List.mem_of_mem_take h
  · exact h

theorem nodup_heuristic (sampleLines topK : Int) (text : Bytes) :
    ((heuristic sampleLines topK text).map (·.language)).Nodup := by
  have hranks := Guess.ranks_mergeSort (fitting sampleLines text)
  have hall := (hranks.perm.map (·.language)).nodup_iff.mpr (nodup_fitting sampleLines text)
  rw [heuristic_eq, hranks.rank_eq_ite]
  split
  · exact hall.sublist ((List.take_sublist _ _).map _)
  · exact hall

/-- Ranking by fit gives exactly the best languages: those with a positive score, by descending score and equal ones
in the order of the registry, cut to the first few if a number is set. All scores are at most one, no language left
out scores more than one that is given, and neither blank lines nor what follows the sampled lines matter. -/
theorem heuristic_best (sampleLines topK : Int) (text : Bytes) :
    let found := heuristic sampleLines topK text
    (∀ context : Context, context.ended? .begun = none → ofHeuristic sampleLines topK context text = .value found) ∧
      (∃ ranked, Guess.Ranks (fitting sampleLines text) ranked ∧
        found = if 0 < topK then ranked.take topK.toNat else ranked) ∧
      (found.map (·.language)).Nodup ∧
      (∀ g ∈ found, ∃ p ∈ Registry.profiles, g = ⟨p.id, score p sampleLines text⟩ ∧ 0 < g.confidence ∧
        g.confidence ≤ 1) ∧
      (∀ p ∈ Registry.profiles, p.id ∉ found.map (·.language) →
        ∀ g ∈ found, score p sampleLines text ≤ g.confidence) ∧
      (∀ above blank below, text = above ++ below → EndsLine above → EndsLine blank → blank.isBlank →
        heuristic sampleLines topK (above ++ (blank ++ below)) = found) ∧
      ∀ above rest rest', text = above ++ rest → 0 < sampleLines →
        sampleLines ≤ (split above).countP (fun l => !l.isBlank) → FollowsLine rest → FollowsLine rest' →
        heuristic sampleLines topK (above ++ rest') = found := by
  intro found
  have hranks := Guess.ranks_mergeSort (fitting sampleLines text)
  refine ⟨?_, ⟨_, hranks, ?_⟩, nodup_heuristic sampleLines topK text, ?_, ?_, ?_, ?_⟩
  · intro context hlive
    rw [ofHeuristic, hlive]
  · rw [← hranks.rank_eq_ite, ← heuristic_eq]
  · intro g hg
    obtain ⟨p, hp, hpositive, rfl⟩ := mem_fitting.mp (mem_fitting_of_mem_heuristic hg)
    exact ⟨p, hp, rfl, hpositive, score_le_one p sampleLines text⟩
  · intro p hp hleft g hg
    by_cases hpositive : 0 < score p sampleLines text
    · have hfits : ⟨p.id, score p sampleLines text⟩ ∈ fitting sampleLines text :=
        mem_fitting.mpr ⟨p, hp, hpositive, rfl⟩
      have hcut : ⟨p.id, score p sampleLines text⟩ ∉ Guess.rank topK (fitting sampleLines text) := by
        rw [← heuristic_eq]
        intro hmem
        exact hleft (List.mem_map_of_mem hmem)
      exact hranks.le_of_cut hfits hcut g (heuristic_eq sampleLines topK text ▸ hg)
    · obtain ⟨q, -, hscore, rfl⟩ := mem_fitting.mp (mem_fitting_of_mem_heuristic hg)
      exact (not_lt.mp hpositive).trans (le_of_lt hscore)
  · rintro above blank below rfl habove hends hblank
    exact heuristic_congr topK (sample_insert habove hends hblank)
  · rintro above rest rest' rfl hlimit hfull hrest hrest'
    apply heuristic_congr
    rw [sample_append hlimit hfull hrest', sample_append hlimit hfull hrest]

end Classifier

end SourceSurvey
