import Mathlib.Algebra.Ring.Int.Defs
import Mathlib.Algebra.BigOperators.Group.List.Basic
import Mathlib.Data.List.Nodup
import SourceSurvey.Scan.Report

namespace SourceSurvey.Report

theorem sortBy_perm {α : Type} (key : α → String) (xs : List α) : (sortBy key xs).Perm xs := List.mergeSort_perm xs _

theorem sorted_sortBy {α : Type} (key : α → String) (xs : List α) :
    (sortBy key xs).Pairwise fun a b => key a ≤ key b := by
  have htrans : ∀ a b c, decide (key a ≤ key b) → decide (key b ≤ key c) → decide (key a ≤ key c) :=
    fun a b c hab hbc => decide_eq_true (String.le_trans (of_decide_eq_true hab) (of_decide_eq_true hbc))
  have htotal : ∀ a b, decide (key a ≤ key b) || decide (key b ≤ key a) := by
    intro a b
    simpa using String.le_total (key a) (key b)
  exact (List.pairwise_mergeSort htrans htotal xs).imp of_decide_eq_true

/-- With distinct keys there is only one sorted order. -/
theorem sortBy_eq_of_perm {α : Type} {key : α → String} {xs ys : List α} (h : xs.Perm ys) (hkeys : (xs.map key).Nodup) :
    sortBy key xs = sortBy key ys := by
  have hperm : (sortBy key xs).Perm (sortBy key ys) := (sortBy_perm key xs).trans (h.trans (sortBy_perm key ys).symm)
  refine List.Perm.eq_of_pairwise (fun a b ha hb hab hba => ?_) (sorted_sortBy key xs) (sorted_sortBy key ys) hperm
  have ha' := (sortBy_perm key xs).mem_iff.mp ha
  have hb' := h.mem_iff.mpr ((sortBy_perm key ys).mem_iff.mp hb)
  exact List.inj_on_of_nodup_map hkeys ha' hb' (String.le_antisymm hab hba)

theorem sum_count_eraseDups (names : List String) :
    (names.eraseDups.map fun n => (names.count n : Int)).sum = names.length := by
  cases names with
  | nil => rfl
  | cons a names =>
      have hrest := sum_count_eraseDups (names.filter fun n => !(n == a))
      have hcount : ∀ n ∈ (names.filter fun n => !(n == a)).eraseDups,
          ((a :: names).count n : Int) = ((names.filter fun n => !(n == a)).count n : Int) := by
        intro n hn
        rw [List.mem_eraseDups, List.mem_filter] at hn
        have hne : n ≠ a := by simpa using hn.2
        rw [List.count_cons_of_ne hne.symm, List.count_filter (by simpa using hne)]
      have hlength : names.length = names.count a + (names.filter fun n => !(n == a)).length := by
        rw [← List.countP_eq_length_filter, List.count, List.length_eq_countP_add_countP (· == a)]
        exact congrArg _ (List.countP_congr (by simp))
      rw [List.eraseDups_cons, List.map_cons, List.sum_cons, List.map_congr_left hcount, hrest, List.count_cons_self,
        List.length_cons, hlength]
      omega
termination_by names.length
decreasing_by exact Nat.lt_succ_of_le (List.length_filter_le _ _)

theorem sum_tally (names : List String) : ((tally names).map Prod.snd).sum = names.length := by
  rw [tally, List.map_map, ← sum_count_eraseDups]
  exact ((sortBy_perm id names.eraseDups).map _).sum_eq

def entries (r : Report) : List Outcome :=
  r.processed.map .processed ++ r.skipped.map .skipped ++ r.failed.map .failed

@[simp] theorem processed_mem_entries {r : Report} {f : ProcessedFile} : .processed f ∈ r.entries ↔ f ∈ r.processed := by
  simp [entries]

@[simp] theorem skipped_mem_entries {r : Report} {f : SkippedFile} : .skipped f ∈ r.entries ↔ f ∈ r.skipped := by
  simp [entries]

@[simp] theorem failed_mem_entries {r : Report} {f : FailedFile} : .failed f ∈ r.entries ↔ f ∈ r.failed := by
  simp [entries]

theorem perm_by_kind (outcomes : List Outcome) :
    ((outcomes.filterMap Outcome.processed?).map Outcome.processed ++
      (outcomes.filterMap Outcome.skipped?).map Outcome.skipped ++
      (outcomes.filterMap Outcome.failed?).map Outcome.failed).Perm outcomes := by
  induction outcomes with
  | nil => rfl
  | cons o outcomes ih =>
      cases o with
      | processed f => exact ih.cons _
      | skipped f =>
          refine List.Perm.trans ?_ (ih.cons _)
          exact List.perm_middle.append_right _
      | failed f =>
          refine List.Perm.trans ?_ (ih.cons _)
          exact List.perm_middle

theorem entries_ofOutcomes (frame : Frame) (fatal : Bool) (outcomes : List Outcome) :
    (ofOutcomes frame fatal outcomes).entries.Perm outcomes := by
  refine List.Perm.trans ?_ (perm_by_kind outcomes)
  exact (((sortBy_perm _ _).map _).append ((sortBy_perm _ _).map _)).append ((sortBy_perm _ _).map _)

theorem nodup_filterMap {α : Type} {kind : Outcome → Option α} {key : α → String} {outcomes : List Outcome}
    (hkind : ∀ o a, kind o = some a → key a = o.path) (h : (outcomes.map Outcome.path).Nodup) :
    ((outcomes.filterMap kind).map key).Nodup := by
  refine h.sublist ?_
  induction outcomes with
  | nil => exact .slnil
  | cons o outcomes ih =>
      have ih := ih (List.nodup_cons.mp h).2
      cases hk : kind o with
      | none =>
          rw [List.filterMap_cons_none hk]
          exact ih.cons _
      | some a =>
          rw [List.filterMap_cons_some hk, List.map_cons, hkind o a hk]
          exact ih.cons_cons _

theorem ofOutcomes_eq_of_perm (frame : Frame) (fatal : Bool) {outcomes outcomes' : List Outcome}
    (h : outcomes.Perm outcomes') (hpaths : (outcomes.map Outcome.path).Nodup) :
    ofOutcomes frame fatal outcomes = ofOutcomes frame fatal outcomes' := by
  have hprocessed : sortBy (·.path) (outcomes.filterMap Outcome.processed?) =
      sortBy (·.path) (outcomes'.filterMap Outcome.processed?) :=
    sortBy_eq_of_perm (h.filterMap _) (nodup_filterMap (by rintro ⟨⟩ _ ⟨⟩; rfl) hpaths)
  have hskipped : sortBy (·.path) (outcomes.filterMap Outcome.skipped?) =
      sortBy (·.path) (outcomes'.filterMap Outcome.skipped?) :=
    sortBy_eq_of_perm (h.filterMap _) (nodup_filterMap (by rintro ⟨⟩ _ ⟨⟩; rfl) hpaths)
  have hfailed : sortBy (·.path) (outcomes.filterMap Outcome.failed?) =
      sortBy (·.path) (outcomes'.filterMap Outcome.failed?) :=
    sortBy_eq_of_perm (h.filterMap _) (nodup_filterMap (by rintro ⟨⟩ _ ⟨⟩; rfl) hpaths)
  rw [ofOutcomes, ofOutcomes, hprocessed, hskipped, hfailed]

/-- The counts of a report are those of its lists, and its lists are sorted. -/
structure Consistent (r : Report) : Prop where
  processed_sorted : r.processed.Pairwise (·.path ≤ ·.path)
  skipped_sorted : r.skipped.Pairwise (·.path ≤ ·.path)
  failed_sorted : r.failed.Pairwise (·.path ≤ ·.path)
  processed : r.summary.processed = r.processed.length
  skipped : r.summary.skipped = r.skipped.length
  failed : r.summary.failed = r.failed.length
  total : r.summary.total = r.summary.processed + r.summary.skipped + r.summary.failed
  languages : (r.summary.languages.map Prod.snd).sum = r.summary.processed
  cached : r.summary.cached = r.processed.countP (·.cache = CacheStatus.hit.name)
  degraded : r.summary.degraded = r.processed.countP (·.degraded)

theorem consistent_ofOutcomes (frame : Frame) (fatal : Bool) (outcomes : List Outcome) :
    (ofOutcomes frame fatal outcomes).Consistent where
  processed_sorted := sorted_sortBy _ _
  skipped_sorted := sorted_sortBy _ _
  failed_sorted := sorted_sortBy _ _
  processed := rfl
  skipped := rfl
  failed := rfl
  total := by simp [ofOutcomes]
  languages := by simp [ofOutcomes, sum_tally]
  cached := rfl
  degraded := rfl

end SourceSurvey.Report
