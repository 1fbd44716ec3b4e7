import Mathlib.Algebra.Ring.Nat
import SourceSurvey.Proofs.Scan.Pipeline

namespace SourceSurvey

def Task.toDo (t : Task Delivery) : Nat :=
  t.news.length + match t.delivers with
    | .candidate _ => 6
    | .outcome _ => 2

def Worker.toDo : Worker → Nat
  | .idle => 1
  | .busy t => t.news.length + 3
  | .gone => 0

namespace Pipeline

variable {ends : Endings} {n : Nat} {s t : State} {files : List Found}

/-- A bound on the steps still to come. A candidate in the queue leads to five: it is taken, two
statuses are announced, its outcome is posted and gathered. -/
def State.toDo (s : State) : Nat :=
  (s.ahead.map fun f => (visit f).toDo + 1).sum + s.walker.elim 0 Task.toDo + 5 * s.candidates.length +
    (s.workers.map Worker.toDo).sum + s.outcomes.length + (!s.walked).toNat + (!s.sealed).toNat + (!s.finished).toNat

theorem toDo_lt (h : Step ends n s t) : t.toDo < s.toDo := by
  cases h with
  | meet hwalker hahead => simp [State.toDo, hwalker, hahead]; omega
  | tell hwalker => simp [State.toDo, hwalker, Task.toDo]
  | offer hwalker _ => simp [State.toDo, hwalker, Task.toDo]; omega
  | skip hwalker _ => simp [State.toDo, hwalker, Task.toDo]; omega
  | close _ _ hwalked => simp [State.toDo, hwalked]
  | take hworkers hcandidates => simp [State.toDo, hworkers, hcandidates, Worker.toDo, work]; omega
  | report hworkers => simp [State.toDo, hworkers, Worker.toDo]
  | post hworkers _ => simp [State.toDo, hworkers, Worker.toDo]; omega
  | leave hworkers _ _ => simp [State.toDo, hworkers, Worker.toDo]
  | shut _ _ hsealed => simp [State.toDo, hsealed]
  | gather houtcomes => simp [State.toDo, houtcomes]
  | finish _ _ hfinished => simp [State.toDo, hfinished]

theorem wellFounded_step (ends : Endings) (n : Nat) : WellFounded fun t s => Step ends n s t :=
  Subrelation.wf toDo_lt (measure State.toDo).wf

/-- Every state can be carried on to one in which no step is left. -/
theorem exists_halted (ends : Endings) (n : Nat) (s : State) :
    ∃ t, Relation.ReflTransGen (Step ends n) s t ∧ t.Halted ends n := by
  induction s using (wellFounded_step ends n).induction with
  | _ s ih =>
      by_cases hstep : ∃ t, Step ends n s t
      · obtain ⟨t, ht⟩ := hstep
        obtain ⟨t', ht', hhalted⟩ := ih t ht
        exact ⟨t', .head ht ht', hhalted⟩
      · exact ⟨s, .refl, not_exists.mp hstep⟩

/-- The parties leave one after the other: the walker, the workers, the gatherer. -/
structure Orderly (s : State) : Prop where
  staffed : s.workers ≠ []
  walkOver : s.walked → s.walker = none ∧ s.ahead = []
  workOver : .gone ∈ s.workers → s.walked ∧ s.candidates = []
  allGone : s.sealed → ∀ w ∈ s.workers, w = .gone
  allDone : s.finished → s.sealed ∧ s.outcomes = []

theorem orderly_start (hn : 0 < n) (files : List Found) : Orderly (start n files) where
  staffed := by simp [start, Nat.ne_of_gt hn]
  walkOver := by simp [start]
  workOver := by simp [start]
  allGone := by simp [start]
  allDone := by simp [start]

namespace Orderly

theorem gone_of_sealed (hs : Orderly s) (h : s.sealed) : .gone ∈ s.workers := by
  obtain ⟨w, hw⟩ := List.exists_mem_of_ne_nil _ hs.staffed
  exact hs.allGone h w hw ▸ hw

theorem not_walked (hs : Orderly s) {d : Task Delivery} (h : s.walker = some d) : s.walked = false := by
  refine Bool.eq_false_iff.mpr fun hwalked => ?_
  rw [(hs.walkOver hwalked).1] at h
  exact absurd h (by simp)

theorem not_sealed (hs : Orderly s) {before after : List Worker} {w : Worker} (h : s.workers = before ++ w :: after)
    (hw : w ≠ .gone) : s.sealed = false := by
  refine Bool.eq_false_iff.mpr fun hsealed => hw (hs.allGone hsealed w ?_)
  simp [h]

theorem gone_of_replace {before after : List Worker} {w w' : Worker} (hw' : w' ≠ .gone)
    (h : .gone ∈ before ++ w' :: after) : .gone ∈ before ++ w :: after := by
  simp only [List.mem_append, List.mem_cons] at h ⊢
  obtain h | h | h := h
  · exact .inl h
  · exact absurd h.symm hw'
  · exact .inr (.inr h)

theorem step (hs : Orderly s) (h : Step ends n s t) : Orderly t := by
  -- A step could upset a fact only if the party that takes it had left, which the other facts rule out.
  cases h with
  | meet hwalker hahead =>
      refine ⟨hs.staffed, fun hwalked => ?_, hs.workOver, hs.allGone, hs.allDone⟩
      exact absurd hahead (by simp [(hs.walkOver hwalked).2])
  | tell hwalker =>
      have hwalked := hs.not_walked hwalker
      exact ⟨hs.staffed, by simp [hwalked], hs.workOver, hs.allGone, hs.allDone⟩
  | offer hwalker _ =>
      have hwalked := hs.not_walked hwalker
      refine ⟨hs.staffed, by simp [hwalked], fun hgone => ?_, hs.allGone, hs.allDone⟩
      exact absurd (hs.workOver hgone).1 (by simp [hwalked])
  | skip hwalker _ =>
      have hwalked := hs.not_walked hwalker
      refine ⟨hs.staffed, by simp [hwalked], hs.workOver, hs.allGone, fun hfinished => ?_⟩
      have hgone := hs.gone_of_sealed (hs.allDone hfinished).1
      exact absurd (hs.workOver hgone).1 (by simp [hwalked])
  | close hwalker hahead _ =>
      exact ⟨hs.staffed, fun _ => ⟨hwalker, hahead⟩, fun hgone => ⟨rfl, (hs.workOver hgone).2⟩, hs.allGone, hs.allDone⟩
  | take hworkers hcandidates =>
      refine ⟨by simp, hs.walkOver, fun hgone => ?_, ?_, hs.allDone⟩
      · have hgone := gone_of_replace (w := .idle) (by simp) hgone
        exact absurd (hs.workOver (hworkers ▸ hgone)).2 (by simp [hcandidates])
      · simp [hs.not_sealed hworkers]
  | report hworkers =>
      refine ⟨by simp, hs.walkOver, fun hgone => ?_, by simp [hs.not_sealed hworkers], hs.allDone⟩
      exact hs.workOver (hworkers ▸ gone_of_replace (by simp) hgone)
  | post hworkers _ =>
      have hsealed := hs.not_sealed hworkers (by simp)
      refine ⟨by simp, hs.walkOver, fun hgone => ?_, by simp [hsealed], fun hfinished => ?_⟩
      · exact hs.workOver (hworkers ▸ gone_of_replace (by simp) hgone)
      · exact absurd (hs.allDone hfinished).1 (by simp [hsealed])
  | leave hworkers hcandidates hwalked =>
      exact ⟨by simp, hs.walkOver, fun _ => ⟨hwalked, hcandidates⟩, by simp [hs.not_sealed hworkers], hs.allDone⟩
  | shut _ hgone _ =>
      exact ⟨hs.staffed, hs.walkOver, hs.workOver, fun _ => hgone, fun hfinished => ⟨rfl, (hs.allDone hfinished).2⟩⟩
  | gather houtcomes =>
      refine ⟨hs.staffed, hs.walkOver, hs.workOver, hs.allGone, fun hfinished => ?_⟩
      exact absurd houtcomes (by simp [(hs.allDone hfinished).2])
  | finish hsealed houtcomes _ => exact ⟨hs.staffed, hs.walkOver, hs.workOver, hs.allGone, fun _ => ⟨hsealed, houtcomes⟩⟩

theorem of_reaches (hn : 0 < n) (hs : Relation.ReflTransGen (Step ends n) (start n files) s) : Orderly s := by
  induction hs with
  | refl => exact orderly_start hn files
  | tail _ hstep ih => exact ih.step hstep

end Orderly

namespace State.Halted

theorem outcomes_eq_nil (h : s.Halted ends n) : s.outcomes = [] := by
  cases houtcomes : s.outcomes with
  | nil => rfl
  | cons o os => exact absurd (.gather houtcomes) (h _)

theorem worker_cases (h : s.Halted ends n) (hn : 0 < n) {w : Worker} (hw : w ∈ s.workers) : w = .idle ∨ w = .gone := by
  obtain ⟨before, after, hworkers⟩ := List.append_of_mem hw
  cases w with
  | idle => exact .inl rfl
  | gone => exact .inr rfl
  | busy task =>
      obtain ⟨news, o⟩ := task
      cases news with
      | nil => exact absurd (.post hworkers (by simpa [h.outcomes_eq_nil] using hn)) (h _)
      | cons e news => exact absurd (.report hworkers) (h _)

/-- A queue of candidates is not left alone: a worker that is not busy takes from it or has left
because it was closed. -/
theorem candidates_eq_nil (h : s.Halted ends n) (hs : Orderly s) (hn : 0 < n) : s.candidates = [] := by
  obtain ⟨w, hw⟩ := List.exists_mem_of_ne_nil _ hs.staffed
  cases hcandidates : s.candidates with
  | nil => rfl
  | cons path paths =>
      obtain rfl | rfl := h.worker_cases hn hw
      · obtain ⟨before, after, hworkers⟩ := List.append_of_mem hw
        exact absurd (.take hworkers hcandidates) (h _)
      · exact absurd (hs.workOver hw).2 (by simp [hcandidates])

theorem walker_eq_none (h : s.Halted ends n) (hs : Orderly s) (hn : 0 < n) : s.walker = none := by
  cases hwalker : s.walker with
  | none => rfl
  | some task =>
      obtain ⟨news, d⟩ := task
      cases news with
      | cons e news => exact absurd (.tell hwalker) (h _)
      | nil =>
          cases d with
          | candidate path => exact absurd (.offer hwalker (by simpa [h.candidates_eq_nil hs hn] using hn)) (h _)
          | outcome o => exact absurd (.skip hwalker (by simpa [h.outcomes_eq_nil] using hn)) (h _)

theorem ahead_eq_nil (h : s.Halted ends n) (hs : Orderly s) (hn : 0 < n) : s.ahead = [] := by
  cases hahead : s.ahead with
  | nil => rfl
  | cons f fs => exact absurd (.meet (h.walker_eq_none hs hn) hahead) (h _)

theorem walked (h : s.Halted ends n) (hs : Orderly s) (hn : 0 < n) : s.walked = true := by
  by_contra hwalked
  exact h _ (.close (h.walker_eq_none hs hn) (h.ahead_eq_nil hs hn) (Bool.eq_false_iff.mpr hwalked))

theorem gone (h : s.Halted ends n) (hs : Orderly s) (hn : 0 < n) : ∀ w ∈ s.workers, w = .gone := by
  intro w hw
  obtain rfl | hgone := h.worker_cases hn hw
  · obtain ⟨before, after, hworkers⟩ := List.append_of_mem hw
    exact absurd (.leave hworkers (h.candidates_eq_nil hs hn) (h.walked hs hn)) (h _)
  · exact hgone

theorem finished (h : s.Halted ends n) (hs : Orderly s) (hn : 0 < n) : s.finished = true := by
  have hsealed : s.sealed = true := by
    by_contra hsealed
    exact h _ (.shut (h.walked hs hn) (h.gone hs hn) (Bool.eq_false_iff.mpr hsealed))
  by_contra hfinished
  exact h _ (.finish hsealed h.outcomes_eq_nil (Bool.eq_false_iff.mpr hfinished))

theorem due_eq_nil (h : s.Halted ends n) (hs : Orderly s) (hn : 0 < n) : s.due ends = [] := by
  have hworkers : s.workers.filterMap Worker.task? = [] := by
    rw [List.filterMap_eq_nil_iff]
    intro w hw
    rw [h.gone hs hn w hw]
    rfl
  simp [State.due, hworkers, h.walker_eq_none hs hn, h.ahead_eq_nil hs hn, h.candidates_eq_nil hs hn]

end State.Halted

end Pipeline

end SourceSurvey
