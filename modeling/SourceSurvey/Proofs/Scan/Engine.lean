import SourceSurvey.Proofs.Scan.Events
import SourceSurvey.Proofs.Scan.Ready

namespace SourceSurvey.Engine

open Pipeline

variable {e : Engine} {p : Progress} {ends : Endings} {files : List Found}

theorem outcome_congr {ends' : Endings} {f : Found} (h : ends f.path = ends' f.path) :
    f.outcome ends = f.outcome ends' ∧ f.story ends = f.story ends' := by
  cases f with
  | leftOut | unchanged => exact ⟨rfl, rfl⟩
  | candidate path =>
      have h : ends path = ends' path := h
      simp only [Found.outcome, Found.story, h, and_self]

def IsSteady (e : Engine) : Prop :=
  ∀ w path x, (FileScan.process e.setting w path).2 ≠ .failed (.analysis (.ended x))

/-- One file of a live scan that carries on after failures. -/
structure Advances (ends : Endings) (p p' : Progress) (files : List Found) : Prop where
  context : p'.context = p.context
  stopped : p'.stopped = p.stopped
  outcomes : p'.outcomes = (files.map (Found.outcome ends)).reverse ++ p.outcomes
  events : p'.events = (files.flatMap (Found.story ends)).reverse ++ p.events

theorem processOne_eq (hcontinue : e.setting.plan.onError = .carryOn) (hsteady : e.IsSteady) (p : Progress)
    (path : String) :
    processOne e p path =
      let (world, ended) := FileScan.process e.setting p.world path
      note { note p path .processing "" none with world } path ended.status ended.message
        (some (ended.outcome path false)) := by
  have hended := hsteady p.world path
  have hworld : (note p path .processing "" none).world = p.world := rfl
  unfold processOne
  dsimp only
  rw [hworld, hcontinue]
  generalize FileScan.process e.setting p.world path = result at hended ⊢
  obtain ⟨world, ended⟩ := result
  dsimp only at hended ⊢
  split
  · exact absurd rfl (hended _)
  · rfl
  · rfl

theorem step_advances (ends : Endings) (hcontinue : e.setting.plan.onError = .carryOn) (hsteady : e.IsSteady)
    (hlive : p.context.isLive) {f : Found} (hf : ends f.path = (FileScan.process e.setting p.world f.path).2) :
    Advances ends p (step e p f) [f] := by
  unfold step
  rw [hlive]
  cases f with
  | leftOut | unchanged => exact ⟨rfl, rfl, rfl, rfl⟩
  | candidate path =>
      have hf : ends path = (FileScan.process e.setting p.world path).2 := hf
      dsimp only
      rw [if_neg (by simp), if_pos rfl, processOne_eq hcontinue hsteady]
      have hworld : (announce p path).world = p.world := rfl
      rw [hworld]
      constructor
      · rfl
      · rfl
      · simp [note, announce, Found.outcome, hf]
      · simp [note, announce, Found.story, hf]

theorem Advances.trans {p₁ p₂ p₃ : Progress} {files files' : List Found} (h : Advances ends p₁ p₂ files)
    (h' : Advances ends p₂ p₃ files') : Advances ends p₁ p₃ (files ++ files') where
  context := h'.context.trans h.context
  stopped := h'.stopped.trans h.stopped
  outcomes := by simp [h'.outcomes, h.outcomes]
  events := by simp [h'.events, h.events]

theorem Advances.congr {p' : Progress} {ends' : Endings} (h : Advances ends p p' files)
    (hends : ∀ f ∈ files, ends f.path = ends' f.path) : Advances ends' p p' files where
  context := h.context
  stopped := h.stopped
  outcomes := by rw [h.outcomes, List.map_congr_left fun f hf => (outcome_congr (hends f hf)).1]
  events := by rw [h.events, List.flatMap_congr fun f hf => (outcome_congr (hends f hf)).2]

/-- A whole live scan. Every file ends as processing it in some world does. -/
theorem foldl_step_advances (hcontinue : e.setting.plan.onError = .carryOn) (hsteady : e.IsSteady)
    (hfiles : (files.map Found.path).Nodup) (hlive : p.context.isLive) :
    ∃ ends, (∀ path, ∃ w, ends path = (FileScan.process e.setting w path).2) ∧
      Advances ends p (files.foldl (step e) p) files := by
  induction files generalizing p with
  | nil => exact ⟨fun path => (FileScan.process e.setting p.world path).2, fun path => ⟨_, rfl⟩, rfl, rfl, rfl, rfl⟩
  | cons f files ih =>
      obtain ⟨hnew, hfiles⟩ := List.nodup_cons.mp hfiles
      let first : Endings := fun path => (FileScan.process e.setting p.world path).2
      have hcontext : (step e p f).context = p.context := (step_advances first hcontinue hsteady hlive rfl).context
      obtain ⟨ends, hends, hrest⟩ := ih (p := step e p f) hfiles (by rwa [hcontext])
      refine ⟨fun path => if path = f.path then first path else ends path, fun path => ?_, ?_⟩
      · dsimp only
        split
        · exact ⟨p.world, rfl⟩
        · exact hends path
      · refine (step_advances _ hcontinue hsteady hlive (if_pos rfl)).trans (hrest.congr fun g hg => ?_)
        have hpath : g.path ≠ f.path := fun hpath => hnew (hpath ▸ List.mem_map_of_mem hg)
        rw [if_neg hpath]

theorem run_eq (hfound : e.found = .ok files) (hcontinue : e.setting.plan.onError = .carryOn)
    (hsteady : e.IsSteady) (hlive : e.context.isLive) (hfiles : (files.map Found.path).Nodup) :
    ∃ ends, (∀ path, ∃ w, ends path = (FileScan.process e.setting w path).2) ∧
      (run e).report = .ofOutcomes e.frame false (files.map (Found.outcome ends)) ∧
      (run e).events = files.flatMap (Found.story ends) ++ [.complete] := by
  obtain ⟨ends, hends, hrun⟩ := foldl_step_advances (p := start e) hcontinue hsteady hfiles hlive
  refine ⟨ends, hends, ?_, ?_⟩
  · have houtcomes := hrun.outcomes
    have hstopped := hrun.stopped
    unfold run
    rw [hfound]
    simp only [finish, houtcomes, hstopped]
    simp [start]
  · have hevents := hrun.events
    unfold run
    rw [hfound]
    simp only [finish, hevents]
    simp [start]

/-- A live scan that carries on after failures, run file by file, gives the report of every schedule in
which the files end as in the run, and announces of each file what every such schedule does. -/
theorem run_eq_schedule (hfound : e.found = .ok files) (htree : e.world.tree.WellFormed)
    (hcontinue : e.setting.plan.onError = .carryOn) (hsteady : e.IsSteady) (hlive : e.context.isLive) :
    ∃ ends, (∀ path, ∃ w, ends path = (FileScan.process e.setting w path).2) ∧
      ∀ workers s, 0 < workers → Relation.ReflTransGen (Step ends workers) (Pipeline.start workers files) s →
        s.Halted ends workers →
        s.report e.frame = (run e).report ∧
          ∀ path, s.events.filter (·.isAbout path) = (run e).events.filter (·.isAbout path) := by
  have hfiles : (files.map Found.path).Nodup := by
    obtain ⟨lines, rfl⟩ := of_found hfound
    exact Walk.nodup_files htree _
  obtain ⟨ends, hends, hreport, hevents⟩ := run_eq hfound hcontinue hsteady hlive hfiles
  have hfaithful : Faithful ends := faithful_of_isOf fun path => by
    obtain ⟨w, hw⟩ := hends path
    exact hw ▸ FileScan.isOf_process e.setting w path
  refine ⟨ends, hends, fun workers s hworkers hs hhalted => ⟨?_, fun path => ?_⟩⟩
  · rw [hreport]
    exact report_eq hfaithful hfiles hworkers hs hhalted e.frame
  · rw [events_about hfaithful hfiles hworkers hs hhalted, hevents, List.filter_append, List.filter_flatMap]
    have hcomplete : [ScanEvent.complete].filter (·.isAbout path) = [] := rfl
    simp only [filter_story, hcomplete, List.append_nil]

end SourceSurvey.Engine
