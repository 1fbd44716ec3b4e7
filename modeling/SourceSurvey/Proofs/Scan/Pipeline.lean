import Mathlib.Logic.Relation
import Mathlib.Data.List.Nodup
import SourceSurvey.Scan.Pipeline

namespace SourceSurvey

def ScanEvent.path? : ScanEvent → Option String
  | discovered path => some path
  | status path _ _ => some path
  | complete => none

def ScanEvent.isAbout (path : String) (e : ScanEvent) : Bool := e.path? = some path

def Found.outcome (ends : Pipeline.Endings) : Found → Outcome
  | leftOut path reason details => .skipped ⟨path, reason.name, details⟩
  | unchanged path details => .skipped ⟨path, SkipReason.unchanged.name, details⟩
  | candidate path => (ends path).outcome path false

def Found.story (ends : Pipeline.Endings) : Found → List ScanEvent
  | leftOut path _ details => [.status path .skipped details]
  | unchanged path details => [.discovered path, .status path .skipped details]
  | candidate path => [.discovered path, .status path .processing "",
      .status path (ends path).status (ends path).message]

namespace Task

variable {α : Type}

def about (path : String) (t : Task α) : List ScanEvent := t.news.filter (·.isAbout path)

/-- A task that speaks of the file it delivers, and of no other. -/
def IsOwn (t : Task Outcome) : Prop := ∀ e ∈ t.news, e.path? = some t.delivers.path

theorem about_eq_nil {t : Task Outcome} (h : t.IsOwn) {path : String} (hpath : t.delivers.path ≠ path) :
    t.about path = [] := by
  rw [about, List.filter_eq_nil_iff]
  intro e he
  simp [ScanEvent.isAbout, h e he, hpath]

end Task

theorem flatMap_eq_of_perm {α β : Type} {f : α → List β} {l l' : List α} (h : l.Perm l')
    (hl : l.Pairwise fun a b => f a = [] ∨ f b = []) : l.flatMap f = l'.flatMap f := by
  induction h with
  | nil => rfl
  | cons a _ ih => rw [List.flatMap_cons, List.flatMap_cons, ih (List.pairwise_cons.mp hl).2]
  | swap a b l =>
      obtain hb | ha := (List.pairwise_cons.mp hl).1 a List.mem_cons_self
      · simp [hb]
      · simp [ha]
  | trans h _ ih ih' => rw [ih hl, ih' (h.pairwise hl fun hab => hab.symm)]

def Worker.task? : Worker → Option (Task Outcome)
  | .busy t => some t
  | _ => none

namespace Pipeline

variable {ends : Endings} {n : Nat} {s t : State} {files : List Found}

/-- The walker's task together with what a worker will do about a candidate it delivers. -/
def through (ends : Endings) (t : Task Delivery) : Task Outcome :=
  match t.delivers with
  | .candidate path => ⟨t.news ++ (work ends path).news, (work ends path).delivers⟩
  | .outcome o => ⟨t.news, o⟩

theorem through_visit (f : Found) : through ends (visit f) = ⟨f.story ends, f.outcome ends⟩ := by
  cases f <;> rfl

/-- The tasks not yet done, in whosever hands they are. -/
def State.due (ends : Endings) (s : State) : List (Task Outcome) :=
  s.walker.toList.map (through ends) ++ s.ahead.map (fun f => through ends (visit f)) ++
    s.candidates.map (work ends) ++ s.workers.filterMap Worker.task?

/-- The outcomes delivered so far, those first that the gatherer has taken. -/
def State.delivered (s : State) : List Outcome := s.gathered ++ s.outcomes

/-- All that a step can do to the tasks due, to the outcomes and to the announcements. -/
inductive Effect (ends : Endings) (s t : State) : Prop
  | quiet (hdue : (s.due ends).Perm (t.due ends)) (hdelivered : t.delivered = s.delivered)
      (hevents : t.events = s.events)
  | said {e : ScanEvent} {news : List ScanEvent} {o : Outcome} {rest : List (Task Outcome)}
      (hs : (s.due ends).Perm (⟨e :: news, o⟩ :: rest)) (ht : (t.due ends).Perm (⟨news, o⟩ :: rest))
      (hdelivered : t.delivered = s.delivered) (hevents : t.events = s.events ++ [e])
  | delivered {o : Outcome} (hs : (s.due ends).Perm (⟨[], o⟩ :: t.due ends))
      (hdelivered : t.delivered = s.delivered ++ [o]) (hevents : t.events = s.events)

theorem through_cons (e : ScanEvent) (news : List ScanEvent) (d : Delivery) :
    through ends ⟨e :: news, d⟩ = ⟨e :: (through ends ⟨news, d⟩).news, (through ends ⟨news, d⟩).delivers⟩ := by
  cases d <;> rfl

theorem due_walker (ends : Endings) {d : Task Delivery} (h : s.walker = some d) :
    s.due ends = through ends d :: { s with walker := none }.due ends := by
  simp [State.due, h]

theorem due_candidates (ends : Endings) {path : String} {paths : List String} (h : s.candidates = path :: paths) :
    (s.due ends).Perm (work ends path :: { s with candidates := paths }.due ends) := by
  simp only [State.due, h, List.map_cons]
  exact List.perm_middle.append_right _

theorem due_busy (ends : Endings) {before after : List Worker} {t : Task Outcome}
    (h : s.workers = before ++ .busy t :: after) :
    (s.due ends).Perm (t :: { s with workers := before ++ Worker.idle :: after }.due ends) := by
  simp only [State.due, h, List.filterMap_append, List.filterMap_cons, Worker.task?, ← List.append_assoc]
  exact List.perm_middle

theorem due_idle (ends : Endings) {before after : List Worker} {w : Worker} (h : s.workers = before ++ Worker.idle :: after)
    (hw : w.task? = none) : { s with workers := before ++ w :: after }.due ends = s.due ends := by
  have hidle : Worker.idle.task? = none := rfl
  simp only [State.due, h, List.filterMap_append, List.filterMap_cons, hw, hidle]

theorem step_effect (h : Step ends n s t) : Effect ends s t := by
  cases h with
  | meet hwalker hahead => exact .quiet (by simp [State.due, hwalker, hahead]) rfl rfl
  | tell hwalker =>
      have hs := due_walker ends hwalker
      rw [through_cons] at hs
      exact .said (.of_eq hs) (.of_eq (due_walker ends rfl)) rfl rfl
  | offer hwalker _ =>
      refine .quiet ?_ rfl rfl
      rw [due_walker ends hwalker]
      simp only [State.due, List.map_append, List.map_singleton, ← List.append_assoc]
      exact (List.perm_append_singleton _ _).symm.append_right _
  | @skip o hwalker _ => exact .delivered (o := o) (.of_eq (due_walker ends hwalker)) (by simp [State.delivered]) rfl
  | close _ _ _ => exact .quiet (List.Perm.refl _) rfl rfl
  | @take before after path paths hworkers hcandidates =>
      have hrest : State.due ends { s with candidates := paths, workers := before ++ Worker.idle :: after } =
          State.due ends { s with candidates := paths } := due_idle (s := { s with candidates := paths }) ends hworkers rfl
      refine .quiet ((due_candidates ends hcandidates).trans ?_) rfl rfl
      rw [← hrest]
      exact (due_busy (s := { s with candidates := paths, workers := before ++ .busy (work ends path) :: after }) ends
        rfl).symm
  | report hworkers => exact .said (due_busy ends hworkers) (due_busy ends rfl) rfl rfl
  | @post before after o hworkers _ =>
      exact .delivered (o := o) (due_busy ends hworkers) (by simp [State.delivered]) rfl
  | leave hworkers _ _ => exact .quiet (.of_eq (due_idle ends hworkers rfl).symm) rfl rfl
  | shut _ _ _ => exact .quiet (List.Perm.refl _) rfl rfl
  | gather houtcomes => exact .quiet (List.Perm.refl _) (by simp [State.delivered, houtcomes]) rfl
  | finish _ _ _ => exact .quiet (List.Perm.refl _) rfl rfl

/-- Endings that speak of the file they are the ending of. -/
def Faithful (ends : Endings) : Prop := ∀ path fatal, ((ends path).outcome path fatal).path = path

theorem outcome_path (h : Faithful ends) (f : Found) : (f.outcome ends).path = f.path := by
  cases f with
  | candidate path => exact h path false
  | leftOut | unchanged => rfl

theorem path?_story (ends : Endings) (f : Found) : ∀ e ∈ f.story ends, e.path? = some f.path := by
  cases f <;> simp [Found.story, ScanEvent.path?, Found.path]

theorem isOwn_story (h : Faithful ends) (f : Found) : Task.IsOwn ⟨f.story ends, f.outcome ends⟩ := by
  intro e he
  rw [outcome_path h]
  exact path?_story ends f e he

/-- Every file is either due or delivered, in some order, and what is due speaks of its own file. -/
structure Balanced (ends : Endings) (files : List Found) (s : State) : Prop where
  balance : ((s.due ends).map Task.delivers ++ s.delivered).Perm (files.map (Found.outcome ends))
  own : ∀ t ∈ s.due ends, t.IsOwn

/-- What was said of each file, followed by what is still to be said, is its story. -/
structure Accounts (ends : Endings) (files : List Found) (s : State) : Prop extends Balanced ends files s where
  told : ∀ path, s.events.filter (·.isAbout path) ++ (s.due ends).flatMap (Task.about path) =
    files.flatMap fun f => (f.story ends).filter (·.isAbout path)

theorem due_start (ends : Endings) (n : Nat) (files : List Found) :
    (start n files).due ends = files.map fun f => ⟨f.story ends, f.outcome ends⟩ := by
  have hidle : (List.replicate n Worker.idle).filterMap Worker.task? = [] := by
    rw [List.filterMap_eq_nil_iff]
    intro w hw
    rw [List.eq_of_mem_replicate hw]
    rfl
  simp [start, State.due, hidle, through_visit]

theorem accounts_start (h : Faithful ends) (n : Nat) (files : List Found) : Accounts ends files (start n files) where
  balance := by
    rw [due_start, List.map_map]
    exact .of_eq (List.append_nil _)
  own := by
    rw [due_start, List.forall_mem_map]
    exact fun f _ => isOwn_story h f
  told path := by
    rw [due_start, List.flatMap_map]
    rfl

theorem Balanced.about_of_perm (hs : Balanced ends files s) (h : Faithful ends) (hfiles : (files.map Found.path).Nodup)
    {ts : List (Task Outcome)} (hts : (s.due ends).Perm ts) (path : String) :
    (s.due ends).flatMap (Task.about path) = ts.flatMap (Task.about path) := by
  -- The outcomes are those of files with different paths, so at most one task is about the path.
  have hpaths : (((s.due ends).map Task.delivers ++ s.delivered).map Outcome.path).Nodup := by
    refine (hs.balance.map Outcome.path).nodup_iff.mpr ?_
    rwa [List.map_map, show Outcome.path ∘ Found.outcome ends = Found.path from funext (outcome_path h)]
  rw [List.map_append, List.map_map] at hpaths
  refine flatMap_eq_of_perm hts ?_
  refine (List.pairwise_map.mp (List.nodup_append.mp hpaths).1).imp_of_mem fun {a b} ha hb hab => ?_
  by_cases hpath : a.delivers.path = path
  · exact .inr (Task.about_eq_nil (hs.own b hb) fun hb' => hab (hpath.trans hb'.symm))
  · exact .inl (Task.about_eq_nil (hs.own a ha) hpath)

theorem Balanced.step (hs : Balanced ends files s) (heffect : Effect ends s t) : Balanced ends files t := by
  cases heffect with
  | quiet hdue hdelivered _ =>
      refine ⟨?_, fun x hx => hs.own x (hdue.mem_iff.mpr hx)⟩
      rw [hdelivered]
      exact ((hdue.map _).symm.append_right _).trans hs.balance
  | @said e news o rest hdue hdue' hdelivered _ =>
      constructor
      · rw [hdelivered]
        exact ((hdue'.map _).append_right _).trans (((hdue.map _).symm.append_right _).trans hs.balance)
      · intro x hx
        obtain rfl | hx := List.mem_cons.mp (hdue'.mem_iff.mp hx)
        · exact fun e' he' => hs.own _ (hdue.mem_iff.mpr List.mem_cons_self) e' (List.mem_cons_of_mem e he')
        · exact hs.own x (hdue.mem_iff.mpr (List.mem_cons_of_mem _ hx))
  | @delivered o hdue hdelivered _ =>
      refine ⟨?_, fun x hx => hs.own x (hdue.mem_iff.mpr (List.mem_cons_of_mem _ hx))⟩
      have hs' := ((hdue.map Task.delivers).symm.append_right s.delivered).trans hs.balance
      rw [hdelivered, ← List.append_assoc]
      exact (List.perm_append_singleton o _).trans hs'

theorem Accounts.step (hs : Accounts ends files s) (h : Faithful ends)
    (hfiles : (files.map Found.path).Nodup) (hstep : Step ends n s t) : Accounts ends files t := by
  have heffect := step_effect hstep
  have ht := hs.toBalanced.step heffect
  refine ⟨ht, fun path => ?_⟩
  rw [← hs.told path]
  cases heffect with
  | quiet hdue _ hevents => rw [hevents, hs.about_of_perm h hfiles hdue]
  | said hdue hdue' _ hevents =>
      rw [hevents, hs.about_of_perm h hfiles hdue, ht.about_of_perm h hfiles hdue', List.filter_append, List.append_assoc,
        List.flatMap_cons, List.flatMap_cons, Task.about, Task.about, ← List.append_assoc ([_].filter _),
        ← List.filter_append, List.singleton_append]
  | delivered hdue _ hevents =>
      rw [hevents, hs.about_of_perm h hfiles hdue]
      rfl

theorem accounts_of_reaches (h : Faithful ends) (hfiles : (files.map Found.path).Nodup)
    (hs : Relation.ReflTransGen (Step ends n) (start n files) s) : Accounts ends files s := by
  induction hs with
  | refl => exact accounts_start h n files
  | tail _ hstep ih => exact ih.step h hfiles hstep

end Pipeline

end SourceSurvey
