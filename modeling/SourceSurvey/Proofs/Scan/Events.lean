import SourceSurvey.Console.Log
import SourceSurvey.Proofs.Console.Messages
import SourceSurvey.Proofs.Scan.File
import SourceSurvey.Proofs.Scan.Schedule

namespace SourceSurvey

namespace ScanEvent

def statusOf? (path : String) : ScanEvent → Option FileStatus
  | status p s _ => if p = path then some s else none
  | _ => none

def lastStatus? (path : String) (es : List ScanEvent) : Option FileStatus := (es.filterMap (statusOf? path)).getLast?

theorem lastStatus?_filter (path : String) (es : List ScanEvent) :
    lastStatus? path (es.filter (·.isAbout path)) = lastStatus? path es := by
  have hother : ∀ e : ScanEvent, e.isAbout path = false → statusOf? path e = none := by
    intro e he
    cases e <;> simp_all [isAbout, path?, statusOf?]
  rw [lastStatus?, lastStatus?, List.filterMap_filter]
  congr 2
  funext e
  split
  · rfl
  · rw [hother e (Bool.eq_false_iff.mpr ‹_›)]

end ScanEvent

def Found.status (ends : Pipeline.Endings) : Found → FileStatus
  | leftOut .. => .skipped
  | unchanged .. => .skipped
  | candidate path => (ends path).status

theorem Found.lastStatus?_story (ends : Pipeline.Endings) (f : Found) :
    ScanEvent.lastStatus? f.path (f.story ends) = some (f.status ends) := by
  cases f <;> simp [Found.path, story, Found.status, ScanEvent.lastStatus?, ScanEvent.statusOf?]

def Outcome.status : Outcome → FileStatus
  | processed f => if f.cache = CacheStatus.hit.name then .cached else .success
  | skipped _ => .skipped
  | failed _ => .failed

namespace Outcome

theorem status_eq_cached {o : Outcome} : o.status = .cached ↔ ∃ f, f.cache = CacheStatus.hit.name ∧ o = .processed f := by
  cases o <;> simp [status]

theorem status_eq_success_or_cached {o : Outcome} : o.status = .success ∨ o.status = .cached ↔ ∃ f, o = .processed f := by
  cases o with
  | processed f => by_cases h : f.cache = CacheStatus.hit.name <;> simp [status, h]
  | skipped | failed => simp [status]

theorem status_eq_skipped {o : Outcome} : o.status = .skipped ↔ ∃ f, o = .skipped f := by
  cases o with
  | processed f => by_cases h : f.cache = CacheStatus.hit.name <;> simp [status, h]
  | skipped | failed => simp [status]

theorem status_eq_failed {o : Outcome} : o.status = .failed ↔ ∃ f, o = .failed f := by
  cases o with
  | processed f => by_cases h : f.cache = CacheStatus.hit.name <;> simp [status, h]
  | skipped | failed => simp [status]

end Outcome

theorem FileScan.Ended.IsOf.outcome_status {path : String} {e : FileScan.Ended} (h : e.IsOf path) (fatal : Bool) :
    (e.outcome path fatal).status = e.status := by
  cases h with
  | skipped | failed => rfl
  | processed _ hcached =>
      simp only [FileScan.Ended.outcome, FileScan.Ended.status, Outcome.status, hcached]

inductive Console.Tells (c : Console) : ScanEvent → MonitorMessage → Prop
  | discovered {path : String} {x : MonitorMessage} : c.onDiscovered path = .tell x → Tells c (.discovered path) x
  | status {path : String} {s : FileStatus} {message : String} {duration : Int} {x : MonitorMessage} :
      c.onStatus ⟨path, s.name, message, duration⟩ = .tell x → Tells c (.status path s message) x

namespace Monitor

variable {c : Console} {e : ScanEvent} {es : List ScanEvent} {x : MonitorMessage} {xs : List MonitorMessage} {m : Monitor}

/-- A state after one more event about its file. -/
def standing : Option String → ScanEvent → Option String
  | before, .discovered _ => some (before.getD FileStatus.pending.name)
  | _, .status _ s _ => some s.name
  | before, .complete => before

theorem update_tells (h : c.Tells e x) (hm : m.Tallied) :
    (m.update x).1.Tallied ∧ ∀ path, (m.update x).1.statusOf path =
      if e.isAbout path then standing (m.statusOf path) e else m.statusOf path := by
  cases h with
  | @discovered path _ h =>
      obtain rfl : .discovered path = x := by
        rw [Console.onDiscovered] at h
        split at h
        · exact Reaction.tell.inj h
        · split at h <;> cases h
      obtain ⟨hupdate, hstatus⟩ := hm.update (x := .discovered path) (by simp)
      refine ⟨hupdate, fun q => ?_⟩
      rw [hstatus]
      simp [ScanEvent.isAbout, ScanEvent.path?, standing, MonitorMessage.standing]
  | @status path s message duration _ h =>
      obtain rfl : .status ⟨path, s.name, message, duration⟩ = x := by
        rw [Console.onStatus] at h
        split at h
        · exact Reaction.tell.inj h
        split at h
        · cases h
        split at h <;> cases h
      obtain ⟨hupdate, hstatus⟩ := hm.update (x := .status ⟨path, s.name, message, duration⟩) (by simp)
      refine ⟨hupdate, fun q => ?_⟩
      rw [hstatus]
      simp [ScanEvent.isAbout, ScanEvent.path?, standing, MonitorMessage.standing]

theorem after_tells (h : List.Forall₂ c.Tells es xs) (hm : m.Tallied) :
    (m.after xs).Tallied ∧ ∀ path, (m.after xs).statusOf path =
      (es.filter (·.isAbout path)).foldl standing (m.statusOf path) := by
  induction h generalizing m with
  | nil => exact ⟨hm, fun _ => rfl⟩
  | @cons e x es xs he _ ih =>
      obtain ⟨hupdate, hstatus⟩ := update_tells he hm
      obtain ⟨hafter, hstanding⟩ := ih hupdate
      refine ⟨hafter, fun path => ?_⟩
      rw [after, List.foldl_cons]
      refine (hstanding path).trans ?_
      rw [hstatus, List.filter_cons]
      split <;> rfl

end Monitor

namespace Pipeline

variable {ends : Endings} {n : Nat} {s : State} {files : List Found} {path : String}

theorem faithful_of_isOf (h : ∀ path, (ends path).IsOf path) : Faithful ends := fun path fatal =>
  (h path).outcome_path fatal

theorem outcome_status (h : ∀ path, (ends path).IsOf path) (f : Found) : (f.outcome ends).status = f.status ends := by
  cases f with
  | leftOut | unchanged => rfl
  | candidate path => exact (h path).outcome_status false

theorem filter_story (ends : Endings) (f : Found) (path : String) :
    (f.story ends).filter (·.isAbout path) = if f.path = path then f.story ends else [] := by
  split
  · rename_i hpath
    refine List.filter_eq_self.mpr fun e he => ?_
    rw [ScanEvent.isAbout, path?_story ends f e he, hpath]
    exact decide_eq_true rfl
  · rename_i hpath
    refine List.filter_eq_nil_iff.mpr fun e he => ?_
    simp [ScanEvent.isAbout, path?_story ends f e he, hpath]

/-- All that was announced of a file by the end is its story. -/
theorem events_about (h : Faithful ends) (hfiles : (files.map Found.path).Nodup) (hn : 0 < n)
    (hs : Relation.ReflTransGen (Step ends n) (start n files) s) (hhalted : s.Halted ends n) (path : String) :
    s.events.filter (·.isAbout path) = files.flatMap fun f => if f.path = path then f.story ends else [] := by
  have htold := (accounts_of_reaches h hfiles hs).told path
  rw [hhalted.due_eq_nil (.of_reaches hn hs) hn] at htold
  simpa [filter_story] using htold

theorem flatMap_story {f : Found} (hfiles : (files.map Found.path).Nodup) (hf : f ∈ files) :
    (files.flatMap fun g => if g.path = f.path then g.story ends else []) = f.story ends := by
  obtain ⟨before, after, rfl⟩ := List.append_of_mem hf
  rw [List.map_append, List.map_cons, List.nodup_middle, List.nodup_cons, ← List.map_append] at hfiles
  have hothers : ∀ gs ⊆ before ++ after, (gs.flatMap fun g => if g.path = f.path then g.story ends else []) = [] := by
    intro gs hgs
    rw [List.flatMap_eq_nil_iff]
    intro g hg
    rw [if_neg]
    intro hpath
    exact hfiles.1 (hpath ▸ List.mem_map_of_mem (hgs hg))
  rw [List.flatMap_append, List.flatMap_cons, hothers before (by simp), hothers after (by simp), if_pos rfl]
  simp

/-- What the stories of files come to, path by path. -/
theorem story_iff {α : Type} (value : List ScanEvent → Option α) (final : Found → α) (hnil : value [] = none)
    (hstory : ∀ f ∈ files, f.path = path → value (f.story ends) = some (final f))
    (hfiles : (files.map Found.path).Nodup) (a : α) :
    value (files.flatMap fun f => if f.path = path then f.story ends else []) = some a ↔
      ∃ f ∈ files, f.path = path ∧ final f = a := by
  by_cases hpath : path ∈ files.map Found.path
  · obtain ⟨f, hf, rfl⟩ := List.mem_map.mp hpath
    rw [flatMap_story hfiles hf, hstory f hf rfl, Option.some.injEq]
    constructor
    · exact fun h => ⟨f, hf, rfl, h⟩
    · rintro ⟨g, hg, hpath, rfl⟩
      rw [List.inj_on_of_nodup_map hfiles hg hf hpath]
  · have hnone : (files.flatMap fun f => if f.path = path then f.story ends else []) = [] := by
      rw [List.flatMap_eq_nil_iff]
      intro f hf
      rw [if_neg]
      intro h
      exact hpath (h ▸ List.mem_map_of_mem hf)
    rw [hnone, hnil]
    constructor
    · intro h
      cases h
    · rintro ⟨f, hf, rfl, -⟩
      exact absurd (List.mem_map_of_mem hf) hpath

theorem lastStatus?_eq_some_iff (h : Faithful ends) (hfiles : (files.map Found.path).Nodup) (hn : 0 < n)
    (hs : Relation.ReflTransGen (Step ends n) (start n files) s) (hhalted : s.Halted ends n) (path : String)
    (status : FileStatus) :
    ScanEvent.lastStatus? path s.events = some status ↔ ∃ f ∈ files, f.path = path ∧ f.status ends = status := by
  rw [← ScanEvent.lastStatus?_filter, events_about h hfiles hn hs hhalted]
  exact story_iff (ScanEvent.lastStatus? path) (Found.status ends) rfl
    (fun f _ hpath => hpath ▸ Found.lastStatus?_story ends f) hfiles status

theorem lastStatus?_entries (h : ∀ path, (ends path).IsOf path) (hfiles : (files.map Found.path).Nodup) (hn : 0 < n)
    (hs : Relation.ReflTransGen (Step ends n) (start n files) s) (hhalted : s.Halted ends n) (frame : Report.Frame)
    (path : String) (status : FileStatus) :
    ScanEvent.lastStatus? path s.events = some status ↔
      ∃ o ∈ (s.report frame).entries, o.path = path ∧ o.status = status := by
  have hfaithful := faithful_of_isOf h
  have hentries := (Report.entries_ofOutcomes frame false s.gathered).trans (gathered_perm hfaithful hfiles hn hs hhalted)
  rw [lastStatus?_eq_some_iff hfaithful hfiles hn hs hhalted]
  constructor
  · rintro ⟨f, hf, rfl, rfl⟩
    exact ⟨f.outcome ends, hentries.mem_iff.mpr (List.mem_map_of_mem hf), outcome_path hfaithful f, outcome_status h f⟩
  · rintro ⟨o, ho, rfl, rfl⟩
    obtain ⟨f, hf, rfl⟩ := List.mem_map.mp (hentries.mem_iff.mp ho)
    exact ⟨f, hf, (outcome_path hfaithful f).symm, (outcome_status h f).symm⟩

/-- The view that has been told of all events counts the files by their states. -/
theorem ofCounts_after (h : Faithful ends) (hfiles : (files.map Found.path).Nodup) (hn : 0 < n)
    (hs : Relation.ReflTransGen (Step ends n) (start n files) s) (hhalted : s.Halted ends n) {c : Console}
    {es : List ScanEvent} {xs : List MonitorMessage}
    (hes : ∀ path, es.filter (·.isAbout path) = s.events.filter (·.isAbout path)) (hxs : List.Forall₂ c.Tells es xs)
    (version : String) {k : Counter} (hk : k ∈ Monitor.counters) :
    k.ofCounts ((Monitor.ofVersion version).after xs).counts = files.countP fun f => k.takes (f.status ends).name := by
  obtain ⟨htallied, hstatus⟩ := Monitor.after_tells hxs (Monitor.tallied_ofVersion version)
  refine htallied.ofCounts_eq hfiles (fun path status => ?_) hk
  rw [hstatus, hes, events_about h hfiles hn hs hhalted]
  refine story_iff (fun es => es.foldl Monitor.standing none) (fun f => (f.status ends).name) rfl (fun f _ _ => ?_) hfiles
    status
  cases f <;> rfl

end Pipeline

theorem Report.ofSummary_ofOutcomes (frame : Frame) (fatal : Bool) (outcomes : List Outcome) {k : Counter}
    (hk : k ∈ Monitor.counters) :
    k.ofSummary (ofOutcomes frame fatal outcomes).summary = outcomes.countP fun o => k.takes o.status.name := by
  simp only [Monitor.counters, List.mem_cons, List.not_mem_nil, or_false] at hk
  simp only [ofOutcomes, (sortBy_perm _ _).length_eq, (sortBy_perm _ _).countP_eq, List.length_filterMap_eq_countP,
    List.countP_filterMap]
  obtain rfl | rfl | rfl | rfl := hk
  all_goals
    refine congrArg Nat.cast (List.countP_congr fun o _ => ?_)
    cases o with
    | processed f =>
        by_cases hhit : f.cache = CacheStatus.hit.name
        · simp [Outcome.status, Outcome.processed?, Outcome.skipped?, Outcome.failed?, FileStatus.name, hhit]
        · simp [Outcome.status, Outcome.processed?, Outcome.skipped?, Outcome.failed?, FileStatus.name, hhit]
    | skipped | failed =>
        simp [Outcome.status, Outcome.processed?, Outcome.skipped?, Outcome.failed?, FileStatus.name]

namespace Pipeline

/-- However the parties of a scan took turns, the last state announced for each file is that of its entry
in the report, and a fresh progress view that is told of the announcements, each file's in their
order, counts what the report counts. -/
theorem events_agree_with_report {t : FileTree} (ht : t.WellFormed) (r : Walk.Rules) (setting : FileScan.Setting)
    (ends : Endings) (hends : ∀ path, ∃ w, ends path = (FileScan.process setting w path).2) (workers : Nat)
    (hworkers : 0 < workers) (frame : Report.Frame) {s : State}
    (hs : Relation.ReflTransGen (Step ends workers) (start workers (Walk.files r t)) s) (hhalted : s.Halted ends workers) :
    (∀ path,
      (ScanEvent.lastStatus? path s.events = some .success ∨ ScanEvent.lastStatus? path s.events = some .cached ↔
        ∃ f ∈ (s.report frame).processed, f.path = path) ∧
      (ScanEvent.lastStatus? path s.events = some .cached ↔
        ∃ f ∈ (s.report frame).processed, f.path = path ∧ f.cache = CacheStatus.hit.name) ∧
      (ScanEvent.lastStatus? path s.events = some .skipped ↔ ∃ f ∈ (s.report frame).skipped, f.path = path) ∧
      (ScanEvent.lastStatus? path s.events = some .failed ↔ ∃ f ∈ (s.report frame).failed, f.path = path)) ∧
    ∀ (c : Console) (version : String) (es : List ScanEvent) (xs : List MonitorMessage),
      (∀ path, es.filter (·.isAbout path) = s.events.filter (·.isAbout path)) → List.Forall₂ c.Tells es xs →
      ((Monitor.ofVersion version).after xs).counts.processed = (s.report frame).summary.processed ∧
      ((Monitor.ofVersion version).after xs).counts.cached = (s.report frame).summary.cached ∧
      ((Monitor.ofVersion version).after xs).counts.skipped = (s.report frame).summary.skipped ∧
      ((Monitor.ofVersion version).after xs).counts.failed = (s.report frame).summary.failed := by
  have hisOf : ∀ path, (ends path).IsOf path := by
    intro path
    obtain ⟨w, hw⟩ := hends path
    exact hw ▸ FileScan.isOf_process setting w path
  have hfaithful := faithful_of_isOf hisOf
  have hfiles := Walk.nodup_files ht r
  constructor
  · intro path
    simp only [lastStatus?_entries hisOf hfiles hworkers hs hhalted frame, ← exists_or, ← and_or_left,
      Outcome.status_eq_success_or_cached]
    simp only [Outcome.status_eq_cached, Outcome.status_eq_skipped, Outcome.status_eq_failed]
    refine ⟨⟨?_, ?_⟩, ⟨?_, ?_⟩, ⟨?_, ?_⟩, ⟨?_, ?_⟩⟩
    · rintro ⟨_, ho, hpath, f, rfl⟩
      exact ⟨f, Report.processed_mem_entries.mp ho, hpath⟩
    · rintro ⟨f, hf, hpath⟩
      exact ⟨_, Report.processed_mem_entries.mpr hf, hpath, f, rfl⟩
    · rintro ⟨_, ho, hpath, f, hcache, rfl⟩
      exact ⟨f, Report.processed_mem_entries.mp ho, hpath, hcache⟩
    · rintro ⟨f, hf, hpath, hcache⟩
      exact ⟨_, Report.processed_mem_entries.mpr hf, hpath, f, hcache, rfl⟩
    · rintro ⟨_, ho, hpath, f, rfl⟩
      exact ⟨f, Report.skipped_mem_entries.mp ho, hpath⟩
    · rintro ⟨f, hf, hpath⟩
      exact ⟨_, Report.skipped_mem_entries.mpr hf, hpath, f, rfl⟩
    · rintro ⟨_, ho, hpath, f, rfl⟩
      exact ⟨f, Report.failed_mem_entries.mp ho, hpath⟩
    · rintro ⟨f, hf, hpath⟩
      exact ⟨_, Report.failed_mem_entries.mpr hf, hpath, f, rfl⟩
  · intro c version es xs hes hxs
    -- View and report both count the files of the walk by the states in which they end.
    have hcount : ∀ k ∈ Monitor.counters,
        k.ofCounts ((Monitor.ofVersion version).after xs).counts = k.ofSummary (s.report frame).summary := by
      intro k hk
      rw [ofCounts_after hfaithful hfiles hworkers hs hhalted hes hxs version hk, State.report,
        Report.ofSummary_ofOutcomes frame false _ hk,
        (gathered_perm hfaithful hfiles hworkers hs hhalted).countP_eq, List.countP_map]
      refine congrArg Nat.cast (List.countP_congr fun f _ => ?_)
      rw [Function.comp_apply, outcome_status hisOf]
    simp only [Monitor.counters, List.forall_mem_cons] at hcount
    exact ⟨hcount.1, hcount.2.1, hcount.2.2.1, hcount.2.2.2.1⟩

def plainSetting : FileScan.Setting where
  plan :=
    { input := "/in", output := "/out", appVersion := "", configFile := "", profile := "", concurrency := 2,
      onError := .carryOn, binaryMode := .skip, format := .json, writeDocumented := false, cache := false, cacheFormat := "",
      ignoreCacheRead := false, clearCache := false, ignore := [], includeVendored := true, gitMetadata := false,
      diff := .uncommitted, sinceRef := "", git := none }
  analyzer :=
    { limit := Analyzer.defaultLimit, includeDetails := false, classifier := Classifier.ofHeuristic 50 5, language := {},
      explain := {}, generator := none, sniffer := fun content => .ok (Charset.isBinary content),
      decoder := fun content => .ok (Charset.decode "" content),
      cataloguer := fun p text lines => .ok (Inventory.extract p text lines), fingerprint := "" }

theorem events_agree_with_report_twoFiles :
    let ends : Endings := fun path => (FileScan.process plainSetting ⟨twoFiles, {}⟩ path).2
    ∃ s, Relation.ReflTransGen (Step ends 2) (start 2 (Walk.files oneChanged twoFiles)) s ∧ s.Halted ends 2 ∧
      ScanEvent.lastStatus? "b.py" s.events = some .skipped ∧
      ∃ f ∈ (s.report ⟨"/in", "/out", "", "", false, 2⟩).skipped, f.path = "b.py" := by
  intro ends
  obtain ⟨s, hs, hhalted⟩ := exists_halted ends 2 (start 2 (Walk.files oneChanged twoFiles))
  have hagree := events_agree_with_report wellFormed_twoFiles oneChanged plainSetting ends (fun path => ⟨_, rfl⟩) 2
    (by decide) ⟨"/in", "/out", "", "", false, 2⟩ hs hhalted
  have hfaithful : Faithful ends := faithful_of_isOf fun path => FileScan.isOf_process plainSetting _ path
  have hlast : ScanEvent.lastStatus? "b.py" s.events = some .skipped := by
    rw [lastStatus?_eq_some_iff hfaithful (Walk.nodup_files wellFormed_twoFiles oneChanged) (by decide) hs hhalted,
      files_oneChanged]
    exact ⟨_, List.mem_cons_of_mem _ List.mem_cons_self, rfl, rfl⟩
  exact ⟨s, hs, hhalted, hlast, (hagree.1 "b.py").2.2.1.mp hlast⟩

end Pipeline

end SourceSurvey
