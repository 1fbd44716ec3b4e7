import SourceSurvey.Proofs.Cache.Persist
import SourceSurvey.Proofs.Scan.Kept
import SourceSurvey.Proofs.Scan.Ready
import SourceSurvey.Proofs.Scan.Report

namespace SourceSurvey

open SourceSurvey.Path

theorem Path.exists_join {p : String} (hp : isAbsolute p) (q : String) :
    ∃ ns, AreNames ns ∧ join [p, q] = build true ns := by
  have hne : p ≠ "" := by
    rintro rfl
    exact absurd hp (by decide)
  by_cases hq : q = ""
  · have hfilter : [p, q].filter (· ≠ "") = [p] := by simp [hne, hq]
    rw [join, hfilter]
    exact exists_clean hp
  · have hfilter : [p, q].filter (· ≠ "") = [p, q] := by simp [hne, hq]
    rw [join, hfilter]
    change ∃ ns, AreNames ns ∧ clean ("/".intercalate [p, q]) = build true ns
    rw [String.intercalate_cons_cons, String.intercalate_singleton, String.append_assoc]
    exact exists_clean (isAbsolute_append hp _)

namespace FileTree.WellFormed

variable {t t' : FileTree} {ns : List String}

theorem write {data : Bytes} (ht : t.WellFormed) (hns : AreNames ns)
    (h : FileScan.write t (build true ns) data = .ok t') : t'.WellFormed := by
  unfold FileScan.write at h
  split at h
  · cases h
  rename_i made hmade
  split at h
  · cases h
  rename_i written hset
  cases h
  exact (ht.makeDirectory (isAbsolute_parent_rooted hns) hmade).setContent (isAbsolute_rooted ns) hset

end FileTree.WellFormed

namespace FileScan

variable {s : Setting} {w : World} {path : String} {content : Bytes} {modified : Instant} {x : String × CacheEntry}

theorem wellFormed_store (hw : w.tree.WellFormed) (houtput : isAbsolute s.plan.output) (a : Analysis) :
    (store s w path modified content a).1.tree.WellFormed := by
  obtain ⟨ns, hns, hresult⟩ := exists_join houtput (outputName s path)
  obtain ⟨ms, hms, hcopy⟩ := exists_join houtput path
  unfold store
  dsimp only
  rw [hresult, hcopy]
  split
  · exact hw
  rename_i tree htree
  have htree := hw.write hns htree
  split
  · split
    · exact htree
    · exact htree.write hms ‹_›
  · exact htree

def cachedFile (s : Setting) (path language : String) (modified : Instant) (content : Bytes) : ProcessedFile :=
  { path, output := outputName s path, language, size := content.length, modified, cache := CacheStatus.hit.name }

def analyzedFile (s : Setting) (path : String) (modified : Instant) (content : Bytes) (a : Analysis) : ProcessedFile :=
  { path, output := outputName s path, documented := if s.plan.writeDocumented && !a.unsupported then path else ""
    language := a.language, encoding := a.encoding, size := content.length, modified
    cache := (if s.plan.cache then CacheStatus.miss else .disabled).name, degraded := a.degraded }

inductive Goes (s : Setting) (w : World) (path : String) : World × Ended → Prop
  | cached {content : Bytes} {modified : Instant} {language : String}
      (hlook : w.tree.look true (join [s.plan.input, path]) = .ok (.file content modified))
      (hsize : ¬s.analyzer.limit < content.length) (hrecorded : recorded? s w path modified content = some language) :
      Goes s w path (w, .processed (cachedFile s path language modified content) true)
  | analyzed {content : Bytes} {modified : Instant} {a : Analysis}
      (hlook : w.tree.look true (join [s.plan.input, path]) = .ok (.file content modified))
      (hanalysis : s.analyzer.analyze .live content path = .ok a)
      (hbinary : a.unsupported → s.plan.binaryMode = .notice) : Goes s w path (store s w path modified content a)
  | ended {e : Ended} (he : ∀ f cached, e ≠ .processed f cached) : Goes s w path (w, e)

theorem goes_conclude (hlook : w.tree.look true (join [s.plan.input, path]) = .ok (.file content modified)) :
    Goes s w path (conclude s w path modified content (s.analyzer.analyze .live content path)) := by
  cases hanalysis : s.analyzer.analyze .live content path with
  | error e =>
      obtain ⟨ended, hconclude, hended⟩ := conclude_error s w path modified content e
      rw [hconclude]
      exact .ended hended
  | ok a =>
      rw [conclude]
      split
      · exact .ended (by simp)
      rename_i herror
      split
      · exact .ended (by simp)
      rename_i hskip
      refine .analyzed hlook hanalysis fun hunsupported => ?_
      cases hmode : s.plan.binaryMode with
      | notice => rfl
      | error => simp [hunsupported, hmode] at herror
      | skip => simp [hunsupported, hmode] at hskip

theorem goes_process (s : Setting) (w : World) (path : String) : Goes s w path (process s w path) := by
  rw [process]
  split
  · exact .ended (by simp)
  · rename_i content modified hstat
    have hlook := FileTree.stat_eq_ok_iff.mp hstat
    split
    · exact .ended (by simp)
    rename_i hsize
    split
    · exact .cached hlook hsize ‹_›
    · exact goes_conclude hlook
  · exact .ended (by simp)

theorem wellFormed_process (hw : w.tree.WellFormed) (houtput : isAbsolute s.plan.output) :
    (process s w path).1.tree.WellFormed := by
  have hgoes := goes_process s w path
  generalize process s w path = r at hgoes
  cases hgoes with
  | cached | ended => exact hw
  | analyzed => exact wellFormed_store hw houtput _

def entryOf (s : Setting) (w : World) (path : String) (modified : Instant) (content : Bytes) (a : Analysis) : CacheEntry :=
  ⟨.universal modified, fingerprint content, settings s,
    fingerprint (document s path a (facts s (join [s.plan.input, path]))), CacheManager.schemaVersion, w.cache.tool⟩

theorem store_cases (s : Setting) (w : World) (path : String) (modified : Instant) (content : Bytes) (a : Analysis) :
    (∃ tree f, store s w path modified content a = (⟨tree, w.cache⟩, .failed f)) ∨
      ∃ tree, store s w path modified content a =
        (⟨tree, if s.plan.cache then w.cache.update path modified (fingerprint content) (settings s)
          (fingerprint (document s path a (facts s (join [s.plan.input, path])))) else w.cache⟩,
          .processed (analyzedFile s path modified content a) false) := by
  unfold store
  dsimp only
  split
  · exact .inl ⟨_, _, rfl⟩
  by_cases hcopy : s.plan.writeDocumented && !a.unsupported
  · rw [if_pos hcopy, analyzedFile, if_pos hcopy]
    split
    · exact .inl ⟨_, _, rfl⟩
    · exact .inr ⟨_, rfl⟩
  · rw [if_neg hcopy, analyzedFile, if_neg hcopy]
    exact .inr ⟨_, rfl⟩

theorem store_processed {a : Analysis} {g : ProcessedFile} {cached : Bool}
    (h : (store s w path modified content a).2 = .processed g cached) :
    g = analyzedFile s path modified content a ∧ cached = false := by
  obtain ⟨tree, f, hstore⟩ | ⟨tree, hstore⟩ := store_cases s w path modified content a
  · rw [hstore] at h
    cases h
  · rw [hstore] at h
    cases h
    exact ⟨rfl, rfl⟩

/-- An entry that stands for the result of processing a file. -/
inductive MadeAt (s : Setting) (w : World) (path : String) (e : CacheEntry) : Prop
  | intro {content : Bytes} {modified : Instant} {a : Analysis}
      (hlook : w.tree.look true (join [s.plan.input, path]) = .ok (.file content modified))
      (hanalysis : s.analyzer.analyze .live content path = .ok a)
      (hbinary : a.unsupported → s.plan.binaryMode = .notice)
      (hmodified : e.modified = modified) (hsource : e.source = fingerprint content) (hsettings : e.settings = settings s)
      (houtput : e.output = fingerprint (document s path a (facts s (join [s.plan.input, path]))))
      (hprocessed : (process s w path).2 = .processed (analyzedFile s path modified content a) false)

theorem index_store {a : Analysis} (h : x ∈ (store s w path modified content a).1.cache.index) :
    x ∈ w.cache.index ∨ x = (path, entryOf s w path modified content a) ∧
      (store s w path modified content a).2 = .processed (analyzedFile s path modified content a) false := by
  obtain ⟨tree, f, hstore⟩ | ⟨tree, hstore⟩ := store_cases s w path modified content a
  · rw [hstore] at h
    exact .inl h
  · rw [hstore] at h ⊢
    dsimp only at h
    split at h
    · obtain h | h := List.mem_append.mp h
      · exact .inl (List.mem_filter.mp h).1
      · exact .inr ⟨List.mem_singleton.mp h, rfl⟩
    · exact .inl h

/-- Processing a file adds at most the entry of its result. -/
theorem index_process (h : x ∈ (process s w path).1.cache.index) :
    x ∈ w.cache.index ∨ x.1 = path ∧ MadeAt s w path x.2 := by
  have hgoes := goes_process s w path
  generalize hresult : process s w path = result at h hgoes
  cases hgoes with
  | cached | ended => exact .inl h
  | analyzed hlook hanalysis hbinary =>
      obtain h | ⟨rfl, hprocessed⟩ := index_store h
      · exact .inl h
      · exact .inr ⟨rfl, hlook, hanalysis, hbinary, rfl, rfl, rfl, rfl, hresult ▸ hprocessed⟩

def after (s : Setting) (w : World) (paths : List String) : World := paths.foldl (fun w path => (process s w path).1) w

theorem wellFormed_after (hw : w.tree.WellFormed) (houtput : isAbsolute s.plan.output) (paths : List String) :
    (after s w paths).tree.WellFormed := by
  induction paths generalizing w with
  | nil => exact hw
  | cons path paths ih => exact ih (wellFormed_process hw houtput)

/-- Every entry of the index was there, or was made when a file was processed. -/
theorem index_after {paths : List String} (h : x ∈ (after s w paths).cache.index) :
    x ∈ w.cache.index ∨
      ∃ before rest, paths = before ++ x.1 :: rest ∧ MadeAt s (after s w before) x.1 x.2 := by
  induction paths generalizing w with
  | nil => exact .inl h
  | cons path paths ih =>
      obtain h | ⟨before, rest, rfl, hmade⟩ := ih h
      · obtain h | ⟨rfl, hmade⟩ := index_process h
        · exact .inl h
        · exact .inr ⟨[], paths, rfl, hmade⟩
      · exact .inr ⟨path :: before, rest, rfl, hmade⟩

end FileScan

/-- A scan that saves its cache, and the files it processes in their order. -/
structure Pass where
  engine : Engine
  order : List String

namespace Pass

variable (p : Pass)

def setting : FileScan.Setting := p.engine.setting

def world : FileScan.World := FileScan.after p.setting p.engine.world p.order

def tree : FileTree := (p.world.cache.persist (fun _ => none) p.world.tree (Engine.cachePath p.setting.plan)).1

def Visits (w : FileScan.World) (path : String) : Prop :=
  ∃ before rest, p.order = before ++ path :: rest ∧ w = FileScan.after p.setting p.engine.world before

end Pass

namespace Engine

variable {p : Progress} {files : List Found} {g : ProcessedFile}

def takes (p : Progress) : Found → List String
  | .candidate path => if p.context.isLive then [path] else []
  | _ => []

def taken (e : Engine) : Progress → List Found → List String
  | _, [] => []
  | p, f :: files => takes p f ++ taken e (step e p f) files

def order (e : Engine) : List String :=
  match found e with
  | .ok files => taken e (start e) files
  | .error _ => []

def pass (e : Engine) : Pass := ⟨e, order e⟩

theorem mem_note {p : Progress} {path message : String} {status : FileStatus} {o : Option Outcome} :
    .processed g ∈ (note p path status message o).outcomes ↔ o = some (.processed g) ∨ .processed g ∈ p.outcomes := by
  cases o <;> simp [note, eq_comm]

theorem processOne_processed (e : Engine) (p : Progress) (path : String)
    (h : .processed g ∈ (processOne e p path).outcomes) :
    .processed g ∈ p.outcomes ∨ ∃ cached, (FileScan.process e.setting p.world path).2 = .processed g cached := by
  have hworld : (note p path .processing "" none).world = p.world := rfl
  unfold processOne at h
  dsimp only at h
  rw [hworld] at h
  generalize FileScan.process e.setting p.world path = r at h
  obtain ⟨w, ended⟩ := r
  dsimp only at h
  split at h
  · simpa [mem_note] using h
  · split at h <;> simpa [mem_note, FileScan.Ended.outcome] using h
  · obtain h | h := mem_note.mp h
    · cases ended with
      | processed f cached =>
          cases h
          exact .inr ⟨cached, rfl⟩
      | skipped | failed => cases h
    · exact .inl (by simpa [mem_note] using h)

theorem step_of_takes_nil {f : Found} (h : takes p f = []) : (step e p f).world = p.world ∧
    ∀ g, .processed g ∈ (step e p f).outcomes → .processed g ∈ p.outcomes := by
  unfold step
  dsimp only
  split
  · exact ⟨rfl, fun _ h => h⟩
  cases f with
  | leftOut => exact ⟨rfl, by simp [mem_note]⟩
  | unchanged => exact ⟨rfl, by simp [mem_note, announce]⟩
  | candidate path =>
      cases hlive : p.context.isLive with
      | true => simp [takes, hlive] at h
      | false => exact ⟨rfl, fun _ h => h⟩

theorem step_of_takes {f : Found} {path : String} {paths : List String} (h : takes p f = path :: paths) :
    takes p f = [path] ∧ (step e p f).world = (FileScan.process e.setting p.world path).1 ∧
      ∀ g, .processed g ∈ (step e p f).outcomes → .processed g ∈ p.outcomes ∨
        ∃ cached, (FileScan.process e.setting p.world path).2 = .processed g cached := by
  cases f with
  | leftOut | unchanged => cases h
  | candidate x =>
      cases hlive : p.context.isLive with
      | false => simp [takes, hlive] at h
      | true =>
          have htakes : takes p (.candidate x) = [x] := by simp [takes, hlive]
          obtain ⟨rfl, -⟩ : x = path ∧ [] = paths := List.cons_eq_cons.mp (htakes.symm.trans h)
          have hstep : step e p (.candidate x) = processOne e (announce p x) x := by simp [step, hlive]
          rw [hstep]
          exact ⟨htakes, processOne_world e _ _, fun g hg => processOne_processed e (announce p x) x hg⟩

theorem foldl_step_takes (e : Engine) (files : List Found) (p : Progress) :
    (files.foldl (step e) p).world = FileScan.after e.setting p.world (taken e p files) ∧
    ∀ g, .processed g ∈ (files.foldl (step e) p).outcomes → .processed g ∈ p.outcomes ∨
      ∃ before path rest cached, taken e p files = before ++ path :: rest ∧
        (FileScan.process e.setting (FileScan.after e.setting p.world before) path).2 = .processed g cached := by
  induction files generalizing p with
  | nil => exact ⟨rfl, fun _ h => .inl h⟩
  | cons f files ih =>
      obtain ⟨hworld, hprocessed⟩ := ih (step e p f)
      rw [List.foldl_cons, taken]
      cases htakes : takes p f with
      | nil =>
          obtain ⟨hkept, hnone⟩ := step_of_takes_nil (e := e) htakes
          rw [List.nil_append, ← hkept]
          exact ⟨hworld, fun g h => (hprocessed g h).imp_left (hnone g)⟩
      | cons path paths =>
          obtain ⟨hone, hprocess, hfirst⟩ := step_of_takes (e := e) htakes
          rw [← htakes, hone, List.singleton_append]
          rw [hprocess] at hworld hprocessed
          refine ⟨hworld, fun g h => ?_⟩
          obtain h | ⟨before, path', rest, cached, htaken, h⟩ := hprocessed g h
          · obtain h | ⟨cached, h⟩ := hfirst g h
            · exact .inl h
            · exact .inr ⟨[], path, _, cached, rfl, h⟩
          · exact .inr ⟨path :: before, path', rest, cached, by rw [htaken]; rfl, h⟩

variable {e : Engine}

theorem tree_run (hcache : e.setting.plan.cache) : (run e).tree = e.pass.tree := by
  have hfinish : ∀ (p : Progress) (fatal : Bool) (error : Option RunError), (finish e p fatal error).tree =
      (p.world.cache.persist (fun _ => none) p.world.tree (cachePath e.setting.plan)).1 := by
    intro p fatal error
    unfold finish
    rw [if_pos hcache]
  have hpass : e.pass.world = FileScan.after e.setting e.world (order e) := rfl
  have hsetting : e.pass.setting = e.setting := rfl
  unfold run
  rw [Pass.tree, hpass, hsetting, order]
  split <;> rename_i hfound
  · rw [hfinish, hfound]
    rfl
  · rename_i files
    dsimp only
    rw [hfinish, hfound, (foldl_step_takes e files (start e)).1]
    rfl

/-- What a report says of a processed file was said when the pass visited it. -/
theorem visits_of_mem_report (h : g ∈ (run e).report.processed) : ∃ w path cached, e.pass.Visits w path ∧
    (FileScan.process e.setting w path).2 = .processed g cached := by
  unfold run at h
  split at h
  · simp [finish, Report.ofOutcomes, Report.sortBy, start] at h
  · rename_i files hfound
    have hmem : Outcome.processed g ∈ (files.foldl (step e) (start e)).outcomes := by
      rw [finish, Report.ofOutcomes] at h
      have h := (Report.sortBy_perm _ _).mem_iff.mp h
      obtain ⟨o, ho, hg⟩ := List.mem_filterMap.mp h
      cases o with
      | processed f =>
          cases hg
          exact List.mem_reverse.mp ho
      | skipped | failed => cases hg
    obtain h | ⟨before, path, rest, cached, htaken, h⟩ := (foldl_step_takes e files (start e)).2 g hmem
    · cases h
    · refine ⟨_, path, cached, ⟨before, rest, ?_, rfl⟩, h⟩
      rw [pass, order, hfound]
      exact htaken

end Engine

end SourceSurvey
