import Mathlib
import SourceSurvey.Proofs.Scan.Progress
import SourceSurvey.Proofs.Scan.Report
import SourceSurvey.Proofs.Scan.Walk

namespace SourceSurvey

namespace Pipeline

variable {ends : Endings} {n : Nat} {s : State} {files : List Found}

/-- What the gatherer has in its hands when no step is left. -/
theorem gathered_perm (h : Faithful ends) (hfiles : (files.map Found.path).Nodup) (hn : 0 < n)
    (hs : Relation.ReflTransGen (Step ends n) (start n files) s) (hhalted : s.Halted ends n) :
    s.gathered.Perm (files.map (Found.outcome ends)) := by
  have hbalance := (accounts_of_reaches h hfiles hs).balance
  rw [hhalted.due_eq_nil (.of_reaches hn hs) hn, State.delivered, hhalted.outcomes_eq_nil] at hbalance
  simpa using hbalance

theorem map_outcome_path (h : Faithful ends) (files : List Found) :
    (files.map (Found.outcome ends)).map Outcome.path = files.map Found.path := by
  rw [List.map_map]
  exact List.map_congr_left fun f _ => outcome_path h f

theorem report_eq (h : Faithful ends) (hfiles : (files.map Found.path).Nodup) (hn : 0 < n)
    (hs : Relation.ReflTransGen (Step ends n) (start n files) s) (hhalted : s.Halted ends n) (frame : Report.Frame) :
    s.report frame = .ofOutcomes frame false (files.map (Found.outcome ends)) := by
  have hgathered := gathered_perm h hfiles hn hs hhalted
  -- A report sorts what arrives by path, so nothing is left of the order of arrival.
  refine Report.ofOutcomes_eq_of_perm frame false hgathered ?_
  rwa [(hgathered.map Outcome.path).nodup_iff, map_outcome_path h]

/-- Every order of steps comes to an end, and whichever it was, the report holds one entry for each
file that the walk met and no other, and is the same. -/
theorem report_independent_of_schedule {t : FileTree} (ht : t.WellFormed) (r : Walk.Rules) (ends : Endings)
    (hends : Faithful ends) (workers : Nat) (hworkers : 0 < workers) (frame : Report.Frame) :
    (WellFounded fun s' s => Step ends workers s s') ∧
    ∀ s, Relation.ReflTransGen (Step ends workers) (start workers (Walk.files r t)) s → s.Halted ends workers →
      s.finished ∧ (s.report frame).entries.Perm ((Walk.files r t).map (Found.outcome ends)) ∧
      ((s.report frame).entries.map Outcome.path).Perm ((Walk.files r t).map Found.path) ∧
      ((s.report frame).entries.map Outcome.path).Nodup ∧ (s.report frame).Consistent ∧
      s.report frame = .ofOutcomes frame false ((Walk.files r t).map (Found.outcome ends)) := by
  refine ⟨wellFounded_step ends workers, fun s hs hhalted => ?_⟩
  have hfiles := Walk.nodup_files ht r
  have hentries : (s.report frame).entries.Perm ((Walk.files r t).map (Found.outcome ends)) :=
    (Report.entries_ofOutcomes frame false s.gathered).trans (gathered_perm hends hfiles hworkers hs hhalted)
  have hpaths := hentries.map Outcome.path
  rw [map_outcome_path hends] at hpaths
  refine ⟨hhalted.finished (.of_reaches hworkers hs) hworkers, hentries, hpaths, hpaths.nodup_iff.mpr hfiles,
    Report.consistent_ofOutcomes frame false s.gathered, report_eq hends hfiles hworkers hs hhalted frame⟩

def twoFiles : FileTree :=
  ⟨[("/in", .directory), ("/in/a.py", .file (utf8 "x = 1\n") 0), ("/in/b.py", .file (utf8 "y = 2\n") 0)]⟩

theorem wellFormed_twoFiles : twoFiles.WellFormed := by decide +kernel

def oneChanged : Walk.Rules :=
  { input := "/in", output := "/out", includeVendored := true, ignores := [], diff := .uncommitted, changed := ["a.py"] }

theorem files_oneChanged : Walk.files oneChanged twoFiles =
    [.candidate "a.py", .unchanged "b.py" "Not changed (git diff mode diffOnly)"] := by
  have hresolve : twoFiles.resolve false oneChanged.input = .ok "/in" := by cbv
  have hnames : twoFiles.names "/in" = ["a.py", "b.py"] := FileTree.names_eq (by decide) (by decide +kernel)
  have hchanged : Walk.ofFile oneChanged "a.py" = some (.candidate "a.py") := by decide +kernel
  have hunchanged : Walk.ofFile oneChanged "b.py" = some (.unchanged "b.py" "Not changed (git diff mode diffOnly)") := by
    decide +kernel
  have hfiles : Walk.files oneChanged twoFiles = Walk.below oneChanged twoFiles 4 "/in" "" := by
    rw [Walk.files, hresolve]
    rfl
  have ha : twoFiles.node? (FileTree.child "/in" "a.py") = some (.file (utf8 "x = 1\n") 0) := by decide +kernel
  have hb : twoFiles.node? (FileTree.child "/in" "b.py") = some (.file (utf8 "y = 2\n") 0) := by decide +kernel
  rw [hfiles, Walk.below, hnames]
  simp [ha, hb, hchanged, hunchanged]

theorem report_independent_of_schedule_twoFiles :
    let ends : Endings := fun path =>
      .processed { path, output := path ++ ".json", language := "python", size := 6, cache := "miss" } false
    ∀ s, Relation.ReflTransGen (Step ends 2) (start 2 (Walk.files oneChanged twoFiles)) s → s.Halted ends 2 →
      (s.report ⟨"/in", "/out", "", "", true, 2⟩).entries.Perm
        [.processed { path := "a.py", output := "a.py.json", language := "python", size := 6, cache := "miss" },
          .skipped ⟨"b.py", "excluded_by_git_diff", "Not changed (git diff mode diffOnly)"⟩] := by
  intro ends s hs hhalted
  have hreport := report_independent_of_schedule wellFormed_twoFiles oneChanged ends (fun _ _ => rfl) 2
    (by decide) ⟨"/in", "/out", "", "", true, 2⟩
  have hentries := (hreport.2 s hs hhalted).2.1
  rwa [files_oneChanged] at hentries

end Pipeline

end SourceSurvey
