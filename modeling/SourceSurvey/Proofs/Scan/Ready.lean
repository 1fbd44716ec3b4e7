import SourceSurvey.Proofs.FileTree
import SourceSurvey.Scan.Engine

namespace SourceSurvey

open SourceSurvey.Path

namespace ScanOptions

variable {o : ScanOptions} {plan : ScanPlan} {here p : String}

theorem exists_absolute (hhere : isAbsolute here) (hp : p ≠ "") :
    ∃ ns, AreNames ns ∧ absolute here p = build true ns := by
  rw [absolute]
  split
  · exact exists_clean ‹_›
  · have hfilter : [here, p].filter (· ≠ "") = [here, p] := by
      have hne : here ≠ "" := by
        rintro rfl
        exact absurd hhere (by decide)
      simp [hne, hp]
    rw [join, hfilter]
    change ∃ ns, AreNames ns ∧ clean ("/".intercalate [here, p]) = build true ns
    rw [String.intercalate_cons_cons, String.intercalate_singleton, String.append_assoc]
    exact exists_clean (isAbsolute_append hhere _)

theorem paths_of_check (h : o.check here = .ok plan) :
    (o.input ≠ "" ∧ plan.input = absolute here o.input) ∧ (o.output ≠ "" ∧ plan.output = absolute here o.output) ∧
      plan.cacheFile = if o.cacheFile = "" then "" else absolute here o.cacheFile := by
  simp only [check, bind, Except.bind, pure, Except.pure, throw, throwThe, MonadExceptOf.throw] at h
  generalize (if o.cacheFile = "" then "" else absolute here o.cacheFile) = file at h ⊢
  generalize (if o.concurrency = 0 then (o.processors : Int) else o.concurrency) = concurrency at h
  repeat' split at h
  all_goals cases h
  exact ⟨⟨‹_›, rfl⟩, ⟨‹_›, rfl⟩, rfl⟩

theorem of_check (hhere : isAbsolute here) (h : o.check here = .ok plan) :
    (∃ ns, AreNames ns ∧ plan.input = build true ns) ∧ ∃ ns, AreNames ns ∧ plan.output = build true ns := by
  obtain ⟨⟨hinput, hin⟩, ⟨houtput, hout⟩, -⟩ := paths_of_check h
  rw [hin, hout]
  exact ⟨exists_absolute hhere hinput, exists_absolute hhere houtput⟩

theorem cacheFile_of_check (hhere : isAbsolute here) (h : o.check here = .ok plan) (hgiven : plan.cacheFile ≠ "") :
    ∃ ns, AreNames ns ∧ plan.cacheFile = build true ns := by
  obtain ⟨-, -, hfile⟩ := paths_of_check h
  rw [hfile] at hgiven ⊢
  split at hgiven
  · exact absurd rfl hgiven
  · rw [if_neg ‹_›]
    exact exists_absolute hhere ‹_›

end ScanOptions

namespace Engine

variable {o : ScanOptions} {context : Context} {here : String} {plan : ScanPlan} {t t' : FileTree} {e : Engine}

theorem of_prepareDirectories (h : prepareDirectories plan t = .ok t') : t.makeDirectory plan.output = .ok t' := by
  unfold prepareDirectories at h
  split at h
  · cases h
  · split at h
    · cases h
    · cases h
      assumption
  · cases h

theorem openCache_tree (plan : ScanPlan) (t : FileTree) :
    (openCache plan t).tree = t ∨ t.remove (cachePath plan) = .ok (openCache plan t).tree := by
  unfold openCache
  split
  · exact .inl rfl
  · dsimp only
    split
    · cases h : t.remove (cachePath plan) with
      | error => exact .inl rfl
      | ok t' => exact .inr rfl
    · exact .inl rfl

theorem of_ofOptions (h : ofOptions o context here t = (t', .ok e)) :
    o.check here = .ok e.setting.plan ∧ t' = e.world.tree ∧
      ∃ made, t.makeDirectory e.setting.plan.output = .ok made ∧ e.world = openCache e.setting.plan made := by
  unfold ofOptions at h
  split at h
  · cases h
  rename_i plan hcheck
  split at h
  · cases h
  rename_i made hmade
  split at h
  · cases h
  dsimp only at h
  split at h
  · cases h
  cases h
  exact ⟨hcheck, rfl, made, of_prepareDirectories hmade, rfl⟩

theorem cachePath_default {out : List String} (hout : AreNames out) (houtput : plan.output = build true out)
    (hdefault : plan.cacheFile = "") :
    AreNames (out ++ [CacheManager.fileName]) ∧ cachePath plan = build true (out ++ [CacheManager.fileName]) := by
  have hname : build false [CacheManager.fileName] = CacheManager.fileName := by decide
  refine ⟨by simp [hout]; decide, ?_⟩
  rw [cachePath, if_pos hdefault, houtput, ← hname, join_rooted hout (by decide) (by simp), hname]

theorem cachePath_rooted (hhere : isAbsolute here) (h : o.check here = .ok plan) :
    ∃ ns, AreNames ns ∧ cachePath plan = build true ns := by
  obtain ⟨-, out, hout, houtput⟩ := ScanOptions.of_check hhere h
  by_cases hgiven : plan.cacheFile = ""
  · exact ⟨_, cachePath_default hout houtput hgiven⟩
  · rw [cachePath, if_neg hgiven]
    exact ScanOptions.cacheFile_of_check hhere h hgiven

theorem wellFormed_of_ofOptions (ht : t.WellFormed) (hhere : isAbsolute here)
    (h : ofOptions o context here t = (t', .ok e)) : t'.WellFormed := by
  obtain ⟨hcheck, rfl, made, hmade, hworld⟩ := of_ofOptions h
  obtain ⟨-, out, -, houtput⟩ := ScanOptions.of_check hhere hcheck
  have hmade : made.WellFormed := ht.makeDirectory (houtput ▸ isAbsolute_rooted out) hmade
  rw [hworld]
  obtain htree | hremove := openCache_tree e.setting.plan made
  · rwa [htree]
  · exact hmade.remove hremove

/-- Of what stands when a scan is ready, only directories are new. -/
theorem node?_of_ofOptions {q : String} {x : FileNode} (h : ofOptions o context here t = (t', .ok e))
    (hx : t'.node? q = some x) (hne : x ≠ .directory) : t.node? q = some x := by
  obtain ⟨-, rfl, made, hmade, hworld⟩ := of_ofOptions h
  refine (FileTree.growsTo_of_makeDirectory hmade).of_node? ?_ hne
  rw [hworld] at hx
  obtain htree | hremove := openCache_tree e.setting.plan made
  · rw [htree] at hx
    exact hx
  · obtain ⟨_, _, -, -, -, htree⟩ := FileTree.of_remove hremove
    rw [htree] at hx
    exact FileTree.node?_of_node?_erase hx

theorem of_found {files : List Found} (h : e.found = .ok files) :
    ∃ lines, files = Walk.files (rules e lines) e.world.tree := by
  unfold found at h
  split at h
  · cases h
  · exact ⟨_, (Except.ok.inj h).symm⟩

end Engine

end SourceSurvey
