import SourceSurvey.Proofs.Cache.Persist
import SourceSurvey.Proofs.Scan.File
import SourceSurvey.Scan.Engine

namespace SourceSurvey

open SourceSurvey.Path

namespace FileTree

variable {t t' : FileTree} {p q : String} {src targets : List String} {content data : Bytes} {modified : Int}

/-- A tree holds a file, and no target is the file's path or is reached through a link. -/
structure Keeps (t : FileTree) (src : List String) (content : Bytes) (modified : Int) (targets : List String) :
    Prop where
  wellFormed : t.WellFormed
  names : AreNames src
  isFile : t.node? (build true src) = some (.file content modified)
  apart : ∀ p ∈ targets, ∃ ns, AreNames ns ∧ ns ≠ src ∧ t.IsDirect ns ∧ p = build true ns

namespace Keeps

theorem contentAt (h : t.Keeps src content modified targets) : t.contentAt (build true src) = .ok content :=
  h.wellFormed.contentAt h.names h.isFile

theorem change (h : t.Keeps src content modified targets) (ht' : t'.WellFormed)
    (hfile : t'.node? (build true src) = some (.file content modified))
    (hlinks : ∀ q target, t'.node? q = some (.link target) → t.node? q = some (.link target)) :
    t'.Keeps src content modified targets := by
  refine ⟨ht', h.names, hfile, fun p hp => ?_⟩
  obtain ⟨ns, hns, hne, hdirect, rfl⟩ := h.apart p hp
  exact ⟨ns, hns, hne, hdirect.mono hlinks, rfl⟩

theorem makeDirectory (h : t.Keeps src content modified targets) (hp : isAbsolute p)
    (hmade : t.makeDirectory p = .ok t') : t'.Keeps src content modified targets :=
  have hgrows := growsTo_of_makeDirectory hmade
  h.change (h.wellFormed.makeDirectory hp hmade) (hgrows.node? h.isFile) fun _ _ hlink =>
    hgrows.of_node? hlink (by simp)

theorem ne_of_resolve (h : t.Keeps src content modified targets) (hp : p ∈ targets) {followLast : Bool}
    (hq : t.resolve followLast p = .ok q) : build true src ≠ q := by
  obtain ⟨ns, hns, hne, hdirect, rfl⟩ := h.apart p hp
  rw [eq_of_resolve hns hdirect hq, ne_eq, rooted_inj h.names hns]
  exact hne.symm

theorem isAbsolute (h : t.Keeps src content modified targets) (hp : p ∈ targets) : isAbsolute p := by
  obtain ⟨ns, -, -, -, rfl⟩ := h.apart p hp
  exact isAbsolute_rooted _

theorem isAbsolute_parent (h : t.Keeps src content modified targets) (hp : p ∈ targets) :
    Path.isAbsolute (parent p) := by
  obtain ⟨ns, hns, -, -, rfl⟩ := h.apart p hp
  exact isAbsolute_parent_rooted hns

theorem put (h : t.Keeps src content modified targets) (hp : p ∈ targets) {followLast : Bool}
    (hq : t.resolve followLast p = .ok q) (hfree : t.node? q ≠ some .directory) (data : Bytes) (m : Int) :
    (t.put q (.file data m)).Keeps src content modified targets := by
  obtain hdir | hplace := hasPlace_of_resolve (h.isAbsolute hp) hq
  · exact absurd hdir hfree
  refine h.change (h.wellFormed.put hplace fun hdir => absurd hdir hfree) ?_ fun k target hlink => ?_
  · rw [node?_put_of_ne hplace.ne_root _ (h.ne_of_resolve hp hq), h.isFile]
  · rw [node?_put hplace.ne_root] at hlink
    split at hlink
    · cases hlink
    · exact hlink

theorem remove (h : t.Keeps src content modified targets) (hp : p ∈ targets) (hremove : t.remove p = .ok t') :
    t'.Keeps src content modified targets := by
  have ht' := h.wellFormed.remove hremove
  obtain ⟨q, x, hq, -, -, rfl⟩ := of_remove hremove
  refine h.change ht' ?_ fun _ _ => node?_of_node?_erase
  rw [node?_erase_of_ne (h.ne_of_resolve hp hq), h.isFile]

theorem write (h : t.Keeps src content modified targets) (hp : p ∈ targets)
    (hwrite : FileScan.write t p data = .ok t') : t'.Keeps src content modified targets := by
  unfold FileScan.write at hwrite
  split at hwrite
  · cases hwrite
  rename_i made hmade
  split at hwrite
  · cases hwrite
  rename_i written hset
  cases hwrite
  obtain ⟨q, hq, hfree, rfl⟩ := of_setContent hset
  exact (h.makeDirectory (h.isAbsolute_parent hp) hmade).put hp hq hfree data 0

theorem persist (h : t.Keeps src content modified targets) (hp : p ∈ targets) (m : CacheManager)
    (trouble : CacheManager.PersistStep → Option FileCause) :
    (m.persist trouble t p).1.Keeps src content modified targets := by
  have hsaves := CacheManager.saves_persist m trouble t p
  generalize m.persist trouble t p = result at hsaves
  cases hsaves with
  | removed _ hremove => exact h.remove hp hremove
  | absent | stuck => exact h
  | failed hmade => exact h.makeDirectory (h.isAbsolute_parent hp) hmade
  | written _ _ hmade hfree hq =>
      exact (h.makeDirectory (h.isAbsolute_parent hp) hmade).put hp hq (not_directory_of_free hfree hq) _ _

end Keeps

end FileTree

namespace FileScan

variable {s : Setting} {w : World} {path : String} {src paths : List String} {content : Bytes} {modified : Int}

def targets (s : Setting) (path : String) : List String :=
  join [s.plan.output, outputName s path] :: if s.plan.writeDocumented then [join [s.plan.output, path]] else []

theorem keeps_store (hw : w.tree.Keeps src content modified paths) (hpath : FileScan.targets s path ⊆ paths)
    (m : Instant) (c : Bytes) (a : Analysis) : (store s w path m c a).1.tree.Keeps src content modified paths := by
  unfold store
  dsimp only
  split
  · exact hw
  rename_i tree hresult
  have htree : tree.Keeps src content modified paths := hw.write (hpath (by simp [FileScan.targets])) hresult
  split
  · rename_i hwanted
    have hdocumented := (Bool.and_eq_true_iff.mp hwanted).1
    split
    · exact htree
    · rename_i copied hcopy
      exact htree.write (hpath (by simp [FileScan.targets, hdocumented])) hcopy
  · exact htree

theorem keeps_conclude (hw : w.tree.Keeps src content modified paths) (hpath : FileScan.targets s path ⊆ paths)
    (m : Instant) (c : Bytes) (result : Except AnalysisError Analysis) :
    (conclude s w path m c result).1.tree.Keeps src content modified paths := by
  cases result with
  | error e =>
      obtain ⟨ended, hconclude, -⟩ := conclude_error s w path m c e
      rwa [hconclude]
  | ok a =>
      rw [conclude]
      split
      · exact hw
      split
      · exact hw
      · exact keeps_store hw hpath m c a

theorem keeps_process (hw : w.tree.Keeps src content modified paths) (hpath : FileScan.targets s path ⊆ paths) :
    (process s w path).1.tree.Keeps src content modified paths := by
  rw [process]
  split
  · exact hw
  · split
    · exact hw
    split
    · exact hw
    · exact keeps_conclude hw hpath _ _ _
  · exact hw

end FileScan

namespace Engine

variable {e : Engine} {p : Progress} {files : List Found} {src paths : List String} {content : Bytes} {modified : Int}

theorem processOne_world (e : Engine) (p : Progress) (path : String) :
    (processOne e p path).world = (FileScan.process e.setting p.world path).1 := by
  have hworld : (note p path .processing "" none).world = p.world := rfl
  unfold processOne
  dsimp only
  rw [hworld]
  split
  · rfl
  · split <;> rfl
  · rfl

theorem step_world (e : Engine) (p : Progress) (f : Found) : (step e p f).world = p.world ∨
    ∃ path, f = .candidate path ∧ (step e p f).world = (FileScan.process e.setting p.world path).1 := by
  unfold step
  dsimp only
  split
  · exact .inl rfl
  split
  · exact .inl rfl
  · exact .inl rfl
  · split
    · exact .inr ⟨_, rfl, processOne_world e _ _⟩
    · exact .inl rfl

theorem keeps_step {f : Found} (hp : p.world.tree.Keeps src content modified paths)
    (hf : ∀ path, f = .candidate path → FileScan.targets e.setting path ⊆ paths) :
    (step e p f).world.tree.Keeps src content modified paths := by
  obtain hworld | ⟨path, hpath, hworld⟩ := step_world e p f
  · rwa [hworld]
  · rw [hworld]
    exact FileScan.keeps_process hp (hf path hpath)

theorem keeps_foldl_step (hp : p.world.tree.Keeps src content modified paths)
    (hfiles : ∀ path, .candidate path ∈ files → FileScan.targets e.setting path ⊆ paths) :
    (files.foldl (step e) p).world.tree.Keeps src content modified paths := by
  induction files generalizing p with
  | nil => exact hp
  | cons f files ih =>
      refine ih (keeps_step hp fun path hpath => ?_) fun path hpath => hfiles path (List.mem_cons_of_mem f hpath)
      exact hfiles path (hpath ▸ List.mem_cons_self)

def targets (e : Engine) (files : List Found) : List String :=
  (if e.setting.plan.cache then [cachePath e.setting.plan] else []) ++ files.flatMap fun
    | .candidate path => FileScan.targets e.setting path
    | _ => []

theorem targets_subset {path : String} (h : .candidate path ∈ files) :
    FileScan.targets e.setting path ⊆ e.targets files := fun _ hp =>
  List.mem_append_right _ (List.mem_flatMap.mpr ⟨_, h, hp⟩)

theorem keeps_run (hfound : e.found = .ok files) (h : e.world.tree.Keeps src content modified (e.targets files)) :
    (run e).tree.Keeps src content modified (e.targets files) := by
  have hp : (files.foldl (step e) (start e)).world.tree.Keeps src content modified (e.targets files) :=
    keeps_foldl_step h fun _ => targets_subset
  unfold run
  rw [hfound]
  dsimp only
  unfold finish
  dsimp only
  split
  · rename_i hcache
    exact hp.persist (by simp [Engine.targets, hcache]) _ _
  · exact hp

end Engine

end SourceSurvey
