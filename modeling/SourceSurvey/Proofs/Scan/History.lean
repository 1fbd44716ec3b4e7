import SourceSurvey.Proofs.Scan.Pass
import SourceSurvey.Proofs.Scan.Sources

namespace SourceSurvey

open SourceSurvey.Path

namespace Engine

variable {plan : ScanPlan} {x : String × CacheEntry}

/-- A scan begins with entries of the cache it found only. -/
theorem of_mem_openCache {made : FileTree} {ns : List String} (hns : AreNames ns) (hpath : cachePath plan = build true ns)
    (h : x ∈ (openCache plan made).cache.index) : ∃ reader : CacheManager, ∃ content modified,
      made.look true (cachePath plan) = .ok (.file content modified) ∧ x ∈ reader.indexOfContent content := by
  unfold openCache at h
  split at h
  · cases h
  dsimp only at h
  obtain ⟨content, modified, hlook, hx⟩ := CacheManager.of_mem_load h
  split at hlook
  · exfalso
    rw [hpath] at hlook
    cases hremove : made.remove (build true ns) with
    | ok t =>
        rw [hremove] at hlook
        exact FileTree.unreadable_of_remove hns hremove _ _ hlook
    | error e =>
        rw [hremove] at hlook
        exact FileTree.unreadable_of_remove_error hremove _ _ hlook
  · exact ⟨_, content, modified, hlook, hx⟩

end Engine

namespace Pass

variable {cache : String} {ps qs : List Pass} {p : Pass} {t : FileTree} {x : String × CacheEntry}

/-- A text that may turn up as the cache after some passes: an index that one of them saved, or no index at all. -/
def Genuine (ps : List Pass) (content : Bytes) : Prop :=
  (∃ p ∈ ps, p.world.cache.isEncodable ∧ content = p.world.cache.encode) ∨ ∀ m : CacheManager, m.indexOfContent content = []

theorem Genuine.mono {content : Bytes} (h : Genuine ps content) (hsub : ps ⊆ qs) : Genuine qs content := by
  obtain ⟨p, hp, hcontent⟩ | hnone := h
  · exact .inl ⟨p, hsub hp, hcontent⟩
  · exact .inr hnone

/-- If the index that a pass ends with has no written form, then the pass has written nothing else to its place. An
annotated copy could land there, through a link or where the cache was put among the copies, and the source that it
copies may hold the text of an index. -/
def LeavesCache (p : Pass) (t : FileTree) : Prop :=
  p.world.cache.isEncodable = false → ∀ content modified,
    p.world.tree.look true (Engine.cachePath p.setting.plan) = .ok (.file content modified) →
      ∃ before, t.look true (Engine.cachePath p.setting.plan) = .ok (.file content before)

/-- The tree after passes that share a cache, the last pass first. Between passes the tree is edited in any way that
makes up no index. -/
inductive History (cache : String) : List Pass → FileTree → Prop
  | start {t : FileTree} (ht : t.WellFormed)
      (hcache : ∀ content modified, t.look true cache = .ok (.file content modified) → Genuine [] content) :
      History cache [] t
  | edit {ps : List Pass} {t t' : FileTree} (h : History cache ps t) (ht' : t'.WellFormed)
      (hcache : ∀ content modified, t'.look true cache = .ok (.file content modified) →
        (∃ before, t.look true cache = .ok (.file content before)) ∨ Genuine ps content) : History cache ps t'
  | scan {ps : List Pass} {t t' : FileTree} {o : ScanOptions} {context : Context} {here : String} {e : Engine}
      (h : History cache ps t) (hhere : isAbsolute here) (hready : Engine.ofOptions o context here t = (t', .ok e))
      (hcache : e.setting.plan.cache) (hpath : Engine.cachePath e.setting.plan = cache) (order : List String)
      (hkept : (Pass.mk e order).LeavesCache t) : History cache (⟨e, order⟩ :: ps) (Pass.mk e order).tree

def Recorded (ps : List Pass) (x : String × CacheEntry) : Prop :=
  ∃ p ∈ ps, ∃ w, p.Visits w x.1 ∧ FileScan.MadeAt p.setting w x.1 x.2

theorem Recorded.mono (h : Recorded ps x) (hsub : ps ⊆ qs) : Recorded qs x := by
  obtain ⟨p, hp, h⟩ := h
  exact ⟨p, hsub hp, h⟩

theorem Recorded.offset (h : Recorded ps x) : x.2.modified.offset.tmod 60 = 0 := by
  obtain ⟨p, -, w, -, hmade⟩ := h
  cases hmade with
  | intro _ _ _ hmodified =>
      rw [hmodified]
      rfl

theorem recorded_after (hp : p ∈ ps) (hstart : ∀ x ∈ p.engine.world.cache.index, Recorded ps x) {before rest : List String}
    (horder : p.order = before ++ rest) (hx : x ∈ (FileScan.after p.setting p.engine.world before).cache.index) :
    Recorded ps x := by
  obtain hx | ⟨b, r, rfl, hmade⟩ := FileScan.index_after hx
  · exact hstart x hx
  · exact ⟨p, hp, _, ⟨b, r ++ rest, by simpa using horder, rfl⟩, hmade⟩

/-- What holds along a history: the cache that can be read is genuine, and passes began with recorded entries. -/
structure Sound (cache : String) (ps : List Pass) (t : FileTree) : Prop where
  wellFormed : t.WellFormed
  genuine : ∀ content modified, t.look true cache = .ok (.file content modified) → Genuine ps content
  started : ∀ p ∈ ps, ∀ x ∈ p.engine.world.cache.index, Recorded ps x

theorem Sound.recorded_of_ofOptions (h : Sound cache ps t) {o : ScanOptions} {context : Context} {here : String}
    {t' : FileTree} {e : Engine} (hhere : isAbsolute here) (hready : Engine.ofOptions o context here t = (t', .ok e))
    (hpath : Engine.cachePath e.setting.plan = cache) : ∀ x ∈ e.world.cache.index, Recorded ps x := by
  intro x hx
  obtain ⟨hcheck, -, made, hmade, hworld⟩ := Engine.of_ofOptions hready
  obtain ⟨ns, hnames, hrooted⟩ := Engine.cachePath_rooted hhere hcheck
  rw [hworld] at hx
  obtain ⟨reader, content, modified, hlook, hx⟩ := Engine.of_mem_openCache hnames hrooted hx
  rw [hpath] at hlook hrooted
  have hlook := FileTree.look_of_growsTo h.wellFormed (FileTree.growsTo_of_makeDirectory hmade)
    (hrooted ▸ isAbsolute_rooted _) (by simp) hlook
  obtain ⟨q, hq, hencodable, rfl⟩ | hnone := h.genuine content modified hlook
  · have hrecorded (y) (hy : y ∈ q.world.cache.index) : Recorded ps y :=
      recorded_after hq (h.started q hq) (List.append_nil _).symm hy
    have hx := CacheManager.of_mem_indexOfContent hencodable hx
    rw [CacheManager.kept_eq_index fun y hy => (hrecorded y hy).offset] at hx
    exact hrecorded x hx
  · rw [hnone] at hx
    cases hx

theorem Sound.scan (h : Sound cache ps t) {o : ScanOptions} {context : Context} {here : String} {t' : FileTree}
    {e : Engine} (hhere : isAbsolute here) (hready : Engine.ofOptions o context here t = (t', .ok e))
    (hpath : Engine.cachePath e.setting.plan = cache) (order : List String) (hkept : (Pass.mk e order).LeavesCache t) :
    Sound cache (⟨e, order⟩ :: ps) (Pass.mk e order).tree := by
  have hstarted := h.recorded_of_ofOptions hhere hready hpath
  have hready' := Engine.wellFormed_of_ofOptions h.wellFormed hhere hready
  obtain ⟨hcheck, rfl, -⟩ := Engine.of_ofOptions hready
  obtain ⟨-, out, hout, houtput⟩ := ScanOptions.of_check hhere hcheck
  obtain ⟨ns, hnames, hrooted⟩ := Engine.cachePath_rooted hhere hcheck
  have hworld : (Pass.mk e order).world.tree.WellFormed :=
    FileScan.wellFormed_after hready' (houtput ▸ isAbsolute_rooted out) order
  have hplan : Engine.cachePath (Pass.mk e order).setting.plan = build true ns := hrooted
  refine ⟨?_, ?_, ?_⟩
  · rw [tree, hplan]
    exact CacheManager.wellFormed_persist hworld hnames _ _
  · intro content modified hlook
    rw [← hpath, hrooted, tree, hplan] at hlook
    obtain hsaved | ⟨hencodable, hlook⟩ := CacheManager.look_persist hworld hnames hlook
    · exact .inl ⟨_, List.mem_cons_self, hsaved⟩
    · obtain ⟨before, hbefore⟩ := hkept hencodable content modified (hplan ▸ hlook)
      exact (h.genuine content before (hpath ▸ hbefore)).mono (List.subset_cons_self _ _)
  · intro p hp x hx
    obtain rfl | hp := List.mem_cons.mp hp
    · exact (hstarted x hx).mono (List.subset_cons_self _ _)
    · exact (h.started p hp x hx).mono (List.subset_cons_self _ _)

theorem History.sound (h : History cache ps t) : Sound cache ps t := by
  induction h with
  | start ht hcache => exact ⟨ht, hcache, by simp⟩
  | edit _ ht' hcache ih =>
      refine ⟨ht', fun content modified hlook => ?_, ih.started⟩
      obtain ⟨before, hbefore⟩ | hgenuine := hcache content modified hlook
      · exact ih.genuine content before hbefore
      · exact hgenuine
  | scan _ hhere hready _ hpath order hkept ih => exact ih.scan hhere hready hpath order hkept

/-- Every entry that a pass asks for was made by a pass. -/
theorem History.recorded (h : History cache ps t) (hp : p ∈ ps) {w : FileScan.World} {path : String}
    (hvisits : p.Visits w path) : ∀ x ∈ w.cache.index, Recorded ps x := by
  intro x hx
  obtain ⟨before, rest, horder, rfl⟩ := hvisits
  exact recorded_after hp (h.sound.started p hp) horder hx

end Pass

end SourceSurvey
