import SourceSurvey.Proofs.Cache.Index
import SourceSurvey.Proofs.FileTree.Follow

namespace SourceSurvey

open SourceSurvey.Path

theorem Path.isAbsolute_parent_rooted {ns : List String} (hns : AreNames ns) : isAbsolute (parent (build true ns)) := by
  obtain rfl | ⟨ks, n, rfl⟩ := List.eq_nil_or_concat' ns
  · decide
  · obtain ⟨hks, hn⟩ := areNames_append.mp hns
    rw [parent_rooted hks (by simpa using hn)]
    exact isAbsolute_rooted ks

namespace CacheManager

open FileTree

variable {m reader : CacheManager} {t : FileTree} {ns : List String} {n : String} {x : String × CacheEntry}

theorem of_mem_load {path : String} (h : x ∈ (reader.load t path).1.index) :
    ∃ content modified, t.look true path = .ok (.file content modified) ∧ x ∈ reader.indexOfContent content := by
  rw [load] at h
  split at h
  · exact ⟨_, _, ‹_›, h⟩
  · cases h
  · cases h
  · cases h

/-- The ways in which saving an index can go. An empty index leaves no file; otherwise the file is put in place once its
directory is there, or something is wrong. -/
inductive Saves (m : CacheManager) (trouble : PersistStep → Option FileCause) (t : FileTree) (path : String) :
    FileTree × Except CacheError Unit → Prop
  | removed {t' : FileTree} (hempty : m.index = []) (h : t.remove path = .ok t') : Saves m trouble t path (t', .ok ())
  | absent {e : FileError} (hempty : m.index = []) (h : t.remove path = .error e) : Saves m trouble t path (t, .ok ())
  | stuck (e : CacheError)
      (h : (∃ c, trouble .makeDirectory = some c) ∨ ∃ x, t.makeDirectory (parent path) = .error x) :
      Saves m trouble t path (t, .error e)
  | failed {made : FileTree} (hmade : t.makeDirectory (parent path) = .ok made) (e : CacheError)
      (h : (∃ step c, trouble step = some c) ∨ m.isEncodable = false ∨ made.look false path = .ok .directory ∨
        ∃ c, made.resolve false path = .error c) : Saves m trouble t path (made, .error e)
  | written {made : FileTree} {q : String} (hne : m.index ≠ []) (hencodable : m.isEncodable)
      (hmade : t.makeDirectory (parent path) = .ok made) (hfree : made.look false path ≠ .ok .directory)
      (hq : made.resolve false path = .ok q) : Saves m trouble t path (made.put q (.file m.encode 0), .ok ())

theorem saves_persist (m : CacheManager) (trouble : PersistStep → Option FileCause) (t : FileTree) (path : String) :
    Saves m trouble t path (m.persist trouble t path) := by
  unfold persist
  dsimp only
  split
  · rename_i hempty
    split
    · exact .removed (List.isEmpty_iff.mp hempty) ‹_›
    · exact .absent (List.isEmpty_iff.mp hempty) ‹_›
  rename_i hne
  split
  · rename_i hstuck
    apply Saves.stuck
    split at hstuck
    · exact .inl ⟨_, ‹_›⟩
    · exact .inr ⟨_, hstuck⟩
  rename_i made hmade
  have hmade : t.makeDirectory (parent path) = .ok made := by
    split at hmade
    · cases hmade
    · exact hmade
  split
  · exact .failed hmade _ (.inl ⟨_, _, ‹_›⟩)
  split
  · rename_i hflaw
    exact .failed hmade _ (.inr (.inl (isEncodable_of_flaw?_eq_some hflaw)))
  rename_i hflaw
  split
  · exact .failed hmade _ (.inl ⟨_, _, ‹_›⟩)
  · exact .failed hmade _ (.inl ⟨_, _, ‹_›⟩)
  split
  · exact .failed hmade _ (.inl ⟨_, _, ‹_›⟩)
  · exact .failed hmade _ (.inr (.inr (.inl ‹_›)))
  rename_i hfree
  split
  · exact .failed hmade _ (.inr (.inr (.inr ⟨_, ‹_›⟩)))
  · exact .written (by simpa using hne) (isEncodable_of_flaw?_eq_none hflaw) hmade hfree ‹_›

theorem persist_of_free {made : FileTree} {path q : String} (hne : m.index ≠ []) (hflaw : m.flaw? = none)
    (hmade : t.makeDirectory (parent path) = .ok made) (hfree : made.look false path ≠ .ok .directory)
    (hq : made.resolve false path = .ok q) :
    m.persist (fun _ => none) t path = (made.put q (.file m.encode 0), .ok ()) := by
  have hempty : ¬m.index.isEmpty = true := by simpa using hne
  rw [persist, if_neg hempty]
  simp only [hmade, hflaw, hq]

theorem wellFormed_persist (ht : t.WellFormed) (hns : AreNames ns) (m : CacheManager)
    (trouble : CacheManager.PersistStep → Option FileCause) :
    (m.persist trouble t (build true ns)).1.WellFormed := by
  have hsaves := CacheManager.saves_persist m trouble t (build true ns)
  have hparent := isAbsolute_parent_rooted hns
  generalize m.persist trouble t (build true ns) = result at hsaves
  cases hsaves with
  | removed _ hremove => exact ht.remove hremove
  | absent | stuck => exact ht
  | failed hmade => exact ht.makeDirectory hparent hmade
  | written _ _ hmade hfree hq =>
      have hplace := hasPlace_of_free (isAbsolute_rooted ns) hfree hq
      exact (ht.makeDirectory hparent hmade).put hplace fun hdir => absurd hdir (not_directory_of_free hfree hq)

/-- What is read where an index was saved: the index, or else what was there when it has no written form. -/
theorem look_persist (ht : t.WellFormed) (hns : AreNames ns) {content : Bytes} {modified : Int}
    (h : (m.persist (fun _ => none) t (build true ns)).1.look true (build true ns) = .ok (.file content modified)) :
    m.isEncodable ∧ content = m.encode ∨
      m.isEncodable = false ∧ t.look true (build true ns) = .ok (.file content modified) := by
  obtain rfl | ⟨ns, n, rfl⟩ := List.eq_nil_or_concat' ns
  · exact absurd h (unreadable_root _ content modified)
  have hsaves := saves_persist m (fun _ => none) t (build true (ns ++ [n]))
  obtain ⟨hdirs, hn⟩ := areNames_append.mp hns
  have hparent : parent (build true (ns ++ [n])) = build true ns := parent_rooted hdirs (by simpa using hn)
  generalize m.persist (fun _ => none) t (build true (ns ++ [n])) = result at h hsaves
  cases hsaves with
  | removed _ hremove => exact absurd h (unreadable_of_remove hns hremove content modified)
  | absent _ hremove => exact absurd h (unreadable_of_remove_error hremove content modified)
  | stuck _ hstuck =>
      rw [hparent, makeDirectory_above_file hns h] at hstuck
      obtain ⟨c, hc⟩ | ⟨x, hx⟩ := hstuck
      · cases hc
      · cases hx
  | failed hmade _ hfailed =>
      obtain ⟨step, c, hc⟩ | hencodable | hdir | ⟨c, hc⟩ := hfailed
      · cases hc
      · exact .inr ⟨hencodable, look_of_growsTo ht (growsTo_of_makeDirectory hmade) (isAbsolute_rooted _) (by simp) h⟩
      · exact absurd h (unreadable_of_directory hdir content modified)
      · exact absurd h (unreadable_of_resolve_error hc content modified)
  | @written made q _ hencodable _ hfree hq =>
      have hroot := (hasPlace_of_free (isAbsolute_rooted _) hfree hq).ne_root
      have hput : (made.put q (.file m.encode 0)).node? q = some (.file m.encode 0) := node?_put_self hroot _
      have hsame : ∀ r, r ≠ q → (made.put q (.file m.encode 0)).node? r = made.node? r := fun r hr =>
        node?_put_of_ne hroot _ hr
      have hnode := look_of_changed hq hsame (.inr ⟨_, _, hput⟩) h
      rw [hput] at hnode
      cases hnode
      exact .inl ⟨hencodable, rfl⟩

end CacheManager

end SourceSurvey
