import Mathlib
import SourceSurvey.Proofs.Cache.Persist

namespace SourceSurvey

open SourceSurvey.Path

namespace CacheManager

open FileTree

variable {m : CacheManager} {trouble : PersistStep → Option FileCause} {t : FileTree} {ns : List String} {n : String}
  {file : Option Bytes}

/-- What the file of an index holds: a content, or nothing that can be read. A file whose path leads through it cannot
be reached any more. -/
def Holds (t : FileTree) (ns : List String) (n : String) : Option Bytes → Prop
  | none => t.Unreadable (build true (ns ++ [n]))
  | some content => t.look true (build true (ns ++ [n])) = .ok (.file content 0) ∨ t.Blocked ns n

theorem parent_of_names (hns : AreNames (ns ++ [n])) : parent (build true (ns ++ [n])) = build true ns := by
  obtain ⟨hdirs, hn⟩ := areNames_append.mp hns
  exact parent_rooted hdirs (by simpa using hn)

theorem holds_persist (hns : AreNames (ns ++ [n])) (h : (m.persist trouble t (build true (ns ++ [n]))).2 = .ok ()) :
    (m.index = [] ∧ Holds (m.persist trouble t (build true (ns ++ [n]))).1 ns n none) ∨
      (m.index ≠ [] ∧ m.isEncodable ∧ Holds (m.persist trouble t (build true (ns ++ [n]))).1 ns n (some m.encode)) := by
  have hsaves := saves_persist m trouble t (build true (ns ++ [n]))
  generalize m.persist trouble t (build true (ns ++ [n])) = result at h hsaves
  cases hsaves with
  | removed hempty hremove => exact .inl ⟨hempty, unreadable_of_remove hns hremove⟩
  | absent hempty hremove => exact .inl ⟨hempty, unreadable_of_remove_error hremove⟩
  | stuck | failed => cases h
  | written hne hencodable _ hfree hq =>
      have hroot := (hasPlace_of_free (isAbsolute_rooted _) hfree hq).ne_root
      exact .inr ⟨hne, hencodable, look_of_put hns hroot hq⟩

theorem holds_persist_error (ht : t.WellFormed) (hns : AreNames (ns ++ [n])) (hfile : Holds t ns n file) {e : CacheError}
    (h : (m.persist trouble t (build true (ns ++ [n]))).2 = .error e) :
    Holds (m.persist trouble t (build true (ns ++ [n]))).1 ns n file := by
  have hsaves := saves_persist m trouble t (build true (ns ++ [n]))
  generalize m.persist trouble t (build true (ns ++ [n])) = result at h hsaves
  cases hsaves with
  | removed | absent | written => cases h
  | stuck => exact hfile
  | failed hmade =>
      have hmade' := hmade
      rw [parent_of_names hns] at hmade'
      cases file with
      | none =>
          intro content modified hlook
          exact hfile content modified
            (look_of_growsTo ht (growsTo_of_makeDirectory hmade) (isAbsolute_rooted _) (by simp) hlook)
      | some content =>
          obtain hlook | hblocked := hfile
          · rw [makeDirectory_above_file hns hlook] at hmade'
            exact .inl (Except.ok.inj hmade' ▸ hlook)
          · obtain ⟨e, he⟩ := hblocked.makes
            rw [he] at hmade'
            cases hmade'

theorem load_of_unreadable {path : String} (h : t.Unreadable path) : (m.load t path).1 = { m with index := [] } := by
  rw [load]
  split
  · exact absurd ‹_› (h _ _)
  · rfl
  · rfl
  · rfl

theorem load_of_holds {content : Bytes} (h : Holds t ns n (some content)) :
    m.load t (build true (ns ++ [n])) = ({ m with index := m.indexOfContent content }, .ok ()) ∨
      ∃ e, m.load t (build true (ns ++ [n])) = ({ m with index := [] }, .error e) := by
  obtain h | h := h
  · left
    rw [load, h]
  · right
    rw [load, h.look]
    exact ⟨_, rfl⟩

theorem load_persist_first (reader : CacheManager) (hne : m.index ≠ []) (hflaw : m.flaw? = none)
    (hnodup : (m.index.map (·.1)).Nodup) (hformat : reader.format = m.format) :
    (m.persist (fun _ => none) {} "/c").2 = .ok () ∧ ∃ read, read.Perm m.kept ∧
      reader.load (m.persist (fun _ => none) {} "/c").1 "/c" =
        ({ reader with index := if reader.compatible schemaVersion m.tool then read else [] }, .ok ()) := by
  have hsaved : m.persist (fun _ => none) {} "/c" = (FileTree.put {} "/c" (.file m.encode 0), .ok ()) :=
    persist_of_free hne hflaw (by cbv) (by cbv; simp) (by cbv)
  obtain ⟨read, hperm, hread⟩ := indexOfContent_encode hformat (isEncodable_of_flaw?_eq_none hflaw) hnodup
  have hlook (content : Bytes) : (FileTree.put {} "/c" (.file content 0)).look true "/c" = .ok (.file content 0) := by
    cbv
  rw [hsaved]
  refine ⟨rfl, read, hperm, ?_⟩
  rw [load, hlook]
  simp only [hread]

/-- Loading fails only where a path cannot be followed for another reason than that something is missing. -/
theorem load_error {path : String} {e : CacheError} (h : (m.load t path).2 = .error e) :
    (m.load t path).1 = { m with index := [] } ∧ ∃ c, c ≠ .notFound ∧ t.look true path = .error c := by
  rw [load] at h ⊢
  split at h
  · cases h
  · cases h
  · cases h
  · rename_i c hne hlook
    exact ⟨rfl, c, hne, hlook⟩

/-- Two tool versions agree if they are the same or one of them agrees with all. -/
def Agree (a b : String) : Prop := a = b ∨ a = anyTool ∨ b = anyTool

instance (a b : String) : Decidable (Agree a b) := inferInstanceAs (Decidable (_ ∨ _ ∨ _))

theorem compatible_iff {tool : String} : m.compatible schemaVersion tool ↔ Agree tool m.tool := by
  simp only [compatible, Agree, decide_true, Bool.true_and, Bool.or_eq_true, decide_eq_true_eq]
  tauto

structure Update where
  path : String
  modified : Timestamp
  source : String
  settings : String
  output : String
  tool : String

def Update.entry (u : Update) : CacheEntry := ⟨u.modified, u.source, u.settings, u.output, schemaVersion, u.tool⟩

def Update.kept (f : CacheFormat) (u : Update) : Update := { u with modified := f.keep u.modified }

/-- The last update of a path, of updates that stand with the last one first. -/
def latest? (updates : List Update) (path : String) : Option Update := updates.find? (·.path = path)

theorem latest?_kept (f : CacheFormat) (updates : List Update) (path : String) :
    latest? (updates.map (·.kept f)) path = (latest? updates path).map (·.kept f) := by
  rw [latest?, List.find?_map]
  rfl

/-- A manager with the history of its index, the last update first. -/
structure Holder where
  manager : CacheManager
  updates : List Update

/-- Whose index a file holds after an attempt to save one. -/
def savedBy (k : Holder) (saved : Option Holder) : Except CacheError Unit → Option Holder
  | .ok () => if k.manager.index = [] then none else some k
  | .error _ => saved

def loadedUpdates (m : CacheManager) : Option Holder → List Update
  | some k => if Agree k.manager.tool m.tool then k.updates.map (·.kept m.format) else []
  | none => []

/-- What managers of one format come to that share a file which only they write: the managers with the histories of
their indexes, the tree, and whose index the file holds. -/
inductive Shares (format : CacheFormat) (path : String) : List Holder → FileTree → Option Holder → Prop
  | start {t : FileTree} (ht : t.WellFormed) (hnone : t.Unreadable path) : Shares format path [] t none
  | create {ks : List Holder} {t : FileTree} {saved : Option Holder} (h : Shares format path ks t saved)
      (tool : String) {name : String} (hname : .ofName name = format) :
      Shares format path (⟨.ofSettings tool name, []⟩ :: ks) t saved
  | update {before after : List Holder} {k : Holder} {t : FileTree} {saved : Option Holder}
      (h : Shares format path (before ++ k :: after) t saved) (p : String) (modified : Timestamp)
      (source settings output : String) :
      Shares format path (before ++ ⟨k.manager.update p modified source settings output,
        ⟨p, modified, source, settings, output, k.manager.tool⟩ :: k.updates⟩ :: after) t saved
  | persist {ks : List Holder} {k : Holder} {t : FileTree} {saved : Option Holder} (h : Shares format path ks t saved)
      (hk : k ∈ ks) (trouble : PersistStep → Option FileCause) :
      Shares format path ks (k.manager.persist trouble t path).1 (savedBy k saved (k.manager.persist trouble t path).2)
  | load {before after : List Holder} {k : Holder} {t : FileTree} {saved : Option Holder}
      (h : Shares format path (before ++ k :: after) t saved) (hok : (k.manager.load t path).2 = .ok ()) :
      Shares format path (before ++ ⟨(k.manager.load t path).1, loadedUpdates k.manager saved⟩ :: after) t saved
  | loadFails {before after : List Holder} {k : Holder} {t : FileTree} {saved : Option Holder} {e : CacheError}
      (h : Shares format path (before ++ k :: after) t saved) (herror : (k.manager.load t path).2 = .error e) :
      Shares format path (before ++ ⟨(k.manager.load t path).1, []⟩ :: after) t saved

variable {format : CacheFormat} {k : Holder} {ks : List Holder} {saved : Option Holder}

structure Holder.Sound (format : CacheFormat) (k : Holder) : Prop where
  format : k.manager.format = format
  nodup : (k.manager.index.map (·.1)).Nodup
  lookup : ∀ path, k.manager.index.lookup path = (latest? k.updates path).map Update.entry

theorem Holder.Sound.empty {m : CacheManager} (hformat : m.format = format) (hindex : m.index = []) :
    Holder.Sound format ⟨m, []⟩ := by
  refine ⟨hformat, ?_, fun path => ?_⟩
  · rw [hindex]
    exact List.nodup_nil
  · rw [hindex]
    rfl

theorem Holder.Sound.update (h : k.Sound format) (p : String) (modified : Timestamp) (source settings output : String) :
    Holder.Sound format ⟨k.manager.update p modified source settings output,
      ⟨p, modified, source, settings, output, k.manager.tool⟩ :: k.updates⟩ := by
  refine ⟨h.format, ?_, fun path => ?_⟩
  · rw [CacheManager.update, List.map_append, List.nodup_append]
    exact ⟨h.nodup.sublist (List.filter_sublist.map _), by simp, by simp⟩
  · rw [lookup_update, h.lookup]
    by_cases hpath : path = p
    · subst hpath
      simp [latest?, Update.entry]
    · simp [latest?, hpath, Ne.symm hpath]

theorem Holder.Sound.load (h : k.Sound format) (hencodable : k.manager.isEncodable) (hformat : m.format = format) :
    (∃ read, read.Perm k.manager.kept ∧
      m.indexOfContent k.manager.encode = if Agree k.manager.tool m.tool then read else []) ∧
    Holder.Sound format ⟨{ m with index := m.indexOfContent k.manager.encode }, loadedUpdates m (some k)⟩ := by
  obtain ⟨read, hperm, hread⟩ := indexOfContent_encode (hformat.trans h.format.symm) hencodable h.nodup
  simp only [compatible_iff] at hread
  refine ⟨⟨read, hperm, hread⟩, ?_⟩
  rw [hread, loadedUpdates]
  by_cases hagree : Agree k.manager.tool m.tool
  · rw [if_pos hagree, if_pos hagree]
    have hnodup : (read.map (·.1)).Nodup := by
      rw [(hperm.map (·.1)).nodup_iff, kept, keys_keptIn]
      exact h.nodup
    refine ⟨hformat, hnodup, fun path => ?_⟩
    rw [Keyed.lookup_of_perm hnodup hperm path, kept, lookup_keptIn, h.lookup, latest?_kept, h.format, hformat,
      Option.map_map, Option.map_map]
    rfl
  · rw [if_neg hagree, if_neg hagree]
    exact Holder.Sound.empty hformat rfl

/-- What holds of managers that share a file, and of the file. -/
structure Sound (format : CacheFormat) (ns : List String) (n : String) (ks : List Holder) (t : FileTree)
    (saved : Option Holder) : Prop where
  wellFormed : t.WellFormed
  holders : ∀ k ∈ ks, k.Sound format
  encodable : ∀ k ∈ saved, k.Sound format ∧ k.manager.isEncodable
  holds : Holds t ns n (saved.map (·.manager.encode))

theorem Sound.replace {before after : List Holder} {k' : Holder} (h : Sound format ns n (before ++ k :: after) t saved)
    (hk' : k.Sound format → k'.Sound format) : Sound format ns n (before ++ k' :: after) t saved := by
  refine ⟨h.wellFormed, fun x hx => ?_, h.encodable, h.holds⟩
  rw [List.mem_append, List.mem_cons] at hx
  rcases hx with hx | rfl | hx
  · exact h.holders x (List.mem_append_left _ hx)
  · exact hk' (h.holders k (by simp))
  · exact h.holders x (by simp [hx])

theorem Sound.persist (hns : AreNames (ns ++ [n])) (h : Sound format ns n ks t saved) (hk : k ∈ ks)
    (trouble : PersistStep → Option FileCause) :
    Sound format ns n ks (k.manager.persist trouble t (build true (ns ++ [n]))).1
      (savedBy k saved (k.manager.persist trouble t (build true (ns ++ [n]))).2) := by
  have hwellFormed := wellFormed_persist h.wellFormed hns k.manager trouble
  cases hresult : (k.manager.persist trouble t (build true (ns ++ [n]))).2 with
  | error e => exact ⟨hwellFormed, h.holders, h.encodable, holds_persist_error h.wellFormed hns h.holds hresult⟩
  | ok =>
      obtain ⟨hempty, hholds⟩ | ⟨hne, hencodable, hholds⟩ := holds_persist hns hresult
      · rw [savedBy, if_pos hempty]
        exact ⟨hwellFormed, h.holders, by simp, hholds⟩
      · rw [savedBy, if_neg hne]
        refine ⟨hwellFormed, h.holders, ?_, hholds⟩
        rintro x ⟨⟩
        exact ⟨h.holders k hk, hencodable⟩

theorem Sound.load_empty (h : Sound format ns n ks t none) : (m.load t (build true (ns ++ [n]))).1 = { m with index := [] } :=
  load_of_unreadable h.holds

theorem Shares.sound (hns : AreNames (ns ++ [n])) (h : Shares format (build true (ns ++ [n])) ks t saved) :
    Sound format ns n ks t saved := by
  induction h with
  | start ht hnone => exact ⟨ht, by simp, by simp, hnone⟩
  | create _ tool hname ih =>
      refine ⟨ih.wellFormed, ?_, ih.encodable, ih.holds⟩
      rw [List.forall_mem_cons]
      exact ⟨Holder.Sound.empty hname rfl, ih.holders⟩
  | update _ p modified source settings output ih => exact ih.replace fun h => h.update p modified source settings output
  | persist _ hk trouble ih => exact ih.persist hns hk trouble
  | @load before after k t saved _ hok ih =>
      apply ih.replace
      intro hsound
      cases saved with
      | none =>
          rw [ih.load_empty]
          exact Holder.Sound.empty hsound.format rfl
      | some x =>
          obtain ⟨hx, hencodable⟩ := ih.encodable x rfl
          obtain hload | ⟨e, hload⟩ := load_of_holds ih.holds
          · rw [hload]
            exact (hx.load hencodable hsound.format).2
          · rw [hload] at hok
            cases hok
  | loadFails _ herror ih =>
      apply ih.replace
      intro hsound
      rw [(load_error herror).1]
      exact Holder.Sound.empty hsound.format rfl

/-- A manager answers from the last update of a path in the history of its index, if that recorded the same content
and settings and the versions agree. It loads what was saved last, as the form of the file keeps it, if the versions
agree, and nothing otherwise. Only a path that cannot be followed keeps it from that. -/
theorem check_iff_latest (hns : AreNames (ns ++ [n])) (h : Shares format (build true (ns ++ [n])) ks t saved)
    (hk : k ∈ ks) :
    (∀ path modified source settings output, k.manager.check path modified source settings = some output ↔
      ∃ u, latest? k.updates path = some u ∧ u.modified.instant = modified ∧ u.source = source ∧
        u.settings = settings ∧ u.output = output ∧ Agree u.tool k.manager.tool) ∧
    ((k.manager.load t (build true (ns ++ [n]))).2 = .ok () →
      match saved with
      | none => (k.manager.load t (build true (ns ++ [n]))).1.index = []
      | some x => ∃ read, read.Perm x.manager.kept ∧ (k.manager.load t (build true (ns ++ [n]))).1.index =
          if Agree x.manager.tool k.manager.tool then read else []) ∧
    ∀ e, (k.manager.load t (build true (ns ++ [n]))).2 = .error e →
      (k.manager.load t (build true (ns ++ [n]))).1.index = [] ∧
        (∃ c, c ≠ .notFound ∧ t.look true (build true (ns ++ [n])) = .error c) ∧ (saved.isSome → t.Blocked ns n) := by
  have hsound := h.sound hns
  have hholder := hsound.holders k hk
  refine ⟨fun path modified source settings output => ?_, fun hok => ?_, fun e he => ?_⟩
  · rw [check, hholder.lookup]
    cases latest? k.updates path with
    | none => simp
    | some u =>
        simp only [Option.map_some, Update.entry, compatible_iff, Bool.and_eq_true, decide_eq_true_eq,
          Option.ite_none_right_eq_some, Option.some.injEq, exists_eq_left']
        tauto
  · cases saved with
    | none => rw [hsound.load_empty]
    | some x =>
        obtain ⟨hx, hencodable⟩ := hsound.encodable x rfl
        obtain hload | ⟨e, hload⟩ := load_of_holds (m := k.manager) hsound.holds
        · rw [hload]
          exact (hx.load hencodable hholder.format).1
        · rw [hload] at hok
          cases hok
  · obtain ⟨hindex, c, hc, hlook⟩ := load_error he
    refine ⟨by rw [hindex], ⟨c, hc, hlook⟩, fun hsome => ?_⟩
    obtain ⟨x, rfl⟩ := Option.isSome_iff_exists.mp hsome
    obtain hfound | hblocked := hsound.holds
    · rw [hfound] at hlook
      cases hlook
    · exact hblocked

def ahead : CacheManager := (ofSettings "dev" "json").update "a.py" ⟨0, 1172⟩ "s" "t" "o"

def reloaded : CacheManager × Except CacheError Unit :=
  (ofSettings "dev" "json").load (ahead.persist (fun _ => none) {} "/c").1 "/c"

/-- In JSON the instant moves by the odd seconds of its offset, so that the file is not known again by the time that
was recorded; and nothing is loaded by way of a link that the index has replaced. -/
theorem check_ne_recorded :
    ((ahead.persist (fun _ => none) {} "/c").2 = .ok () ∧ reloaded.2 = .ok () ∧
      ahead.check "a.py" 0 "s" "t" = some "o" ∧ reloaded.1.check "a.py" 0 "s" "t" = none ∧
      reloaded.1.check "a.py" 32000000000 "s" "t" = some "o") ∧
    (ahead.persist (fun _ => none) ⟨[("/c", .link "/")]⟩ "/c/c").2 = .ok () ∧
      (ahead.load (ahead.persist (fun _ => none) ⟨[("/c", .link "/")]⟩ "/c/c").1 "/c/c").2 =
        .error (.load "/c/c" ⟨"open", "/c/c", .notDirectory⟩) ∧
      (ahead.load (ahead.persist (fun _ => none) ⟨[("/c", .link "/")]⟩ "/c/c").1 "/c/c").1.index = [] := by
  have hne : ahead.index ≠ [] := by decide
  have hflaw : ahead.flaw? = none := by decide +kernel
  have hway : ahead.persist (fun _ => none) ⟨[("/c", .link "/")]⟩ "/c/c" =
      (FileTree.put ⟨[("/c", .link "/")]⟩ "/c" (.file ahead.encode 0), .ok ()) :=
    persist_of_free hne hflaw (by cbv) (by cbv; simp) (by cbv)
  have hlook (content : Bytes) : (FileTree.put ⟨[("/c", .link "/")]⟩ "/c" (.file content 0)).look true "/c/c" =
      .error .notDirectory := by cbv
  obtain ⟨hsaved, read, hperm, hloaded⟩ := load_persist_first (ofSettings "dev" "json") hne hflaw (by decide)
    (by decide)
  obtain rfl : read = [("a.py", ⟨⟨32000000000, 1140⟩, "s", "t", "o", "1", "dev"⟩)] := List.perm_singleton.mp hperm
  rw [← reloaded] at hloaded
  refine ⟨⟨hsaved, ?_, by decide, ?_, ?_⟩, ?_⟩
  · rw [hloaded]
  · rw [hloaded]
    decide
  · rw [hloaded]
    decide
  · rw [hway, load, hlook]
    exact ⟨rfl, rfl, rfl⟩

namespace Chain

def recorded : Update := ⟨"a.py", .universal 0, "s", "t", "o", "v1"⟩

def writer : CacheManager := (ofSettings "v1" "gob").update "a.py" (.universal 0) "s" "t" "o"

def between : CacheManager := { ofSettings "dev" "gob" with index := writer.index }

def reader : CacheManager := { ofSettings "v2" "gob" with index := writer.index }

def written : FileTree := (writer.persist (fun _ => none) {} "/c").1

def rewritten : FileTree := (between.persist (fun _ => none) written "/c").1

theorem shares : Shares .binary "/c" [⟨reader, [recorded]⟩, ⟨between, [recorded]⟩, ⟨writer, [recorded]⟩] rewritten
    (some ⟨between, [recorded]⟩) := by
  have hnone : FileTree.Unreadable {} "/c" := by
    have hlook : FileTree.look {} true "/c" = .error .notFound := by cbv
    intro content modified h
    rw [hlook] at h
    cases h
  have hwrite : (writer.persist (fun _ => none) {} "/c").2 = .ok () := by cbv
  have hload : (ofSettings "dev" "gob").load written "/c" = (between, .ok ()) := by cbv
  have hrewrite : (between.persist (fun _ => none) written "/c").2 = .ok () := by cbv
  have hreload : (ofSettings "v2" "gob").load rewritten "/c" = (reader, .ok ()) := by cbv
  have hfirst : Shares .binary "/c" ([] ++ ⟨ofSettings "v1" "gob", []⟩ :: []) {} none :=
    .create (.start wellFormed_empty hnone) "v1" (by decide)
  have hsaved := (hfirst.update "a.py" (.universal 0) "s" "t" "o").persist (k := ⟨writer, [recorded]⟩)
    List.mem_cons_self fun _ => none
  rw [hwrite] at hsaved
  have hsecond : Shares .binary "/c" ([] ++ ⟨ofSettings "dev" "gob", []⟩ :: [⟨writer, [recorded]⟩]) written
      (some ⟨writer, [recorded]⟩) := .create hsaved "dev" (by decide)
  have hloaded := hsecond.load (congrArg Prod.snd hload)
  rw [hload] at hloaded
  have hresaved := hloaded.persist (k := ⟨between, [recorded]⟩) List.mem_cons_self fun _ => none
  rw [hrewrite] at hresaved
  have hthird : Shares .binary "/c" ([] ++ ⟨ofSettings "v2" "gob", []⟩ :: [⟨between, [recorded]⟩, ⟨writer, [recorded]⟩])
      rewritten (some ⟨between, [recorded]⟩) := .create hresaved "v2" (by decide)
  have hreloaded := hthird.load (congrArg Prod.snd hreload)
  rwa [hreload] at hreloaded

end Chain

/-- An entry goes from one version to another by way of a third that agrees with both, but the two do not agree. -/
theorem check_iff_latest_chain : ∃ ks t saved k x, Shares .binary "/c" ks t saved ∧ k ∈ ks ∧ x ∈ ks ∧
    latest? k.updates "a.py" = latest? x.updates "a.py" ∧ k.manager.check "a.py" 0 "s" "t" = some "o" ∧
    x.manager.check "a.py" 0 "s" "t" = none := by
  have hpath : build true ([] ++ ["c"]) = "/c" := by decide
  have hnames : AreNames ([] ++ ["c"]) := by decide
  have hshares := Chain.shares
  rw [← hpath] at hshares
  refine ⟨_, _, _, ⟨Chain.between, [Chain.recorded]⟩, ⟨Chain.reader, [Chain.recorded]⟩, Chain.shares, by simp, by simp,
    rfl, ?_, ?_⟩
  · obtain ⟨hcheck, -⟩ := check_iff_latest hnames hshares (k := ⟨Chain.between, [Chain.recorded]⟩) (by simp)
    exact (hcheck _ _ _ _ _).mpr ⟨Chain.recorded, rfl, rfl, rfl, rfl, rfl, by decide⟩
  · obtain ⟨hcheck, -⟩ := check_iff_latest hnames hshares (k := ⟨Chain.reader, [Chain.recorded]⟩) (by simp)
    apply Option.eq_none_iff_forall_ne_some.mpr
    intro output h
    obtain ⟨u, hu, -, -, -, -, hagree⟩ := (hcheck _ _ _ _ _).mp h
    obtain rfl : Chain.recorded = u := Option.some.inj hu
    exact absurd hagree (by decide)

end CacheManager

end SourceSurvey
