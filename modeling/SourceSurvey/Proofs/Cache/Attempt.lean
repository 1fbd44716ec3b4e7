import SourceSurvey.Proofs.Cache.Shared
import SourceSurvey.Proofs.FileTree.Directory
import SourceSurvey.Proofs.Text.Numeral

namespace SourceSurvey

open SourceSurvey.Path

namespace FileTree

variable {t : FileTree} {d p q n : String} {ns : List String} {content part : Bytes}

def create (t : FileTree) (path : String) : Except FileCause FileTree :=
  match t.resolve false path with
  | .error c => .error c
  | .ok p => if (t.node? p).isSome then .error .occupied else .ok (t.put p (.file [] 0))

def move (t : FileTree) (source goal : String) : Except FileCause FileTree :=
  match t.resolve false source, t.resolve false goal with
  | .error c, _ => .error c
  | .ok _, .error c => .error c
  | .ok p, .ok q =>
    match t.node? p with
    | none => .error .notFound
    | some x => if t.node? q = some .directory then .error .occupied else .ok ((t.erase p).put q x)

def overwrite (t : FileTree) (path : String) (content : Bytes) : FileTree :=
  match t.setContent path content 0 with
  | .error _ => t
  | .ok t' => t'

def clear (t : FileTree) (path : String) : FileTree :=
  if t.exists? path then
    match t.remove path with
    | .error _ => t
    | .ok t' => t'
  else t

theorem notMem_nodes (hp : p ≠ "/") (h : t.node? p = none) : ∀ e ∈ t.nodes, e.1 ≠ p := by
  rw [node?, if_neg hp, List.lookup_eq_none_iff] at h
  intro e he heq
  have hne := h e he
  rw [heq, bne_self_eq_false] at hne
  cases hne

theorem put_put (t : FileTree) (p : String) (x y : FileNode) : (t.put p x).put p y = t.put p y := by
  simp [put, List.filter_append]

theorem erase_put (hp : p ≠ "/") (h : t.node? p = none) (x : FileNode) : (t.put p x).erase p = t := by
  have hfilter : t.nodes.filter (·.1 ≠ p) = t.nodes := by
    rw [List.filter_eq_self]
    intro e he
    simpa using notMem_nodes hp h e he
  rw [erase, put, List.filter_append, List.filter_filter]
  simp only [Bool.and_self, hfilter]
  simp

theorem node?_of_put (hp : p ≠ "/") (h : t.node? p = none) {x y : FileNode} {r : String} (hr : t.node? r = some y) :
    (t.put p x).node? r = some y := by
  rw [node?_put_of_ne hp, hr]
  rintro rfl
  rw [h] at hr
  cases hr

section Temporary

variable (hd : t.Reaches ns d) (hns : AreNames (ns ++ [n])) (hp : child d n ≠ "/") (hnone : t.node? (child d n) = none)

include hd hns

theorem create_of_missing (hnone : t.node? (child d n) = none) :
    t.create (build true (ns ++ [n])) = .ok (t.put (child d n) (.file [] 0)) := by
  rw [create, hd.resolve hns]
  simp [hnone]

theorem create_of_occupied (hsome : t.node? (child d n) ≠ none) :
    t.create (build true (ns ++ [n])) = .error .occupied := by
  rw [create, hd.resolve hns]
  simp [Option.isSome_iff_ne_none, hsome]

include hp hnone

theorem overwrite_put (part content : Bytes) :
    (t.put (child d n) (.file part 0)).overwrite (build true (ns ++ [n])) content = t.put (child d n) (.file content 0) := by
  have hnode : (t.put (child d n) (.file part 0)).node? (child d n) = some (.file part 0) :=
    node?_put_self hp _
  have hreaches := hd.mono fun _ _ => node?_of_put (x := .file part 0) hp hnone
  rw [overwrite, setContent, hreaches.resolve_of_not_link hns (by simp [hnode])]
  simp only [hnode, put_put]

theorem clear_put (content : Bytes) :
    (t.put (child d n) (.file content 0)).clear (build true (ns ++ [n])) = t := by
  have hnode : (t.put (child d n) (.file content 0)).node? (child d n) = some (.file content 0) :=
    node?_put_self hp _
  have hreaches := hd.mono fun _ _ => node?_of_put (x := .file content 0) hp hnone
  have hexists : (t.put (child d n) (.file content 0)).exists? (build true (ns ++ [n])) := by
    rw [exists?, hreaches.look hns hnode (by simp)]
  rw [clear, if_pos hexists, remove, hreaches.resolve hns]
  simp only [hnode, erase_put hp hnone]

end Temporary

theorem clear_of_moved {m : String} (ht : t.WellFormed) (hd : t.Reaches ns d) (hns : AreNames (ns ++ [m])) (hn : IsName n)
    (hne : m ≠ n) (hnone : t.node? (child d m) = none) :
    (t.put (child d n) (.file content 0)).clear (build true (ns ++ [m])) = t.put (child d n) (.file content 0) := by
  have hm : IsName m := by simpa using (areNames_append.mp hns).2
  have hroot := (hd.hasPlace ht hn).ne_root
  have hfile : (t.put (child d n) (.file content 0)).node? (child d n) = some (.file content 0) :=
    node?_put_self hroot _
  have hsame : ∀ r, r ≠ child d n → t.node? r = (t.put (child d n) (.file content 0)).node? r :=
    fun r hr => (node?_put_of_ne hroot _ hr).symm
  rw [clear, if_neg]
  intro hexists
  rw [exists?] at hexists
  split at hexists
  · rename_i x hlook
    obtain ⟨d', hd'⟩ := exists_reaches hns hlook
    obtain rfl := hd.unique (hd'.of_changed_elsewhere hsame (.inr ⟨_, _, hfile⟩))
    rw [hd'.look_missing hns (by rw [← hsame _ (hd.child_ne ht hm hn hne), hnone])] at hlook
    cases hlook
  · cases hexists

end FileTree

namespace CacheManager

open FileTree

variable {m : CacheManager} {trouble : PersistStep → Option FileCause} {t made : FileTree} {d n : String}
  {ns : List String} {number : Nat} {part : Bytes}

def temporaryName (n : String) (number : Nat) : String := n ++ "." ++ ("tmp-" ++ toString number)

/-- Fills a temporary file and moves it over the target. A write that fails gets no further than `part`. -/
def fill (m : CacheManager) (trouble : PersistStep → Option FileCause) (part : Bytes) (t : FileTree)
    (temporary path : String) : FileTree × Except CacheError Unit :=
  match m.flaw? with
  | some f => (t.overwrite temporary part, .error (.persistTimestamp m.format f))
  | none =>
    match trouble .encode, trouble .close with
    | some c, _ => (t.overwrite temporary part, .error (.persistEncode m.format ⟨"write", temporary, c⟩))
    | none, some c => (t.overwrite temporary m.encode, .error (.persistClose temporary ⟨"close", temporary, c⟩))
    | none, none =>
      let moved : Except FileCause FileTree := match trouble .rename with
        | some c => .error c
        | none => (t.overwrite temporary m.encode).move temporary path
      match moved with
      | .error c => (t.overwrite temporary m.encode, .error (.persistRename temporary path c))
      | .ok t' => (t', .ok ())

/-- Saves an index that is not empty: makes the directory and the temporary file of a number, fills it, and clears away
what is left of it. -/
def attempt (m : CacheManager) (trouble : PersistStep → Option FileCause) (number : Nat) (part : Bytes) (t : FileTree)
    (path : String) : FileTree × Except CacheError Unit :=
  if m.index.isEmpty then m.persist trouble t path
  else
    let directory := parent path
    let temporary := path ++ ".tmp-" ++ toString number
    let made : Except FileError FileTree := match trouble .makeDirectory with
      | some c => .error ⟨"mkdir", directory, c⟩
      | none => t.makeDirectory directory
    match made with
    | .error e => (t, .error (.persistDirectory directory e))
    | .ok made =>
      let opened : Except FileCause FileTree := match trouble .createTemporary with
        | some c => .error c
        | none => made.create temporary
      match opened with
      | .error c => (made, .error (.persistTemporary directory ⟨"open", temporary, c⟩))
      | .ok opened =>
        let (left, result) := m.fill trouble part opened temporary path
        (left.clear temporary, result)

theorem temporary_eq (ns : List String) (n : String) (number : Nat) :
    build true (ns ++ [n]) ++ ".tmp-" ++ toString number = build true (ns ++ [temporaryName n number]) := by
  rw [rooted_snoc, rooted_snoc, temporaryName]
  simp only [String.append_assoc]
  rfl

theorem areNames_temporary (hns : AreNames (ns ++ [n])) (number : Nat) : AreNames (ns ++ [temporaryName n number]) := by
  obtain ⟨hdirs, hn⟩ := areNames_append.mp hns
  refine areNames_append.mpr ⟨hdirs, ?_⟩
  have hslash : '/' ∉ ("tmp-" ++ toString number).toList := by
    rw [String.toList_append, List.mem_append, not_or]
    refine ⟨by decide, fun h => ?_⟩
    have hdigit := Numeral.isDigit_of_mem_nat h
    revert hdigit
    decide
  exact areNames_cons.mpr ⟨IsName.append_dot (areNames_cons.mp hn).1 hslash, areNames_nil⟩

theorem temporaryName_ne (n : String) (number : Nat) : temporaryName n number ≠ n := by
  intro h
  have hlength := congrArg String.length h
  rw [temporaryName, String.length_append, String.length_append] at hlength
  have : ".".length = 1 := rfl
  omega

/-- Nothing keeps an index from a place whose directory is there. -/
structure Unhampered (m : CacheManager) (trouble : PersistStep → Option FileCause) (t : FileTree) (place : String) :
    Prop where
  createTemporary : trouble .createTemporary = none
  encodable : m.isEncodable
  encode : trouble .encode = none
  close : trouble .close = none
  rename : trouble .rename = none
  free : t.node? place ≠ some .directory

theorem Unhampered.flaw?_ne_some {place : String} (h : Unhampered m trouble t place) {f : Timestamp.Flaw}
    (hflaw : m.flaw? = some f) : False := by
  have hencodable := h.encodable
  rw [isEncodable_of_flaw?_eq_some hflaw] at hencodable
  cases hencodable

/-- An index is put in its place, or an error is reported and the tree is as before. -/
def Settles (m : CacheManager) (trouble : PersistStep → Option FileCause) (t : FileTree) (place : String)
    (result : FileTree × Except CacheError Unit) : Prop :=
  (Unhampered m trouble t place ∧ result = (t.put place (.file m.encode 0), .ok ())) ∨
    (¬Unhampered m trouble t place ∧ ∃ e : CacheError, e.isLoad = false ∧ result = (t, .error e))

section Made

variable (hne : m.index ≠ []) (htrouble : trouble .makeDirectory = none) (hns : AreNames (ns ++ [n]))
  (hmade : t.makeDirectory (build true ns) = .ok made) (hd : made.Reaches ns d)

include hne htrouble hns hmade hd

theorem settles_persist : Settles m trouble made (child d n) (m.persist trouble t (build true (ns ++ [n]))) := by
  have hempty : ¬m.index.isEmpty = true := by simpa using hne
  have hresolve := hd.resolve hns
  rw [persist, if_neg hempty]
  simp only [htrouble, parent_of_names hns, hmade, look, hresolve]
  -- Every step that goes well meets one more condition, and the first that does not leaves one unmet.
  cases htemporary : trouble .createTemporary with
  | some c => exact .inr ⟨fun h => by simp [h.createTemporary] at htemporary, _, rfl, rfl⟩
  | none =>
  cases hflaw : m.flaw? with
  | some f => exact .inr ⟨fun h => h.flaw?_ne_some hflaw, _, rfl, rfl⟩
  | none =>
  cases hencode : trouble .encode with
  | some c => exact .inr ⟨fun h => by simp [h.encode] at hencode, _, rfl, rfl⟩
  | none =>
  cases hclose : trouble .close with
  | some c => exact .inr ⟨fun h => by simp [h.close] at hclose, _, rfl, rfl⟩
  | none =>
  cases hrename : trouble .rename with
  | some c => exact .inr ⟨fun h => by simp [h.rename] at hrename, _, rfl, rfl⟩
  | none =>
  by_cases hfree : made.node? (child d n) = some .directory
  · exact .inr ⟨fun h => h.free hfree, _, rfl, by simp only [hfree]; rfl⟩
  · refine .inl ⟨⟨htemporary, isEncodable_of_flaw?_eq_none hflaw, hencode, hclose, hrename, hfree⟩, ?_⟩
    cases hnode : made.node? (child d n) with
    | none => rfl
    | some x =>
        cases x with
        | directory => exact absurd hnode hfree
        | file | link => rfl

end Made

section Temporary

variable (ht : made.WellFormed) (hns : AreNames (ns ++ [n])) (hd : made.Reaches ns d)
  (hmissing : made.node? (child d (temporaryName n number)) = none)

include ht hns hd hmissing

theorem move_temporary (content : Bytes) :
    (made.put (child d (temporaryName n number)) (.file content 0)).move (build true (ns ++ [temporaryName n number]))
        (build true (ns ++ [n])) =
      if made.node? (child d n) = some .directory then .error .occupied
      else .ok (made.put (child d n) (.file content 0)) := by
  have hnames := areNames_temporary hns number
  have htemporary : IsName (temporaryName n number) := by simpa using (areNames_append.mp hnames).2
  have hn : IsName n := by simpa using (areNames_append.mp hns).2
  have hroot := (hd.hasPlace ht htemporary).ne_root
  have hother : child d n ≠ child d (temporaryName n number) :=
    hd.child_ne ht hn htemporary (temporaryName_ne n number).symm
  have hreaches := hd.mono fun _ _ => node?_of_put (x := .file content 0) hroot hmissing
  rw [move, hreaches.resolve hnames, hreaches.resolve hns]
  simp only [node?_put hroot, if_true, if_neg hother, erase_put hroot hmissing]

theorem fill_cases (part : Bytes) (htrouble : trouble .createTemporary = none) :
    (Unhampered m trouble made (child d n) ∧
      m.fill trouble part (made.put (child d (temporaryName n number)) (.file [] 0))
          (build true (ns ++ [temporaryName n number])) (build true (ns ++ [n])) =
        (made.put (child d n) (.file m.encode 0), .ok ())) ∨
    (¬Unhampered m trouble made (child d n) ∧ ∃ content, ∃ e : CacheError, e.isLoad = false ∧
      m.fill trouble part (made.put (child d (temporaryName n number)) (.file [] 0))
          (build true (ns ++ [temporaryName n number])) (build true (ns ++ [n])) =
        (made.put (child d (temporaryName n number)) (.file content 0), .error e)) := by
  have hnames := areNames_temporary hns number
  have hroot := (hd.hasPlace ht (areNames_cons.mp (areNames_append.mp hnames).2).1).ne_root
  rw [fill]
  simp only [overwrite_put hd hnames hroot hmissing [], move_temporary ht hns hd hmissing]
  cases hflaw : m.flaw? with
  | some f => exact .inr ⟨fun h => h.flaw?_ne_some hflaw, part, _, rfl, rfl⟩
  | none =>
  cases hencode : trouble .encode with
  | some c => exact .inr ⟨fun h => by simp [h.encode] at hencode, part, _, rfl, rfl⟩
  | none =>
  cases hclose : trouble .close with
  | some c => exact .inr ⟨fun h => by simp [h.close] at hclose, m.encode, _, rfl, rfl⟩
  | none =>
  cases hrename : trouble .rename with
  | some c => exact .inr ⟨fun h => by simp [h.rename] at hrename, m.encode, _, rfl, rfl⟩
  | none =>
  by_cases hfree : made.node? (child d n) = some .directory
  · exact .inr ⟨fun h => h.free hfree, m.encode, _, rfl, by simp only [if_pos hfree]; rfl⟩
  · exact .inl ⟨⟨htrouble, isEncodable_of_flaw?_eq_none hflaw, hencode, hclose, hrename, hfree⟩, by simp only [if_neg hfree]⟩

theorem settles_attempt (part : Bytes) (hne : m.index ≠ []) (htrouble : trouble .makeDirectory = none)
    (hmade : t.makeDirectory (build true ns) = .ok made) :
    Settles m trouble made (child d n) (m.attempt trouble number part t (build true (ns ++ [n]))) := by
  have hempty : ¬m.index.isEmpty = true := by simpa using hne
  have hnames := areNames_temporary hns number
  have hn : IsName n := by simpa using (areNames_append.mp hns).2
  have hroot := (hd.hasPlace ht (areNames_cons.mp (areNames_append.mp hnames).2).1).ne_root
  rw [attempt, if_neg hempty]
  simp only [htrouble, parent_of_names hns, temporary_eq, hmade]
  cases htemporary : trouble .createTemporary with
  | some c => exact .inr ⟨fun h => by simp [h.createTemporary] at htemporary, _, rfl, rfl⟩
  | none =>
      simp only [create_of_missing hd hnames hmissing]
      obtain ⟨hgoes, hfill⟩ | ⟨hstays, content, e, he, hfill⟩ :=
        fill_cases (m := m) ht hns hd hmissing part htemporary
      · refine .inl ⟨hgoes, ?_⟩
        rw [hfill]
        simp only [clear_of_moved ht hd hnames hn (temporaryName_ne n number) hmissing]
      · refine .inr ⟨hstays, e, he, ?_⟩
        rw [hfill]
        simp only [clear_put hd hnames hroot hmissing]

end Temporary

theorem Settles.agree {place : String} {result result' : FileTree × Except CacheError Unit}
    (h : Settles m trouble made place result) (h' : Settles m trouble made place result') :
    result.1 = result'.1 ∧ (result.2 = .ok () ↔ result'.2 = .ok ()) := by
  obtain ⟨hgoes, rfl⟩ | ⟨hstays, e, -, rfl⟩ := h <;> obtain ⟨hgoes', rfl⟩ | ⟨hstays', e', -, rfl⟩ := h'
  · simp
  · exact absurd hgoes hstays'
  · exact absurd hgoes' hstays
  · simp

/-- The steps come to what saving is: with a name that is free for the temporary file, they leave the same tree and
succeed alike. -/
theorem attempt_eq_persist (ht : t.WellFormed) (hns : AreNames (ns ++ [n]))
    (hfree : ∀ x, t.look false (build true (ns ++ [temporaryName n number])) ≠ .ok x) :
    (m.attempt trouble number part t (build true (ns ++ [n]))).1 = (m.persist trouble t (build true (ns ++ [n]))).1 ∧
      ((m.attempt trouble number part t (build true (ns ++ [n]))).2 = .ok () ↔
        (m.persist trouble t (build true (ns ++ [n]))).2 = .ok ()) := by
  by_cases hempty : m.index.isEmpty
  · rw [attempt, if_pos hempty]
    exact ⟨rfl, .rfl⟩
  have hne : m.index ≠ [] := by simpa using hempty
  cases htrouble : trouble .makeDirectory with
  | some c => simp [attempt, persist, hempty, htrouble]
  | none =>
  cases hmade : t.makeDirectory (build true ns) with
  | error e => simp [attempt, persist, hempty, htrouble, parent_of_names hns, hmade]
  | ok made =>
      obtain ⟨d, hd, -⟩ := reaches_of_makeDirectory ht (areNames_append.mp hns).1 hmade
      have hnames := areNames_temporary hns number
      have hmissing : made.node? (child d (temporaryName n number)) = none := by
        by_contra hsome
        obtain ⟨x, hx⟩ := Option.ne_none_iff_exists'.mp hsome
        exact hfree x ((look_iff_of_makeDirectory ht hnames hmade).mp (hd.look_unfollowed hnames hx))
      exact (settles_attempt (ht.makeDirectory (isAbsolute_rooted _) hmade) hns hd hmissing part hne htrouble hmade).agree
        (settles_persist hne htrouble hns hmade hd)

/-- The ways in which an attempt can end: with an error and no more than the directory made, or with the index in its
place. -/
theorem attempt_cases (ht : t.WellFormed) (hns : AreNames (ns ++ [n])) (hne : m.index ≠ [])
    (trouble : PersistStep → Option FileCause) (number : Nat) (part : Bytes) :
    (∃ e : CacheError, e.isLoad = false ∧
      ∃ left, m.attempt trouble number part t (build true (ns ++ [n])) = (left, .error e) ∧
        (left = t ∨ t.makeDirectory (build true ns) = .ok left)) ∨
    (∃ made d, t.makeDirectory (build true ns) = .ok made ∧ made.Reaches ns d ∧
      made.node? (child d n) ≠ some .directory ∧ m.isEncodable ∧
      m.attempt trouble number part t (build true (ns ++ [n])) = (made.put (child d n) (.file m.encode 0), .ok ())) := by
  have hempty : ¬m.index.isEmpty = true := by simpa using hne
  cases htrouble : trouble .makeDirectory with
  | some c => exact .inl ⟨_, rfl, t, by rw [attempt, if_neg hempty]; simp only [htrouble]; rfl, .inl rfl⟩
  | none =>
  cases hmade : t.makeDirectory (build true ns) with
  | error e =>
      exact .inl ⟨_, rfl, t, by rw [attempt, if_neg hempty]; simp only [htrouble, parent_of_names hns, hmade]; rfl, .inl rfl⟩
  | ok made =>
      obtain ⟨d, hd, -⟩ := reaches_of_makeDirectory ht (areNames_append.mp hns).1 hmade
      by_cases hmissing : made.node? (child d (temporaryName n number)) = none
      · obtain ⟨hgoes, h⟩ | ⟨-, e, he, h⟩ := settles_attempt
          (ht.makeDirectory (isAbsolute_rooted _) hmade) hns hd hmissing part hne htrouble hmade
        · exact .inr ⟨made, d, rfl, hd, hgoes.free, hgoes.encodable, h⟩
        · exact .inl ⟨e, he, made, h, .inr rfl⟩
      · refine .inl ⟨.persistTemporary (build true ns) ⟨"open", build true (ns ++ [temporaryName n number]),
          (trouble .createTemporary).getD .occupied⟩, rfl, made, ?_, .inr rfl⟩
        rw [attempt, if_neg hempty]
        simp only [htrouble, parent_of_names hns, temporary_eq, hmade,
          create_of_occupied hd (areNames_temporary hns number) hmissing]
        cases trouble .createTemporary <;> rfl

theorem exists_append {a s : String} (h : ∃ rest, s = a ++ rest) (b : String) : ∃ rest, s ++ b = a ++ rest := by
  obtain ⟨rest, rfl⟩ := h
  exact ⟨rest ++ b, String.append_assoc ..⟩

theorem message_of_not_isLoad {e : CacheError} (h : e.isLoad = false) :
    ∃ rest, e.message = CacheError.message.persist ++ rest := by
  cases e with
  | load => cases h
  | _ =>
      dsimp only [CacheError.message]
      repeat with_reducible apply exists_append
      exact ⟨"", String.append_empty.symm⟩

theorem load_of_look {content : Bytes} {modified : Int} {path : String}
    (h : t.look true path = .ok (.file content modified)) :
    m.load t path = ({ m with index := m.indexOfContent content }, .ok ()) := by
  rw [load, h]

theorem load_put (ht : t.WellFormed) (hns : AreNames (ns ++ [n])) (hunique : (m.index.map Prod.fst).Nodup)
    (hmade : t.makeDirectory (build true ns) = .ok made) (hd : made.Reaches ns d)
    (hfree : made.node? (child d n) ≠ some .directory) (hencodable : m.isEncodable) :
    (¬t.InOwnWay ns n → ∃ read, read.Perm m.kept ∧ ∀ old,
        ({ m with index := old }).load (made.put (child d n) (.file m.encode 0)) (build true (ns ++ [n])) =
          ({ m with index := read }, .ok ())) ∧
      (t.InOwnWay ns n → ∀ reader : CacheManager, ∃ e,
        (reader.load (made.put (child d n) (.file m.encode 0)) (build true (ns ++ [n]))).2 = .error e) := by
  have hwellFormed := ht.makeDirectory (isAbsolute_rooted _) hmade
  have hroot := (hd.hasPlace hwellFormed (areNames_cons.mp (areNames_append.mp hns).2).1).ne_root
  have hfile : (made.put (child d n) (.file m.encode 0)).node? (child d n) = some (.file m.encode 0) :=
    node?_put_self hroot _
  have hway := reaches_put_iff ht hns hmade hd hfree m.encode 0
  constructor
  · intro hopen
    obtain ⟨read, hperm, hread⟩ := indexOfContent_encode (rfl : m.format = m.format) hencodable hunique
    have hcompatible : m.compatible schemaVersion m.tool = true := by simp [compatible]
    rw [if_pos hcompatible] at hread
    refine ⟨read, hperm, fun old => ?_⟩
    rw [load_of_look ((hway.mpr hopen).look hns hfile (by simp)), ← hread]
    rfl
  · intro hclosed reader
    have hput : (made.put (child d n) (.file m.encode 0)).look true (build true (ns ++ [n])) = .ok (.file m.encode 0) ∨
        (made.put (child d n) (.file m.encode 0)).Blocked ns n := look_of_put hns hroot (hd.resolve hns)
    -- If anything is found at the path, then the way there is open; else it leads through the new file.
    obtain hlook | hblocked := hput
    · obtain ⟨d', hd'⟩ := exists_reaches hns hlook
      have hback : made.Reaches ns d' :=
        hd'.of_changed_elsewhere (fun r hr => (node?_put_of_ne hroot _ hr).symm) (.inr ⟨_, _, hfile⟩)
      obtain rfl := hd.unique hback
      exact absurd hclosed (hway.mp hd')
    · rw [load, hblocked.look]
      exact ⟨_, rfl⟩

/-- Saving an index is all or nothing. An attempt that fails reports that the index could not be saved, adds nothing but
directories to the tree, and leaves what is found at the target as it was. After one that succeeds the index is loaded
again, unless the target was a link in its own way. -/
theorem attempt_allOrNothing (ht : t.WellFormed) (hns : AreNames (ns ++ [n])) (hunique : (m.index.map Prod.fst).Nodup)
    (trouble : PersistStep → Option FileCause) (number : Nat) (part : Bytes) :
    (∀ e, (m.attempt trouble number part t (build true (ns ++ [n]))).2 = .error e →
      (e.isLoad = false ∧ ∃ rest, e.message = CacheError.message.persist ++ rest) ∧
        t.GrowsTo (m.attempt trouble number part t (build true (ns ++ [n]))).1 ∧
        ∀ f x, (m.attempt trouble number part t (build true (ns ++ [n]))).1.look f (build true (ns ++ [n])) = .ok x ↔
          t.look f (build true (ns ++ [n])) = .ok x) ∧
    ((m.attempt trouble number part t (build true (ns ++ [n]))).2 = .ok () → m.index ≠ [] →
      (¬t.InOwnWay ns n → ∃ read, read.Perm m.kept ∧ ∀ old,
        ({ m with index := old }).load (m.attempt trouble number part t (build true (ns ++ [n]))).1 (build true (ns ++ [n])) =
          ({ m with index := read }, .ok ())) ∧
      (t.InOwnWay ns n → ∀ reader : CacheManager, ∃ e,
        (reader.load (m.attempt trouble number part t (build true (ns ++ [n]))).1 (build true (ns ++ [n]))).2 = .error e)) ∧
    ((∀ x, t.look false (build true (ns ++ [temporaryName n number])) ≠ .ok x) →
      (m.attempt trouble number part t (build true (ns ++ [n]))).1 = (m.persist trouble t (build true (ns ++ [n]))).1 ∧
        ((m.attempt trouble number part t (build true (ns ++ [n]))).2 = .ok () ↔
          (m.persist trouble t (build true (ns ++ [n]))).2 = .ok ())) := by
  refine ⟨fun e he => ?_, fun hok hne => ?_, attempt_eq_persist ht hns⟩
  · have hne : m.index ≠ [] := by
      intro hempty
      rw [attempt, if_pos (by simp [hempty]), persist, if_pos (by simp [hempty])] at he
      split at he <;> cases he
    obtain ⟨x, hx, left, hleft, hkept⟩ | ⟨made, d, -, -, -, -, hmoved⟩ :=
      attempt_cases ht hns hne trouble number part
    · rw [hleft] at he ⊢
      obtain rfl := Except.error.inj he
      refine ⟨⟨hx, message_of_not_isLoad hx⟩, ?_⟩
      obtain rfl | hmade := hkept
      · exact ⟨fun q => .inl rfl, fun f x => Iff.rfl⟩
      · exact ⟨growsTo_of_makeDirectory hmade, fun f x => look_iff_of_makeDirectory ht hns hmade⟩
    · rw [hmoved] at he
      cases he
  · obtain ⟨x, -, left, hleft, -⟩ | ⟨made, d, hmade, hd, hfree, hencodable, hmoved⟩ :=
      attempt_cases ht hns hne trouble number part
    · rw [hleft] at hok
      cases hok
    · rw [hmoved]
      exact load_put ht hns hunique hmade hd hfree hencodable

def single : CacheManager := { index := [("a.py", {})] }

theorem attempt_allOrNothing_file :
    (single.attempt (fun s => if s = .rename then some .noSpace else none) 0 [] ⟨[("/c", .file [1] 5)]⟩ "/c").1.look true
        "/c" = .ok (.file [1] 5) ∧
      ∃ read, read.Perm single.index ∧ ∀ old, ({ single with index := old }).load
        (single.attempt (fun _ => none) 0 [] ⟨[("/c", .file [1] 5)]⟩ "/c").1 "/c" =
          ({ single with index := read }, .ok ()) := by
  have hpath : build true ([] ++ ["c"]) = "/c" := by decide
  have hnames : AreNames ([] ++ ["c"]) := by decide
  have hunique : (single.index.map Prod.fst).Nodup := by decide
  have hwellFormed : WellFormed ⟨[("/c", .file [1] 5)]⟩ := by decide
  have hfails : ∃ e, (single.attempt (fun s => if s = .rename then some .noSpace else none) 0 []
      ⟨[("/c", .file [1] 5)]⟩ "/c").2 = .error e := ⟨.persistRename "/c.tmp-0" "/c" .noSpace, by cbv⟩
  have hgoes : (single.attempt (fun _ => none) 0 [] ⟨[("/c", .file [1] 5)]⟩ "/c").2 = .ok () := by cbv
  have hlook : look ⟨[("/c", .file [1] 5)]⟩ true "/c" = .ok (.file [1] 5) := by cbv
  have hopen : ¬InOwnWay ⟨[("/c", .file [1] 5)]⟩ [] "c" := by
    rintro ⟨q, target, -, hlink, -⟩
    rw [node?] at hlink
    split at hlink
    · cases hlink
    · simpa using Keyed.mem_of_lookup hlink
  obtain ⟨e, he⟩ := hfails
  constructor
  · have hall := attempt_allOrNothing hwellFormed hnames hunique
      (fun s => if s = .rename then some .noSpace else none) 0 []
    rw [hpath] at hall
    exact ((hall.1 e he).2.2 true _).mpr hlook
  · have hall := attempt_allOrNothing hwellFormed hnames hunique (fun _ => none) 0 []
    rw [hpath] at hall
    exact (hall.2.1 hgoes (by decide)).1 hopen

def turned : CacheManager := { format := .json, index := [("a.py", { modified := ⟨0, 1172⟩ })] }

/-- Two indexes that are not loaded as they were saved: the path of the first leads through the very link that the
index takes the place of, and JSON moves the instant of the second. -/
theorem load_ne_saved :
    (WellFormed ⟨[("/c", .link "/")]⟩ ∧ single.index ≠ [] ∧
      (single.persist (fun _ => none) ⟨[("/c", .link "/")]⟩ "/c/c").2 = .ok () ∧
      (single.load (single.persist (fun _ => none) ⟨[("/c", .link "/")]⟩ "/c/c").1 "/c/c").2 =
        .error (.load "/c/c" ⟨"open", "/c/c", .notDirectory⟩) ∧
      (single.load (single.persist (fun _ => none) ⟨[("/c", .link "/")]⟩ "/c/c").1 "/c/c").1.index = []) ∧
    turned.index ≠ [("a.py", { modified := ⟨32000000000, 1140⟩ })] ∧
      (turned.persist (fun _ => none) {} "/c").2 = .ok () ∧
      turned.load (turned.persist (fun _ => none) {} "/c").1 "/c" =
        ({ turned with index := [("a.py", { modified := ⟨32000000000, 1140⟩ })] }, .ok ()) := by
  obtain ⟨hsaved, read, hperm, hloaded⟩ := load_persist_first turned (show turned.index ≠ [] by decide)
    (by decide +kernel) (by decide) rfl
  obtain rfl : read = [("a.py", { modified := ⟨32000000000, 1140⟩ })] := List.perm_singleton.mp hperm
  refine ⟨⟨by decide, by decide, ?_, ?_, ?_⟩, by decide, hsaved, hloaded⟩ <;> cbv

end CacheManager

end SourceSurvey
