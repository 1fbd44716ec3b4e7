import SourceSurvey.Proofs.FileTree.Follow

namespace SourceSurvey.FileTree

open SourceSurvey.Path

variable {t t' made : FileTree} {d q here n : String} {ns ks ms ps : List String} {links : Nat} {x : FileNode} {f : Bool}

/-- A path of names leads to a directory. -/
structure Reaches (t : FileTree) (ns : List String) (d : String) : Prop where
  walk : t.walk true maxLinks "/" ns = .ok d
  directory : t.node? d = some .directory

theorem reaches_root (t : FileTree) : t.Reaches [] "/" := ⟨by rw [FileTree.walk], node?_root t⟩

theorem look_directory_iff (hns : AreNames ns) : t.look true (build true ns) = .ok .directory ↔ ∃ d, t.Reaches ns d := by
  rw [look, resolve, clean_rooted hns, parts_rooted hns]
  constructor
  · intro h
    split at h
    · cases h
    rename_i d hd
    split at h
    · rename_i hx
      exact ⟨d, hd, Except.ok.inj h ▸ hx⟩
    · cases h
  · rintro ⟨d, hd⟩
    rw [hd.walk]
    simp only [hd.directory]

theorem exists_walk_append (hd : t.node? d = some .directory) (h : walk t true links here ps = .ok d) :
    ∃ left, ∀ f qs, qs ≠ [] → walk t f links here (ps ++ qs) = walk t f left d qs := by
  fun_induction walk t true links here ps with
  | case1 => exact ⟨_, fun _ _ _ => by rw [List.nil_append, Except.ok.inj h]⟩
  | case2 =>
      rename_i hnode _
      rw [Except.ok.inj h, hd] at hnode
      cases hnode
  | case5 =>
      rename_i hnode _
      rw [Except.ok.inj h, hd] at hnode
      cases hnode
  | case3 | case6 | case8 => cases h
  | case7 =>
      rename_i hend
      simp at hend
  | case4 =>
      rename_i hnode ih
      obtain ⟨left, hleft⟩ := ih h
      exact ⟨left, fun f qs hqs => by rw [List.cons_append, walk_directory hnode, hleft f qs hqs]⟩
  | case9 =>
      rename_i hnode _ _ _ ih
      obtain ⟨left, hleft⟩ := ih h
      refine ⟨left, fun f qs hqs => ?_⟩
      rw [List.cons_append, walk_link_succ hnode (.inl (by simp [hqs])), ← List.append_assoc]
      exact hleft f qs hqs

/-- A path leads to the same place where the directories and links are kept, and what stands at its end. -/
theorem walk_of_ways
    (hways : ∀ r y, t.node? r = some y → (∀ content modified, y ≠ .file content modified) → t'.node? r = some y)
    (hend : t'.node? q = t.node? q) (h : walk t f links here ps = .ok q) : walk t' f links here ps = .ok q := by
  fun_induction walk t f links here ps with
  | case1 => rw [walk, ← h]
  | case2 =>
      rename_i hnode hps
      obtain rfl := Except.ok.inj h
      rw [walk_missing (hend.trans hnode), if_pos hps]
  | case3 | case6 | case8 => cases h
  | case5 =>
      rename_i hnode hps
      obtain rfl := Except.ok.inj h
      rw [walk_file (hend.trans hnode), if_pos hps]
  | case7 =>
      rename_i hnode hend
      obtain ⟨hempty, hf⟩ := Bool.and_eq_true_iff.mp hend
      obtain rfl : f = false := by simpa using hf
      rw [List.isEmpty_iff.mp hempty, walk_link_end (hways _ _ hnode (by simp)), ← h]
  | case4 =>
      rename_i hnode ih
      rw [walk_directory (hways _ _ hnode (by simp))]
      exact ih h
  | case9 =>
      rename_i hnode hgoes _ _ ih
      rw [walk_link_succ (hways _ _ hnode (by simp)) (ne_nil_of_goes hgoes)]
      exact ih h

theorem walk_of_extends (hkept : ∀ r y, t.node? r = some y → t'.node? r = some y) (hx : t.node? q = some x)
    (h : walk t f links here ps = .ok q) : walk t' f links here ps = .ok q :=
  walk_of_ways (fun r y hy _ => hkept r y hy) ((hkept q x hx).trans hx.symm) h

theorem look_of_extends {path : String} (hkept : ∀ r y, t.node? r = some y → t'.node? r = some y)
    (h : t.look f path = .ok x) : t'.look f path = .ok x := by
  rw [look] at h ⊢
  split at h
  · cases h
  rename_i q hq
  split at h
  · rename_i y hy
    rw [resolve] at hq ⊢
    simp only [walk_of_extends hkept hy hq, hkept q y hy, h]
  · cases h

theorem exists_reaches (hns : AreNames (ns ++ [n])) (h : t.look true (build true (ns ++ [n])) = .ok x) :
    ∃ d, t.Reaches ns d := by
  rw [look, resolve, clean_rooted hns, parts_rooted hns] at h
  split at h
  · cases h
  rename_i q hq
  obtain ⟨d, hd, hdir⟩ := walk_append (by simp) (node?_root t) hq
  exact ⟨d, hd, hdir⟩

namespace Reaches

theorem unique {d' : String} (hd : t.Reaches ns d) (hd' : t.Reaches ns d') : d' = d :=
  Except.ok.inj (hd'.walk.symm.trans hd.walk)

theorem of_changed_elsewhere (hd : t.Reaches ns d) (hsame : ∀ r, r ≠ q → t'.node? r = t.node? r)
    (hend : t.node? q = none ∨ ∃ content modified, t.node? q = some (.file content modified)) : t'.Reaches ns d := by
  have hne : d ≠ q := by
    rintro rfl
    obtain h | ⟨content, modified, h⟩ := hend <;> rw [hd.directory] at h <;> cases h
  refine ⟨walk_of_ways (fun r y hy hfile => ?_) (hsame d hne) hd.walk, by rw [hsame d hne, hd.directory]⟩
  rw [hsame, hy]
  rintro rfl
  obtain hnone | ⟨content, modified, hq⟩ := hend
  · rw [hy] at hnone
    cases hnone
  · exact hfile content modified (Option.some.inj (hy.symm.trans hq))

theorem child_ne {n' : String} (hd : t.Reaches ns d) (ht : t.WellFormed) (hn : IsName n) (hn' : IsName n') (hne : n ≠ n') :
    child d n ≠ child d n' := by
  obtain ⟨ds, hds, rfl⟩ := ht.exists_names hd.directory
  rw [child_rooted hds, child_rooted hds, ne_eq, rooted_inj (by simp [hds, hn]) (by simp [hds, hn'])]
  simpa using hne

theorem mono (hd : t.Reaches ns d) (hkept : ∀ r y, t.node? r = some y → t'.node? r = some y) : t'.Reaches ns d :=
  ⟨walk_of_extends hkept hd.directory hd.walk, hkept _ _ hd.directory⟩

theorem hasPlace (hd : t.Reaches ns d) (ht : t.WellFormed) (hn : IsName n) : t.HasPlace (child d n) := by
  obtain ⟨ds, hds, rfl⟩ := ht.exists_names hd.directory
  exact ⟨ds, n, hds, hn, child_rooted hds n, hd.directory⟩

theorem resolve (hd : t.Reaches ns d) (hns : AreNames (ns ++ [n])) :
    t.resolve false (build true (ns ++ [n])) = .ok (child d n) := by
  obtain ⟨left, hleft⟩ := exists_walk_append hd.directory hd.walk
  rw [FileTree.resolve, clean_rooted hns, parts_rooted hns, hleft false [n] (by simp)]
  cases hnode : t.node? (child d n) with
  | none => exact walk_missing hnode
  | some x =>
      cases x with
      | file => exact walk_file hnode
      | directory => rw [walk_directory hnode, FileTree.walk]
      | link => exact walk_link_end hnode

theorem resolve_of_not_link (hd : t.Reaches ns d) (hns : AreNames (ns ++ [n]))
    (hlink : ∀ target, t.node? (child d n) ≠ some (.link target)) :
    t.resolve f (build true (ns ++ [n])) = .ok (child d n) := by
  cases f with
  | false => exact hd.resolve hns
  | true => exact walk_of_walk hlink (hd.resolve hns)

theorem look (hd : t.Reaches ns d) (hns : AreNames (ns ++ [n])) (hx : t.node? (child d n) = some x)
    (hlink : ∀ target, x ≠ .link target) : t.look f (build true (ns ++ [n])) = .ok x := by
  rw [FileTree.look, hd.resolve_of_not_link hns (by simpa [hx] using hlink)]
  simp only [hx]

theorem look_missing (hd : t.Reaches ns d) (hns : AreNames (ns ++ [n])) (hnone : t.node? (child d n) = none) :
    t.look f (build true (ns ++ [n])) = .error .notFound := by
  rw [FileTree.look, hd.resolve_of_not_link hns (by simp [hnone])]
  simp only [hnone]

theorem look_unfollowed (hd : t.Reaches ns d) (hns : AreNames (ns ++ [n])) (hx : t.node? (child d n) = some x) :
    t.look false (build true (ns ++ [n])) = .ok x := by
  rw [FileTree.look, hd.resolve hns]
  simp only [hx]

theorem put (hd : t.Reaches ns d) (hns : AreNames (ns ++ [n])) (hroot : child d n ≠ "/")
    (hnone : t.node? (child d n) = none) : (t.put (child d n) .directory).Reaches (ns ++ [n]) (child d n) := by
  have hnode : (t.put (child d n) .directory).node? (child d n) = some .directory := node?_put_self hroot _
  have hresolve := (hd.mono fun _ _ => (growsTo_put hnone).node?).resolve_of_not_link (f := true) hns (by simp [hnode])
  rw [FileTree.resolve, clean_rooted hns, parts_rooted hns] at hresolve
  exact ⟨hresolve, hnode⟩

end Reaches

def IsBare (t : FileTree) (d : String) : Prop := ∀ n, IsName n → t.node? (child d n) = none

theorem isBare_put (ht : t.WellFormed) (hp : t.HasPlace q) (hnone : t.node? q = none) : (t.put q .directory).IsBare q := by
  intro n hn
  obtain ⟨ds, m, hds, hm, rfl, -⟩ := hp
  have hnames : AreNames (ds ++ [m]) := areNames_append.mpr ⟨hds, by simpa using hm⟩
  have hbelow : AreNames (ds ++ [m] ++ [n]) := areNames_append.mpr ⟨hnames, by simpa using hn⟩
  have hne : build true (ds ++ [m] ++ [n]) ≠ build true (ds ++ [m]) := by
    rw [ne_eq, rooted_inj hbelow hnames]
    simp
  rw [child_rooted hnames, node?_put_of_ne (by rw [ne_eq, rooted_eq_root_iff hnames]; simp) _ hne]
  by_contra hsome
  obtain ⟨x, hx⟩ := Option.ne_none_iff_exists'.mp hsome
  rw [ht.directory_above hnames hn hx] at hnone
  cases hnone

/-- The directories of a path are made, and the last one holds nothing unless all were there. -/
theorem reaches_of_makeParts (ht : t.WellFormed) (hns : AreNames (ks ++ ms)) (hd : t.Reaches ks d)
    (h : t.makeParts (build true ks) ms = .ok t') :
    ∃ d', t'.Reaches (ks ++ ms) d' ∧ (t.IsBare d → t'.IsBare d') ∧ (t' = t ∨ t'.IsBare d') := by
  induction ms generalizing t ks d with
  | nil =>
      obtain rfl := Except.ok.inj h
      exact ⟨d, by simpa using hd, id, .inl rfl⟩
  | cons m ms ih =>
      rw [List.append_cons] at hns ⊢
      have hnames : AreNames (ks ++ [m]) := (areNames_append.mp hns).1
      have hm : IsName m := by simpa using (areNames_append.mp hnames).2
      have hresolve := hd.resolve hnames
      rw [makeParts, child_rooted (areNames_append.mp hnames).1] at h
      split at h
      · rename_i hlook
        obtain ⟨d₁, hd₁⟩ := (look_directory_iff hnames).mp hlook
        obtain ⟨d', hd', hbare, hchanged⟩ := ih ht hns hd₁ h
        refine ⟨d', hd', fun hempty => ?_, hchanged⟩
        rw [hd.look_missing hnames (hempty m hm)] at hlook
        cases hlook
      · cases h
      · rw [hresolve] at h
        dsimp only at h
        split at h
        · cases h
        rename_i hnone
        have hnone : t.node? (child d m) = none := by simpa using hnone
        have hplace := hd.hasPlace ht hm
        have hmade := hd.put hnames hplace.ne_root hnone
        obtain ⟨d', hd', hbare, -⟩ := ih (ht.put hplace (by simp [hnone])) hns hmade h
        have hbare := hbare (isBare_put ht hplace hnone)
        exact ⟨d', hd', fun _ => hbare, .inr hbare⟩

theorem reaches_of_makeDirectory (ht : t.WellFormed) (hns : AreNames ns) (h : t.makeDirectory (build true ns) = .ok t') :
    ∃ d, t'.Reaches ns d ∧ (t' = t ∨ t'.IsBare d) := by
  rw [makeDirectory, clean_rooted hns, parts_rooted hns] at h
  obtain ⟨d, hd, -, hchanged⟩ := reaches_of_makeParts ht (show AreNames ([] ++ ns) from hns) (reaches_root t) h
  exact ⟨d, hd, hchanged⟩

theorem look_iff_of_makeDirectory (ht : t.WellFormed) (hns : AreNames (ns ++ [n]))
    (h : t.makeDirectory (build true ns) = .ok t') :
    t'.look f (build true (ns ++ [n])) = .ok x ↔ t.look f (build true (ns ++ [n])) = .ok x := by
  have hgrows : t.GrowsTo t' := growsTo_of_makeDirectory h
  obtain ⟨hdirs, hn⟩ := areNames_append.mp hns
  obtain ⟨d, hd, rfl | hbare⟩ := reaches_of_makeDirectory ht hdirs h
  · rfl
  · have hmissing := hd.look_missing (f := f) hns (hbare n (by simpa using hn))
    constructor
    · intro hlook
      rw [hmissing] at hlook
      cases hlook
    · intro hlook
      have hkept := look_of_extends (fun _ _ => hgrows.node?) hlook
      rw [hmissing] at hkept
      cases hkept

theorem eq_of_makeDirectory (ht : t.WellFormed) (hns : AreNames (ns ++ [n]))
    (h : t.makeDirectory (build true ns) = .ok made) (hx : t.look f (build true (ns ++ [n])) = .ok x) : made = t := by
  obtain ⟨hdirs, hn⟩ := areNames_append.mp hns
  obtain ⟨d', hd', hsame | hbare⟩ := reaches_of_makeDirectory ht hdirs h
  · exact hsame
  · have hfound := (look_iff_of_makeDirectory ht hns h).mpr hx
    rw [hd'.look_missing hns (hbare n (by simpa using hn))] at hfound
    cases hfound

/-- The path ends in a link that the way to its own directory leads through. -/
def InOwnWay (t : FileTree) (ns : List String) (n : String) : Prop :=
  ∃ q target, t.resolve false (build true (ns ++ [n])) = .ok q ∧ t.node? q = some (.link target) ∧
    (t.erase q).look true (build true ns) ≠ .ok .directory

/-- A file that takes the place at the end of a path leaves the way there open unless it takes that of a link in its own
way. -/
theorem reaches_put_iff (ht : t.WellFormed) (hns : AreNames (ns ++ [n]))
    (hmade : t.makeDirectory (build true ns) = .ok made) (hd : made.Reaches ns d)
    (hfree : made.node? (child d n) ≠ some .directory) (content : Bytes) (modified : Int) :
    (made.put (child d n) (.file content modified)).Reaches ns d ↔ ¬t.InOwnWay ns n := by
  have hdirs := (areNames_append.mp hns).1
  have hroot : child d n ≠ "/" :=
    (hd.hasPlace (ht.makeDirectory (isAbsolute_rooted _) hmade) (by simpa using (areNames_append.mp hns).2)).ne_root
  have hfile : (made.put (child d n) (.file content modified)).node? (child d n) = some (.file content modified) :=
    node?_put_self hroot _
  have hput : ∀ r, r ≠ child d n → (made.put (child d n) (.file content modified)).node? r = made.node? r :=
    fun r hr => node?_put_of_ne hroot _ hr
  have herase : ∀ r, r ≠ child d n → (made.erase (child d n)).node? r = made.node? r := fun r hr => node?_erase_of_ne hr
  have hnone : (made.erase (child d n)).node? (child d n) = none := node?_erase_self hroot
  constructor
  · rintro hreaches ⟨q, target, hq, hlink, hway⟩
    have hlook : t.look false (build true (ns ++ [n])) = .ok (.link target) := by
      rw [look, hq]
      simp only [hlink]
    obtain rfl := eq_of_makeDirectory ht hns hmade hlook
    obtain rfl := Except.ok.inj (hq.symm.trans (hd.resolve hns))
    apply hway
    rw [look_directory_iff hdirs]
    exact ⟨d, hreaches.of_changed_elsewhere (fun r hr => (herase r hr).trans (hput r hr).symm) (.inr ⟨_, _, hfile⟩)⟩
  · intro hopen
    cases hnode : made.node? (child d n) with
    | none => exact hd.of_changed_elsewhere hput (.inl hnode)
    | some x =>
        cases x with
        | file c i => exact hd.of_changed_elsewhere hput (.inr ⟨c, i, hnode⟩)
        | directory => exact absurd hnode hfree
        | link target =>
            obtain rfl := eq_of_makeDirectory ht hns hmade
              ((look_iff_of_makeDirectory ht hns hmade).mp (hd.look_unfollowed hns hnode))
            have hway : (made.erase (child d n)).look true (build true ns) = .ok .directory := by
              by_contra hway
              exact hopen ⟨_, target, hd.resolve hns, hnode, hway⟩
            obtain ⟨d', hd'⟩ := (look_directory_iff hdirs).mp hway
            have hback := hd'.of_changed_elsewhere (fun r hr => (herase r hr).symm) (.inl hnone)
            obtain rfl := hd.unique hback
            exact hd'.of_changed_elsewhere (fun r hr => (hput r hr).trans (herase r hr).symm) (.inl hnone)

end SourceSurvey.FileTree
