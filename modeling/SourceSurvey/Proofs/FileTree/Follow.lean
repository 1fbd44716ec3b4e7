import SourceSurvey.Proofs.FileTree

namespace SourceSurvey

open SourceSurvey.Path

namespace FileTree

variable {t t' : FileTree} {p q here : String} {ns ps qs : List String} {links : Nat} {c : FileCause} {x : FileNode}
  {f : Bool}

theorem walk_missing (h : t.node? (child here p) = none) : walk t f links here (p :: ps) =
    if ps.isEmpty then .ok (child here p) else .error .notFound := by
  rw [walk.eq_def]
  simp only [h]

theorem walk_directory (h : t.node? (child here p) = some .directory) :
    walk t f links here (p :: ps) = walk t f links (child here p) ps := by
  rw [walk.eq_def]
  simp only [h]

theorem walk_file {content : Bytes} {modified : Int} (h : t.node? (child here p) = some (.file content modified)) :
    walk t f links here (p :: ps) = if ps.isEmpty then .ok (child here p) else .error .notDirectory := by
  rw [walk.eq_def]
  simp only [h]

theorem walk_link_end {target : String} (h : t.node? (child here p) = some (.link target)) :
    walk t false links here [p] = .ok (child here p) := by
  rw [walk.eq_def]
  simp only [h]
  rfl

theorem walk_link_zero {target : String} (h : t.node? (child here p) = some (.link target)) (hgoes : ps ≠ [] ∨ f) :
    walk t f 0 here (p :: ps) = .error .tooManyLinks := by
  have hgoes : (ps.isEmpty && !f) = false := by simpa [or_iff_not_imp_left] using hgoes
  rw [walk.eq_def]
  simp [h, hgoes]

theorem walk_link_succ {target : String} (h : t.node? (child here p) = some (.link target)) (hgoes : ps ≠ [] ∨ f) :
    walk t f (links + 1) here (p :: ps) =
      walk t f links "/" (parts (clean (if isAbsolute target then target else here ++ "/" ++ target)) ++ ps) := by
  have hgoes : (ps.isEmpty && !f) = false := by simpa [or_iff_not_imp_left] using hgoes
  rw [walk.eq_def]
  simp only [h, hgoes, Bool.false_eq_true, if_false]

theorem ne_nil_of_goes (h : ¬(ps.isEmpty && !f) = true) : ps ≠ [] ∨ f := by
  cases ps <;> cases f <;> simp_all

theorem walk_ne_root (hns : AreNames ns) (hps : AreNames ps) (hne : ps ≠ []) (hhere : here = build true ns)
    (h : walk t false links here ps = .ok q) : q ≠ "/" := by
  have hchild : ∀ {ns p here}, AreNames ns → IsName p → here = build true ns → child here p ≠ "/" := by
    intro ns p here hns hp hhere
    rw [child_of_eq hns hhere, ne_eq, rooted_eq_root_iff (areNames_append.mpr ⟨hns, by simpa using hp⟩)]
    simp
  -- The cases of a walk are told apart at `hasPlace_of_walk`.
  fun_induction walk t false links here ps generalizing ns with
  | case1 => exact absurd rfl hne
  | case2 | case5 | case7 => exact Except.ok.inj h ▸ hchild hns (areNames_cons.mp hps).1 hhere
  | case3 | case6 | case8 => cases h
  | case4 =>
      rename_i here p ps next _ ih
      obtain ⟨hp, hps⟩ := areNames_cons.mp hps
      by_cases hend : ps = []
      · rw [hend, walk] at h
        exact Except.ok.inj h ▸ hchild hns hp hhere
      · exact ih (areNames_append.mpr ⟨hns, by simpa using hp⟩) hps hend (child_of_eq hns hhere p) h
  | case9 =>
      rename_i here p ps next target _ hgoes links goal ih
      have hmore : ps ≠ [] := by simpa using ne_nil_of_goes hgoes
      have hgoals : AreNames (parts goal ++ ps) :=
        areNames_append.mpr ⟨areNames_goal hhere target, (areNames_cons.mp hps).2⟩
      exact ih areNames_nil hgoals (by simp [hmore]) rfl h

theorem walk_of_walk_error (h : walk t false links here ps = .error c) : walk t true links here ps = .error c := by
  fun_induction walk t false links here ps with
  | case1 | case2 | case5 | case7 => cases h
  | case3 =>
      rename_i hnode hps
      rw [walk_missing hnode, if_neg hps, h]
  | case6 =>
      rename_i hnode hps
      rw [walk_file hnode, if_neg hps, h]
  | case8 =>
      rename_i hnode hps
      rw [walk_link_zero hnode (.inr rfl), h]
  | case4 =>
      rename_i hnode ih
      rw [walk_directory hnode, ih h]
  | case9 =>
      rename_i hnode _ _ _ ih
      rw [walk_link_succ hnode (.inr rfl)]
      exact ih h

theorem walk_of_walk (hlink : ∀ target, t.node? q ≠ some (.link target)) (h : walk t false links here ps = .ok q) :
    walk t true links here ps = .ok q := by
  fun_induction walk t false links here ps with
  | case1 => rw [walk, ← h]
  | case2 =>
      rename_i hnode hps
      rw [walk_missing hnode, if_pos hps, ← h]
  | case5 =>
      rename_i hnode hps
      rw [walk_file hnode, if_pos hps, ← h]
  | case3 | case6 | case8 => cases h
  | case7 =>
      rename_i hnode _
      exact absurd (Except.ok.inj h ▸ hnode) (hlink _)
  | case4 =>
      rename_i hnode ih
      rw [walk_directory hnode, ih h]
  | case9 =>
      rename_i hnode _ _ _ ih
      rw [walk_link_succ hnode (.inr rfl)]
      exact ih h

theorem walk_of_changed (hsame : ∀ r, r ≠ q → t'.node? r = t.node? r)
    (hend : t'.node? q = none ∨ ∃ content modified, t'.node? q = some (.file content modified))
    (h : walk t false links here ps = .ok q) :
    walk t' true links here ps = .ok q ∨ ∃ c, walk t' true links here ps = .error c := by
  -- On the way the two trees agree, unless the way leads through the end itself, where it stops.
  have hstop : ∀ here p ps links, child here p = q →
      walk t' true links here (p :: ps) = .ok q ∨ ∃ c, walk t' true links here (p :: ps) = .error c := by
    rintro here p ps links rfl
    by_cases hps : ps.isEmpty
    · left
      obtain hnone | ⟨content, modified, hfile⟩ := hend
      · rw [walk_missing hnone, if_pos hps]
      · rw [walk_file hfile, if_pos hps]
    · right
      obtain hnone | ⟨content, modified, hfile⟩ := hend
      · exact ⟨_, by rw [walk_missing hnone, if_neg hps]⟩
      · exact ⟨_, by rw [walk_file hfile, if_neg hps]⟩
  fun_induction walk t false links here ps with
  | case1 => exact .inl (by rw [walk, ← h])
  | case2 | case5 | case7 => exact hstop _ _ _ _ (Except.ok.inj h)
  | case3 | case6 | case8 => cases h
  | case4 =>
      rename_i here p ps next hnode ih
      by_cases hnext : next = q
      · exact hstop here p ps _ hnext
      · rw [← hsame next hnext] at hnode
        rw [walk_directory hnode]
        exact ih h
  | case9 =>
      rename_i here p ps next target hnode hgoes links goal ih
      by_cases hnext : next = q
      · exact hstop here p ps _ hnext
      · rw [← hsame next hnext] at hnode
        rw [walk_link_succ hnode (.inr rfl)]
        exact ih h

theorem walk_append (hqs : qs ≠ []) (hhere : t.node? here = some .directory)
    (h : walk t true links here (ps ++ qs) = .ok q) :
    ∃ d, walk t true links here ps = .ok d ∧ t.node? d = some .directory := by
  have hmore : ∀ ps : List String, ¬(ps ++ qs).isEmpty = true := by simp [hqs]
  fun_induction walk t true links here ps with
  | case1 => exact ⟨_, rfl, hhere⟩
  | case2 | case3 =>
      rename_i hnode _
      rw [List.cons_append, walk_missing hnode, if_neg (hmore _)] at h
      cases h
  | case5 | case6 =>
      rename_i hnode _
      rw [List.cons_append, walk_file hnode, if_neg (hmore _)] at h
      cases h
  | case4 =>
      rename_i hnode ih
      rw [List.cons_append, walk_directory hnode] at h
      exact ih hnode h
  | case7 =>
      rename_i hgoes
      simp at hgoes
  | case8 =>
      rename_i hnode _
      rw [List.cons_append, walk_link_zero hnode (.inr rfl)] at h
      cases h
  | case9 =>
      rename_i hnode _ _ _ ih
      rw [List.cons_append, walk_link_succ hnode (.inr rfl), ← List.append_assoc] at h
      exact ih (node?_root t) h

theorem walk_append_missing (hhere : t.node? here = some .directory)
    (h : walk t true links here ps = .error .notFound ∨ ∃ q, walk t true links here ps = .ok q ∧ t.node? q = none)
    (hqs : qs ≠ []) : walk t true links here (ps ++ qs) = .error .notFound := by
  have hmore : ∀ ps : List String, ¬(ps ++ qs).isEmpty = true := by simp [hqs]
  fun_induction walk t true links here ps with
  | case1 =>
      obtain h | ⟨q, h, hnone⟩ := h
      · cases h
      · rw [Except.ok.inj h, hnone] at hhere
        cases hhere
  | case2 | case3 =>
      rename_i hnode _
      rw [List.cons_append, walk_missing hnode, if_neg (hmore _)]
  | case5 =>
      rename_i hnode _
      obtain h | ⟨q, h, hnone⟩ := h
      · cases h
      · rw [Except.ok.inj h, hnone] at hnode
        cases hnode
  | case6 =>
      obtain h | ⟨q, h, -⟩ := h <;> cases h
  | case4 =>
      rename_i hnode ih
      rw [List.cons_append, walk_directory hnode]
      exact ih hnode h
  | case7 =>
      rename_i hgoes
      simp at hgoes
  | case8 =>
      obtain h | ⟨q, h, -⟩ := h <;> cases h
  | case9 =>
      rename_i hnode _ _ _ ih
      rw [List.cons_append, walk_link_succ hnode (.inr rfl), ← List.append_assoc]
      exact ih (node?_root t) h

/-- A path that leads to a file which was put at its end leads there, or it leads through that file before. -/
theorem walk_of_put {n : String} {content : Bytes} {modified : Int} (hsame : ∀ r, r ≠ q → t'.node? r = t.node? r)
    (hfile : t'.node? q = some (.file content modified)) (h : walk t false links here (ps ++ [n]) = .ok q) :
    walk t' true links here (ps ++ [n]) = .ok q ∨ walk t' true links here (ps ++ [n]) = .error .notDirectory ∧
      (walk t' true links here ps = .ok q ∨ walk t' true links here ps = .error .notDirectory) := by
  have hstop : ∀ here p rest ps links, p :: rest = ps ++ [n] → child here p = q →
      walk t' true links here (ps ++ [n]) = .ok q ∨ walk t' true links here (ps ++ [n]) = .error .notDirectory ∧
        (walk t' true links here ps = .ok q ∨ walk t' true links here ps = .error .notDirectory) := by
    rintro here p rest ps links heq rfl
    cases ps with
    | nil =>
        obtain ⟨rfl, rfl⟩ := List.cons_eq_cons.mp heq
        exact .inl (walk_file hfile)
    | cons p' ps =>
        obtain ⟨rfl, rfl⟩ := List.cons_eq_cons.mp heq
        rw [List.cons_append, walk_file hfile, if_neg (by simp), walk_file hfile]
        refine .inr ⟨rfl, ?_⟩
        by_cases hps : ps.isEmpty
        · exact .inl (if_pos hps)
        · exact .inr (if_neg hps)
  generalize hl : ps ++ [n] = l at h
  rw [← hl]
  fun_induction walk t false links here l generalizing ps with
  | case1 => simp at hl
  | case2 | case5 | case7 => exact hstop _ _ _ _ _ hl.symm (Except.ok.inj h)
  | case3 | case6 | case8 => cases h
  | case4 =>
      rename_i here p rest next hnode ih
      by_cases hnext : next = q
      · exact hstop here p rest ps _ hl.symm hnext
      · rw [← hsame next hnext] at hnode
        cases ps with
        | nil =>
            obtain ⟨rfl, rfl⟩ := List.cons_eq_cons.mp hl
            rw [walk] at h
            exact absurd (Except.ok.inj h) hnext
        | cons p' ps =>
            obtain ⟨rfl, rfl⟩ := List.cons_eq_cons.mp hl
            rw [List.cons_append, walk_directory hnode, walk_directory hnode]
            exact ih rfl h
  | case9 =>
      rename_i here p rest next target hnode hgoes links goal ih
      by_cases hnext : next = q
      · exact hstop here p rest ps _ hl.symm hnext
      · rw [← hsame next hnext] at hnode
        cases ps with
        | nil =>
            obtain ⟨rfl, rfl⟩ := List.cons_eq_cons.mp hl
            simp at hgoes
        | cons p' ps =>
            obtain ⟨rfl, rfl⟩ := List.cons_eq_cons.mp hl
            rw [List.cons_append, walk_link_succ hnode (.inr rfl), walk_link_succ hnode (.inr rfl), ← List.append_assoc]
            exact ih (List.append_assoc ..) h

theorem node?_of_walk_new (ht : t.WellFormed) (hgrows : t.GrowsTo t') (hns : AreNames ns) (hps : AreNames ps)
    (hhere : here = build true ns) (hmissing : t.node? here = none) (hdir : t'.node? here = some .directory)
    (h : walk t' f links here ps = .ok q) : t'.node? q = none ∨ t'.node? q = some .directory := by
  induction ps generalizing here ns with
  | nil =>
      rw [walk] at h
      exact .inr (Except.ok.inj h ▸ hdir)
  | cons p ps ih =>
      obtain ⟨hp, hps⟩ := areNames_cons.mp hps
      have hnext : child here p = build true (ns ++ [p]) := child_of_eq hns hhere p
      have hnone : t.node? (child here p) = none := by
        rw [hnext]
        cases hx : t.node? (build true (ns ++ [p])) with
        | none => rfl
        | some x =>
            have habove := ht.directory_above hns hp hx
            rw [← hhere, hmissing] at habove
            cases habove
      obtain hsame | ⟨-, hnew⟩ := hgrows (child here p)
      · rw [hnone] at hsame
        rw [walk_missing hsame] at h
        split at h
        · exact .inl (Except.ok.inj h ▸ hsame)
        · cases h
      · rw [walk_directory hnew] at h
        exact ih (areNames_append.mpr ⟨hns, by simpa using hp⟩) hps hnext hnone hnew h

/-- A path that leads to a file does so without the directories that were added. -/
theorem walk_of_growsTo (ht : t.WellFormed) (hgrows : t.GrowsTo t') (hns : AreNames ns) (hps : AreNames ps)
    (hhere : here = build true ns) (hx : t'.node? q = some x) (hfile : x ≠ .directory)
    (h : walk t' f links here ps = .ok q) : walk t f links here ps = .ok q := by
  fun_induction walk t' f links here ps generalizing ns with
  | case1 => rw [walk, ← h]
  | case2 =>
      rename_i hnode _
      rw [Except.ok.inj h, hx] at hnode
      cases hnode
  | case3 | case6 | case8 => cases h
  | case5 =>
      rename_i hnode hps'
      rw [walk_file (hgrows.of_node? hnode (by simp)), if_pos hps', ← h]
  | case7 =>
      rename_i hnode hend
      obtain ⟨hempty, hf⟩ := Bool.and_eq_true_iff.mp hend
      obtain rfl : f = false := by simpa using hf
      rw [List.isEmpty_iff.mp hempty, walk_link_end (hgrows.of_node? hnode (by simp)), ← h]
  | case4 =>
      rename_i here p ps next hnode ih
      obtain ⟨hp, hps⟩ := areNames_cons.mp hps
      have hnext : next = build true (ns ++ [p]) := child_of_eq hns hhere p
      have hnames : AreNames (ns ++ [p]) := areNames_append.mpr ⟨hns, by simpa using hp⟩
      obtain hsame | ⟨hmissing, -⟩ := hgrows next
      · rw [hsame] at hnode
        rw [walk_directory hnode]
        exact ih hnames hps hnext h
      · obtain hnone | hdir := node?_of_walk_new ht hgrows hnames hps hnext hmissing hnode h
        · rw [hx] at hnone
          cases hnone
        · rw [hx] at hdir
          exact absurd (Option.some.inj hdir) hfile
  | case9 =>
      rename_i here p ps next target hnode hgoes links goal ih
      rw [walk_link_succ (hgrows.of_node? hnode (by simp)) (ne_nil_of_goes hgoes)]
      exact ih areNames_nil (areNames_append.mpr ⟨areNames_goal hhere target, (areNames_cons.mp hps).2⟩) rfl h

theorem look_of_growsTo (ht : t.WellFormed) (hgrows : t.GrowsTo t') (hp : isAbsolute p) (hfile : x ≠ .directory)
    (h : t'.look f p = .ok x) : t.look f p = .ok x := by
  obtain ⟨ns, hns, hclean⟩ := exists_clean hp
  rw [look] at h ⊢
  split at h
  · cases h
  rename_i q hq
  split at h
  · rename_i y hy
    obtain rfl := Except.ok.inj h
    rw [resolve, hclean, parts_rooted hns] at hq ⊢
    have hwalk : walk t f maxLinks "/" ns = .ok q := walk_of_growsTo ht hgrows areNames_nil hns rfl hy hfile hq
    simp only [hwalk, hgrows.of_node? hy hfile]
  · cases h

theorem makeDirectory_above_file {content : Bytes} {modified : Int} {n : String} (hns : AreNames (ns ++ [n]))
    (h : t.look true (build true (ns ++ [n])) = .ok (.file content modified)) :
    t.makeDirectory (build true ns) = .ok t := by
  have hwalk : ∃ q, walk t true maxLinks "/" (ns ++ [n]) = .ok q := by
    rw [look, resolve, clean_rooted hns, parts_rooted hns] at h
    split at h
    · cases h
    · exact ⟨_, ‹_›⟩
  obtain ⟨q, hq⟩ := hwalk
  have hns := (areNames_append.mp hns).1
  have habove : ∀ ks, ks <+: ns → t.look true (build true ks) = .ok .directory := by
    rintro ks ⟨ms, rfl⟩
    have hks := (areNames_append.mp hns).1
    rw [List.append_assoc] at hq
    obtain ⟨d, hd, hdir⟩ := walk_append (by simp) (node?_root t) hq
    rw [look, resolve, clean_rooted hks, parts_rooted hks, hd]
    simp only [hdir]
  have hmake : ∀ ms ks, ks ++ ms = ns → makeParts t (build true ks) ms = .ok t := by
    intro ms
    induction ms with
    | nil => exact fun _ _ => rfl
    | cons m ms ih =>
        intro ks heq
        have hks : AreNames (ks ++ [m]) := hns.subset (by simp [← heq])
        rw [makeParts, child_rooted (areNames_append.mp hks).1, habove (ks ++ [m]) ⟨ms, by simp [← heq]⟩]
        exact ih (ks ++ [m]) (by simp [← heq])
  rw [makeDirectory, clean_rooted hns, parts_rooted hns]
  exact hmake ns [] rfl

def Unreadable (t : FileTree) (path : String) : Prop := ∀ content modified, t.look true path ≠ .ok (.file content modified)

theorem unreadable_of_resolve_error {path : String} {c : FileCause} (h : t.resolve false path = .error c) :
    t.Unreadable path := by
  intro content modified hlook
  rw [look, resolve, walk_of_walk_error h] at hlook
  cases hlook

theorem unreadable_of_resolve {path : String} (h : t.resolve false path = .ok q)
    (hq : t.node? q = none ∨ t.node? q = some .directory) : t.Unreadable path := by
  intro content modified hlook
  have hlink : ∀ target, t.node? q ≠ some (.link target) := by
    intro target
    obtain hq | hq := hq <;> simp [hq]
  rw [look, resolve, walk_of_walk hlink h] at hlook
  obtain hq | hq := hq <;> simp [hq] at hlook

theorem unreadable_of_directory {path : String} (h : t.look false path = .ok .directory) : t.Unreadable path := by
  rw [look] at h
  split at h
  · cases h
  rename_i q hq
  split at h
  · rename_i hnode
    exact unreadable_of_resolve hq (.inr (Except.ok.inj h ▸ hnode))
  · cases h

theorem not_directory_of_free {path : String} (hfree : t.look false path ≠ .ok .directory)
    (hq : t.resolve false path = .ok q) : t.node? q ≠ some .directory := by
  intro hdir
  apply hfree
  rw [look, hq]
  simp only [hdir]

theorem hasPlace_of_free {path : String} (hpath : isAbsolute path) (hfree : t.look false path ≠ .ok .directory)
    (hq : t.resolve false path = .ok q) : t.HasPlace q :=
  (hasPlace_of_resolve hpath hq).resolve_left (not_directory_of_free hfree hq)

/-- What is read at a path once a file, or nothing, was put where it leads. -/
theorem look_of_changed {path : String} (h : t.resolve false path = .ok q) (hsame : ∀ r, r ≠ q → t'.node? r = t.node? r)
    (hend : t'.node? q = none ∨ ∃ content modified, t'.node? q = some (.file content modified)) {x : FileNode}
    (hlook : t'.look true path = .ok x) : t'.node? q = some x := by
  rw [look, resolve] at hlook
  obtain hq | ⟨c, hc⟩ := walk_of_changed hsame hend h
  · rw [hq] at hlook
    dsimp only at hlook
    split at hlook
    · rename_i hnode
      rw [hnode, Except.ok.inj hlook]
    · cases hlook
  · rw [hc] at hlook
    cases hlook

theorem unreadable_root (t : FileTree) : t.Unreadable (build true []) := by
  apply unreadable_of_directory
  rw [look, resolve, clean_rooted areNames_nil, parts_rooted areNames_nil, walk]
  simp only [node?_root]

theorem unreadable_of_remove (hns : AreNames ns) (h : t.remove (build true ns) = .ok t') :
    t'.Unreadable (build true ns) := by
  by_cases hne : ns = []
  · exact hne ▸ unreadable_root t'
  obtain ⟨q, x, hq, -, -, rfl⟩ := of_remove h
  have hroot : q ≠ "/" := by
    rw [resolve, clean_rooted hns, parts_rooted hns] at hq
    exact walk_ne_root areNames_nil hns hne rfl hq
  have hnone : (t.erase q).node? q = none := node?_erase_self hroot
  intro content modified hlook
  have hnode := look_of_changed hq (fun r hr => node?_erase_of_ne hr) (.inl hnone) hlook
  rw [hnone] at hnode
  cases hnode

theorem unreadable_of_remove_error {path : String} {e : FileError} (h : t.remove path = .error e) :
    t.Unreadable path := by
  rw [remove] at h
  split at h
  · exact unreadable_of_resolve_error ‹_›
  rename_i q hq
  split at h
  · exact unreadable_of_resolve hq (.inl ‹_›)
  · exact unreadable_of_resolve hq (.inr ‹_›)
  · cases h

theorem look_append_missing (hns : AreNames (ns ++ ps)) (h : t.look true (build true ns) = .error .notFound) :
    t.look true (build true (ns ++ ps)) = .error .notFound := by
  by_cases hps : ps = []
  · rwa [hps, List.append_nil]
  have hnames := (areNames_append.mp hns).1
  rw [look, resolve, clean_rooted hnames, parts_rooted hnames] at h
  have hwalk : walk t true maxLinks "/" (ns ++ ps) = .error .notFound := by
    apply walk_append_missing (node?_root t) _ hps
    split at h
    · rename_i hwalk
      exact .inl (hwalk.trans (congrArg Except.error (Except.error.inj h)))
    · rename_i q hwalk
      split at h
      · cases h
      · exact .inr ⟨q, hwalk, ‹_›⟩
  rw [look, resolve, clean_rooted hns, parts_rooted hns, hwalk]

theorem makeDirectory_error (hns : AreNames ns) (hdir : t.look true (build true ns) ≠ .ok .directory)
    (hfound : t.look true (build true ns) ≠ .error .notFound) : ∃ e, t.makeDirectory (build true ns) = .error e := by
  have hmake : ∀ ms ks, ks ++ ms = ns → ms ≠ [] → ∃ e, makeParts t (build true ks) ms = .error e := by
    intro ms
    induction ms with
    | nil => exact fun _ _ h => absurd rfl h
    | cons m ms ih =>
        intro ks heq _
        have hks : AreNames (ks ++ [m]) := hns.subset (by simp [← heq])
        have hbelow : ks ++ [m] ++ ms = ns := by simp [← heq]
        rw [makeParts, child_rooted (areNames_append.mp hks).1]
        cases hlook : t.look true (build true (ks ++ [m])) with
        | ok x =>
            cases x with
            | file | link => exact ⟨_, rfl⟩
            | directory =>
                apply ih (ks ++ [m]) hbelow
                rintro rfl
                rw [← hbelow, List.append_nil, hlook] at hdir
                exact hdir rfl
        | error c =>
            dsimp only
            cases hreal : t.resolve false (build true (ks ++ [m])) with
            | error c => exact ⟨_, rfl⟩
            | ok real =>
                dsimp only
                by_cases hthere : (t.node? real).isSome
                · exact ⟨_, if_pos hthere⟩
                have hnone : t.node? real = none := by simpa using hthere
                have hmissing : t.look true (build true (ks ++ [m])) = .error .notFound := by
                  rw [look, resolve, walk_of_walk (by simp [hnone]) hreal]
                  simp only [hnone]
                exact absurd (hbelow ▸ look_append_missing (hbelow ▸ hns) hmissing) hfound
  rw [makeDirectory, clean_rooted hns, parts_rooted hns]
  apply hmake ns [] rfl
  rintro rfl
  apply hdir
  rw [look, resolve, clean_rooted hns, parts_rooted hns, walk]
  simp only [node?_root]

/-- A path that leads through a file. Its directory cannot be made, nor does it ever lead anywhere. -/
structure Blocked (t : FileTree) (ns : List String) (n : String) : Prop where
  look : t.look true (build true (ns ++ [n])) = .error .notDirectory
  makes : ∃ e, t.makeDirectory (build true ns) = .error e

theorem look_of_put {n : String} (hns : AreNames (ns ++ [n])) (hroot : q ≠ "/") {content : Bytes} {modified : Int}
    (h : t.resolve false (build true (ns ++ [n])) = .ok q) :
    (t.put q (.file content modified)).look true (build true (ns ++ [n])) = .ok (.file content modified) ∨
      (t.put q (.file content modified)).Blocked ns n := by
  have hfile : (t.put q (.file content modified)).node? q = some (.file content modified) := node?_put_self hroot _
  have hsame : ∀ r, r ≠ q → (t.put q (.file content modified)).node? r = t.node? r := fun r hr =>
    node?_put_of_ne hroot _ hr
  have hdirs := (areNames_append.mp hns).1
  rw [resolve, clean_rooted hns, parts_rooted hns] at h
  obtain hwalk | ⟨hwalk, habove⟩ := walk_of_put hsame hfile h
  · left
    rw [look, resolve, clean_rooted hns, parts_rooted hns, hwalk]
    simp only [hfile]
  · right
    refine ⟨by rw [look, resolve, clean_rooted hns, parts_rooted hns, hwalk], ?_⟩
    apply makeDirectory_error hdirs
    all_goals
      rw [look, resolve, clean_rooted hdirs, parts_rooted hdirs]
      obtain habove | habove := habove <;> simp [habove, hfile]

end FileTree

end SourceSurvey
