import Mathlib.Data.List.Induction
import SourceSurvey.Proofs.Keyed
import SourceSurvey.Proofs.Path

namespace SourceSurvey.FileTree

open SourceSurvey.Path

variable {t t' : FileTree} {p q : String} {x : FileNode} {ns ms : List String}

@[simp] theorem node?_root (t : FileTree) : t.node? "/" = some .directory := if_pos rfl

theorem stat_eq_ok_iff {path : String} {x : FileNode} : t.stat path = .ok x ↔ t.look true path = .ok x := by
  rw [stat]
  cases t.look true path <;> simp

theorem node?_rooted_nil (t : FileTree) : t.node? (build true []) = some .directory := node?_root t

theorem node?_erase_of_ne (hq : q ≠ p) : (t.erase p).node? q = t.node? q := by
  rw [node?, node?, erase, Keyed.lookup_filter_ne, if_neg hq]

theorem node?_erase_self (hp : p ≠ "/") : (t.erase p).node? p = none := by
  rw [node?, if_neg hp, erase, Keyed.lookup_filter_ne, if_pos rfl]

theorem node?_of_node?_erase (h : (t.erase p).node? q = some x) : t.node? q = some x := by
  by_cases hq : q = p
  · subst hq
    by_cases hroot : q = "/"
    · subst hroot
      exact h
    · rw [node?_erase_self hroot] at h
      cases h
  · rwa [node?_erase_of_ne hq] at h

theorem node?_put (hp : p ≠ "/") (x : FileNode) (q : String) :
    (t.put p x).node? q = if q = p then some x else t.node? q := by
  rw [node?, node?, put, List.lookup_append, Keyed.lookup_filter_ne, List.lookup_cons]
  by_cases hq : q = "/"
  · rw [if_pos hq, if_neg (hq.trans_ne hp.symm), if_pos hq]
  · by_cases hqp : q = p
    · simp [hp, hqp]
    · simp [hq, hqp, beq_eq_false_iff_ne.mpr hqp]

theorem node?_put_self (hp : p ≠ "/") (x : FileNode) : (t.put p x).node? p = some x := by
  rw [node?_put hp, if_pos rfl]

theorem node?_put_of_ne (hp : p ≠ "/") (x : FileNode) (hq : q ≠ p) : (t.put p x).node? q = t.node? q := by
  rw [node?_put hp, if_neg hq]

/-- A clean absolute path below a directory of the tree, whether something stands there or not. -/
def HasPlace (t : FileTree) (p : String) : Prop :=
  ∃ ns n, AreNames ns ∧ IsName n ∧ p = build true (ns ++ [n]) ∧ t.node? (build true ns) = some .directory

theorem HasPlace.ne_root (h : t.HasPlace p) : p ≠ "/" := by
  obtain ⟨ns, n, hns, hn, rfl, -⟩ := h
  rw [ne_eq, rooted_eq_root_iff (areNames_append.mpr ⟨hns, by simpa using hn⟩)]
  simp

theorem HasPlace.mono (h : t.HasPlace p) (hdir : ∀ q, t.node? q = some .directory → t'.node? q = some .directory) :
    t'.HasPlace p := by
  obtain ⟨ns, n, hns, hn, rfl, hparent⟩ := h
  exact ⟨ns, n, hns, hn, rfl, hdir _ hparent⟩

theorem hasPlace_iff : t.HasPlace p ↔ parts p ≠ [] ∧ AreNames (parts p) ∧ p = build true (parts p) ∧
    t.node? (build true (parts p).dropLast) = some .directory := by
  constructor
  · rintro ⟨ns, n, hns, hn, rfl, hparent⟩
    rw [parts_rooted (areNames_append.mpr ⟨hns, by simpa using hn⟩), List.dropLast_concat]
    exact ⟨by simp, by simp [hns, hn], rfl, hparent⟩
  · rintro ⟨hne, hnames, hp, hparent⟩
    have hsplit := List.dropLast_append_getLast hne
    rw [← hsplit, areNames_append] at hnames
    exact ⟨_, _, hnames.1, by simpa using hnames.2, by rwa [hsplit], hparent⟩

instance : Decidable (t.HasPlace p) := decidable_of_iff _ hasPlace_iff.symm

structure WellFormed (t : FileTree) : Prop where
  unique : (t.nodes.map Prod.fst).Nodup
  placed : ∀ p ∈ t.nodes.map Prod.fst, t.HasPlace p

instance : Decidable t.WellFormed :=
  decidable_of_iff ((t.nodes.map Prod.fst).Nodup ∧ ∀ p ∈ t.nodes.map Prod.fst, t.HasPlace p)
    ⟨fun ⟨hunique, hplaced⟩ => ⟨hunique, hplaced⟩, fun h => ⟨h.unique, h.placed⟩⟩

theorem wellFormed_empty : WellFormed {} := ⟨by simp, by simp⟩

namespace WellFormed

theorem mem_nodes_iff (ht : t.WellFormed) : (p, x) ∈ t.nodes ↔ p ≠ "/" ∧ t.node? p = some x := by
  constructor
  · intro h
    have hp : p ≠ "/" := (ht.placed p (List.mem_map_of_mem h)).ne_root
    refine ⟨hp, ?_⟩
    rw [node?, if_neg hp]
    exact (Keyed.lookup_iff_mem ht.unique).mpr h
  · rintro ⟨hp, h⟩
    rw [node?, if_neg hp] at h
    exact Keyed.mem_of_lookup h

theorem hasPlace (ht : t.WellFormed) (hp : p ≠ "/") (h : t.node? p = some x) : t.HasPlace p :=
  ht.placed p (List.mem_map_of_mem (ht.mem_nodes_iff.mpr ⟨hp, h⟩))

theorem exists_names (ht : t.WellFormed) (h : t.node? p = some x) : ∃ ns, AreNames ns ∧ p = build true ns := by
  by_cases hp : p = "/"
  · exact ⟨[], areNames_nil, hp⟩
  · obtain ⟨ns, n, hns, hn, rfl, -⟩ := ht.hasPlace hp h
    exact ⟨ns ++ [n], areNames_append.mpr ⟨hns, by simpa using hn⟩, rfl⟩

theorem directory_above (ht : t.WellFormed) {n : String} (hns : AreNames ns) (hn : IsName n)
    (h : t.node? (build true (ns ++ [n])) = some x) : t.node? (build true ns) = some .directory := by
  have hnames : AreNames (ns ++ [n]) := areNames_append.mpr ⟨hns, by simpa using hn⟩
  obtain ⟨ns', n', hns', hn', heq, hparent⟩ := ht.hasPlace ((rooted_eq_root_iff hnames).not.mpr (by simp)) h
  rw [rooted_inj hnames (areNames_append.mpr ⟨hns', by simpa using hn'⟩)] at heq
  rwa [(List.append_inj' heq rfl).1]

/-- Whatever stands in the tree stands below directories only. -/
theorem directory_of_prefix (ht : t.WellFormed) (hms : ms ≠ []) (hnames : AreNames (ns ++ ms))
    (h : t.node? (build true (ns ++ ms)) = some x) : t.node? (build true ns) = some .directory := by
  induction ms using List.reverseRecOn generalizing x with
  | nil => exact absurd rfl hms
  | append_singleton ms n ih =>
      rw [← List.append_assoc] at h hnames
      obtain ⟨hfront, hn⟩ := areNames_append.mp hnames
      have habove := ht.directory_above hfront (by simpa using hn) h
      by_cases hms' : ms = []
      · simpa [hms'] using habove
      · exact ih hms' hfront habove

theorem listed_iff (ht : t.WellFormed) (hns : AreNames ns) (h : (p, x) ∈ t.nodes) {n : String} :
    (if isBelow (build true ns) p && Path.parent p = build true ns then some (Path.base p) else none) = some n ↔
      IsName n ∧ p = build true (ns ++ [n]) := by
  obtain ⟨hroot, hx⟩ := ht.mem_nodes_iff.mp h
  obtain ⟨ms, m, hms, hm, rfl, -⟩ := ht.hasPlace hroot hx
  have hnames : AreNames (ms ++ [m]) := areNames_append.mpr ⟨hms, by simpa using hm⟩
  rw [Option.ite_none_right_eq_some, parent_rooted hms hm, base_rooted hms hm]
  simp only [Bool.and_eq_true, decide_eq_true_eq, rooted_inj hms hns, Option.some.injEq]
  constructor
  · rintro ⟨⟨-, rfl⟩, rfl⟩
    exact ⟨hm, rfl⟩
  · rintro ⟨hn, heq⟩
    rw [rooted_inj hnames (areNames_append.mpr ⟨hns, by simpa using hn⟩)] at heq
    obtain ⟨rfl, hmn⟩ := List.append_inj' heq rfl
    exact ⟨⟨(isBelow_rooted hms hnames).mpr (by simp), rfl⟩, List.singleton_inj.mp hmn⟩

theorem mem_names (ht : t.WellFormed) (hns : AreNames ns) {n : String} :
    n ∈ t.names (build true ns) ↔ IsName n ∧ ∃ x, t.node? (build true (ns ++ [n])) = some x := by
  rw [names, (List.mergeSort_perm _ _).mem_iff, List.mem_filterMap]
  constructor
  · rintro ⟨⟨p, x⟩, hmem, hp⟩
    obtain ⟨hn, rfl⟩ := (ht.listed_iff hns hmem).mp hp
    exact ⟨hn, x, (ht.mem_nodes_iff.mp hmem).2⟩
  · rintro ⟨hn, x, hx⟩
    have hnames : AreNames (ns ++ [n]) := areNames_append.mpr ⟨hns, by simpa using hn⟩
    have hmem := ht.mem_nodes_iff.mpr ⟨(rooted_eq_root_iff hnames).not.mpr (by simp), hx⟩
    exact ⟨_, hmem, (ht.listed_iff hns hmem).mpr ⟨hn, rfl⟩⟩

theorem nodup_names (ht : t.WellFormed) (hns : AreNames ns) : (t.names (build true ns)).Nodup := by
  rw [names, (List.mergeSort_perm _ _).nodup_iff, List.Nodup, List.pairwise_filterMap]
  refine (List.pairwise_map.mp ht.unique).imp_of_mem fun {e e'} he he' hne n hn n' hn' heq => hne ?_
  obtain ⟨-, hp⟩ := (ht.listed_iff hns he).mp hn
  obtain ⟨-, hp'⟩ := (ht.listed_iff hns he').mp hn'
  rw [hp, hp', heq]

theorem put (ht : t.WellFormed) (hp : t.HasPlace p) (hx : t.node? p = some .directory → x = .directory) :
    (t.put p x).WellFormed := by
  have hdir : ∀ q, t.node? q = some .directory → (t.put p x).node? q = some .directory := by
    intro q hq
    rw [node?_put hp.ne_root]
    split
    · rename_i h
      rw [hx (h ▸ hq)]
    · exact hq
  constructor
  · rw [FileTree.put, List.map_append, List.nodup_append]
    exact ⟨ht.unique.sublist (List.filter_sublist.map _), by simp, by simp +contextual [List.mem_filter]⟩
  · intro q hq
    rw [FileTree.put, List.map_append, List.mem_append] at hq
    obtain hq | hq := hq
    · exact (ht.placed q ((List.filter_sublist.map _).subset hq)).mono hdir
    · obtain rfl : q = p := by simpa using hq
      exact hp.mono hdir

theorem erase (ht : t.WellFormed) (hempty : ∀ e ∈ t.nodes, ¬isBelow p e.1) : (t.erase p).WellFormed := by
  refine ⟨ht.unique.sublist (List.filter_sublist.map _), fun q hq => ?_⟩
  have hq' : q ∈ t.nodes.map Prod.fst := (List.filter_sublist.map _).subset hq
  obtain ⟨ns, n, hns, hn, rfl, hparent⟩ := ht.placed q hq'
  refine ⟨ns, n, hns, hn, rfl, ?_⟩
  rw [node?_erase_of_ne, hparent]
  rintro rfl
  obtain ⟨e, he, heq⟩ := List.mem_map.mp hq'
  have hnames : AreNames (ns ++ [n]) := areNames_append.mpr ⟨hns, by simpa using hn⟩
  exact hempty e he (heq ▸ (isBelow_rooted hns hnames).mpr (by simp))

end WellFormed

theorem names_eq {directory : String} {names : List String} (hsorted : names.Pairwise (· ≤ ·))
    (hlisted : t.nodes.filterMap (fun e =>
      if isBelow directory e.1 && Path.parent e.1 = directory then some (Path.base e.1) else none) = names) :
    t.names directory = names := by
  subst hlisted
  exact List.mergeSort_of_pairwise (by simpa using hsorted)

theorem child_of_eq {here : String} (hns : AreNames ns) (hhere : here = build true ns) (n : String) :
    child here n = build true (ns ++ [n]) := by
  rw [hhere, child_rooted hns]

theorem areNames_goal {here : String} (hhere : here = build true ns) (target : String) :
    AreNames (parts (clean (if isAbsolute target then target else here ++ "/" ++ target))) := by
  have habsolute : isAbsolute (if isAbsolute target then target else here ++ "/" ++ target) := by
    split
    · assumption
    · rw [hhere, String.append_assoc]
      exact isAbsolute_append (isAbsolute_rooted ns) _
  obtain ⟨goals, hgoals, hgoal⟩ := exists_clean habsolute
  rw [hgoal, parts_rooted hgoals]
  exact hgoals

theorem hasPlace_of_walk {followLast : Bool} {links : Nat} {here : String} {ps : List String} (hns : AreNames ns)
    (hps : AreNames ps) (hhere : here = build true ns) (hdir : t.node? here = some .directory)
    (h : walk t followLast links here ps = .ok p) : t.node? p = some .directory ∨ t.HasPlace p := by
  have hchild : ∀ n, IsName n → t.HasPlace (child here n) := fun n hn =>
    ⟨ns, n, hns, hn, child_of_eq hns hhere n, hhere ▸ hdir⟩
  -- The cases of a walk: no part is left (1); nothing stands there, at the last part or before it (2, 3); a directory
  -- (4); a file, at the last part or before it (5, 6); a link that is not followed (7), one too many (8), and one that is
  -- followed (9).
  fun_induction walk t followLast links here ps generalizing ns with
  | case1 => exact .inl (Except.ok.inj h ▸ hdir)
  | case2 | case5 | case7 => exact .inr (Except.ok.inj h ▸ hchild _ (areNames_cons.mp hps).1)
  | case3 | case6 | case8 => cases h
  | case4 =>
      rename_i here n ps next hnext ih
      obtain ⟨hn, hps⟩ := areNames_cons.mp hps
      have hnames : AreNames (ns ++ [n]) := areNames_append.mpr ⟨hns, by simpa using hn⟩
      have hnext' : next = build true (ns ++ [n]) := child_of_eq hns hhere n
      refine ih hnames hps hnext' hnext h fun m hm => ?_
      exact ⟨ns ++ [n], m, hnames, hm, by rw [hnext', child_rooted hnames], hnext' ▸ hnext⟩
  | case9 =>
      rename_i here n ps next target _ _ links goal ih
      have hgoals : AreNames (parts goal ++ ps) :=
        areNames_append.mpr ⟨areNames_goal hhere target, (areNames_cons.mp hps).2⟩
      refine ih areNames_nil hgoals rfl (node?_root t) h fun m hm => ?_
      exact ⟨[], m, areNames_nil, hm, child_rooted areNames_nil m, node?_root t⟩

theorem hasPlace_of_resolve {followLast : Bool} (hp : isAbsolute p) (h : t.resolve followLast p = .ok q) :
    t.node? q = some .directory ∨ t.HasPlace q := by
  obtain ⟨ns, hns, hclean⟩ := exists_clean hp
  rw [resolve, hclean, parts_rooted hns] at h
  exact hasPlace_of_walk areNames_nil hns rfl (node?_root t) h

/-- No link stands at a place or on the way to it. -/
def IsDirect (t : FileTree) (ns : List String) : Prop :=
  ∀ k, k <+: ns → ∀ target, t.node? (build true k) ≠ some (.link target)

theorem isDirect_of_nodes (h : ∀ e ∈ t.nodes, ∀ target, e.2 ≠ .link target) (ns : List String) : t.IsDirect ns := by
  intro k _ target hlink
  rw [node?] at hlink
  split at hlink
  · cases hlink
  · exact h _ (Keyed.mem_of_lookup hlink) target rfl

theorem IsDirect.mono (h : t.IsDirect ns)
    (hlinks : ∀ q target, t'.node? q = some (.link target) → t.node? q = some (.link target)) : t'.IsDirect ns :=
  fun k hk target hlink => h k hk target (hlinks _ _ hlink)

theorem eq_of_walk {followLast : Bool} {links : Nat} {here : String} {ps : List String} (hns : AreNames ns)
    (hps : AreNames ps) (hhere : here = build true ns) (hdirect : t.IsDirect (ns ++ ps))
    (h : walk t followLast links here ps = .ok p) : p = build true (ns ++ ps) := by
  fun_induction walk t followLast links here ps generalizing ns with
  | case1 => rw [← Except.ok.inj h, hhere, List.append_nil]
  | case2 | case5 =>
      rename_i hps'
      rw [← Except.ok.inj h, List.isEmpty_iff.mp hps']
      exact child_of_eq hns hhere _
  | case3 | case6 | case8 => cases h
  | case4 =>
      rename_i here n ps next hnext ih
      obtain ⟨hn, hps⟩ := areNames_cons.mp hps
      rw [List.append_cons] at hdirect ⊢
      exact ih (areNames_append.mpr ⟨hns, by simpa using hn⟩) hps (child_of_eq hns hhere n) hdirect h
  | case7 _ here n ps next target hnext | case9 here n ps next target hnext =>
      have hnext' : next = build true (ns ++ [n]) := child_of_eq hns hhere n
      exact absurd (hnext' ▸ hnext) (hdirect _ ⟨ps, (List.append_cons ns n ps).symm⟩ target)

theorem eq_of_resolve {followLast : Bool} (hns : AreNames ns) (hdirect : t.IsDirect ns)
    (h : t.resolve followLast (build true ns) = .ok p) : p = build true ns := by
  rw [resolve, clean_rooted hns, parts_rooted hns] at h
  exact eq_of_walk areNames_nil hns rfl hdirect h

theorem walk_of_directories {followLast : Bool} {links : Nat} {here n : String} {ps : List String} (hns : AreNames ns)
    (hps : AreNames ps) (hhere : here = build true ns)
    (hdir : ∀ k, k <+: ps → t.node? (build true (ns ++ k)) = some .directory)
    (hlink : ∀ target, t.node? (build true (ns ++ ps ++ [n])) ≠ some (.link target)) :
    walk t followLast links here (ps ++ [n]) = .ok (build true (ns ++ ps ++ [n])) := by
  induction ps generalizing ns here with
  | nil =>
      rw [List.append_nil] at hlink ⊢
      rw [List.nil_append, walk.eq_def]
      simp only [child_of_eq hns hhere]
      cases hnode : t.node? (build true (ns ++ [n])) with
      | none => rfl
      | some x =>
          cases x with
          | file => rfl
          | directory => rw [walk]
          | link target => exact absurd hnode (hlink target)
  | cons p ps ih =>
      obtain ⟨hp, hps⟩ := areNames_cons.mp hps
      have hnext : t.node? (build true (ns ++ [p])) = some .directory := hdir [p] (by simp)
      rw [List.cons_append, walk.eq_def]
      simp only [child_of_eq hns hhere, hnext]
      rw [List.append_cons ns p ps] at hlink ⊢
      refine ih (areNames_append.mpr ⟨hns, by simpa using hp⟩) hps rfl (fun k hk => ?_) hlink
      rw [← List.append_cons]
      exact hdir (p :: k) (List.cons_prefix_cons.mpr ⟨rfl, hk⟩)

/-- A place in a directory is reached by its own path, unless a link stands there. -/
theorem WellFormed.resolve_place {followLast : Bool} {n : String} (ht : t.WellFormed) (hns : AreNames (ns ++ [n]))
    (hdir : t.node? (build true ns) = some .directory)
    (hlink : ∀ target, t.node? (build true (ns ++ [n])) ≠ some (.link target)) :
    t.resolve followLast (build true (ns ++ [n])) = .ok (build true (ns ++ [n])) := by
  have habove : ∀ k, k <+: ns → t.node? (build true ([] ++ k)) = some .directory := by
    rintro k ⟨rest, rfl⟩
    by_cases hrest : rest = []
    · simpa [hrest] using hdir
    · exact ht.directory_of_prefix hrest (areNames_append.mp hns).1 hdir
  rw [resolve, clean_rooted hns, parts_rooted hns]
  exact walk_of_directories areNames_nil (areNames_append.mp hns).1 rfl habove (by simpa using hlink)

theorem WellFormed.contentAt (ht : t.WellFormed) (hns : AreNames ns) {content : Bytes} {modified : Int}
    (h : t.node? (build true ns) = some (.file content modified)) : t.contentAt (build true ns) = .ok content := by
  obtain rfl | ⟨ks, n, rfl⟩ := List.eq_nil_or_concat' ns
  · rw [node?_rooted_nil] at h
    cases h
  obtain ⟨hks, hn⟩ := areNames_append.mp hns
  have hdir := ht.directory_above hks (by simpa using hn) h
  rw [FileTree.contentAt, look, ht.resolve_place hns hdir (by simp [h])]
  simp only [h]

theorem WellFormed.contentAt_of_missing {n : String} (ht : t.WellFormed) (hns : AreNames (ns ++ [n]))
    (hdir : t.node? (build true ns) = some .directory) (h : t.node? (build true (ns ++ [n])) = none) :
    t.contentAt (build true (ns ++ [n])) = .error ⟨"open", build true (ns ++ [n]), .notFound⟩ := by
  rw [FileTree.contentAt, look, ht.resolve_place hns hdir (by simp [h])]
  simp only [h]

/-- All that stood still stands, and all that is new are directories. -/
def GrowsTo (t t' : FileTree) : Prop :=
  ∀ q, t'.node? q = t.node? q ∨ t.node? q = none ∧ t'.node? q = some .directory

theorem GrowsTo.node? (h : t.GrowsTo t') (hx : t.node? q = some x) : t'.node? q = some x := by
  obtain h | ⟨hnone, -⟩ := h q
  · rw [h, hx]
  · rw [hx] at hnone
    cases hnone

theorem GrowsTo.of_node? (h : t.GrowsTo t') (hx : t'.node? q = some x) (hne : x ≠ .directory) :
    t.node? q = some x := by
  obtain heq | ⟨-, hdir⟩ := h q
  · rw [← heq, hx]
  · rw [hx] at hdir
    exact absurd (Option.some.inj hdir) hne

theorem growsTo_put (h : t.node? p = none) : t.GrowsTo (t.put p .directory) := by
  intro q
  have hp : p ≠ "/" := by
    rintro rfl
    cases h
  rw [node?_put hp]
  split
  · rename_i heq
    exact .inr ⟨heq ▸ h, rfl⟩
  · exact .inl rfl

theorem GrowsTo.trans {t₁ t₂ t₃ : FileTree} (h : t₁.GrowsTo t₂) (h' : t₂.GrowsTo t₃) : t₁.GrowsTo t₃ := by
  intro q
  obtain h | ⟨hnone, hdir⟩ := h q
  · rw [← h]
    exact h' q
  · exact .inr ⟨hnone, h'.node? hdir⟩

theorem growsTo_of_makeParts {here : String} {ps : List String} (h : t.makeParts here ps = .ok t') : t.GrowsTo t' := by
  fun_induction makeParts t here ps with
  | case1 => exact fun q => .inl (Except.ok.inj h ▸ rfl)
  | case2 => rename_i ih; exact ih h
  | case3 | case4 | case5 => cases h
  | case6 =>
      rename_i hnone ih
      exact (growsTo_put (by simpa using hnone)).trans (ih h)

theorem growsTo_of_makeDirectory (h : t.makeDirectory p = .ok t') : t.GrowsTo t' := growsTo_of_makeParts h

theorem of_setContent {content : Bytes} {modified : Int} (h : t.setContent p content modified = .ok t') :
    ∃ q, t.resolve true p = .ok q ∧ t.node? q ≠ some .directory ∧ t' = t.put q (.file content modified) := by
  rw [setContent] at h
  split at h
  · cases h
  · rename_i q hq
    split at h
    · cases h
    · rename_i hnode
      exact ⟨q, hq, hnode, (Except.ok.inj h).symm⟩

theorem of_remove (h : t.remove p = .ok t') :
    ∃ q x, t.resolve false p = .ok q ∧ t.node? q = some x ∧ (x = .directory → ∀ e ∈ t.nodes, ¬isBelow q e.1) ∧
      t' = t.erase q := by
  rw [remove] at h
  split at h
  · cases h
  · rename_i q hq
    split at h
    · cases h
    · rename_i hnode
      split at h
      · cases h
      · rename_i hempty
        simp only [List.any_eq_true, not_exists, not_and] at hempty
        exact ⟨q, _, hq, hnode, fun _ e he => hempty e he, (Except.ok.inj h).symm⟩
    · rename_i hne hnode
      exact ⟨q, _, hq, hnode, fun hdir => absurd hdir hne, (Except.ok.inj h).symm⟩

namespace WellFormed

theorem makeParts {here : String} {ps : List String} (ht : t.WellFormed) (hns : AreNames ns) (hps : AreNames ps)
    (hhere : here = build true ns) (h : t.makeParts here ps = .ok t') : t'.WellFormed := by
  fun_induction FileTree.makeParts t here ps generalizing ns with
  | case1 => exact Except.ok.inj h ▸ ht
  | case3 | case4 | case5 => cases h
  | case2 =>
      rename_i n ps next _ ih
      obtain ⟨hn, hps⟩ := areNames_cons.mp hps
      exact ih ht (areNames_append.mpr ⟨hns, by simpa using hn⟩) hps (child_of_eq hns hhere n) h
  | case6 =>
      rename_i t here n ps next _ _ real hreal hnone ih
      obtain ⟨hn, hps⟩ := areNames_cons.mp hps
      have hnext : next = build true (ns ++ [n]) := child_of_eq hns hhere n
      have hnode : t.node? real = none := by simpa using hnone
      obtain hdir | hplace := hasPlace_of_resolve (hnext ▸ isAbsolute_rooted _) hreal
      · exact absurd hdir (by simp [hnode])
      · exact ih (ht.put hplace (by simp [hnode])) (areNames_append.mpr ⟨hns, by simpa using hn⟩) hps hnext h

theorem makeDirectory (ht : t.WellFormed) (hp : isAbsolute p) (h : t.makeDirectory p = .ok t') : t'.WellFormed := by
  obtain ⟨ns, hns, hclean⟩ := exists_clean hp
  rw [FileTree.makeDirectory, hclean, parts_rooted hns] at h
  exact ht.makeParts areNames_nil hns rfl h

theorem setContent {content : Bytes} {modified : Int} (ht : t.WellFormed) (hp : isAbsolute p)
    (h : t.setContent p content modified = .ok t') : t'.WellFormed := by
  obtain ⟨q, hq, hnode, rfl⟩ := of_setContent h
  obtain hdir | hplace := hasPlace_of_resolve hp hq
  · exact absurd hdir hnode
  · exact ht.put hplace fun hdir => absurd hdir hnode

theorem not_isBelow (ht : t.WellFormed) (hp : t.node? p = some x) (hx : x ≠ .directory) :
    ∀ e ∈ t.nodes, ¬isBelow p e.1 := by
  intro e he hbelow
  obtain ⟨ns, hns, rfl⟩ := ht.exists_names hp
  obtain ⟨hroot, hnode⟩ := ht.mem_nodes_iff.mp he
  obtain ⟨ms, hms, heq⟩ := ht.exists_names hnode
  rw [heq] at hbelow hnode
  obtain ⟨⟨rest, rfl⟩, hne⟩ := (isBelow_rooted hns hms).mp hbelow
  have hdir := ht.directory_of_prefix (by rintro rfl; simp at hne) hms hnode
  rw [hp] at hdir
  exact hx (Option.some.inj hdir)

theorem remove (ht : t.WellFormed) (h : t.remove p = .ok t') : t'.WellFormed := by
  obtain ⟨q, x, -, hq, hempty, rfl⟩ := of_remove h
  by_cases hx : x = .directory
  · exact ht.erase (hempty hx)
  · exact ht.erase (ht.not_isBelow hq hx)

theorem makeLink {target : String} (ht : t.WellFormed) (hp : isAbsolute p) (h : t.makeLink p target = .ok t') :
    t'.WellFormed := by
  rw [FileTree.makeLink] at h
  split at h
  · cases h
  rename_i q hq
  split at h
  · cases h
  rename_i hfree
  cases h
  have hnone : t.node? q = none := by simpa using hfree
  obtain hdir | hplace := hasPlace_of_resolve hp hq
  · exact absurd hdir (by simp [hnone])
  · exact ht.put hplace (by simp [hnone])

theorem removeAll (ht : t.WellFormed) (hp : isAbsolute p) : (t.removeAll p).WellFormed := by
  rw [FileTree.removeAll]
  split
  · exact ht
  rename_i top htop
  obtain ⟨root, hroot, rfl⟩ : ∃ root, AreNames root ∧ top = build true root := by
    obtain hdir | ⟨ns, n, hns, hn, rfl, -⟩ := hasPlace_of_resolve hp htop
    · exact ht.exists_names hdir
    · exact ⟨ns ++ [n], areNames_append.mpr ⟨hns, by simpa using hn⟩, rfl⟩
  let keep : String → Bool := fun q => q ≠ build true root && !isBelow (build true root) q
  have hkeep : ∀ ns, AreNames ns → (keep (build true ns) = true ↔ ¬root <+: ns) := by
    intro ns hns
    rw [Bool.and_eq_true, Bool.not_eq_true', ← Bool.not_eq_true, isBelow_rooted hroot hns, decide_eq_true_iff, ne_eq,
      rooted_inj hns hroot, eq_comm]
    refine ⟨fun h hbegins => h.2 ⟨hbegins, h.1⟩, fun h => ⟨?_, fun hbelow => h hbelow.1⟩⟩
    rintro rfl
    exact h (List.prefix_refl root)
  change WellFormed ⟨t.nodes.filter fun e => keep e.1⟩
  refine ⟨ht.unique.sublist (List.filter_sublist.map _), fun q hq => ?_⟩
  obtain ⟨e, he, rfl⟩ := List.mem_map.mp hq
  obtain ⟨hmem, hkept⟩ := List.mem_filter.mp he
  obtain ⟨ns, n, hns, hn, heq, hparent⟩ := ht.placed e.1 (List.mem_map_of_mem hmem)
  refine ⟨ns, n, hns, hn, heq, ?_⟩
  rw [heq, hkeep _ (areNames_append.mpr ⟨hns, by simpa using hn⟩)] at hkept
  have habove : keep (build true ns) = true :=
    (hkeep ns hns).mpr fun hbegins => hkept (hbegins.trans (List.prefix_append ns [n]))
  rw [node?] at hparent ⊢
  split
  · rfl
  · rename_i hne
    rw [if_neg hne] at hparent
    rw [Keyed.lookup_filter, if_pos habove, hparent]

end WellFormed

end SourceSurvey.FileTree
