import Mathlib.Logic.Basic
import SourceSurvey.FileTree

namespace SourceSurvey.Path

structure IsName (n : String) : Prop where
  nonempty : n ≠ ""
  notHere : n ≠ "."
  notAbove : n ≠ ".."
  slashFree : '/' ∉ n.toList

instance (n : String) : Decidable (IsName n) :=
  decidable_of_iff (n ≠ "" ∧ n ≠ "." ∧ n ≠ ".." ∧ '/' ∉ n.toList)
    ⟨fun ⟨h, h', h'', h'''⟩ => ⟨h, h', h'', h'''⟩, fun h => ⟨h.nonempty, h.notHere, h.notAbove, h.slashFree⟩⟩

def AreNames (ns : List String) : Prop := ∀ n ∈ ns, IsName n

instance (ns : List String) : Decidable (AreNames ns) := inferInstanceAs (Decidable (∀ n ∈ ns, IsName n))

@[simp] theorem areNames_nil : AreNames [] := by simp [AreNames]

@[simp] theorem areNames_cons {n : String} {ns : List String} : AreNames (n :: ns) ↔ IsName n ∧ AreNames ns := by
  simp [AreNames]

@[simp] theorem areNames_append {ns ms : List String} : AreNames (ns ++ ms) ↔ AreNames ns ∧ AreNames ms := by
  simp [AreNames, or_imp, forall_and]

theorem AreNames.subset {ns ms : List String} (h : AreNames ms) (hsub : ns ⊆ ms) : AreNames ns :=
  fun n hn => h n (hsub hn)

theorem parts_slash (a b : String) : parts (a ++ "/" ++ b) = parts a ++ parts b := by
  have hslash : (a ++ "/" ++ b).toList = a.toList ++ '/' :: b.toList := by simp [String.toList_append]
  simp only [parts, hslash, List.splitOn_append_cons_self, List.map_append, List.filter_append]

@[simp] theorem parts_empty : parts "" = [] := by decide

theorem parts_part {s : String} (hne : s ≠ "") (hslash : '/' ∉ s.toList) : parts s = [s] := by
  rw [parts, List.splitOn_eq_singleton hslash, List.map_singleton, String.ofList_toList]
  simp [hne]

theorem parts_joined {ps : List String} (h : ∀ s ∈ ps, s ≠ "" ∧ '/' ∉ s.toList) : parts ("/".intercalate ps) = ps := by
  induction ps with
  | nil => exact parts_empty
  | cons s ps ih =>
      obtain ⟨⟨hne, hslash⟩, hps⟩ := List.forall_mem_cons.mp h
      cases ps with
      | nil => rw [String.intercalate_singleton, parts_part hne hslash]
      | cons t ps =>
          rw [String.intercalate_cons_cons, parts_slash, parts_part hne hslash, ih hps]
          rfl

theorem parts_intercalate {ns : List String} (h : AreNames ns) : parts ("/".intercalate ns) = ns :=
  parts_joined fun n hn => ⟨(h n hn).nonempty, (h n hn).slashFree⟩

theorem build_rooted (ns : List String) : build true ns = "" ++ "/" ++ "/".intercalate ns := by
  rw [build, if_pos rfl, String.empty_append]

theorem build_relative {ns : List String} (h : ns ≠ []) : build false ns = "/".intercalate ns := by
  simp [build, h]

theorem parts_rooted {ns : List String} (h : AreNames ns) : parts (build true ns) = ns := by
  rw [build_rooted, parts_slash, parts_empty, parts_intercalate h, List.nil_append]

theorem parts_relative {ns : List String} (h : AreNames ns) (hne : ns ≠ []) : parts (build false ns) = ns := by
  rw [build_relative hne, parts_intercalate h]

theorem rooted_inj {ns ms : List String} (hns : AreNames ns) (hms : AreNames ms) :
    build true ns = build true ms ↔ ns = ms := by
  refine ⟨fun h => ?_, congrArg _⟩
  rw [← parts_rooted hns, h, parts_rooted hms]

theorem slash_notMem_of_mem_splitOn {s : List Char} {part : List Char} (h : part ∈ s.splitOn '/') :
    '/' ∉ part := by
  induction s generalizing part with
  | nil =>
      obtain rfl : part = [] := by simpa using h
      simp
  | cons c s ih =>
      rw [List.splitOn_cons_eq_if_modifyHead] at h
      split at h
      · obtain rfl | h := List.mem_cons.mp h
        · simp
        · exact ih h
      · rename_i hc
        obtain ⟨first, rest, hsplit⟩ := List.exists_cons_of_ne_nil (List.splitOn_ne_nil '/' s)
        rw [hsplit, List.modifyHead_cons] at h
        obtain rfl | h := List.mem_cons.mp h
        · have hfirst : '/' ∉ first := ih (by simp [hsplit])
          rw [List.mem_cons, not_or]
          exact ⟨fun he => hc (beq_iff_eq.mpr he.symm), hfirst⟩
        · exact ih (by simp [hsplit, h])

theorem of_mem_parts {p s : String} (h : s ∈ parts p) : s ≠ "" ∧ '/' ∉ s.toList := by
  rw [parts, List.mem_filter] at h
  obtain ⟨hmem, hne⟩ := h
  obtain ⟨part, hpart, rfl⟩ := List.mem_map.mp hmem
  refine ⟨by simpa using hne, ?_⟩
  rw [String.toList_ofList]
  exact slash_notMem_of_mem_splitOn hpart

theorem walk_name (rooted : Bool) (above : List String) {n : String} (h : IsName n) :
    walk rooted above n = n :: above := by
  rw [walk.eq_def]
  split
  · exact absurd rfl h.notHere
  · exact absurd rfl h.notAbove
  · exact absurd rfl h.notAbove
  · rfl

theorem foldl_walk_names (rooted : Bool) (above : List String) {ns : List String} (h : AreNames ns) :
    ns.foldl (walk rooted) above = ns.reverse ++ above := by
  induction ns generalizing above with
  | nil => rfl
  | cons n ns ih =>
      obtain ⟨hn, hns⟩ := areNames_cons.mp h
      rw [List.foldl_cons, walk_name rooted above hn, ih _ hns]
      simp

theorem areNames_walk {above : List String} (habove : AreNames above) {s : String} (hne : s ≠ "")
    (hslash : '/' ∉ s.toList) : AreNames (walk true above s) := by
  rw [walk.eq_def]
  split
  · exact habove
  · exact areNames_nil
  · obtain ⟨htop, hrest⟩ := areNames_cons.mp habove
    rw [if_neg htop.notAbove]
    exact hrest
  · rename_i hhere hroot hdeep
    refine areNames_cons.mpr ⟨⟨hne, hhere, ?_, hslash⟩, habove⟩
    rintro rfl
    cases above with
    | nil => exact hroot rfl rfl
    | cons top above => exact hdeep top above rfl rfl

theorem areNames_foldl_walk {above ps : List String} (habove : AreNames above)
    (h : ∀ s ∈ ps, s ≠ "" ∧ '/' ∉ s.toList) : AreNames (ps.foldl (walk true) above) := by
  induction ps generalizing above with
  | nil => exact habove
  | cons s ps ih =>
      obtain ⟨hne, hslash⟩ := h s List.mem_cons_self
      exact ih (areNames_walk habove hne hslash) fun q hq => h q (List.mem_cons_of_mem s hq)

theorem exists_clean {p : String} (h : isAbsolute p) : ∃ ns, AreNames ns ∧ clean p = build true ns := by
  refine ⟨((parts p).foldl (walk true) []).reverse, ?_, by rw [clean, h]⟩
  have hwalk := areNames_foldl_walk areNames_nil fun s hs => of_mem_parts (p := p) hs
  exact hwalk.subset (List.reverse_subset.mpr (List.Subset.refl _))

theorem of_mem_walk {rooted : Bool} {above : List String} {s t : String} (h : t ∈ walk rooted above s) :
    t ∈ above ∨ (t = s ∧ t ≠ ".") := by
  rw [walk.eq_def] at h
  split at h
  · exact .inl h
  · split at h
    · simp at h
    · obtain rfl : t = ".." := by simpa using h
      exact .inr ⟨rfl, by decide⟩
  · split at h
    · obtain rfl | h := List.mem_cons.mp h
      · exact .inr ⟨rfl, by decide⟩
      · exact .inl h
    · exact .inl (List.mem_cons_of_mem _ h)
  · rename_i hhere _ _
    obtain rfl | h := List.mem_cons.mp h
    · exact .inr ⟨rfl, hhere⟩
    · exact .inl h

theorem of_mem_foldl_walk {rooted : Bool} {above ps : List String} {t : String}
    (h : t ∈ ps.foldl (walk rooted) above) : t ∈ above ∨ (t ∈ ps ∧ t ≠ ".") := by
  induction ps generalizing above with
  | nil => exact .inl h
  | cons s ps ih =>
      obtain h | ⟨h, hne⟩ := ih h
      · obtain h | ⟨rfl, hne⟩ := of_mem_walk h
        · exact .inl h
        · exact .inr ⟨List.mem_cons_self, hne⟩
      · exact .inr ⟨List.mem_cons_of_mem s h, hne⟩

def walked (p : String) : List String := ((parts p).foldl (walk false) []).reverse

theorem of_mem_walked {p t : String} (h : t ∈ walked p) : t ∈ parts p ∧ t ≠ "." := by
  obtain h | h := of_mem_foldl_walk (List.mem_reverse.mp h)
  · simp at h
  · exact h

theorem clean_walked {p : String} (h : isAbsolute p = false) : clean p = build false (walked p) := by
  rw [clean, h, walked]

theorem parts_walked {p : String} (hne : walked p ≠ []) : parts (build false (walked p)) = walked p := by
  rw [build_relative hne, parts_joined fun s hs => of_mem_parts (of_mem_walked hs).1]

theorem walked_append {p q : String} (hq : AreNames (parts q)) : walked (p ++ "/" ++ q) = walked p ++ parts q := by
  rw [walked, parts_slash, List.foldl_append, foldl_walk_names false _ hq, List.reverse_append, List.reverse_reverse,
    walked]

/-- A path that cleaning leaves as it is and that does not begin at the root. -/
structure IsRelative (p : String) : Prop where
  isClean : clean p = p
  unrooted : isAbsolute p = false

structure LeadsBelow (p : String) : Prop extends IsRelative p where
  notHere : p ≠ "."
  notAbove : ".." ∉ parts p

theorem IsRelative.nonempty {p : String} (h : IsRelative p) : p ≠ "" := by
  rintro rfl
  exact absurd h.isClean (by decide)

theorem IsRelative.parts_eq {p : String} (h : IsRelative p) (hne : p ≠ ".") : parts p = walked p ∧ walked p ≠ [] := by
  have hclean := (clean_walked h.unrooted).symm.trans h.isClean
  have hwalked : walked p ≠ [] := by
    intro hnil
    rw [hnil] at hclean
    exact hne hclean.symm
  refine ⟨?_, hwalked⟩
  rw [← parts_walked hwalked, hclean]

theorem LeadsBelow.areNames {p : String} (h : LeadsBelow p) : AreNames (parts p) := by
  intro s hs
  have hwalked := of_mem_walked ((h.parts_eq h.notHere).1 ▸ hs)
  obtain ⟨hne, hslash⟩ := of_mem_parts hs
  exact ⟨hne, hwalked.2, fun habove => h.notAbove (habove ▸ hs), hslash⟩

theorem LeadsBelow.parts_ne_nil {p : String} (h : LeadsBelow p) : parts p ≠ [] := by
  obtain ⟨heq, hne⟩ := h.parts_eq h.notHere
  exact heq ▸ hne

theorem IsRelative.isAbsolute_append {p : String} (h : IsRelative p) (q : String) : isAbsolute (p ++ q) = false := by
  obtain ⟨c, cs, hcs⟩ := List.exists_cons_of_ne_nil (String.toList_eq_nil_iff.not.mpr h.nonempty)
  have hunrooted := h.unrooted
  rw [isAbsolute, hcs] at hunrooted
  rw [isAbsolute, String.toList_append, hcs]
  exact hunrooted

theorem isAbsolute_slash (p : String) : isAbsolute ("/" ++ p) := by
  simp [isAbsolute, String.toList_append]

theorem isAbsolute_rooted (ns : List String) : isAbsolute (build true ns) := by
  rw [build, if_pos rfl]
  exact isAbsolute_slash _

theorem isAbsolute_append {p : String} (h : isAbsolute p) (q : String) : isAbsolute (p ++ q) := by
  simp only [isAbsolute, String.toList_append, decide_eq_true_eq] at h ⊢
  rw [List.head?_append, h, Option.some_or]

theorem isAbsolute_relative {ns : List String} (h : AreNames ns) (hne : ns ≠ []) :
    isAbsolute (build false ns) = false := by
  obtain ⟨n, ns, rfl⟩ := List.exists_cons_of_ne_nil hne
  have hn := (areNames_cons.mp h).1
  obtain ⟨c, cs, hcs⟩ := List.exists_cons_of_ne_nil (String.toList_eq_nil_iff.not.mpr hn.nonempty)
  have hc : c ≠ '/' := fun hc => hn.slashFree (by rw [hcs, hc]; exact List.mem_cons_self)
  rw [build_relative hne, isAbsolute]
  cases ns with
  | nil => simp [String.intercalate_singleton, hcs, hc]
  | cons m ns => simp [String.intercalate_cons_cons, String.toList_append, hcs, hc]

theorem clean_of_parts {p : String} {ns : List String} (hp : isAbsolute p) (hparts : parts p = ns)
    (hns : AreNames ns) : clean p = build true ns := by
  rw [clean, hp, hparts, foldl_walk_names true [] hns, List.append_nil, List.reverse_reverse]

theorem clean_rooted {ns : List String} (h : AreNames ns) : clean (build true ns) = build true ns :=
  clean_of_parts (isAbsolute_rooted ns) (parts_rooted h) h

def front (ns : List String) : String := if ns = [] then "" else build true ns

theorem rooted_append (ns : List String) {ms : List String} (hms : ms ≠ []) :
    build true (ns ++ ms) = front ns ++ "/" ++ "/".intercalate ms := by
  rw [front]
  split
  · rename_i hns
    rw [hns, List.nil_append, build_rooted]
  · rename_i hns
    rw [build_rooted, build_rooted, String.intercalate_append_of_ne_nil hns hms]
    simp [String.append_assoc]

theorem rooted_snoc (ns : List String) (n : String) : build true (ns ++ [n]) = front ns ++ "/" ++ n := by
  rw [rooted_append ns (List.cons_ne_nil n []), String.intercalate_singleton]

theorem relative_snoc {ns : List String} (hns : ns ≠ []) (n : String) :
    build false (ns ++ [n]) = build false ns ++ "/" ++ n := by
  rw [build_relative (by simp), build_relative hns, String.intercalate_append_of_ne_nil hns (List.cons_ne_nil n []),
    String.intercalate_singleton]

theorem relative_snoc_append (ns : List String) (n x : String) :
    build false (ns ++ [n]) ++ x = build false (ns ++ [n ++ x]) := by
  by_cases hns : ns = []
  · simp [hns, build]
  · rw [relative_snoc hns, relative_snoc hns, String.append_assoc]

theorem parts_front {ns : List String} (h : AreNames ns) : parts (front ns) = ns := by
  rw [front]
  split
  · rename_i hns
    rw [parts_empty, hns]
  · exact parts_rooted h

theorem rooted_ne_empty (ns : List String) : build true ns ≠ "" := by
  intro h
  have habsolute := isAbsolute_rooted ns
  rw [h] at habsolute
  exact absurd habsolute (by decide)

theorem rooted_eq_root_iff {ns : List String} (h : AreNames ns) : build true ns = "/" ↔ ns = [] := by
  have hroot : build true [] = "/" := by decide
  rw [← hroot, rooted_inj h areNames_nil]

theorem relative_ne_empty {ns : List String} (h : AreNames ns) (hne : ns ≠ []) : build false ns ≠ "" := by
  intro he
  have hparts := parts_relative h hne
  rw [he, parts_empty] at hparts
  exact hne hparts.symm

theorem join_rooted {ns ms : List String} (hns : AreNames ns) (hms : AreNames ms) (hne : ms ≠ []) :
    join [build true ns, build false ms] = build true (ns ++ ms) := by
  have hfilter : [build true ns, build false ms].filter (· ≠ "") = [build true ns, build false ms] := by
    simp [rooted_ne_empty, relative_ne_empty hms hne]
  rw [join, hfilter]
  change clean ("/".intercalate [build true ns, build false ms]) = _
  rw [String.intercalate_cons_cons, String.intercalate_singleton]
  refine clean_of_parts ?_ ?_ (areNames_append.mpr ⟨hns, hms⟩)
  · rw [String.append_assoc]
    exact isAbsolute_append (isAbsolute_rooted ns) _
  · rw [parts_slash, parts_rooted hns, parts_relative hms hne]

theorem takeWhile_name {n : String} (h : IsName n) (rest : List Char) :
    (n.toList.reverse ++ rest).takeWhile (· ≠ '/') = n.toList.reverse ++ rest.takeWhile (· ≠ '/') := by
  refine List.takeWhile_append_of_pos fun c hc => ?_
  have hmem := List.mem_reverse.mp hc
  exact decide_eq_true fun he => h.slashFree (he ▸ hmem)

theorem lastPart_slash (front : String) {n : String} (h : IsName n) : lastPart (front ++ "/" ++ n) = n.toList := by
  have hreverse : (front ++ "/" ++ n).toList.reverse = n.toList.reverse ++ '/' :: front.toList.reverse := by
    simp [String.toList_append]
  rw [lastPart, hreverse, takeWhile_name h]
  simp

theorem lastPart_name {n : String} (h : IsName n) : lastPart n = n.toList := by
  rw [lastPart, ← List.append_nil n.toList.reverse, takeWhile_name h]
  simp

theorem lastPart_rooted (ns : List String) {n : String} (h : IsName n) :
    lastPart (build true (ns ++ [n])) = n.toList := by
  rw [rooted_snoc, lastPart_slash _ h]

theorem lastPart_relative (ns : List String) {n : String} (h : IsName n) :
    lastPart (build false (ns ++ [n])) = n.toList := by
  by_cases hns : ns = []
  · rw [hns, List.nil_append, build_relative (List.cons_ne_nil n []), String.intercalate_singleton, lastPart_name h]
  · rw [relative_snoc hns, lastPart_slash _ h]

theorem IsName.append_dot {n x : String} (hn : IsName n) (hx : '/' ∉ x.toList) : IsName (n ++ "." ++ x) := by
  have hlist : (n ++ "." ++ x).toList = n.toList ++ '.' :: x.toList := by simp [String.toList_append]
  obtain ⟨c, cs, hcs⟩ := List.exists_cons_of_ne_nil (String.toList_eq_nil_iff.not.mpr hn.nonempty)
  refine ⟨?_, ?_, ?_, ?_⟩
  · rw [← String.toList_inj.ne, hlist]
    simp
  · rw [← String.toList_inj.ne, hlist, hcs]
    simp
  · rw [← String.toList_inj.ne, hlist, hcs]
    intro h
    obtain ⟨rfl, h⟩ := List.cons.inj h
    have hempty : cs = [] := by
      cases cs with
      | nil => rfl
      | cons d cs => simp at h
    exact hn.notHere (String.toList_inj.mp (by rw [hcs, hempty]; rfl))
  · rw [hlist]
    simp [hn.slashFree, hx]

theorem extension_eq {p : String} {stem suffix : List Char} (h : lastPart p = stem ++ '.' :: suffix)
    (hsuffix : '.' ∉ suffix) : extension p = String.ofList ('.' :: suffix) := by
  have hreverse : (lastPart p).reverse = suffix.reverse ++ '.' :: stem.reverse := by simp [h]
  have htake : (suffix.reverse ++ '.' :: stem.reverse).takeWhile (· ≠ '.') = suffix.reverse := by
    rw [List.takeWhile_append_of_pos]
    · simp
    · intro c hc
      have hmem := List.mem_reverse.mp hc
      exact decide_eq_true fun he => hsuffix (he ▸ hmem)
  simp only [extension, hreverse, htake, List.reverse_reverse]
  simp

theorem parent_rooted {ns : List String} {n : String} (hns : AreNames ns) (hn : IsName n) :
    parent (build true (ns ++ [n])) = build true ns := by
  have htake : (front ns ++ "/" ++ n).toList.take ((front ns ++ "/" ++ n).length - n.toList.length) =
      (front ns ++ "/").toList := by
    rw [String.toList_append, String.length_append, String.length_toList, Nat.add_sub_cancel, ← String.length_toList,
      List.take_left]
  rw [parent, lastPart_rooted ns hn, rooted_snoc, htake, String.ofList_toList]
  refine clean_of_parts ?_ ?_ hns
  · rw [front]
    split
    · decide
    · exact isAbsolute_append (isAbsolute_rooted ns) "/"
  · have hparts := parts_slash (front ns) ""
    rwa [String.append_empty, parts_empty, List.append_nil, parts_front hns] at hparts

theorem base_rooted {ns : List String} {n : String} (hns : AreNames ns) (hn : IsName n) :
    base (build true (ns ++ [n])) = n := by
  rw [base, if_neg (rooted_ne_empty _), parts_rooted (areNames_append.mpr ⟨hns, by simp [hn]⟩)]
  simp

end SourceSurvey.Path

namespace SourceSurvey.FileTree

open SourceSurvey.Path

theorem child_rooted {ns : List String} (hns : AreNames ns) (n : String) :
    child (build true ns) n = build true (ns ++ [n]) := by
  rw [child, rooted_snoc, front]
  by_cases h : ns = []
  · rw [if_pos ((rooted_eq_root_iff hns).mpr h), if_pos h, String.empty_append]
  · rw [if_neg ((rooted_eq_root_iff hns).not.mpr h), if_neg h]

theorem isBelow_rooted {ns ms : List String} (hns : AreNames ns) (hms : AreNames ms) :
    isBelow (build true ns) (build true ms) ↔ ns <+: ms ∧ ns ≠ ms := by
  rw [isBelow]
  by_cases h : ns = []
  · rw [if_pos ((rooted_eq_root_iff hns).mpr h), h, decide_eq_true_iff, ne_eq, rooted_eq_root_iff hms]
    simp [eq_comm]
  · rw [if_neg ((rooted_eq_root_iff hns).not.mpr h), List.isPrefixOf_iff_prefix]
    constructor
    · rintro ⟨rest, hrest⟩
      have hms' : build true ms = build true ns ++ "/" ++ String.ofList rest := by
        rw [← String.toList_inj, String.toList_append, String.toList_ofList, hrest]
      have hparts := parts_rooted hms
      rw [hms', parts_slash, parts_rooted hns] at hparts
      refine ⟨⟨_, hparts⟩, ?_⟩
      rintro rfl
      have hlength := congrArg String.length hms'
      rw [String.length_append, String.length_append] at hlength
      have hslash : "/".length = 1 := by decide
      omega
    · rintro ⟨⟨rest, rfl⟩, hne⟩
      have hrest : rest ≠ [] := by
        rintro rfl
        exact hne (List.append_nil ns).symm
      rw [rooted_append ns hrest, front, if_neg h]
      exact ⟨("/".intercalate rest).toList, String.toList_append.symm⟩

end SourceSurvey.FileTree
