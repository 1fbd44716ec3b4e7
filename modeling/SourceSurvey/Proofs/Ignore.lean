import SourceSurvey.Ignore.Pattern
import SourceSurvey.Proofs.Path

namespace SourceSurvey

open SourceSurvey.Path

namespace IgnorePattern

variable {p : IgnorePattern} {fits : GlobMatcher} {ns ks : List String} {isDir : Bool}

theorem partsOf_of_unrooted {x : String} (h : isAbsolute x = false) : partsOf x = walked x := by
  rw [partsOf, clean_walked h]
  by_cases hnil : walked x = []
  · rw [hnil]
    decide
  · have hdot : build false (walked x) ≠ "." := by
      intro hdot
      have hparts := parts_walked hnil
      rw [hdot, show parts "." = ["."] by decide] at hparts
      exact (of_mem_walked (show "." ∈ walked x by simp [← hparts])).2 rfl
    simp only [hdot, if_false, parts_walked hnil]

theorem partsOf_relative (hns : AreNames ns) (hne : ns ≠ []) : partsOf ("/".intercalate ns) = ns := by
  have hunrooted := isAbsolute_relative hns hne
  rw [build_relative hne] at hunrooted
  rw [partsOf_of_unrooted hunrooted, walked, parts_intercalate hns, foldl_walk_names false [] hns, List.append_nil,
    List.reverse_reverse]

theorem partsOf_below {d c : String} (hd : IsRelative d) (hc : LeadsBelow c) :
    partsOf (d ++ "/" ++ c) = partsOf d ++ parts c := by
  have hunrooted : isAbsolute (d ++ "/" ++ c) = false := by
    rw [String.append_assoc]
    exact hd.isAbsolute_append _
  rw [partsOf_of_unrooted hunrooted, partsOf_of_unrooted hd.unrooted, walked_append hc.areNames]

theorem mem_withParents {q : List String} : q ∈ withParents ns ↔ q ≠ [] ∧ q <+: ns := by
  simp only [withParents, List.mem_map, List.mem_reverse, List.mem_range]
  constructor
  · rintro ⟨i, hi, rfl⟩
    refine ⟨?_, List.take_prefix _ _⟩
    rw [← List.length_pos_iff, List.length_take]
    omega
  · rintro ⟨hne, hq⟩
    have hlength := hq.length_le
    have hpos := List.length_pos_iff.mpr hne
    refine ⟨q.length - 1, by omega, ?_⟩
    rw [Nat.sub_add_cancel hpos]
    exact (List.prefix_iff_eq_take.mp hq).symm

theorem isMatch_iff_exists (x : String) :
    p.isMatch x isDir fits ↔ ∃ k, (k ≠ [] ∧ k <+: partsOf x) ∧
      (p.dirOnly = false ∨ isDir ∨ k.length < (partsOf x).length) ∧ p.matchesOne ("/".intercalate k) fits := by
  simp only [isMatch, List.any_eq_true, mem_withParents, Bool.and_eq_true, Bool.or_eq_true, Bool.not_eq_true',
    decide_eq_true_eq, or_assoc]

/-- What matches a directory matches every path that goes on from it. -/
theorem isMatch_of_longer {x y : String} (hy : partsOf y = partsOf x ++ ks) (hks : ks ≠ [])
    (h : p.isMatch x true fits) : p.isMatch y isDir fits := by
  obtain ⟨k, ⟨hk, hprefix⟩, -, hmatch⟩ := (isMatch_iff_exists x).mp h
  refine (isMatch_iff_exists y).mpr ⟨k, ⟨hk, hy ▸ hprefix.trans (List.prefix_append _ ks)⟩, .inr (.inr ?_), hmatch⟩
  have hlength := hprefix.length_le
  have hpos := List.length_pos_iff.mpr hks
  rw [hy, List.length_append]
  omega

theorem isMatch_below (hns : AreNames (ns ++ ks)) (hne : ns ≠ []) (hks : ks ≠ [])
    (h : p.isMatch ("/".intercalate ns) true fits) : p.isMatch ("/".intercalate (ns ++ ks)) isDir fits := by
  refine isMatch_of_longer ?_ hks h
  rw [partsOf_relative hns (by simp [hne]), partsOf_relative (areNames_append.mp hns).1 hne]

theorem isMatch_directory {x : String} (h : p.isMatch x false fits) : p.isMatch x true fits := by
  obtain ⟨k, hk, -, hmatch⟩ := (isMatch_iff_exists x).mp h
  exact (isMatch_iff_exists x).mpr ⟨k, hk, .inr (.inl rfl), hmatch⟩

end IgnorePattern

namespace IgnoreList

variable {l : IgnoreList} {p : IgnorePattern} {fits : GlobMatcher} {path : String} {isDir : Bool}

theorem of_ignoredBy? (h : l.ignoredBy? path isDir fits = some p) :
    p.negated = false ∧ p.isMatch path isDir fits ∧
      ∃ before after, l = before ++ p :: after ∧ ∀ q ∈ after, ¬q.isMatch path isDir fits := by
  rw [ignoredBy?] at h
  split at h
  · rename_i q hq
    split at h
    · cases h
    · rename_i hnegated
      cases h
      obtain ⟨hmatch, later, earlier, hl, hlater⟩ := List.find?_eq_some_iff_append.mp hq
      refine ⟨by simpa using hnegated, hmatch, earlier.reverse, later.reverse, ?_, fun q' hq' => ?_⟩
      · rw [← List.reverse_reverse l, hl]
        simp
      · simpa using hlater q' (List.mem_reverse.mp hq')
  · cases h

theorem find?_reverse_append {before after : List IgnorePattern} (hmatch : p.isMatch path isDir fits) :
    (before ++ p :: after).reverse.find? (·.isMatch path isDir fits) =
      (after.reverse.find? (·.isMatch path isDir fits)).or (some p) := by
  have hfirst : (p :: before.reverse).find? (·.isMatch path isDir fits) = some p := by simp [hmatch]
  rw [List.reverse_append, List.reverse_cons, List.append_assoc, List.find?_append, List.singleton_append, hfirst]

/-- Where no later pattern matches, one that matches decides. -/
theorem ignoredBy?_append {before after : List IgnorePattern} (hmatch : p.isMatch path isDir fits)
    (hafter : ∀ q ∈ after, ¬q.isMatch path isDir fits) :
    ignoredBy? (before ++ p :: after) path isDir fits = if p.negated then none else some p := by
  have hnone : after.reverse.find? (·.isMatch path isDir fits) = none :=
    List.find?_eq_none.mpr fun q hq => hafter q (List.mem_reverse.mp hq)
  rw [ignoredBy?, find?_reverse_append hmatch, hnone, Option.none_or]

theorem exists_negated {before after : List IgnorePattern} (hp : p.negated = false) (hmatch : p.isMatch path isDir fits)
    (h : ignoredBy? (before ++ p :: after) path isDir fits = none) :
    ∃ q ∈ after, q.negated ∧ q.isMatch path isDir fits := by
  rw [ignoredBy?, find?_reverse_append hmatch] at h
  cases hafter : after.reverse.find? (·.isMatch path isDir fits) with
  | none => simp [hafter, hp] at h
  | some q =>
      have hq := List.find?_some hafter
      refine ⟨q, List.mem_reverse.mp (List.mem_of_find?_eq_some hafter), ?_, hq⟩
      simpa [hafter] using h

/-- Patterns match whole subtrees, and directories wherever they match files; of a list, the last pattern that
matches a path decides. -/
theorem matches_below_last_decides (fits : GlobMatcher) :
    (∀ p : IgnorePattern, ∀ d c : String, IsRelative d → LeadsBelow c → p.isMatch d true fits →
      ∀ isDir, p.isMatch (d ++ "/" ++ c) isDir fits) ∧
    (∀ p : IgnorePattern, ∀ x : String, p.isMatch x false fits → p.isMatch x true fits) ∧
    ∀ (l : IgnoreList) (x : String) (isDir : Bool) (r : Bytes),
      (l.ignoredBy? x isDir fits).map (·.raw) = some r ↔
        ∃ before p after, l = before ++ p :: after ∧ p.isMatch x isDir fits ∧
          (∀ q ∈ after, ¬q.isMatch x isDir fits) ∧ p.negated = false ∧ p.raw = r := by
  refine ⟨fun p d c hd hc h isDir => ?_, fun p x h => IgnorePattern.isMatch_directory h, fun l x isDir r => ?_⟩
  · exact IgnorePattern.isMatch_of_longer (IgnorePattern.partsOf_below hd hc) hc.parts_ne_nil h
  · constructor
    · intro h
      obtain ⟨p, hp, hraw⟩ := Option.map_eq_some_iff.mp h
      obtain ⟨hnegated, hmatch, before, after, hl, hafter⟩ := of_ignoredBy? hp
      exact ⟨before, p, after, hl, hmatch, hafter, hnegated, hraw⟩
    · rintro ⟨before, p, after, rfl, hmatch, hafter, hnegated, hraw⟩
      rw [ignoredBy?_append hmatch hafter, hnegated, ← hraw]
      rfl

/-- A pattern for a directory called `gen` ignores what stands two levels below `src/gen`. -/
theorem matches_below_gen :
    IsRelative "src/gen" ∧ LeadsBelow "a/b.go" ∧
      ((ofLines [utf8 "gen/"]).map fun p => p.isMatch "src/gen/a/b.go" false) = [true] := by
  have hd : IsRelative "src/gen" := ⟨by decide, by decide⟩
  have hc : LeadsBelow "a/b.go" := ⟨⟨by decide, by decide⟩, by decide, by decide⟩
  have hparsed : ofLines [utf8 "gen/"] = [{ raw := utf8 "gen/", glob := utf8 "gen", dirOnly := true }] := by decide +kernel
  have hgen : IgnorePattern.isMatch { raw := utf8 "gen/", glob := utf8 "gen", dirOnly := true } "src/gen" true := by
    decide +kernel
  refine ⟨hd, hc, ?_⟩
  rw [hparsed, List.map_singleton, List.cons_eq_cons]
  exact ⟨(matches_below_last_decides Glob.isMatch).1 _ "src/gen" "a/b.go" hd hc hgen false, rfl⟩

end IgnoreList

end SourceSurvey
