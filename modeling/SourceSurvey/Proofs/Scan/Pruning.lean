import Mathlib
import SourceSurvey.Proofs.Ignore
import SourceSurvey.Proofs.Scan.Walk

namespace SourceSurvey

def Found.isAnnounced : Found → Bool
  | leftOut .. => false
  | _ => true

namespace Walk

open SourceSurvey.Path

variable {r : Rules} {t : FileTree} {root ks : List String} {n : String}

/-- The walk announces a file: it is a candidate, or would be one if it had changed. -/
def Announces (r : Rules) (t : FileTree) (path : String) : Prop := ∃ f ∈ files r t, f.path = path ∧ f.isAnnounced

/-- A file that nothing but ignore patterns can keep out of a walk: it has the extension of a language, and
neither it nor a directory above it is vendored or hidden, and none of these is the output or holds a
repository's own files. -/
structure Eligible (r : Rules) (t : FileTree) (root ks : List String) (n : String) : Prop where
  names : AreNames (ks ++ [n])
  isFile : ∃ content modified, t.node? (build true (root ++ ks ++ [n])) = some (.file content modified)
  hasLanguage : (Identification.hint? ("/".intercalate (ks ++ [n]))).isSome
  notVendored : isVendored r ("/".intercalate (ks ++ [n])) false = false
  directories : ∀ k, k ≠ [] → k <+: ks → base ("/".intercalate k) ≠ ".git" ∧
    join [r.input, "/".intercalate k] ≠ r.output ∧ isVendored r ("/".intercalate k) true = false

theorem enters_iff {path : String} (hgit : base path ≠ ".git") (houtput : join [r.input, path] ≠ r.output)
    (hvendored : isVendored r path true = false) : enters r path ↔ r.ignores.ignoredBy? path true r.fits = none := by
  simp [enters, hgit, houtput, hvendored]

theorem ofFile_isAnnounced {path : String} (hlanguage : (Identification.hint? path).isSome)
    (hvendored : isVendored r path false = false) :
    (∃ f, ofFile r path = some f ∧ f.isAnnounced) ↔ r.ignores.ignoredBy? path false r.fits = none := by
  have hhint : (Identification.hint? path).isNone = false := by rwa [Option.isNone_eq_false_iff]
  rw [ofFile, hhint, hvendored]
  cases r.ignores.ignoredBy? path false r.fits with
  | some p => simp [Found.isAnnounced]
  | none =>
      simp only [Bool.false_eq_true, if_false]
      split
      · exact iff_of_true ⟨_, rfl, rfl⟩ trivial
      · exact iff_of_true ⟨_, rfl, rfl⟩ trivial

/-- An eligible file is announced just if neither it nor a directory above it is ignored. -/
theorem announces_iff (ht : t.WellFormed) (hroot : AreNames root)
    (hreal : t.resolve false r.input = .ok (build true root)) (hdir : t.node? (build true root) = some .directory)
    (h : Eligible r t root ks n) :
    Announces r t ("/".intercalate (ks ++ [n])) ↔
      r.ignores.ignoredBy? ("/".intercalate (ks ++ [n])) false r.fits = none ∧
        ∀ k, k ≠ [] → k <+: ks → r.ignores.ignoredBy? ("/".intercalate k) true r.fits = none := by
  rw [← ofFile_isAnnounced h.hasLanguage h.notVendored]
  constructor
  · rintro ⟨f, hf, hpath, hannounced⟩
    obtain ⟨ks', n', _, _, hnames, hdown, -, hfound⟩ := (mem_files ht hroot hreal hdir).mp hf
    -- A path determines its names, so the file was met on the way that they name.
    have hsame : ks' ++ [n'] = ks ++ [n] := by
      rw [← parts_intercalate hnames, ← ofFile_path hfound, hpath, parts_intercalate h.names]
    obtain ⟨rfl, -⟩ := List.append_inj' hsame rfl
    rw [hsame] at hfound
    refine ⟨⟨f, hfound, hannounced⟩, fun k hne hk => ?_⟩
    obtain ⟨hgit, houtput, hvendored⟩ := h.directories k hne hk
    exact (enters_iff hgit houtput hvendored).mp (hdown k hne hk).2
  · rintro ⟨⟨f, hfound, hannounced⟩, hignored⟩
    obtain ⟨content, modified, hnode⟩ := h.isFile
    refine ⟨f, (mem_files ht hroot hreal hdir).mpr ⟨ks, n, content, modified, h.names, fun k hne hk => ?_, hnode, hfound⟩,
      ofFile_path hfound, hannounced⟩
    obtain ⟨hgit, houtput, hvendored⟩ := h.directories k hne hk
    refine ⟨?_, (enters_iff hgit houtput hvendored).mpr (hignored k hne hk)⟩
    obtain ⟨rest, rfl⟩ := hk
    have hnames : AreNames (root ++ k ++ (rest ++ [n])) := by
      simpa [hroot] using h.names
    rw [List.append_nil]
    exact ht.directory_of_prefix (by simp) hnames (by simpa using hnode)

/-- Ignore patterns keep an eligible file out of a walk just if they ignore the file or a directory above it, and
the second without the first only where a later pattern that re-includes matches the file and not the
directory. -/
theorem leftOut_iff_ignored (ht : t.WellFormed) (hroot : AreNames root)
    (hreal : t.resolve false r.input = .ok (build true root)) (hdir : t.node? (build true root) = some .directory)
    (h : Eligible r t root ks n) :
    (¬Announces r t ("/".intercalate (ks ++ [n])) ↔
      (r.ignores.ignoredBy? ("/".intercalate (ks ++ [n])) false r.fits).isSome ∨
        ∃ k, k ≠ [] ∧ k <+: ks ∧ (r.ignores.ignoredBy? ("/".intercalate k) true r.fits).isSome) ∧
    ∀ k p, k ≠ [] → k <+: ks → r.ignores.ignoredBy? ("/".intercalate k) true r.fits = some p →
      r.ignores.ignoredBy? ("/".intercalate (ks ++ [n])) false r.fits = none →
      ∃ before after, r.ignores = before ++ p :: after ∧ ∃ q ∈ after, q.negated ∧
        q.isMatch ("/".intercalate (ks ++ [n])) false r.fits ∧ ¬q.isMatch ("/".intercalate k) true r.fits := by
  constructor
  · rw [announces_iff ht hroot hreal hdir h, not_and_or]
    simp only [not_forall, Option.isSome_iff_ne_none, ne_eq, exists_prop]
  · intro k p hne hk hignored hkept
    obtain ⟨hnegated, hmatch, before, after, hlist, hafter⟩ := IgnoreList.of_ignoredBy? hignored
    obtain ⟨rest, rfl⟩ := hk
    rw [List.append_assoc] at hkept ⊢
    have hbelow : p.isMatch ("/".intercalate (k ++ (rest ++ [n]))) false r.fits :=
      IgnorePattern.isMatch_below (by simpa using h.names) hne (by simp) hmatch
    obtain ⟨q, hq, hq', hqmatch⟩ := IgnoreList.exists_negated hnegated hbelow (hlist ▸ hkept)
    exact ⟨before, after, hlist, q, hq, hq', hqmatch, hafter q hq⟩

def oneBelow : FileTree :=
  ⟨[("/in", .directory), ("/in/build", .directory), ("/in/build/keep.py", .file (utf8 "x = 1\n") 0)]⟩

theorem wellFormed_oneBelow : oneBelow.WellFormed := by decide +kernel

def reincluding : Rules :=
  { input := "/in", output := "/out", includeVendored := true,
    ignores := IgnoreList.ofLines [utf8 "build/", utf8 "!build/keep.py"], diff := .none, changed := [] }

theorem eligible_oneBelow : Eligible reincluding oneBelow ["in"] ["build"] "keep.py" where
  names := by decide
  isFile := ⟨utf8 "x = 1\n", 0, by decide⟩
  hasLanguage := by decide +kernel
  notVendored := by decide +kernel
  directories := by
    intro k hne hk
    obtain rfl : k = ["build"] := by
      obtain ⟨b, k, rfl⟩ := List.exists_cons_of_ne_nil hne
      simpa using hk
    exact ⟨by decide +kernel, by decide +kernel, by decide +kernel⟩

/-- No pattern ignores the file, and a later one re-includes it, but the directory is not entered. -/
theorem leftOut_despite_reinclusion : Eligible reincluding oneBelow ["in"] ["build"] "keep.py" ∧
    reincluding.ignores.map (fun p => (p.negated, p.isMatch "build/keep.py" false)) = [(false, true), (true, true)] ∧
    reincluding.ignores.ignoredBy? "build/keep.py" false = none ∧ ¬Announces reincluding oneBelow "build/keep.py" := by
  refine ⟨eligible_oneBelow, by decide +kernel, by decide +kernel, fun h => ?_⟩
  have hpassed := (announces_iff wellFormed_oneBelow (by decide) (by cbv) (by decide) eligible_oneBelow).mp h
  exact absurd (hpassed.2 ["build"] (by simp) (by simp)) (by decide +kernel)

theorem leftOut_iff_ignored_oneBelow : ¬Announces reincluding oneBelow "build/keep.py" :=
  (leftOut_iff_ignored wellFormed_oneBelow (by decide) (by cbv) (by decide) eligible_oneBelow).1.mpr
    (.inr ⟨["build"], by simp, by simp, by decide +kernel⟩)

end Walk

end SourceSurvey
