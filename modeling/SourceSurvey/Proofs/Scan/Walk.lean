import SourceSurvey.Proofs.FileTree
import SourceSurvey.Scan.Walk

namespace SourceSurvey.Walk

open SourceSurvey.Path

variable {r : Rules} {t : FileTree} {root ms ks : List String} {n : String} {f : Found}

def met (r : Rules) (t : FileTree) (depth : Nat) (absolute path n : String) : List Found :=
  let rel := if path = "" then n else path ++ "/" ++ n
  match t.node? (FileTree.child absolute n) with
  | some .directory => if enters r rel then below r t depth (FileTree.child absolute n) rel else []
  | some (.file ..) => (ofFile r rel).toList
  | _ => []

theorem below_succ (depth : Nat) (absolute path : String) :
    below r t (depth + 1) absolute path = (t.names absolute).flatMap (met r t depth absolute path) := rfl

theorem relative_child (hms : AreNames ms) (n : String) :
    (if "/".intercalate ms = "" then n else "/".intercalate ms ++ "/" ++ n) = "/".intercalate (ms ++ [n]) := by
  by_cases h : ms = []
  · simp [h]
  · rw [← build_relative h, if_neg (relative_ne_empty hms h), ← build_relative (by simp), relative_snoc h]

theorem ofFile_path {path : String} (h : ofFile r path = some f) : f.path = path := by
  rw [ofFile] at h
  split at h
  · cases h
  · split at h
    · cases h
      rfl
    · split at h
      · cases h
        rfl
      · split at h <;> cases h <;> rfl

theorem hint?_of_ofFile {path : String} (h : ofFile r path = some f) : (Identification.hint? path).isSome := by
  rw [ofFile] at h
  split at h
  · cases h
  · rename_i hhint
    exact Option.isSome_iff_ne_none.mpr (by simpa using hhint)

/-- A walk gets from one directory along names to another, through directories that it enters. -/
def Descends (r : Rules) (t : FileTree) (root ms ks : List String) : Prop :=
  ∀ k, k ≠ [] → k <+: ks →
    t.node? (build true (root ++ ms ++ k)) = some .directory ∧ enters r ("/".intercalate (ms ++ k))

theorem descends_nil (r : Rules) (t : FileTree) (root ms : List String) : Descends r t root ms [] :=
  fun _ hne h => absurd (List.prefix_nil.mp h) hne

theorem descends_cons : Descends r t root ms (n :: ks) ↔
    (t.node? (build true (root ++ ms ++ [n])) = some .directory ∧ enters r ("/".intercalate (ms ++ [n]))) ∧
      Descends r t root (ms ++ [n]) ks := by
  constructor
  · intro h
    refine ⟨h [n] (by simp) (by simp), fun k hne hk => ?_⟩
    have hnk := h (n :: k) (by simp) (List.cons_prefix_cons.mpr ⟨rfl, hk⟩)
    simpa using hnk
  · rintro ⟨hn, h⟩ k hne hk
    obtain ⟨m, k, rfl⟩ := List.exists_cons_of_ne_nil hne
    obtain ⟨rfl, hrest⟩ := List.cons_prefix_cons.mp hk
    by_cases hk' : k = []
    · rw [hk']
      exact hn
    · simpa using h k hk' hrest

theorem mem_below (ht : t.WellFormed) (hroot : AreNames root) (hms : AreNames ms) (depth : Nat) :
    f ∈ below r t depth (build true (root ++ ms)) ("/".intercalate ms) ↔
      ∃ ks n content modified, ks.length < depth ∧ AreNames (ks ++ [n]) ∧ Descends r t root ms ks ∧
        t.node? (build true (root ++ ms ++ ks ++ [n])) = some (.file content modified) ∧
        ofFile r ("/".intercalate (ms ++ ks ++ [n])) = some f := by
  induction depth generalizing ms with
  | zero => simp [below]
  | succ depth ih =>
      have hnames : AreNames (root ++ ms) := areNames_append.mpr ⟨hroot, hms⟩
      rw [below_succ, List.mem_flatMap]
      constructor
      · rintro ⟨n, hn, hf⟩
        obtain ⟨hn, x, hx⟩ := (ht.mem_names hnames).mp hn
        have hms' : AreNames (ms ++ [n]) := areNames_append.mpr ⟨hms, by simpa using hn⟩
        simp only [met, FileTree.child_rooted hnames, relative_child hms, hx] at hf
        cases x with
        | link target => simp at hf
        | file content modified =>
            refine ⟨[], n, content, modified, by simp, by simpa using hn, descends_nil r t root ms, ?_, ?_⟩
            · rwa [List.append_nil]
            · simpa using hf
        | directory =>
            simp only at hf
            split at hf
            · rename_i henters
              rw [List.append_assoc] at hf
              obtain ⟨ks, m, content, modified, hdepth, hks, hdown, hnode, hfound⟩ := (ih hms').mp hf
              refine ⟨n :: ks, m, content, modified, by simpa using hdepth, by simpa [hn] using hks, ?_, ?_, ?_⟩
              · exact descends_cons.mpr ⟨⟨hx, henters⟩, hdown⟩
              · simpa using hnode
              · simpa using hfound
            · simp at hf
      · rintro ⟨ks, m, content, modified, hdepth, hks, hdown, hnode, hfound⟩
        cases ks with
        | nil =>
            rw [List.append_nil] at hnode hfound
            refine ⟨m, (ht.mem_names hnames).mpr ⟨by simpa using hks, _, hnode⟩, ?_⟩
            simp only [met, FileTree.child_rooted hnames, relative_child hms, hnode, hfound]
            exact List.mem_singleton_self f
        | cons n ks =>
            obtain ⟨hn, hks⟩ := areNames_cons.mp hks
            obtain ⟨⟨hdir, henters⟩, hdown⟩ := descends_cons.mp hdown
            refine ⟨n, (ht.mem_names hnames).mpr ⟨hn, _, hdir⟩, ?_⟩
            simp only [met, FileTree.child_rooted hnames, relative_child hms, hdir, henters, if_true]
            rw [List.append_assoc]
            refine (ih (areNames_append.mpr ⟨hms, by simpa using hn⟩)).mpr ?_
            refine ⟨ks, m, content, modified, by simpa using hdepth, hks, hdown, ?_, ?_⟩
            · simpa using hnode
            · simpa using hfound

theorem path_of_mem_met (ht : t.WellFormed) (hroot : AreNames root) (hms : AreNames ms) (hn : IsName n) {depth : Nat}
    (hf : f ∈ met r t depth (build true (root ++ ms)) ("/".intercalate ms) n) :
    ∃ rest, AreNames (ms ++ n :: rest) ∧ f.path = "/".intercalate (ms ++ n :: rest) := by
  have hms' : AreNames (ms ++ [n]) := areNames_append.mpr ⟨hms, by simpa using hn⟩
  simp only [met, FileTree.child_rooted (areNames_append.mpr ⟨hroot, hms⟩), relative_child hms] at hf
  split at hf
  · split at hf
    · rw [List.append_assoc] at hf
      obtain ⟨ks, m, _, _, -, hks, -, -, hfound⟩ := (mem_below ht hroot hms' depth).mp hf
      refine ⟨ks ++ [m], ?_, ?_⟩
      · simpa using areNames_append.mpr ⟨hms', hks⟩
      · rw [ofFile_path hfound]
        simp
    · simp at hf
  · exact ⟨[], hms', ofFile_path (by simpa using hf)⟩
  · simp at hf

theorem nodup_below (ht : t.WellFormed) (hroot : AreNames root) (hms : AreNames ms) (depth : Nat) :
    ((below r t depth (build true (root ++ ms)) ("/".intercalate ms)).map Found.path).Nodup := by
  induction depth generalizing ms with
  | zero => simp [below]
  | succ depth ih =>
      have hnames : AreNames (root ++ ms) := areNames_append.mpr ⟨hroot, hms⟩
      rw [below_succ, List.map_flatMap, List.nodup_flatMap]
      constructor
      · intro n hn
        have hms' : AreNames (ms ++ [n]) := areNames_append.mpr ⟨hms, by simpa using ((ht.mem_names hnames).mp hn).1⟩
        simp only [met, FileTree.child_rooted hnames, relative_child hms]
        split
        · split
          · rw [List.append_assoc]
            exact ih hms'
          · simp
        · cases ofFile r ("/".intercalate (ms ++ [n])) <;> simp
        · simp
      · refine (ht.nodup_names hnames).imp_of_mem fun {n n'} hn hn' hne path hpath hpath' => hne ?_
        obtain ⟨f, hf, rfl⟩ := List.mem_map.mp hpath
        obtain ⟨f', hf', heq⟩ := List.mem_map.mp hpath'
        obtain ⟨rest, hrest, hf⟩ := path_of_mem_met ht hroot hms ((ht.mem_names hnames).mp hn).1 hf
        obtain ⟨rest', hrest', hf'⟩ := path_of_mem_met ht hroot hms ((ht.mem_names hnames).mp hn').1 hf'
        have hparts : ms ++ n :: rest = ms ++ n' :: rest' := by
          rw [← parts_intercalate hrest, ← hf, ← heq, hf', parts_intercalate hrest']
        exact (List.cons.inj (List.append_cancel_left hparts)).1

/-- The directories on the way down are different nodes, so no way is longer than there are nodes. -/
theorem Descends.length_le (h : Descends r t root ms ks) (ht : t.WellFormed) (hnames : AreNames (root ++ ms ++ ks)) :
    ks.length ≤ t.nodes.length := by
  have htake : ∀ i, AreNames (root ++ ms ++ ks.take (i + 1)) := by
    intro i
    obtain ⟨hfront, hks⟩ := areNames_append.mp hnames
    exact areNames_append.mpr ⟨hfront, hks.subset (List.take_subset _ _)⟩
  have hnodup : ((List.range ks.length).map fun i => build true (root ++ ms ++ ks.take (i + 1))).Nodup := by
    refine List.Nodup.map_on (fun i hi j hj heq => ?_) List.nodup_range
    rw [List.mem_range] at hi hj
    have hlength := congrArg List.length (List.append_cancel_left ((rooted_inj (htake i) (htake j)).mp heq))
    rw [List.length_take, List.length_take] at hlength
    omega
  have hsubset : ((List.range ks.length).map fun i => build true (root ++ ms ++ ks.take (i + 1))) ⊆
      t.nodes.map Prod.fst := by
    intro p hp
    obtain ⟨i, hi, rfl⟩ := List.mem_map.mp hp
    rw [List.mem_range] at hi
    have hne : ks.take (i + 1) ≠ [] := by
      rw [← List.length_pos_iff, List.length_take]
      omega
    have hdir := (h _ hne (List.take_prefix _ _)).1
    refine List.mem_map_of_mem (ht.mem_nodes_iff.mpr ⟨(rooted_eq_root_iff (htake i)).not.mpr ?_, hdir⟩)
    simp [hne]
  simpa using hnodup.length_le_of_subset hsubset

theorem files_cases (ht : t.WellFormed) (r : Rules) : files r t = [] ∨
    ∃ root, AreNames root ∧ t.resolve false r.input = .ok (build true root) ∧
      t.node? (build true root) = some .directory ∧ files r t = below r t (t.nodes.length + 1) (build true root) "" := by
  rw [files]
  split
  · rename_i real hreal
    split
    · rename_i hdir
      obtain ⟨root, hroot, rfl⟩ := ht.exists_names hdir
      exact .inr ⟨root, hroot, hreal, hdir, rfl⟩
    · exact .inl rfl
  · exact .inl rfl

theorem mem_files (ht : t.WellFormed) (hroot : AreNames root) (hreal : t.resolve false r.input = .ok (build true root))
    (hdir : t.node? (build true root) = some .directory) :
    f ∈ files r t ↔ ∃ ks n content modified, AreNames (ks ++ [n]) ∧ Descends r t root [] ks ∧
      t.node? (build true (root ++ ks ++ [n])) = some (.file content modified) ∧
      ofFile r ("/".intercalate (ks ++ [n])) = some f := by
  have hfiles : files r t = below r t (t.nodes.length + 1) (build true (root ++ [])) ("/".intercalate []) := by
    simp [files, hreal, hdir]
  rw [hfiles, mem_below ht hroot areNames_nil]
  simp only [List.append_nil, List.nil_append]
  constructor
  · rintro ⟨ks, n, content, modified, -, h⟩
    exact ⟨ks, n, content, modified, h⟩
  · rintro ⟨ks, n, content, modified, hks, hdown, hnode, hfound⟩
    have hnames : AreNames (root ++ [] ++ ks) := by
      rw [List.append_nil]
      exact areNames_append.mpr ⟨hroot, (areNames_append.mp hks).1⟩
    exact ⟨ks, n, content, modified, Nat.lt_succ_of_le (hdown.length_le ht hnames), hks, hdown, hnode, hfound⟩

theorem of_mem_files (ht : t.WellFormed) (hinput : r.input = build true root) (hroot : AreNames root)
    (hdirect : t.IsDirect root) (h : f ∈ files r t) :
    ∃ ks n content modified, AreNames (ks ++ [n]) ∧ f.path = "/".intercalate (ks ++ [n]) ∧ Descends r t root [] ks ∧
      t.node? (build true (root ++ ks ++ [n])) = some (.file content modified) ∧
      (Identification.hint? ("/".intercalate (ks ++ [n]))).isSome := by
  obtain hnone | ⟨real, hreal', hreal, hdir, -⟩ := files_cases ht r
  · rw [hnone] at h
    cases h
  obtain rfl : real = root := by
    rw [← rooted_inj hreal' hroot]
    rw [hinput] at hreal
    exact FileTree.eq_of_resolve hroot hdirect hreal
  obtain ⟨ks, n, content, modified, hnames, hdown, hnode, hfound⟩ := (mem_files ht hroot hreal hdir).mp h
  exact ⟨ks, n, content, modified, hnames, ofFile_path hfound, hdown, hnode, hint?_of_ofFile hfound⟩

theorem loadIgnoreFile_of_missing (ht : t.WellFormed) (hroot : AreNames root)
    (hdir : t.node? (build true root) = some .directory)
    (hmissing : t.node? (build true (root ++ [ignoreFileName])) = none) : loadIgnoreFile t (build true root) = .ok [] := by
  have hname : build false [ignoreFileName] = ignoreFileName := by decide
  have hjoin : join [build true root, ignoreFileName] = build true (root ++ [ignoreFileName]) := by
    rw [← hname, join_rooted hroot (by decide) (by simp), hname]
  have hnames : AreNames (root ++ [ignoreFileName]) := areNames_append.mpr ⟨hroot, by decide⟩
  rw [loadIgnoreFile, hjoin, ht.contentAt_of_missing hnames hdir hmissing]
  rfl

theorem nodup_files (ht : t.WellFormed) (r : Rules) : ((files r t).map Found.path).Nodup := by
  obtain h | ⟨root, hroot, -, -, h⟩ := files_cases ht r
  · simp [h]
  · rw [h]
    simpa using nodup_below ht hroot areNames_nil _

end SourceSurvey.Walk
