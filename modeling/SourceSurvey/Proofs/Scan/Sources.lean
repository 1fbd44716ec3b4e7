import SourceSurvey.Proofs.Analysis.Documented
import SourceSurvey.Proofs.Scan.Kept
import SourceSurvey.Proofs.Scan.Ready
import SourceSurvey.Proofs.Scan.Walk

namespace SourceSurvey

open SourceSurvey.Path

namespace Walk

variable {r : Rules} {t : FileTree} {out root ls ns : List String} {m n : String}

def resultSuffixes : List String := ["json", "yaml", "cache"]

theorem result_ne_source {stem suffix : String} (hsuffix : suffix ∈ resultSuffixes) (hm : IsName m)
    (hsource : (Identification.hint? ("/".intercalate (ls ++ [m]))).isSome) :
    ns ++ [stem ++ "." ++ suffix] ≠ root ++ ls ++ [m] := by
  intro heq
  have hname : m = stem ++ "." ++ suffix := (List.singleton_inj.mp (List.append_inj' heq rfl).2).symm
  have hlast : lastPart ("/".intercalate (ls ++ [m])) = stem.toList ++ '.' :: suffix.toList := by
    rw [← build_relative (by simp), lastPart_relative ls hm, hname]
    simp [String.toList_append]
  have hdot : ∀ x ∈ resultSuffixes, '.' ∉ x.toList := by decide
  have hnone : ∀ x ∈ resultSuffixes, Registry.profileForExtension? (String.ofList ('.' :: x.toList)) = none := by
    decide +kernel
  rw [Identification.hint?, extension_eq hlast (hdot suffix hsuffix), hnone suffix hsuffix] at hsource
  cases hsource

theorem copy_ne_source (hinput : r.input = build true root) (houtput : r.output = build true out) (hroot : AreNames root)
    (hls : AreNames ls) (hapart : ¬out <+: root) (hdown : Descends r t root [] ls) (hns : out <+: ns) :
    ns ++ [n] ≠ root ++ ls ++ [m] := by
  intro heq
  have hfront : ns = root ++ ls := (List.append_inj' heq rfl).1
  obtain h | ⟨d, rfl⟩ := List.prefix_or_prefix_of_prefix (hfront ▸ hns) (List.prefix_append root ls)
  · exact hapart h
  have hne : d ≠ [] := by
    rintro rfl
    simp at hapart
  have hbegins : d <+: ls := by rwa [hfront, List.prefix_append_right_inj] at hns
  have henters : enters r ("/".intercalate d) := (hdown d hne hbegins).2
  have hjoin : join [r.input, "/".intercalate d] = r.output := by
    rw [hinput, houtput, ← build_relative hne, join_rooted hroot (hls.subset hbegins.subset) hne]
  simp [enters, hjoin] at henters

end Walk

namespace Engine

variable {o : ScanOptions} {context : Context} {here p path : String} {t t' : FileTree} {e : Engine} {files : List Found}
  {out ks : List String} {n : String}

theorem of_mem_targets_file (houtput : e.setting.plan.output = build true out) (hout : AreNames out)
    (hnames : AreNames (ks ++ [n])) (hp : p ∈ FileScan.targets e.setting ("/".intercalate (ks ++ [n]))) :
    ∃ name, AreNames (out ++ ks ++ [name]) ∧ p = build true (out ++ ks ++ [name]) ∧
      ((∃ stem, ∃ suffix ∈ Walk.resultSuffixes, name = stem ++ "." ++ suffix) ∨ e.setting.plan.writeDocumented) := by
  obtain ⟨hks, hn⟩ := areNames_append.mp hnames
  have hn : IsName n := by simpa using hn
  rw [FileScan.targets, List.mem_cons] at hp
  obtain rfl | hp := hp
  · have hsuffix : e.setting.plan.format.name ∈ Walk.resultSuffixes := by cases e.setting.plan.format <;> decide
    have hname : IsName (n ++ "." ++ e.setting.plan.format.name) :=
      hn.append_dot (by cases e.setting.plan.format <;> decide)
    refine ⟨n ++ "." ++ e.setting.plan.format.name, by simp [hout, hks, hname], ?_, .inl ⟨n, _, hsuffix, rfl⟩⟩
    rw [FileScan.outputName, ← build_relative (by simp), String.append_assoc, relative_snoc_append,
      ← String.append_assoc, houtput, join_rooted hout (by simp [hks, hname]) (by simp), List.append_assoc]
  · split at hp
    · rename_i hwanted
      refine ⟨n, by simp [hout, hks, hn], ?_, .inr hwanted⟩
      rw [List.mem_singleton.mp hp, houtput, ← build_relative (by simp), join_rooted hout hnames (by simp),
        List.append_assoc]
    · cases hp

/-- Every path that a scan writes to is that of a result or of the cache, or lies below the output and copies are
wanted, or is the cache file that was given. -/
theorem of_mem_targets (hhere : isAbsolute here) (hcheck : o.check here = .ok e.setting.plan)
    (houtput : e.setting.plan.output = build true out) (hout : AreNames out)
    (hfiles : ∀ path, .candidate path ∈ files → ∃ ks n, AreNames (ks ++ [n]) ∧ path = "/".intercalate (ks ++ [n]))
    (hp : p ∈ e.targets files) : ∃ ns, AreNames ns ∧ p = build true ns ∧
      ((∃ ks n, ns = ks ++ [n] ∧ ((∃ stem, ∃ suffix ∈ Walk.resultSuffixes, n = stem ++ "." ++ suffix) ∨
          e.setting.plan.writeDocumented ∧ out <+: ks)) ∨
        e.setting.plan.cache ∧ e.setting.plan.cacheFile ≠ "" ∧ p = e.setting.plan.cacheFile) := by
  rw [Engine.targets, List.mem_append, List.mem_flatMap] at hp
  obtain hp | ⟨f, hf, hp⟩ := hp
  · split at hp
    · rename_i hcache
      obtain rfl := List.mem_singleton.mp hp
      by_cases hgiven : e.setting.plan.cacheFile = ""
      · obtain ⟨hnames, hpath⟩ := cachePath_default hout houtput hgiven
        exact ⟨_, hnames, hpath, .inl ⟨out, _, rfl, .inl ⟨".codelens", "cache", by decide, by decide⟩⟩⟩
      · obtain ⟨ns, hns, hpath⟩ := cachePath_rooted hhere hcheck
        exact ⟨ns, hns, hpath, .inr ⟨hcache, hgiven, by rw [cachePath, if_neg hgiven]⟩⟩
    · cases hp
  · cases f with
    | leftOut | unchanged => cases hp
    | candidate path =>
        obtain ⟨ks, n, hnames, rfl⟩ := hfiles path hf
        obtain ⟨name, hname, rfl, hkind⟩ := of_mem_targets_file houtput hout hnames hp
        exact ⟨_, hname, rfl, .inl ⟨out ++ ks, name, rfl,
          hkind.imp_right fun hwanted => ⟨hwanted, List.prefix_append out ks⟩⟩⟩

theorem target_ne_source {lines : List Bytes} {root ls : List String} {m : String}
    (hhere : isAbsolute here) (hcheck : o.check here = .ok e.setting.plan)
    (hinput : e.setting.plan.input = build true root) (hroot : AreNames root)
    (houtput : e.setting.plan.output = build true out) (hout : AreNames out)
    (hcopies : e.setting.plan.writeDocumented → ¬out <+: root)
    (hcache : e.setting.plan.cache → e.setting.plan.cacheFile ≠ "" →
      e.setting.plan.cacheFile ≠ build true (root ++ ls ++ [m]))
    (hls : AreNames (ls ++ [m]))
    (hdown : Walk.Descends (rules e lines) t root [] ls)
    (hsource : (Identification.hint? ("/".intercalate (ls ++ [m]))).isSome)
    (hfiles : ∀ path, .candidate path ∈ files → ∃ ks n, AreNames (ks ++ [n]) ∧ path = "/".intercalate (ks ++ [n]))
    (hp : p ∈ e.targets files) : ∃ ns, AreNames ns ∧ ns ≠ root ++ ls ++ [m] ∧ p = build true ns := by
  obtain ⟨ns, hns, rfl, hkind⟩ := of_mem_targets hhere hcheck houtput hout hfiles hp
  refine ⟨ns, hns, ?_, rfl⟩
  obtain ⟨hls, hm⟩ := areNames_append.mp hls
  -- Results and the cache have extensions that no language has, and copies lie where the walk does not go.
  obtain ⟨ks, n, rfl, ⟨stem, suffix, hsuffix, rfl⟩ | ⟨hwanted, hbegins⟩⟩ | ⟨hwanted, hgiven, hfile⟩ := hkind
  · exact Walk.result_ne_source hsuffix (by simpa using hm) hsource
  · exact Walk.copy_ne_source (r := rules e lines) hinput houtput hroot hls (hcopies hwanted) hdown hbegins
  · rintro rfl
    exact hcache hwanted hgiven hfile.symm

/-- No link leads to the input or to a path that is written to; the output is not the input or a directory above it, if
annotated copies are wanted; and no source was given as the cache file. -/
structure SetApart (e : Engine) (files : List Found) (t : FileTree) : Prop where
  input : t.IsDirect (parts e.setting.plan.input)
  targets : ∀ p ∈ e.targets files, t.IsDirect (parts p)
  copies : e.setting.plan.writeDocumented → ¬parts e.setting.plan.output <+: parts e.setting.plan.input
  cache : e.setting.plan.cache → e.setting.plan.cacheFile ≠ "" → ∀ path, .candidate path ∈ files →
    e.setting.plan.cacheFile ≠ join [e.setting.plan.input, path]

/-- Making a scan ready and running it keeps every file that the walk hands over for processing. -/
theorem keeps_candidate (ht : t.WellFormed) (hhere : isAbsolute here)
    (hready : ofOptions o context here t = (t', .ok e)) (hfound : e.found = .ok files) (hapart : SetApart e files t)
    (hpath : .candidate path ∈ files) :
    ∃ src content modified, join [e.setting.plan.input, path] = build true src ∧
      t.Keeps src content modified (e.targets files) ∧ t'.Keeps src content modified (e.targets files) := by
  have hback : ∀ q x, x ≠ FileNode.directory → t'.node? q = some x → t.node? q = some x := fun _ _ hne hx =>
    node?_of_ofOptions hready hx hne
  have ht' := wellFormed_of_ofOptions ht hhere hready
  obtain ⟨hcheck, rfl, -⟩ := of_ofOptions hready
  obtain ⟨⟨root, hroot, hinput⟩, out, hout, houtput⟩ := ScanOptions.of_check hhere hcheck
  obtain ⟨hinputDirect, hdirect, hcopies, hcache⟩ := hapart
  rw [hinput, parts_rooted hroot] at hinputDirect
  rw [hinput, parts_rooted hroot, houtput, parts_rooted hout] at hcopies
  obtain ⟨lines, rfl⟩ := of_found hfound
  have hmem := fun f => Walk.of_mem_files (f := f) ht' (r := rules e lines) hinput hroot
    (hinputDirect.mono fun _ _ => hback _ _ (by simp))
  obtain ⟨ls, m, content, modified, hls, rfl, hdown, hnode, hsource⟩ := hmem _ hpath
  have hnames : AreNames (root ++ ls ++ [m]) := by simpa [hroot] using hls
  have hjoin : join [e.setting.plan.input, "/".intercalate (ls ++ [m])] = build true (root ++ ls ++ [m]) := by
    rw [hinput, ← build_relative (by simp), join_rooted hroot hls (by simp), List.append_assoc]
  have hbefore : t.Keeps (root ++ ls ++ [m]) content modified (e.targets (Walk.files (rules e lines) e.world.tree)) := by
    refine ⟨ht, hnames, hback _ _ (by simp) hnode, fun p hp => ?_⟩
    have hfiles : ∀ path, .candidate path ∈ Walk.files (rules e lines) e.world.tree →
        ∃ ks n, AreNames (ks ++ [n]) ∧ path = "/".intercalate (ks ++ [n]) := by
      intro path hpath
      obtain ⟨ks, n, _, _, hks, hpath, -⟩ := hmem _ hpath
      exact ⟨ks, n, hks, hpath⟩
    obtain ⟨ns, hns, hne, rfl⟩ := target_ne_source hhere hcheck hinput hroot houtput hout hcopies
      (fun hwanted hgiven => hjoin ▸ hcache hwanted hgiven _ hpath) hls hdown hsource hfiles hp
    exact ⟨ns, hns, hne, by simpa only [parts_rooted hns] using hdirect _ hp, rfl⟩
  exact ⟨root ++ ls ++ [m], content, modified, hjoin, hbefore,
    hbefore.change ht' hnode fun _ _ => hback _ _ (by simp)⟩

/-- Every file that the walk hands over for processing holds, after the scan, what it held before the scan was made
ready and before it ran. -/
theorem sources_unchanged (ht : t.WellFormed) (hhere : isAbsolute here)
    (hready : ofOptions o context here t = (t', .ok e)) (hfound : e.found = .ok files) (hapart : SetApart e files t)
    (hpath : .candidate path ∈ files) :
    ∃ content, t.contentAt (join [e.setting.plan.input, path]) = .ok content ∧
      t'.contentAt (join [e.setting.plan.input, path]) = .ok content ∧
      (run e).tree.contentAt (join [e.setting.plan.input, path]) = .ok content := by
  obtain ⟨src, content, modified, hjoin, hbefore, hmade⟩ :=
    keeps_candidate ht hhere hready hfound hapart hpath
  have hafter : (run e).tree.Keeps src content modified (e.targets files) := by
    obtain ⟨-, rfl, -⟩ := of_ofOptions hready
    exact keeps_run hfound hmade
  rw [hjoin]
  exact ⟨content, hbefore.contentAt, hmade.contentAt, hafter.contentAt⟩

def bareFunction : Bytes := utf8 "def f()"

def oneSource : FileTree := ⟨[("/in", .directory), ("/in/a.py", .file bareFunction 0)]⟩

theorem wellFormed_oneSource : oneSource.WellFormed := by decide

def copying (output : String) : ScanOptions := { input := "in", output, includeVendored := true, writeDocumented := true }

def copyingPlan (output : String) : ScanPlan :=
  { input := "/in", output, appVersion := "", configFile := "", profile := "", concurrency := 1, onError := .carryOn,
    binaryMode := .skip, format := .json, writeDocumented := true, cache := false, cacheFormat := "",
    ignoreCacheRead := false, clearCache := false, ignore := [], includeVendored := true, gitMetadata := false,
    diff := .none, sinceRef := "", git := none }

def copyingRules (output : String) : Walk.Rules :=
  { input := "/in", output, includeVendored := true, ignores := [], diff := .none, changed := [] }

def copyingScan (output : String) (made : FileTree) (a : Analyzer) : Engine :=
  ⟨⟨copyingPlan output, a⟩, ⟨made, {}⟩, [], .live⟩

section

variable {output directory : String} {made : FileTree} {a : Analyzer} {result : Analysis}

theorem ofOptions_copying (hcheck : (copying output).check "/" = .ok (copyingPlan directory))
    (hmade : prepareDirectories (copyingPlan directory) oneSource = .ok made) (ha : Analyzer.ofOptions {} = .ok a) :
    ofOptions (copying output) .live "/" oneSource = (made, .ok (copyingScan directory made a)) := by
  have ha : Analyzer.ofOptions (copying output).analyzer = .ok a := ha
  unfold ofOptions
  simp only [hcheck, hmade, ha]
  rfl

theorem found_copying (hmade : made.WellFormed) (hin : made.node? (build true ["in"]) = some .directory)
    (hmissing : made.node? (build true ["in", Walk.ignoreFileName]) = none) :
    (copyingScan directory made a).found = .ok (Walk.files (copyingRules directory) made) := by
  have hroot : "/in" = build true ["in"] := by decide
  have hignores : Walk.loadIgnoreFile made "/in" = .ok [] := by
    rw [hroot]
    exact Walk.loadIgnoreFile_of_missing hmade (by decide) hin hmissing
  have hload : Walk.loadIgnoreFile (copyingScan directory made a).world.tree
      (copyingScan directory made a).setting.plan.input = .ok [] := hignores
  rw [found, hload]
  rfl

theorem sources_unchanged_nested : ∃ t' e files, ofOptions (copying "in/out") .live "/" oneSource = (t', .ok e) ∧
    e.found = .ok files ∧ .candidate "a.py" ∈ files ∧ (run e).tree.contentAt "/in/a.py" = .ok bareFunction := by
  obtain ⟨a, ha⟩ : ∃ a, Analyzer.ofOptions {} = .ok a := ⟨_, rfl⟩
  let made : FileTree := ⟨oneSource.nodes ++ [("/in/out", .directory)]⟩
  have hready : ofOptions (copying "in/out") .live "/" oneSource = (made, .ok (copyingScan "/in/out" made a)) :=
    ofOptions_copying rfl (by cbv) ha
  have hmade : made.WellFormed := by decide
  have hfound : (copyingScan "/in/out" made a).found = .ok (Walk.files (copyingRules "/in/out") made) :=
    found_copying hmade (by decide) (by decide)
  have hcandidate : .candidate "a.py" ∈ Walk.files (copyingRules "/in/out") made := by
    have hreal : made.resolve false (copyingRules "/in/out").input = .ok (build true ["in"]) := by cbv
    refine (Walk.mem_files hmade (by decide) hreal (by decide)).mpr ?_
    exact ⟨[], "a.py", bareFunction, 0, by decide, Walk.descends_nil _ _ _ _, by decide, by decide +kernel⟩
  have hlinks : ∀ ns, oneSource.IsDirect ns := FileTree.isDirect_of_nodes (by simp [oneSource])
  have hcopies : ¬parts "/in/out" <+: parts "/in" := by decide
  obtain ⟨content, hbefore, -, hafter⟩ := sources_unchanged wellFormed_oneSource (by decide) hready hfound
    ⟨hlinks _, fun _ _ => hlinks _, fun _ => hcopies, by simp [copyingScan, copyingPlan]⟩ hcandidate
  have hjoin : join [(copyingScan "/in/out" made a).setting.plan.input, "a.py"] = "/in/a.py" := by cbv
  have hcontent : oneSource.contentAt "/in/a.py" = .ok bareFunction := by cbv
  rw [hjoin] at hbefore hafter
  rw [hcontent] at hbefore
  exact ⟨made, _, _, hready, hfound, hcandidate, Except.ok.inj hbefore ▸ hafter⟩

theorem identify_bareFunction (classifier : Classifier) : ∃ confidence,
    identify classifier {} .live bareFunction "a.py" = .ok (Identification.byExtension .python confidence) := by
  have hstrip : bareFunction.strip.isEmpty = false := by cbv
  have hlength : Utf8.length bareFunction.strip = 7 := by cbv
  have hhint : Identification.hint? "a.py" = some .python := by decide +kernel
  have hshort : ((7 : Nat) : Int) < (IdentifyConfig.withDefaults {}).minLength := by decide
  simp only [identify, hstrip, hlength, hhint, hshort, Bool.false_eq_true, if_false, if_true]
  exact ⟨_, rfl⟩

theorem analyze_bareFunction : ∃ a result, Analyzer.ofOptions {} = .ok a ∧ ¬a.limit < bareFunction.length ∧
    a.analyze .live bareFunction "a.py" = .ok result ∧ result.unsupported = false ∧
    (result.encoding = "utf-8" ∧ result.degraded) ∧ result.documented ≠ bareFunction := by
  have htext : Charset.isBinary bareFunction = false := by decide
  have hblank : bareFunction.isBlank = false := by cbv
  have hdecode : Charset.decode "" bareFunction = ⟨bareFunction, "utf-8", true, false⟩ := by cbv
  have hbare : Annotation.bare none (Line.scan .python bareFunction) = [true] := by cbv
  obtain ⟨a, ha, hlimit, hlanguage, hgenerator, hsniffer, hdecoder, hcataloguer⟩ : ∃ a,
      Analyzer.ofOptions {} = .ok a ∧ a.limit = Analyzer.defaultLimit ∧ a.language = {} ∧ a.generator = none ∧
      (∀ content, a.sniffer content = .ok (Charset.isBinary content)) ∧
      (∀ content, a.decoder content = .ok (Charset.decode "" content)) ∧
      ∀ p text lines, ∃ inventory, a.cataloguer p text lines = .ok inventory :=
    ⟨_, rfl, rfl, rfl, rfl, fun _ => rfl, fun _ => rfl, fun _ _ _ => ⟨_, rfl⟩⟩
  have hlength : ¬a.limit < bareFunction.length := by
    rw [hlimit]
    decide
  obtain ⟨confidence, hfound⟩ := identify_bareFunction a.classifier
  obtain ⟨inventory, hinventory⟩ := hcataloguer .python bareFunction (Line.scan .python bareFunction)
  have hanalyze := Analyzer.analyze_of_live hblank hlength ((hsniffer bareFunction).trans (by rw [htext]))
    ((hdecoder bareFunction).trans (by rw [hdecode])) "a.py"
  rw [Analyzer.analyzeText] at hanalyze
  simp only [hlanguage, hfound, Identification.byExtension, hinventory, hgenerator, Explanation.explain,
    Context.ended?_live] at hanalyze
  refine ⟨a, _, ha, hlength, hanalyze, rfl, ⟨rfl, rfl⟩, ?_⟩
  have hpython : Profile.python.Annotatable := Profile.annotatable_of_mem List.mem_cons_self
  exact Annotation.annotate_ne_of_bare hpython (by simp [hbare])

def written (data copy : Bytes) : FileTree :=
  ⟨[("/in", .directory), ("/in/a.py.json", .file data 0), ("/in/a.py", .file copy 0)]⟩

theorem store_copying (hsupported : result.unsupported = false) : ∃ data,
    (FileScan.store ⟨copyingPlan "/in", a⟩ ⟨oneSource, {}⟩ "a.py" 0 bareFunction result).1.tree =
      written data result.documented := by
  have hresult : ∀ data, FileScan.write oneSource
      (join [(copyingPlan "/in").output, FileScan.outputName ⟨copyingPlan "/in", a⟩ "a.py"]) data =
        .ok ⟨oneSource.nodes ++ [("/in/a.py.json", .file data 0)]⟩ := by
    intro data
    unfold FileScan.write
    cbv
  have hcopy : ∀ data, FileScan.write ⟨oneSource.nodes ++ [("/in/a.py.json", .file data 0)]⟩
      (join [(copyingPlan "/in").output, "a.py"]) result.documented = .ok (written data result.documented) := by
    intro data
    unfold FileScan.write
    cbv
  have hwanted : (copyingPlan "/in").writeDocumented = true := rfl
  unfold FileScan.store
  simp only [hresult, hcopy, hwanted, hsupported]
  exact ⟨_, rfl⟩

theorem process_copying (hlength : ¬a.limit < bareFunction.length)
    (hresult : a.analyze .live bareFunction "a.py" = .ok result) (hsupported : result.unsupported = false) :
    FileScan.process ⟨copyingPlan "/in", a⟩ ⟨oneSource, {}⟩ "a.py" =
      FileScan.store ⟨copyingPlan "/in", a⟩ ⟨oneSource, {}⟩ "a.py" 0 bareFunction result := by
  have hstat : oneSource.stat (join [(copyingPlan "/in").input, "a.py"]) = .ok (.file bareFunction 0) := by cbv
  have hrecorded : FileScan.recorded? ⟨copyingPlan "/in", a⟩ ⟨oneSource, {}⟩ "a.py" 0 bareFunction = none := rfl
  rw [FileScan.process]
  simp only [hstat, hlength, hrecorded, hresult, FileScan.conclude, hsupported, Bool.false_and, Bool.false_eq_true,
    if_false]

theorem files_copying : Walk.files (copyingRules "/in") oneSource = [.candidate "a.py"] := by
  have hresolve : oneSource.resolve false (copyingRules "/in").input = .ok "/in" := by cbv
  have hnames : oneSource.names "/in" = ["a.py"] := FileTree.names_eq (by decide) (by decide)
  have hfile : oneSource.node? (FileTree.child "/in" "a.py") = some (.file bareFunction 0) := by decide
  have hfound : Walk.ofFile (copyingRules "/in") "a.py" = some (.candidate "a.py") := by decide +kernel
  have hfiles : Walk.files (copyingRules "/in") oneSource = Walk.below (copyingRules "/in") oneSource 3 "/in" "" := by
    rw [Walk.files, hresolve]
    rfl
  rw [hfiles, Walk.below, hnames]
  simp [hfile, hfound]

/-- Copies that go to the input itself replace the sources. -/
theorem source_overwritten : ∃ e, ofOptions (copying "in") .live "/" oneSource = (oneSource, .ok e) ∧
    e.found = .ok [.candidate "a.py"] ∧ oneSource.contentAt "/in/a.py" = .ok bareFunction ∧
    (run e).tree.contentAt "/in/a.py" ≠ .ok bareFunction := by
  obtain ⟨a, result, ha, hlength, hresult, hsupported, -, hdocumented⟩ := analyze_bareFunction
  have hready : ofOptions (copying "in") .live "/" oneSource = (oneSource, .ok (copyingScan "/in" oneSource a)) :=
    ofOptions_copying rfl (by cbv) ha
  have hfound : (copyingScan "/in" oneSource a).found = .ok [.candidate "a.py"] := by
    rw [found_copying wellFormed_oneSource (by decide) (by decide), files_copying]
  obtain ⟨data, hstored⟩ := store_copying (a := a) hsupported
  have hrun : (run (copyingScan "/in" oneSource a)).tree = written data result.documented := by
    rw [← hstored, ← process_copying hlength hresult hsupported]
    unfold run
    rw [hfound]
    exact congrArg FileScan.World.tree (processOne_world (copyingScan "/in" oneSource a) _ "a.py")
  have hcontent : (written data result.documented).contentAt "/in/a.py" = .ok result.documented := by cbv
  refine ⟨_, hready, hfound, by cbv, ?_⟩
  rw [hrun, hcontent]
  simpa using hdocumented

end

end Engine

end SourceSurvey
