import SourceSurvey.Proofs.Analysis.Document
import SourceSurvey.Proofs.Scan.History

namespace SourceSurvey

open SourceSurvey.Path

namespace FileScan

variable {s s' : Setting} {w : World} {path language : String} {content : Bytes} {modified : Instant} {a : Analysis}

def settingsParts (s : Setting) : List Bytes :=
  [s.analyzer.fingerprint, s.plan.format.name, s.plan.binaryMode.name,
    s!"{s.plan.writeDocumented}/{s.plan.gitMetadata}"].map utf8

theorem of_settingsParts (h : settingsParts s = settingsParts s') : s.plan.format = s'.plan.format ∧
    s.plan.binaryMode = s'.plan.binaryMode ∧ s.plan.writeDocumented = s'.plan.writeDocumented ∧
    s.plan.gitMetadata = s'.plan.gitMetadata := by
  have h := List.map_injective_iff.mpr utf8_injective h
  simp only [List.cons.injEq, and_true] at h
  obtain ⟨-, hformat, hbinary, hflags⟩ := h
  refine ⟨?_, ?_, ?_⟩
  · cases hf : s.plan.format <;> cases hf' : s'.plan.format <;> simp_all [DocumentFormat.name]
  · cases hb : s.plan.binaryMode <;> cases hb' : s'.plan.binaryMode <;> simp_all [BinaryMode.name]
  · revert hflags
    cases s.plan.writeDocumented <;> cases s.plan.gitMetadata <;> cases s'.plan.writeDocumented <;>
      cases s'.plan.gitMetadata <;> decide

/-- What analyzing a file afresh writes for it: a document, in a language. -/
inductive Fresh (s : Setting) (w : World) (path : String) (data : Bytes) (language : String) : Prop
  | intro {content : Bytes} {modified : Instant} {a : Analysis}
      (hlook : w.tree.look true (join [s.plan.input, path]) = .ok (.file content modified))
      (hanalysis : s.analyzer.analyze .live content path = .ok a)
      (hstores : conclude s w path modified content (.ok a) = store s w path modified content a)
      (hdata : data = document s path a (facts s (join [s.plan.input, path]))) (hlanguage : language = a.language)

theorem conclude_ok (h : a.unsupported → s.plan.binaryMode = .notice) :
    conclude s w path modified content (.ok a) = store s w path modified content a := by
  rw [conclude]
  by_cases hunsupported : a.unsupported
  · simp [h hunsupported]
  · simp [hunsupported]

theorem of_recorded? (h : recorded? s w path modified content = some language) : ∃ e data d,
    (path, e) ∈ w.cache.index ∧ e.modified.instant = modified ∧ e.source = fingerprint content ∧ e.settings = settings s ∧
    w.tree.contentAt (join [s.plan.output, outputName s path]) = .ok data ∧ fingerprint data = e.output ∧
    s.plan.format.decode? data = some d ∧
    language = Utf8.toString (((d.get? "language").bind Datum.text?).getD []) := by
  rw [recorded?] at h
  split at h
  swap
  · cases h
  split at h
  · cases h
  rename_i hash hcheck
  rw [CacheManager.check] at hcheck
  split at hcheck
  · cases hcheck
  rename_i e hentry
  split at hcheck
  swap
  · cases hcheck
  rename_i hfits
  simp only [Bool.and_eq_true, decide_eq_true_eq] at hfits
  obtain ⟨⟨⟨-, hmodified⟩, hsource⟩, hsettings⟩ := hfits
  obtain rfl := Option.some.inj hcheck
  rw [cachedLanguage?] at h
  obtain ⟨data, hdata, h⟩ := Option.bind_eq_some_iff.mp h
  split at h
  · cases h
  rename_i hhash
  obtain ⟨d, hd, h⟩ := Option.bind_eq_some_iff.mp h
  dsimp only at h
  split at h
  · cases h
  refine ⟨e, data, d, Keyed.mem_of_lookup hentry, hmodified, hsource, hsettings, ?_, by simpa using hhash, hd,
    (Option.some.inj h).symm⟩
  cases hcontent : w.tree.contentAt (join [s.plan.output, outputName s path]) with
  | error e =>
      rw [hcontent] at hdata
      cases hdata
  | ok content =>
      rw [hcontent] at hdata
      rw [Option.some.inj hdata]

theorem analyzedFile_ne_hit (s : Setting) (path : String) (modified : Instant) (content : Bytes) (a : Analysis) :
    (analyzedFile s path modified content a).cache ≠ CacheStatus.hit.name := by
  change (if s.plan.cache then CacheStatus.miss else CacheStatus.disabled).name ≠ _
  cases s.plan.cache <;> decide

theorem facts_of_gitMetadata (h : s.plan.gitMetadata = false) (source : String) : facts s source = [] := by
  simp [facts, h]

theorem document_congr (h : s.plan.format = s'.plan.format) (path : String) (a : Analysis)
    (known : List (String × String)) : document s path a known = document s' path a known := by
  rw [document, document, h]

theorem follows_gitFields (format : DocumentFormat) (known : List (String × String)) :
    Analysis.Follows (gitFields format known) := by
  intro f hf
  unfold gitFields at hf
  split at hf
  · cases hf
  · rw [List.mem_singleton.mp hf]
    refine ⟨Datum.nested_ofFields ?_, show "git" ≠ "path" by decide, show "git" ≠ "language" by decide⟩
    rw [List.forall_mem_map]
    exact fun _ _ => .text _

theorem language_of_document {known : List (String × String)} {d : Datum}
    (hlanguage : a.language ∈ Identification.languages)
    (h : s.plan.format.decode? (document s path a known) = some d) :
    Utf8.toString (((d.get? "language").bind Datum.text?).getD []) = a.language := by
  rw [Analysis.get?_language hlanguage (follows_gitFields s.plan.format known) h]
  exact toString_utf8 _

theorem cachedLanguage?_document {t : FileTree} {output : String} {known : List (String × String)}
    (hformat : s.plan.format = .json) (hcontent : t.contentAt output = .ok (document s path a known))
    (hcopy : t.exists? (join [s.plan.output, path])) :
    cachedLanguage? s t output (fingerprint (document s path a known)) = some a.language := by
  have hfollows := follows_gitFields s.plan.format known
  have hdecode : s.plan.format.decode? (document s path a known) =
      some (Datum.ofFields (Analysis.documentFields path a (gitFields s.plan.format known))).repaired := by
    rw [hformat] at hfollows
    rw [document, hformat]
    exact Analysis.decode?_encode_json path a hfollows
  obtain ⟨hpath, hlanguage⟩ := Analysis.get?_repaired path a hfollows
  have hname : ∀ name, Utf8.toString (((some (Datum.ofString name)).bind Datum.text?).getD []) = name := toString_utf8
  generalize document s path a known = data at hcontent hdecode ⊢
  generalize (Datum.ofFields (Analysis.documentFields path a (gitFields s.plan.format known))).repaired = d
    at hdecode hpath hlanguage
  rw [cachedLanguage?]
  refine Option.bind_eq_some_iff.mpr ⟨data, by rw [hcontent]; rfl, ?_⟩
  -- The hash is made opaque, or it would be computed to decide whether it equals itself.
  generalize fingerprint data = hash
  dsimp only
  rw [if_neg (show ¬hash ≠ hash from not_not_intro rfl)]
  refine Option.bind_eq_some_iff.mpr ⟨d, hdecode, ?_⟩
  have hstands : ¬(s.plan.writeDocumented &&
      !t.exists? (join [s.plan.output, Utf8.toString (((d.get? "path").bind Datum.text?).getD [])])) = true := by
    rw [hpath, hname, hcopy, Bool.not_true, Bool.and_false]
    exact Bool.false_ne_true
  rw [if_neg hstands, hlanguage, hname]
  rfl

theorem recorded?_document {known : List (String × String)} (hcache : s.plan.cache)
    (hreads : s.plan.ignoreCacheRead = false) (hformat : s.plan.format = .json)
    (hcheck : w.cache.check path modified (fingerprint content) (settings s) = some (fingerprint (document s path a known)))
    (hcontent : w.tree.contentAt (join [s.plan.output, outputName s path]) = .ok (document s path a known))
    (hcopy : w.tree.exists? (join [s.plan.output, path])) :
    recorded? s w path modified content = some a.language := by
  rw [recorded?, if_pos (by simp [hcache, hreads]), hcheck]
  exact cachedLanguage?_document hformat hcontent hcopy

end FileScan

namespace Pass

variable {cache : String} {ps : List Pass} {p : Pass} {t : FileTree} {w : FileScan.World} {path : String}
  {g : ProcessedFile} {cached : Bool} {content : Bytes} {modified : Instant} {language : String}

/-- A content that passes read from their input. -/
def Reads (ps : List Pass) (content : Bytes) : Prop :=
  ∃ p ∈ ps, ∃ w path modified, p.Visits w path ∧
    w.tree.look true (join [p.setting.plan.input, path]) = .ok (.file content modified)

/-- A document that passes find in their output, or make of a file. -/
inductive Meets (ps : List Pass) (data : Bytes) : Prop
  | found {p : Pass} {w : FileScan.World} {path : String} (hp : p ∈ ps) (hvisits : p.Visits w path)
      (h : w.tree.contentAt (join [p.setting.plan.output, FileScan.outputName p.setting path]) = .ok data)
  | made {p : Pass} {w : FileScan.World} {path : String} {content : Bytes} {modified : Instant} {a : Analysis}
      (hp : p ∈ ps) (hvisits : p.Visits w path)
      (hlook : w.tree.look true (join [p.setting.plan.input, path]) = .ok (.file content modified))
      (hanalysis : p.setting.analyzer.analyze .live content path = .ok a)
      (hdata : data = FileScan.document p.setting path a
        (FileScan.facts p.setting (join [p.setting.plan.input, path])))

/-- No two things that passes take the fingerprints of have the same one. -/
structure TellsApart (ps : List Pass) : Prop where
  settings : ∀ p ∈ ps, ∀ q ∈ ps, FileScan.settings p.setting = FileScan.settings q.setting →
    FileScan.settingsParts p.setting = FileScan.settingsParts q.setting
  sources : ∀ c c', Reads ps c → Reads ps c' → fingerprint c = fingerprint c' → c = c'
  documents : ∀ d d', Meets ps d → Meets ps d' → fingerprint d = fingerprint d' → d = d'

/-- Passes of equal settings analyze alike. -/
def AnalyzeAlike (ps : List Pass) : Prop :=
  ∀ p ∈ ps, ∀ q ∈ ps, FileScan.settings p.setting = FileScan.settings q.setting → ∀ content path,
    p.setting.analyzer.analyze .live content path = q.setting.analyzer.analyze .live content path

theorem exists_maker (h : History cache ps t) (hapart : TellsApart ps) (hp : p ∈ ps) (hvisits : p.Visits w path)
    (hlook : w.tree.look true (join [p.setting.plan.input, path]) = .ok (.file content modified))
    (hrecorded : FileScan.recorded? p.setting w path modified content = some language) :
    ∃ q ∈ ps, FileScan.settings p.setting = FileScan.settings q.setting ∧ ∃ v a, q.Visits v path ∧
      q.setting.analyzer.analyze .live content path = .ok a ∧ (a.unsupported → q.setting.plan.binaryMode = .notice) ∧
      (FileScan.process q.setting v path).2 =
        .processed (FileScan.analyzedFile q.setting path modified content a) false ∧
      w.tree.contentAt (join [p.setting.plan.output, FileScan.outputName p.setting path]) =
        .ok (FileScan.document q.setting path a
          (FileScan.facts q.setting (join [q.setting.plan.input, path]))) ∧ language = a.language := by
  obtain ⟨e, data, d, hentry, hmodified, hsource, hsettings, hdata, hhash, hd, rfl⟩ := FileScan.of_recorded? hrecorded
  obtain ⟨q, hq, v, hvisited, hmade⟩ := h.recorded hp hvisits _ hentry
  obtain ⟨hlook', hanalysis, hbinary, hmodified', hsource', hsettings', houtput, hprocessed⟩ := hmade
  have hsame : FileScan.settings p.setting = FileScan.settings q.setting := hsettings.symm.trans hsettings'
  obtain ⟨hformat, -⟩ := FileScan.of_settingsParts (hapart.settings p hp q hq hsame)
  obtain rfl := hapart.sources _ _ ⟨p, hp, w, path, _, hvisits, hlook⟩ ⟨q, hq, v, path, _, hvisited, hlook'⟩
    (hsource.symm.trans hsource')
  obtain rfl := hmodified.symm.trans (congrArg Timestamp.instant hmodified')
  obtain rfl := hapart.documents _ _ (.found hp hvisits hdata) (.made hq hvisited hlook' hanalysis rfl)
    (hhash.trans houtput)
  rw [hformat] at hd
  exact ⟨q, hq, hsame, v, _, hvisited, hanalysis, hbinary, hprocessed, hdata,
    FileScan.language_of_document (Analyzer.analyze_language hanalysis) hd⟩

theorem of_hit (hprocess : (FileScan.process p.setting w path).2 = .processed g cached)
    (hhit : g.cache = CacheStatus.hit.name) : ∃ content modified language,
      w.tree.look true (join [p.setting.plan.input, path]) = .ok (.file content modified) ∧
      FileScan.recorded? p.setting w path modified content = some language ∧
      (FileScan.process p.setting w path).1 = w ∧
      g = FileScan.cachedFile p.setting path language modified content := by
  have hgoes := FileScan.goes_process p.setting w path
  generalize FileScan.process p.setting w path = result at hprocess hgoes
  cases hgoes with
  | ended he => exact absurd hprocess (he g cached)
  | analyzed =>
      obtain ⟨rfl, -⟩ := FileScan.store_processed hprocess
      exact absurd hhit (FileScan.analyzedFile_ne_hit _ _ _ _ _)
  | cached hlook _ hrecorded =>
      cases hprocess
      exact ⟨_, _, _, hlook, hrecorded, rfl, rfl⟩

namespace Twice

open FileScan Engine

def options : ScanOptions := { input := "in", output := "out", cache := true, writeDocumented := true }

def plan : ScanPlan :=
  { input := "/in", output := "/out", appVersion := "", configFile := "", profile := "", concurrency := 1,
    onError := .carryOn, binaryMode := .skip, format := .json, writeDocumented := true, cache := true, cacheFormat := "",
    ignoreCacheRead := false, clearCache := false, ignore := [], includeVendored := false, gitMetadata := false,
    diff := .none, sinceRef := "", git := none }

def made : FileTree := ⟨oneSource.nodes ++ [("/out", .directory)]⟩

def written (data copy : Bytes) : FileTree :=
  ⟨made.nodes ++ [("/out/a.py.json", .file data 0), ("/out/a.py", .file copy 0)]⟩

def saved (data copy index : Bytes) : FileTree :=
  ⟨(written data copy).nodes ++ [("/out/.codelens.cache", .file index 0)]⟩

section

variable (a : Analyzer) (r : Analysis)

def data : Bytes := document ⟨plan, a⟩ "a.py" r []

def index : CacheManager := ({} : CacheManager).update "a.py" (.universal 0) (fingerprint bareFunction) (settings ⟨plan, a⟩)
  (fingerprint (data a r))

def left : FileTree := saved (data a r) r.documented (index a r).encode

def first : Pass := ⟨⟨⟨plan, a⟩, ⟨made, {}⟩, [], .live⟩, ["a.py"]⟩

def second : Pass := ⟨⟨⟨plan, a⟩, ⟨left a r, index a r⟩, [], .live⟩, ["a.py"]⟩

end

variable {a : Analyzer} {r : Analysis}

theorem resultPath : join [plan.output, outputName ⟨plan, a⟩ "a.py"] = "/out/a.py.json" := by
  change join ["/out", "a.py" ++ "." ++ "json"] = _
  decide

theorem sourcePath : join [plan.input, "a.py"] = "/in/a.py" := by decide

theorem copyPath : join [plan.output, "a.py"] = "/out/a.py" := by decide

theorem cachePath_plan : cachePath plan = "/out/.codelens.cache" := by
  have hpath : build true (["out"] ++ [CacheManager.fileName]) = "/out/.codelens.cache" := by decide
  rw [← hpath]
  exact (cachePath_default (by decide) (by decide) rfl).2

theorem check_options : options.check "/" = .ok plan := by rfl

theorem resolve_cache (t : FileTree) (follow : Bool) : t.resolve follow "/out/.codelens.cache" =
    t.walk follow FileTree.maxLinks "/" ["out", ".codelens.cache"] := by
  have hnames : AreNames ["out", ".codelens.cache"] := by decide
  have hpath : build true ["out", ".codelens.cache"] = "/out/.codelens.cache" := by decide
  rw [← hpath, FileTree.resolve, clean_rooted hnames, parts_rooted hnames]

theorem ready_first (ha : Analyzer.ofOptions {} = .ok a) :
    ofOptions options .live "/" oneSource = (made, .ok (first a).engine) := by
  have hmade : prepareDirectories plan oneSource = .ok made := by cbv
  have hcache : openCache plan made = ⟨made, {}⟩ := by
    have hlook : made.look true "/out/.codelens.cache" = .error .notFound := by
      rw [FileTree.look, resolve_cache]
      cbv
    have hload : (CacheManager.ofSettings "" "").load made "/out/.codelens.cache" = ({}, .ok ()) := by
      rw [CacheManager.load, hlook]
      rfl
    rw [openCache, if_neg (by decide), cachePath_plan]
    exact congrArg (FileScan.World.mk made) (congrArg Prod.fst hload)
  have hanalyzer : Analyzer.ofOptions options.analyzer = .ok a := ha
  unfold ofOptions
  simp only [check_options, hmade, hanalyzer, hcache]
  rfl

theorem process_first (hlimit : ¬a.limit < bareFunction.length)
    (hr : a.analyze .live bareFunction "a.py" = .ok r) (hsupported : r.unsupported = false) :
    process ⟨plan, a⟩ ⟨made, {}⟩ "a.py" =
      (⟨written (data a r) r.documented, index a r⟩, .processed (analyzedFile ⟨plan, a⟩ "a.py" 0 bareFunction r) false) := by
  have hstat : made.stat "/in/a.py" = .ok (.file bareFunction 0) := by cbv
  have hrecorded : recorded? ⟨plan, a⟩ ⟨made, {}⟩ "a.py" 0 bareFunction = none := rfl
  have hresult : FileScan.write made "/out/a.py.json" (data a r) =
      .ok ⟨made.nodes ++ [("/out/a.py.json", .file (data a r) 0)]⟩ := by
    generalize data a r = content
    unfold FileScan.write
    cbv
  have hcopy : FileScan.write ⟨made.nodes ++ [("/out/a.py.json", .file (data a r) 0)]⟩ "/out/a.py" r.documented =
      .ok (written (data a r) r.documented) := by
    generalize data a r = content, r.documented = copy
    unfold FileScan.write
    cbv
  have hfacts : document ⟨plan, a⟩ "a.py" r (facts ⟨plan, a⟩ "/in/a.py") = data a r := rfl
  rw [process]
  simp only [sourcePath, hstat, hlimit, if_false, hrecorded, hr]
  rw [conclude_ok (by simp [hsupported])]
  unfold store
  simp only [sourcePath, hfacts, resultPath, copyPath, hresult, hcopy, analyzedFile, hsupported]
  rfl

theorem world_first (hlimit : ¬a.limit < bareFunction.length)
    (hr : a.analyze .live bareFunction "a.py" = .ok r) (hsupported : r.unsupported = false) :
    (first a).world = ⟨written (data a r) r.documented, index a r⟩ :=
  congrArg Prod.fst (process_first hlimit hr hsupported)

theorem flaw?_index : (index a r).flaw? = none := by
  have hsorted : CacheManager.sorted (index a r).index = (index a r).index := List.mergeSort_singleton _
  rw [CacheManager.flaw?, hsorted]
  rfl

theorem tree_first (hlimit : ¬a.limit < bareFunction.length)
    (hr : a.analyze .live bareFunction "a.py" = .ok r) (hsupported : r.unsupported = false) :
    (first a).tree = left a r := by
  have hpath : cachePath (first a).setting.plan = "/out/.codelens.cache" := cachePath_plan
  have hparent : parent "/out/.codelens.cache" = "/out" := by cbv
  have hindex : (index a r).index.isEmpty = false := rfl
  have hflaw := flaw?_index (a := a) (r := r)
  have hmade : ∀ data copy, (written data copy).makeDirectory "/out" = .ok (written data copy) := by
    intro data copy
    cbv
  have hplace : ∀ data copy, (written data copy).resolve false "/out/.codelens.cache" = .ok "/out/.codelens.cache" := by
    intro data copy
    rw [resolve_cache]
    cbv
  have hfree : ∀ data copy, (written data copy).look false "/out/.codelens.cache" = .error .notFound := by
    intro data copy
    rw [FileTree.look, hplace]
    cbv
  rw [tree, world_first hlimit hr hsupported, hpath]
  unfold CacheManager.persist
  simp only [hindex, hflaw, hparent, hmade, hfree, hplace]
  rfl

theorem ready_second (ha : Analyzer.ofOptions {} = .ok a) :
    ofOptions options .live "/" (left a r) = (left a r, .ok (second a r).engine) := by
  have hmade : ∀ data copy content,
      prepareDirectories plan (saved data copy content) = .ok (saved data copy content) := by
    intro data copy content
    cbv
  have hlook : ∀ data copy content,
      (saved data copy content).look true "/out/.codelens.cache" = .ok (.file content 0) := by
    intro data copy content
    rw [FileTree.look, resolve_cache]
    cbv
  have hread : (CacheManager.ofSettings "" "").indexOfContent (index a r).encode = (index a r).index := by
    have hdecode : (CacheManager.ofSettings "" "").decode? (index a r).encode =
        some ⟨CacheManager.schemaVersion, "dev", (index a r).index⟩ :=
      CacheManager.decodeBinary?_encodeBinary "dev" (index a r).index
    rw [CacheManager.indexOfContent, hdecode]
    rfl
  have hcache : openCache plan (left a r) = ⟨left a r, index a r⟩ := by
    rw [openCache, if_neg (by decide), cachePath_plan, if_neg (by decide)]
    change FileScan.World.mk (left a r) ((CacheManager.ofSettings "" "").load (left a r) "/out/.codelens.cache").1 = _
    rw [CacheManager.load, left, hlook]
    dsimp only
    rw [hread]
    rfl
  have hanalyzer : Analyzer.ofOptions options.analyzer = .ok a := ha
  unfold ofOptions
  simp only [check_options, left, hmade, hanalyzer]
  rw [← left, hcache]
  rfl

theorem holds_left : (left a r).look true "/in/a.py" = .ok (.file bareFunction 0) ∧
    (left a r).contentAt "/out/a.py.json" = .ok (data a r) ∧ (left a r).exists? "/out/a.py" = true := by
  rw [left]
  generalize data a r = data, r.documented = copy, (index a r).encode = content
  refine ⟨?_, ?_, ?_⟩ <;> cbv

theorem check_index : (index a r).check "a.py" 0 (fingerprint bareFunction) (settings ⟨plan, a⟩) =
    some (fingerprint (data a r)) := by
  rw [index]
  exact CacheManager.check_update ..

theorem recorded_second : recorded? ⟨plan, a⟩ ⟨left a r, index a r⟩ "a.py" 0 bareFunction = some r.language := by
  obtain ⟨-, hcontent, hcopy⟩ := holds_left (a := a) (r := r)
  refine recorded?_document rfl rfl rfl check_index ?_ ?_
  · rw [resultPath]
    exact hcontent
  · rw [copyPath]
    exact hcopy

theorem process_second (hlimit : ¬a.limit < bareFunction.length) : process ⟨plan, a⟩ ⟨left a r, index a r⟩ "a.py" =
    (⟨left a r, index a r⟩, .processed (cachedFile ⟨plan, a⟩ "a.py" r.language 0 bareFunction) true) := by
  obtain ⟨hlook, -⟩ := holds_left (a := a) (r := r)
  rw [process]
  dsimp only
  rw [sourcePath, FileTree.stat_eq_ok_iff.mpr hlook]
  dsimp only
  rw [if_neg hlimit, recorded_second]
  rfl

theorem world_second (hlimit : ¬a.limit < bareFunction.length) : (second a r).world = ⟨left a r, index a r⟩ :=
  congrArg Prod.fst (process_second hlimit)

theorem visits_single {p : Pass} (h : p.order = ["a.py"]) {w : World} {path : String} (hvisits : p.Visits w path) :
    w = p.engine.world ∧ path = "a.py" := by
  obtain ⟨before, rest, horder, rfl⟩ := hvisits
  rw [h] at horder
  cases before with
  | nil =>
      cases horder
      exact ⟨rfl, rfl⟩
  | cons _ before => simp at horder

theorem visited {p : Pass} (hp : p ∈ [second a r, first a]) {w : World} {path : String} (hvisits : p.Visits w path) :
    p.setting = ⟨plan, a⟩ ∧ path = "a.py" ∧ w.tree.look true "/in/a.py" = .ok (.file bareFunction 0) ∧
      ∀ content, w.tree.contentAt "/out/a.py.json" = .ok content → content = data a r := by
  obtain rfl | rfl : p = second a r ∨ p = first a := by simpa using hp
  · obtain ⟨hlook, hcontent, -⟩ := holds_left (a := a) (r := r)
    obtain ⟨rfl, rfl⟩ := visits_single rfl hvisits
    refine ⟨rfl, rfl, hlook, ?_⟩
    intro content h
    exact Except.ok.inj (h.symm.trans hcontent)
  · have hlook : made.look true "/in/a.py" = .ok (.file bareFunction 0) := by cbv
    have hnone : made.contentAt "/out/a.py.json" = .error ⟨"open", "/out/a.py.json", .notFound⟩ := by cbv
    obtain ⟨rfl, rfl⟩ := visits_single rfl hvisits
    refine ⟨rfl, rfl, hlook, ?_⟩
    intro content h
    cases h.symm.trans hnone

theorem setting_eq {p : Pass} (hp : p ∈ [second a r, first a]) : p.setting = ⟨plan, a⟩ := by
  obtain rfl | rfl : p = second a r ∨ p = first a := by simpa using hp
  · rfl
  · rfl

theorem tellsApart (hr : a.analyze .live bareFunction "a.py" = .ok r) : TellsApart [second a r, first a] := by
  have hreads : ∀ content, Reads [second a r, first a] content → content = bareFunction := by
    rintro content ⟨p, hp, w, path, modified, hvisits, hlook⟩
    obtain ⟨hsetting, rfl, hfile, -⟩ := visited hp hvisits
    rw [hsetting, sourcePath, hfile] at hlook
    cases hlook
    rfl
  have hmeets : ∀ content, Meets [second a r, first a] content → content = data a r := by
    intro content h
    cases h with
    | found hp hvisits hcontent =>
        obtain ⟨hsetting, rfl, -, hresult⟩ := visited hp hvisits
        rw [hsetting, resultPath] at hcontent
        exact hresult content hcontent
    | made hp hvisits hlook hanalysis hdata =>
        obtain ⟨hsetting, rfl, hfile, -⟩ := visited hp hvisits
        rw [hsetting, sourcePath, hfile] at hlook
        cases hlook
        rw [hsetting] at hanalysis hdata
        cases hr.symm.trans hanalysis
        exact hdata
  refine ⟨?_, ?_, ?_⟩
  · intro p hp q hq _
    rw [setting_eq hp, setting_eq hq]
  · intro c c' hc hc' _
    rw [hreads c hc, hreads c' hc']
  · intro d d' hd hd' _
    rw [hmeets d hd, hmeets d' hd']

theorem analyzeAlike : AnalyzeAlike [second a r, first a] := by
  intro p hp q hq _ content path
  rw [setting_eq hp, setting_eq hq]

theorem history (ha : Analyzer.ofOptions {} = .ok a) (hlimit : ¬a.limit < bareFunction.length)
    (hr : a.analyze .live bareFunction "a.py" = .ok r) (hsupported : r.unsupported = false) :
    History "/out/.codelens.cache" [second a r, first a] (second a r).tree := by
  have hlook : oneSource.look true "/out/.codelens.cache" = .error .notFound := by
    rw [FileTree.look, resolve_cache]
    cbv
  have hstart : History "/out/.codelens.cache" [] oneSource := by
    refine .start wellFormed_oneSource ?_
    intro content modified h
    cases h.symm.trans hlook
  have hencodable : (index a r).isEncodable ≠ false := by
    rw [CacheManager.isEncodable_of_flaw?_eq_none flaw?_index]
    decide
  have hfirst : (first a).LeavesCache oneSource := by
    intro h
    rw [world_first hlimit hr hsupported] at h
    exact absurd h hencodable
  have hsecond : (second a r).LeavesCache (left a r) := by
    intro h
    rw [world_second hlimit] at h
    exact absurd h hencodable
  have hleft : History "/out/.codelens.cache" [first a] (left a r) := by
    rw [← tree_first hlimit hr hsupported]
    exact hstart.scan (by decide) (ready_first ha) rfl cachePath_plan ["a.py"] hfirst
  exact hleft.scan (by decide) (ready_second ha) rfl cachePath_plan ["a.py"] hsecond

end Twice

/-- A result that a pass takes from the cache is what analyzing the file afresh would write, and has its language. -/
theorem hit_stands_for_analysis (h : History cache ps t) (hapart : TellsApart ps) (halike : AnalyzeAlike ps)
    (hp : p ∈ ps) (hgit : p.setting.plan.gitMetadata = false) (hvisits : p.Visits w path)
    (hprocess : (FileScan.process p.setting w path).2 = .processed g cached) (hhit : g.cache = CacheStatus.hit.name) :
    ∃ data, w.tree.contentAt (join [p.setting.plan.output, FileScan.outputName p.setting path]) = .ok data ∧
      FileScan.Fresh p.setting w path data g.language ∧ (FileScan.process p.setting w path).1 = w := by
  obtain ⟨content, modified, language, hlook, hrecorded, hworld, rfl⟩ := of_hit hprocess hhit
  obtain ⟨q, hq, hsame, v, a, -, hanalysis, hbinary, -, hdata, hlanguage⟩ :=
    exists_maker h hapart hp hvisits hlook hrecorded
  obtain ⟨hformat, hmode, -, hmetadata⟩ := FileScan.of_settingsParts (hapart.settings p hp q hq hsame)
  rw [FileScan.facts_of_gitMetadata (hmetadata.symm.trans hgit), ← FileScan.document_congr hformat] at hdata
  rw [← halike p hp q hq hsame] at hanalysis
  rw [← hmode] at hbinary
  refine ⟨_, hdata, ⟨hlook, hanalysis, FileScan.conclude_ok hbinary, ?_, hlanguage⟩, hworld⟩
  rw [FileScan.facts_of_gitMetadata hgit]

theorem hit_stands_for_analysis_twice : ∃ a r, let w : FileScan.World := ⟨Twice.left a r, Twice.index a r⟩
    History "/out/.codelens.cache" [Twice.second a r, Twice.first a] (Twice.second a r).tree ∧
    TellsApart [Twice.second a r, Twice.first a] ∧ AnalyzeAlike [Twice.second a r, Twice.first a] ∧
    (Twice.second a r).Visits w "a.py" ∧ ∃ g, (FileScan.process ⟨Twice.plan, a⟩ w "a.py").2 = .processed g true ∧
      g.cache = CacheStatus.hit.name ∧ ∃ data, w.tree.contentAt "/out/a.py.json" = .ok data ∧
        FileScan.Fresh ⟨Twice.plan, a⟩ w "a.py" data g.language := by
  obtain ⟨a, r, ha, hlimit, hr, hsupported, -⟩ := Engine.analyze_bareFunction
  have hhistory := Twice.history ha hlimit hr hsupported
  have hvisits : (Twice.second a r).Visits ⟨Twice.left a r, Twice.index a r⟩ "a.py" := ⟨[], [], rfl, rfl⟩
  have hprocess := congrArg Prod.snd (Twice.process_second (r := r) hlimit)
  obtain ⟨data, hdata, hfresh, -⟩ := hit_stands_for_analysis hhistory (Twice.tellsApart hr) Twice.analyzeAlike
    List.mem_cons_self rfl hvisits hprocess rfl
  rw [Twice.setting_eq List.mem_cons_self, Twice.resultPath] at hdata
  exact ⟨a, r, hhistory, Twice.tellsApart hr, Twice.analyzeAlike, hvisits, _, hprocess, rfl, data, hdata, hfresh⟩

/-- What is told of a file that is taken from the cache is what was told of it when it was analyzed, without its
encoding, the copy that was written of it and whether its explanation is degraded. -/
theorem hit_forgets (h : History cache ps t) (hapart : TellsApart ps) (hp : p ∈ ps) (hvisits : p.Visits w path)
    (hprocess : (FileScan.process p.setting w path).2 = .processed g cached) (hhit : g.cache = CacheStatus.hit.name) :
    ∃ q ∈ ps, ∃ v f, q.Visits v path ∧ (FileScan.process q.setting v path).2 = .processed f false ∧
      g = { f with documented := "", encoding := "", degraded := false, cache := CacheStatus.hit.name } := by
  obtain ⟨content, modified, language, hlook, hrecorded, -, rfl⟩ := of_hit hprocess hhit
  obtain ⟨q, hq, hsame, v, a, hvisited, -, -, hprocessed, -, rfl⟩ := exists_maker h hapart hp hvisits hlook hrecorded
  obtain ⟨hformat, -⟩ := FileScan.of_settingsParts (hapart.settings p hp q hq hsame)
  refine ⟨q, hq, v, _, hvisited, hprocessed, ?_⟩
  rw [FileScan.cachedFile, FileScan.analyzedFile, FileScan.outputName, FileScan.outputName, hformat]

theorem hit_forgets_twice : ∃ a r, let w : FileScan.World := ⟨Twice.left a r, Twice.index a r⟩
    History "/out/.codelens.cache" [Twice.second a r, Twice.first a] (Twice.second a r).tree ∧
    TellsApart [Twice.second a r, Twice.first a] ∧ (Twice.second a r).Visits w "a.py" ∧
    ∃ g, (FileScan.process ⟨Twice.plan, a⟩ w "a.py").2 = .processed g true ∧ g.cache = CacheStatus.hit.name ∧
      ∃ q ∈ [Twice.second a r, Twice.first a], ∃ v f, q.Visits v "a.py" ∧
        (FileScan.process q.setting v "a.py").2 = .processed f false ∧
        g = { f with documented := "", encoding := "", degraded := false, cache := CacheStatus.hit.name } := by
  obtain ⟨a, r, ha, hlimit, hr, hsupported, -⟩ := Engine.analyze_bareFunction
  have hhistory := Twice.history ha hlimit hr hsupported
  have hvisits : (Twice.second a r).Visits ⟨Twice.left a r, Twice.index a r⟩ "a.py" := ⟨[], [], rfl, rfl⟩
  have hprocess := congrArg Prod.snd (Twice.process_second (r := r) hlimit)
  exact ⟨a, r, hhistory, Twice.tellsApart hr, hvisits, _, hprocess, rfl,
    hit_forgets hhistory (Twice.tellsApart hr) List.mem_cons_self hvisits hprocess rfl⟩

/-- A second scan, with nothing changed after the first, tells less of a file. -/
theorem hit_differs : ∃ first second : Engine, ∃ f g,
    Engine.ofOptions Twice.options .live "/" Engine.oneSource = (Twice.made, .ok first) ∧
    Engine.ofOptions Twice.options .live "/" (Pass.mk first ["a.py"]).tree =
      ((Pass.mk first ["a.py"]).tree, .ok second) ∧
    (FileScan.process first.setting first.world "a.py").2 = .processed f false ∧
    (FileScan.process second.setting second.world "a.py").2 = .processed g true ∧
    (f.documented = "a.py" ∧ f.encoding = "utf-8" ∧ f.degraded = true) ∧
    g.documented = "" ∧ g.encoding = "" ∧ g.degraded = false := by
  obtain ⟨a, r, ha, hlimit, hr, hsupported, ⟨hencoding, hdegraded⟩, -⟩ := Engine.analyze_bareFunction
  have hanalyzed := congrArg Prod.snd (Twice.process_first hlimit hr hsupported)
  have hcached := congrArg Prod.snd (Twice.process_second (r := r) hlimit)
  refine ⟨(Twice.first a).engine, (Twice.second a r).engine, _, _, Twice.ready_first ha, ?_, hanalyzed, hcached,
    ⟨?_, hencoding, hdegraded⟩, rfl, rfl, rfl⟩
  · have htree : (Pass.mk (Twice.first a).engine ["a.py"]).tree = Twice.left a r :=
      Twice.tree_first hlimit hr hsupported
    rw [htree]
    exact Twice.ready_second ha
  · simp [FileScan.analyzedFile, hsupported, Twice.plan]

end Pass

end SourceSurvey
