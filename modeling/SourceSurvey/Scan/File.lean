import SourceSurvey.Cache.Index
import SourceSurvey.Datum.Yaml.Printer
import SourceSurvey.Scan.Walk

namespace SourceSurvey

inductive FileStatus
  | pending
  | processing
  | success
  | failed
  | skipped
  | cached
  deriving Repr, DecidableEq

def FileStatus.name : FileStatus → String
  | pending => "pending"
  | processing => "processing"
  | success => "success"
  | failed => "failed"
  | skipped => "skipped"
  | cached => "cached"

namespace FileScan

structure Setting where
  plan : ScanPlan
  analyzer : Analyzer

structure World where
  tree : FileTree
  cache : CacheManager

inductive Failure
  | stat (e : FileError)
  | read (e : FileError)
  | analysis (e : AnalysisError)
  | binary
  | makeDirectory (e : FileError)
  | write (e : FileError)
  deriving Repr, DecidableEq

def Failure.message : Failure → String
  | stat e => "failed to get file stats: " ++ e.message
  | read e => "failed to read file: " ++ e.message
  | analysis e => e.message
  | binary => "unsupported content: binary file"
  | makeDirectory e => "failed to create output directory: " ++ e.message
  | write e => "failed to write output file: " ++ e.message

inductive Ended
  | processed (f : ProcessedFile) (cached : Bool)
  | skipped (reason : SkipReason) (details : String)
  | failed (f : Failure)
  deriving Repr, DecidableEq

namespace Ended

def status : Ended → FileStatus
  | processed _ cached => if cached then .cached else .success
  | skipped .. => .skipped
  | failed _ => .failed

def message : Ended → String
  | processed .. => ""
  | skipped _ details => details
  | failed f => f.message

def outcome (path : String) (fatal : Bool) : Ended → Outcome
  | processed f _ => .processed f
  | skipped reason details => .skipped ⟨path, reason.name, details⟩
  | failed f => .failed ⟨path, f.message, fatal⟩

end Ended

variable (s : Setting)

def settings : String :=
  Fingerprint.ofParts ([s.analyzer.fingerprint, s.plan.format.name, s.plan.binaryMode.name,
    s!"{s.plan.writeDocumented}/{s.plan.gitMetadata}"].map utf8)

def outputName (path : String) : String := path ++ "." ++ s.plan.format.name

def write (t : FileTree) (path : String) (content : Bytes) : Except Failure FileTree :=
  match t.makeDirectory (Path.parent path) with
  | .error e => .error (.makeDirectory e)
  | .ok t =>
    match t.setContent path content 0 with
    | .error e => .error (.write e)
    | .ok t => .ok t

/-- The language of a result written before, if the file still holds what was recorded and the
annotated copy, where one is wanted, is still there. -/
def cachedLanguage? (t : FileTree) (output hash : String) : Option String := do
  let content ← (t.contentAt output).toOption
  if fingerprint content ≠ hash then none
  let d ← s.plan.format.decode? content
  let field (k : String) : String := Utf8.toString (((d.get? k).bind Datum.text?).getD [])
  if s.plan.writeDocumented && !t.exists? (Path.join [s.plan.output, field "path"]) then none
  return field "language"

def gitFields (format : DocumentFormat) (facts : List (String × String)) : List (String × Datum) :=
  if facts.isEmpty then []
  else
    let sorted := match format with
      | .json => facts.mergeSort fun a b => a.1 ≤ b.1
      | .yaml => facts.mergeSort fun a b => a.1 = b.1 || Yaml.natural a.1.toList b.1.toList
    [("git", .ofFields (sorted.map fun (k, v) => (k, .ofString v)))]

def document (path : String) (a : Analysis) (facts : List (String × String)) : Bytes :=
  s.plan.format.encode ([("path", .ofString path)] ++ a.fields ++ gitFields s.plan.format facts)

def facts (path : String) : List (String × String) :=
  if !s.plan.gitMetadata then []
  else
    match s.plan.git with
    | none => []
    | some g => ((g.metadata s.plan.input path).toOption).getD []

def recorded? (w : World) (path : String) (modified : Instant) (content : Bytes) : Option String :=
  if s.plan.cache && !s.plan.ignoreCacheRead then
    match w.cache.check path modified (fingerprint content) (settings s) with
    | none => none
    | some hash => cachedLanguage? s w.tree (Path.join [s.plan.output, outputName s path]) hash
  else none

/-- Writes the result of an analysis and records it, with the time of the file on a clock that shows universal time. -/
def store (w : World) (path : String) (modified : Instant) (content : Bytes) (a : Analysis) : World × Ended :=
  let data := document s path a (facts s (Path.join [s.plan.input, path]))
  match write w.tree (Path.join [s.plan.output, outputName s path]) data with
  | .error f => (w, .failed f)
  | .ok tree =>
    let info : ProcessedFile :=
      { path, output := outputName s path, language := a.language, encoding := a.encoding, size := content.length,
        modified, cache := (if s.plan.cache then CacheStatus.miss else .disabled).name, degraded := a.degraded }
    let noted (tree : FileTree) (info : ProcessedFile) : World × Ended :=
      let cache := if s.plan.cache then
          w.cache.update path modified (fingerprint content) (settings s) (fingerprint data)
        else w.cache
      (⟨tree, cache⟩, .processed info false)
    if s.plan.writeDocumented && !a.unsupported then
      match write tree (Path.join [s.plan.output, path]) a.documented with
      | .error f => (⟨tree, w.cache⟩, .failed f)
      | .ok tree => noted tree { info with documented := path }
    else noted tree info

def conclude (w : World) (path : String) (modified : Instant) (content : Bytes) :
    Except AnalysisError Analysis → World × Ended
  | .error e =>
    if .emptyInput ∈ e.causes then (w, .skipped .empty "File has no content")
    else if .inputTooLarge ∈ e.causes then (w, .skipped .large e.message)
    else (w, .failed (.analysis e))
  | .ok a =>
    if a.unsupported && s.plan.binaryMode = .error then (w, .failed .binary)
    else if a.unsupported && s.plan.binaryMode = .skip then (w, .skipped .binary "Binary file detected")
    else store s w path modified content a

def process (w : World) (path : String) : World × Ended :=
  match w.tree.stat (Path.join [s.plan.input, path]) with
  | .error e => (w, .failed (.stat e))
  | .ok (.file content modified) =>
    if s.analyzer.limit < content.length then
      (w, .skipped .large s!"File size {content.length} bytes > limit {s.analyzer.limit} bytes")
    else
      match recorded? s w path modified content with
      | some language => (w, .processed
          { path, output := outputName s path, language, size := content.length, modified, cache := CacheStatus.hit.name }
          true)
      | none => conclude s w path modified content (s.analyzer.analyze .live content path)
  | .ok _ => (w, .failed (.read ⟨"read", Path.join [s.plan.input, path], .isDirectory⟩))

end FileScan

end SourceSurvey
