import SourceSurvey.Datum.Basic
import SourceSurvey.Decimal
import SourceSurvey.Instant

namespace SourceSurvey

inductive SkipReason
  | binary
  | large
  | ignored
  | vendored
  | unchanged
  | empty
  deriving Repr, DecidableEq

def SkipReason.name : SkipReason → String
  | binary => "binary_file"
  | large => "large_file"
  | ignored => "ignored_pattern"
  | vendored => "vendored"
  | unchanged => "excluded_by_git_diff"
  | empty => "empty_file"

inductive CacheStatus
  | hit
  | miss
  | disabled
  deriving Repr, DecidableEq

def CacheStatus.name : CacheStatus → String
  | hit => "hit"
  | miss => "miss"
  | disabled => "disabled"

structure ProcessedFile where
  path : String
  output : String
  documented : String := ""
  language : String
  encoding : String := ""
  size : Int
  modified : Instant := Instant.epoch
  cache : String
  degraded : Bool := false
  duration : Option Int := none
  deriving Repr, DecidableEq

structure SkippedFile where
  path : String
  reason : String
  details : String
  deriving Repr, DecidableEq

structure FailedFile where
  path : String
  error : String
  fatal : Bool := false
  deriving Repr, DecidableEq

inductive Outcome
  | processed (f : ProcessedFile)
  | skipped (f : SkippedFile)
  | failed (f : FailedFile)
  deriving Repr, DecidableEq

namespace Outcome

def path : Outcome → String
  | processed f => f.path
  | skipped f => f.path
  | failed f => f.path

def processed? : Outcome → Option ProcessedFile
  | processed f => some f
  | _ => none

def skipped? : Outcome → Option SkippedFile
  | skipped f => some f
  | _ => none

def failed? : Outcome → Option FailedFile
  | failed f => some f
  | _ => none

end Outcome

structure ReportSummary where
  input : String := ""
  output : String := ""
  profile : String := ""
  configFile : String := ""
  total : Int := 0
  processed : Int := 0
  cached : Int := 0
  skipped : Int := 0
  failed : Int := 0
  degraded : Int := 0
  languages : List (String × Int) := []
  fatal : Bool := false
  /-- The duration in seconds, if it was measured. -/
  duration : Option Rat := none
  cacheEnabled : Bool := false
  concurrency : Int := 0
  timestamp : Option Instant := none
  schema : String := ""
  deriving Repr, DecidableEq

structure Report where
  summary : ReportSummary := {}
  processed : List ProcessedFile := []
  skipped : List SkippedFile := []
  failed : List FailedFile := []
  deriving Repr, DecidableEq

namespace Report

def schemaVersion : String := "1"

def sortBy {α : Type} (key : α → String) (xs : List α) : List α := xs.mergeSort fun a b => key a ≤ key b

def tally (names : List String) : List (String × Int) :=
  (sortBy id names.eraseDups).map fun n => (n, (names.count n : Int))

structure Frame where
  input : String
  output : String
  profile : String := ""
  configFile : String := ""
  cacheEnabled : Bool := false
  concurrency : Int := 1

/-- The report of a scan with these outcomes, in whatever order they arrived. -/
def ofOutcomes (frame : Frame) (fatal : Bool) (outcomes : List Outcome) : Report :=
  let processed := sortBy (·.path) (outcomes.filterMap Outcome.processed?)
  let skipped := sortBy (·.path) (outcomes.filterMap Outcome.skipped?)
  let failed := sortBy (·.path) (outcomes.filterMap Outcome.failed?)
  { summary :=
      { input := frame.input
        output := frame.output
        profile := frame.profile
        configFile := frame.configFile
        total := (processed.length + skipped.length + failed.length : Nat)
        processed := processed.length
        cached := processed.countP (·.cache = CacheStatus.hit.name)
        skipped := skipped.length
        failed := failed.length
        degraded := processed.countP (·.degraded)
        languages := tally (processed.map (·.language))
        fatal
        cacheEnabled := frame.cacheEnabled
        concurrency := frame.concurrency
        schema := schemaVersion }
    processed, skipped, failed }

def padRight (width : Nat) (s : String) : String := s ++ "".pushn ' ' (width - s.length)

def text (r : Report) : String :=
  let s := r.summary
  let seconds := Decimal.fixed 2 (s.duration.getD 0)
  s!"Scanned {s.total} files in {seconds}s: {s.processed} processed ({s.cached} cached), {s.skipped} skipped, {s.failed} errors\n" ++
    (if 0 < s.degraded then s!"{s.degraded} explanations fell back to the template\n" else "") ++
    String.join ((sortBy (·.1) s.languages).map fun (l, n) => "  " ++ padRight 12 l ++ s!" {n}\n") ++
    String.join (r.failed.map fun e => "error: " ++ e.path ++ ": " ++ e.error ++ "\n")

def optional (name : String) (s : String) : List (String × Datum) := if s = "" then [] else [(name, .ofString s)]

def instantDatum : Option Instant → Datum
  | some i => .ofString (Instant.render i 0)
  | none => .null

def processedDatum (f : ProcessedFile) : Datum :=
  .ofFields ([("path", .ofString f.path), ("outputPath", .ofString f.output)] ++
    optional "documentedPath" f.documented ++ [("language", .ofString f.language)] ++
    optional "encoding" f.encoding ++
    [("sizeBytes", .ofInt f.size), ("modTime", instantDatum (some f.modified)), ("cacheStatus", .ofString f.cache)] ++
    (if f.degraded then [("degraded", .bool true)] else []) ++
    [("durationMs", (f.duration.map Datum.ofInt).getD .null)])

def summaryDatum (s : ReportSummary) : Datum :=
  .ofFields ([("inputPath", .ofString s.input), ("outputPath", .ofString s.output)] ++
    optional "profileUsed" s.profile ++ optional "configFilePath" s.configFile ++
    [("totalFilesScanned", .ofInt s.total), ("processedCount", .ofInt s.processed), ("cachedCount", .ofInt s.cached),
      ("skippedCount", .ofInt s.skipped), ("errorCount", .ofInt s.failed), ("degradedCount", .ofInt s.degraded),
      ("languages", .ofFields ((sortBy (·.1) s.languages).map fun (l, n) => (l, .ofInt n))),
      ("fatalError", .bool s.fatal),
      ("durationSeconds", (s.duration.map fun d => .number (utf8 (Decimal.fixed 9 d))).getD .null),
      ("cacheEnabled", .bool s.cacheEnabled), ("concurrency", .ofInt s.concurrency),
      ("timestamp", instantDatum s.timestamp), ("schemaVersion", .ofString s.schema)])

def toDatum (r : Report) : Datum :=
  .ofFields [("summary", summaryDatum r.summary), ("processedFiles", .list (r.processed.map processedDatum)),
    ("skippedFiles", .list (r.skipped.map fun f =>
      .ofFields [("path", .ofString f.path), ("reason", .ofString f.reason), ("details", .ofString f.details)])),
    ("errors", .list (r.failed.map fun f =>
      .ofFields [("path", .ofString f.path), ("error", .ofString f.error), ("isFatal", .bool f.fatal)]))]

end Report

end SourceSurvey
