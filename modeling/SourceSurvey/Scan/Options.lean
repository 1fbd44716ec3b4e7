import SourceSurvey.Analysis.Document
import SourceSurvey.FileTree

namespace SourceSurvey

inductive OnError
  | carryOn
  | stop
  deriving Repr, DecidableEq

def OnError.name : OnError → String
  | carryOn => "continue"
  | stop => "stop"

inductive BinaryMode
  | skip
  | notice
  | error
  deriving Repr, DecidableEq

def BinaryMode.name : BinaryMode → String
  | skip => "skip"
  | notice => "notice"
  | error => "error"

inductive DiffMode
  | none
  | uncommitted
  | since
  deriving Repr, DecidableEq

def DiffMode.name : DiffMode → String
  | none => "none"
  | uncommitted => "diffOnly"
  | since => "since"

def DiffMode.isActive : DiffMode → Bool
  | none => false
  | _ => true

structure GitError where
  detail : String
  deriving Repr, DecidableEq

def GitError.message (e : GitError) : String := "git operation failed: " ++ e.detail

structure GitClient where
  changed : (directory mode ref : String) → Except GitError (List String)
  metadata : (directory file : String) → Except GitError (List (String × String))

/-- The options of a scan as they are given, names unchecked. -/
structure ScanOptions where
  input : String
  output : String
  appVersion : String := ""
  configFile : String := ""
  profile : String := ""
  /-- How many files are processed at once; zero stands for as many as there are processors. -/
  concurrency : Int := 0
  processors : Nat := 1
  onError : String := ""
  binaryMode : String := ""
  outputFormat : String := ""
  writeDocumented : Bool := false
  cache : Bool := false
  cacheFormat : String := ""
  ignoreCacheRead : Bool := false
  clearCache : Bool := false
  /-- Where the cache is kept, if not in the output directory. -/
  cacheFile : String := ""
  ignore : List String := []
  includeVendored : Bool := false
  gitMetadata : Bool := false
  gitDiffMode : String := ""
  gitSinceRef : String := ""
  analyzer : AnalyzerOptions := {}
  git : Option GitClient := none

inductive ScanOptionError
  | emptyInput
  | emptyOutput
  | negativeConcurrency
  | onError (s : String)
  | binaryMode (s : String)
  | outputFormat (s : String)
  | missingRef (mode : String)
  | diffMode (s : String)
  | unreachableInput (path : String) (cause : FileError)
  | notDirectory (path : String)
  | uncreatableOutput (path : String) (cause : FileError)
  | needsClient (mode : String)
  deriving Repr, DecidableEq

def ScanOptionError.message (e : ScanOptionError) : String :=
  invalidOptions ++ match e with
    | emptyInput => "input path cannot be empty"
    | emptyOutput => "output path cannot be empty"
    | negativeConcurrency => "concurrency cannot be negative"
    | onError s => "invalid onError mode " ++ quoted s
    | binaryMode s => "invalid binary mode " ++ quoted s
    | outputFormat s => "invalid output format " ++ quoted s
    | missingRef mode => "git diff mode " ++ quoted mode ++ " requires a reference"
    | diffMode s => "invalid git diff mode " ++ quoted s
    | unreachableInput p c => "cannot access input path " ++ quoted p ++ ": " ++ c.message
    | notDirectory p => "input path " ++ quoted p ++ " is not a directory"
    | uncreatableOutput p c => "cannot create output directory " ++ quoted p ++ ": " ++ c.message
    | needsClient mode => "git diff mode " ++ quoted mode ++ " requires a git client"

structure ScanPlan where
  input : String
  output : String
  appVersion : String
  configFile : String
  profile : String
  concurrency : Int
  onError : OnError
  binaryMode : BinaryMode
  format : DocumentFormat
  writeDocumented : Bool
  cache : Bool
  cacheFormat : String
  ignoreCacheRead : Bool
  clearCache : Bool
  cacheFile : String := ""
  ignore : List String
  includeVendored : Bool
  gitMetadata : Bool
  diff : DiffMode
  sinceRef : String
  git : Option GitClient

namespace ScanOptions

/-- The value that a name stands for; no name stands for the first value. -/
def choose {α : Type} (values : List (String × α)) (name : String) : Option α :=
  if name = "" then (values.head?).map (·.2) else values.lookup name

def onErrors : List (String × OnError) := [("continue", .carryOn), ("stop", .stop)]

def binaryModes : List (String × BinaryMode) := [("skip", .skip), ("notice", .notice), ("error", .error)]

def formats : List (String × DocumentFormat) := [("json", .json), ("yaml", .yaml)]

def diffOf (o : ScanOptions) : Except ScanOptionError DiffMode :=
  match o.gitDiffMode with
  | "" | "none" => .ok .none
  | "diffOnly" => .ok .uncommitted
  | "since" => if o.gitSinceRef = "" then .error (.missingRef "since") else .ok .since
  | s => .error (.diffMode s)

def absolute (here p : String) : String := if Path.isAbsolute p then Path.clean p else Path.join [here, p]

/-- Checks the options in a fixed order; relative paths are taken from a directory. -/
def check (o : ScanOptions) (here : String) : Except ScanOptionError ScanPlan := do
  if o.input = "" then throw .emptyInput
  if o.output = "" then throw .emptyOutput
  if o.concurrency < 0 then throw .negativeConcurrency
  let some onError := choose onErrors o.onError | throw (.onError o.onError)
  let some binaryMode := choose binaryModes o.binaryMode | throw (.binaryMode o.binaryMode)
  let some format := choose formats o.outputFormat | throw (.outputFormat o.outputFormat)
  let diff ← diffOf o
  return {
    input := absolute here o.input
    output := absolute here o.output
    appVersion := o.appVersion
    configFile := o.configFile
    profile := o.profile
    concurrency := if o.concurrency = 0 then o.processors else o.concurrency
    onError, binaryMode, format
    writeDocumented := o.writeDocumented
    cache := o.cache
    cacheFormat := o.cacheFormat
    ignoreCacheRead := o.ignoreCacheRead
    clearCache := o.clearCache
    cacheFile := if o.cacheFile = "" then "" else absolute here o.cacheFile
    ignore := o.ignore
    includeVendored := o.includeVendored
    gitMetadata := o.gitMetadata
    diff
    sinceRef := o.gitSinceRef
    git := o.git }

end ScanOptions

end SourceSurvey
