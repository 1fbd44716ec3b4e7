import SourceSurvey.Configuration.Conversion
import SourceSurvey.Configuration.Layers
import SourceSurvey.Generation.Provider
import SourceSurvey.Scan.Options
import SourceSurvey.Service.Basic

namespace SourceSurvey

structure Configuration where
  scan : ScanOptions
  watchDebounce : Int
  generator : GeneratorSettings
  server : ServiceSettings
  verbose : Bool
  logFormat : String
  interactive : Bool
  watch : Bool
  reportFormat : String

inductive ConfigurationError
  | envFile (path cause : String)
  | configFile (path cause : String)
  | profileMissing (name file : String)
  | profileNotRecord (name file : String)
  | unusable (key : String)
  | notAllowed (value key : String) (allowed : List String)
  | missingCommand
  | negativeLimit (n : Int)
  | negativeRate (x : Rat)
  | missingInput
  | absentInput (path : String)
  | unreachableInput (path : String) (cause : FileError)
  | notDirectory (path : String)
  | missingOutput
  | uncreatableOutput (path : String) (cause : FileError)
  | negativeConcurrency (n : Int)
  | negativeDebounce (d : Int)
  | twoDiffs
  | emptyRef
  deriving Repr, DecidableEq

namespace ConfigurationError

def isInvalid : ConfigurationError → Bool
  | envFile .. | configFile .. | profileMissing .. | profileNotRecord .. | unusable .. => false
  | _ => true

def detail : ConfigurationError → String
  | envFile path cause => "error reading env file '" ++ path ++ "': " ++ cause
  | configFile path cause => "error reading config file '" ++ path ++ "': " ++ cause
  | profileMissing name file => "profile '" ++ name ++ "' not found in config file '" ++ file ++ "'"
  | profileNotRecord name file => "profile '" ++ name ++ "' in config file '" ++ file ++ "' is not a map"
  | unusable key => "error unmarshalling configuration: unusable value for '" ++ key ++ "'"
  | notAllowed value key allowed =>
    "invalid value '" ++ value ++ "' for key '" ++ key ++ "'. Allowed: [" ++ " ".intercalate allowed ++ "]"
  | missingCommand => "generator.command is required for the exec generator (--generator-cmd)"
  | negativeLimit n => s!"invalid value '{n}' for key 'analyzer.maxInputBytes'. Must be >= 0"
  | negativeRate x => "invalid value '" ++ Number.general x ++ "' for key 'generator.requestsPerSecond'. Must be >= 0"
  | missingInput => "input path is required (-i, --input)"
  | absentInput path => "input path '" ++ path ++ "' does not exist"
  | unreachableInput path cause => "cannot access input path '" ++ path ++ "': " ++ cause.message
  | notDirectory path => "input path '" ++ path ++ "' is not a directory"
  | missingOutput => "output path is required (-o, --output)"
  | uncreatableOutput path cause =>
    "cannot create or access output directory '" ++ path ++ "': " ++ cause.message
  | negativeConcurrency n => s!"invalid value '{n}' for key 'concurrency' (flag --concurrency). Must be >= 0"
  | negativeDebounce d => "invalid negative watch debounce '" ++ Duration.render d ++ "'"
  | twoDiffs => "cannot use --git-diff-only and --git-since simultaneously"
  | emptyRef => "flag --git-since requires a non-empty reference (commit/tag/branch)"

def message (e : ConfigurationError) : String := (if e.isInvalid then invalidOptions else "") ++ e.detail

end ConfigurationError

namespace Layers

variable (l : Layers)

def read {α : Type} (convert : Datum → Option α) (empty : α) (key : String) (default : Datum) :
    Except ConfigurationError α :=
  match l.find? key default with
  | none => .ok empty
  | some v =>
    match convert v with
    | some a => .ok a
    | none => .error (.unusable key)

def text (key default : String) : Except ConfigurationError String :=
  l.read Conversion.text? "" key (.ofString default)

def int (key : String) (default : Int) : Except ConfigurationError Int :=
  l.read Conversion.int? 0 key (.ofInt default)

def bool (key : String) (default : Bool) : Except ConfigurationError Bool :=
  l.read Conversion.bool? false key (.bool default)

def fraction (key default : String) : Except ConfigurationError Rat :=
  l.read Conversion.fraction? 0 key (.number (utf8 default))

def duration (key : String) (default : Int) : Except ConfigurationError Int :=
  l.read Conversion.duration? 0 key (.ofInt default)

def texts (key : String) : Except ConfigurationError (List String) := l.read Conversion.texts? [] key (.list [])

def checkRecord (key : String) : Except ConfigurationError Unit :=
  match at? l.file (pathOf key) with
  | none | some (.record _) => .ok ()
  | some _ => .error (.unusable key)

def analyzerOptions : Except ConfigurationError AnalyzerOptions := do
  return {
    maxInputBytes := ← l.int "analyzer.maxInputBytes" 1000000
    defaultEncoding := ← l.text "analyzer.defaultEncoding" ""
    classifier := .named (← l.text "analyzer.classifier" "enry")
    includeDetails := ← l.bool "analyzer.includeDetails" false
    language := {
      topK := ← l.int "analyzer.language.topK" 3
      acceptance := ← l.fraction "analyzer.language.acceptanceThreshold" "0.2"
      floor := ← l.fraction "analyzer.language.confidenceFloor" "0.3"
      minLength := ← l.int "analyzer.language.minLength" 8
      sampleLines := ← l.int "analyzer.language.sampleLines" 200
      timeout := ← l.duration "analyzer.language.timeout" (2 * Duration.second) }
    explain := {
      excerptLimit := ← l.int "analyzer.explain.excerptLimit" 4000
      timeout := ← l.duration "analyzer.explain.timeout" (15 * Duration.second) } }

def generatorSettings : Except ConfigurationError GeneratorSettings := do
  return {
    provider := ← l.text "generator.provider" "none"
    model := ← l.text "generator.model" ""
    key := ← l.text "generator.apiKey" ""
    address := ← l.text "generator.baseURL" ""
    maxTokens := ← l.int "generator.maxTokens" 400
    command := ← l.texts "generator.command"
    requestsPerSecond := ← l.fraction "generator.requestsPerSecond" "0"
    burst := ← l.int "generator.burst" 1 }

def serviceSettings : Except ConfigurationError ServiceSettings := do
  let d := ServiceSettings.default
  return {
    address := ← l.text "server.addr" d.address
    maxCodeChars := ← l.int "server.maxCodeChars" d.maxCodeChars
    requestsPerMinute := ← l.int "server.requestsPerMinute" d.requestsPerMinute
    burst := ← l.int "server.burst" d.burst
    cacheSize := ← l.int "server.cacheSize" d.cacheSize
    cacheLife := ← l.duration "server.cacheTTL" d.cacheLife
    readTimeout := ← l.duration "server.readTimeout" d.readTimeout
    writeTimeout := ← l.duration "server.writeTimeout" d.writeTimeout
    shutdownTimeout := ← l.duration "server.shutdownTimeout" d.shutdownTimeout }

def scanOptions : Except ConfigurationError ScanOptions := do
  return {
    input := ← l.text "inputPath" ""
    output := ← l.text "outputPath" ""
    concurrency := ← l.int "concurrency" 0
    onError := ← l.text "onError" "continue"
    binaryMode := ← l.text "binaryMode" "skip"
    outputFormat := ← l.text "outputFormat" "json"
    writeDocumented := ← l.bool "writeDocumented" false
    cache := ← l.bool "cache" true
    cacheFormat := ← l.text "cacheFormat" "gob"
    ignoreCacheRead := l.flags.toggle "no-cache"
    clearCache := l.flags.toggle "clear-cache"
    ignore := ← l.texts "ignore"
    includeVendored := ← l.bool "includeVendored" false
    gitMetadata := ← l.bool "gitMetadata" false
    gitSinceRef := ← l.text "gitSinceRef" "main"
    analyzer := ← l.analyzerOptions }

end Layers

namespace Configuration

def ofLayers (l : Layers) : Except ConfigurationError Configuration := do
  for key in ["analyzer", "analyzer.language", "analyzer.explain", "generator", "server"] do
    l.checkRecord key
  let interactive ← l.bool "tuiEnabled" true
  return {
    scan := ← l.scanOptions
    watchDebounce := ← l.duration "watchDebounce" 300000000
    generator := ← l.generatorSettings
    server := ← l.serviceSettings
    verbose := ← l.bool "verbose" false
    logFormat := ← l.text "logFormat" "text"
    interactive := interactive && !l.flags.toggle "no-tui"
    watch := ← l.bool "watch" false
    reportFormat := ← l.text "reportFormat" "text" }

def allow (value key : String) (allowed : List String) : Except ConfigurationError Unit :=
  if allowed.contains value then .ok () else .error (.notAllowed value key allowed)

variable (c : Configuration)

def classifierName : String :=
  match c.scan.analyzer.classifier with
  | .named kind => kind
  | .given g => g.label

def check : Except ConfigurationError Unit := do
  allow c.logFormat "logFormat" ["text", "json"]
  allow c.classifierName "analyzer.classifier" ["enry", "heuristic"]
  allow c.generator.provider "generator.provider" ["none", "openai", "gemini", "exec"]
  if c.generator.provider = "exec" && c.generator.command.isEmpty then throw .missingCommand
  if c.scan.analyzer.maxInputBytes < 0 then throw (.negativeLimit c.scan.analyzer.maxInputBytes)
  if c.generator.requestsPerSecond < 0 then throw (.negativeRate c.generator.requestsPerSecond)

def toDatum : Datum :=
  let s := c.scan
  let a := s.analyzer
  let text := Datum.ofString
  let int := Datum.ofInt
  let span (d : Int) := Datum.ofString (Duration.render d)
  let fraction (x : Rat) := Datum.ofString (Decimal.fixed 9 x)
  let texts (xs : List String) := Datum.list (xs.map Datum.ofString)
  .ofFields [
    ("inputPath", text s.input), ("outputPath", text s.output), ("configFile", text s.configFile),
    ("profile", text s.profile), ("appVersion", text s.appVersion), ("concurrency", int s.concurrency),
    ("onError", text s.onError), ("binaryMode", text s.binaryMode), ("outputFormat", text s.outputFormat),
    ("writeDocumented", .bool s.writeDocumented), ("cache", .bool s.cache), ("cacheFormat", text s.cacheFormat),
    ("ignoreCacheRead", .bool s.ignoreCacheRead), ("clearCache", .bool s.clearCache), ("ignore", texts s.ignore),
    ("includeVendored", .bool s.includeVendored), ("gitMetadata", .bool s.gitMetadata),
    ("gitDiffMode", text s.gitDiffMode), ("gitSinceRef", text s.gitSinceRef),
    ("watchDebounce", span c.watchDebounce), ("verbose", .bool c.verbose), ("logFormat", text c.logFormat),
    ("tuiEnabled", .bool c.interactive), ("watch", .bool c.watch), ("reportFormat", text c.reportFormat),
    ("analyzer", .ofFields [
      ("maxInputBytes", int a.maxInputBytes), ("defaultEncoding", text a.defaultEncoding),
      ("classifier", text c.classifierName), ("includeDetails", .bool a.includeDetails),
      ("topK", int a.language.topK), ("acceptanceThreshold", fraction a.language.acceptance),
      ("confidenceFloor", fraction a.language.floor), ("minLength", int a.language.minLength),
      ("sampleLines", int a.language.sampleLines), ("timeout", span a.language.timeout),
      ("excerptLimit", int a.explain.excerptLimit), ("explainTimeout", span a.explain.timeout)]),
    ("generator", .ofFields [
      ("provider", text c.generator.provider), ("model", text c.generator.model), ("apiKey", text c.generator.key),
      ("baseURL", text c.generator.address), ("maxTokens", int c.generator.maxTokens),
      ("command", texts c.generator.command), ("requestsPerSecond", fraction c.generator.requestsPerSecond),
      ("burst", int c.generator.burst)]),
    ("server", .ofFields [
      ("addr", text c.server.address), ("maxCodeChars", int c.server.maxCodeChars),
      ("requestsPerMinute", int c.server.requestsPerMinute), ("burst", int c.server.burst),
      ("cacheSize", int c.server.cacheSize), ("cacheTTL", span c.server.cacheLife),
      ("readTimeout", span c.server.readTimeout), ("writeTimeout", span c.server.writeTimeout),
      ("shutdownTimeout", span c.server.shutdownTimeout)])]

end Configuration

end SourceSurvey
