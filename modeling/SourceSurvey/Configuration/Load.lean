import SourceSurvey.Configuration.Basic
import SourceSurvey.Configuration.EnvFile
import SourceSurvey.Datum.Json
import SourceSurvey.Datum.Yaml.Parser

namespace SourceSurvey

structure Surroundings where
  tree : FileTree
  here : String
  home : String
  environment : Environment := []

namespace Surroundings

variable (s : Surroundings)

def absolute (path : String) : String := if Path.isAbsolute path then Path.clean path else Path.join [s.here, path]

def contentAt (path : String) : Except FileError Bytes :=
  match s.tree.contentAt (s.absolute path) with
  | .ok content => .ok content
  | .error e => .error { e with path }

/-- The environment once the file of variables is read. The default file may be missing; variables
that are set already stay as they are. -/
def withEnvFile (flags : FlagSettings) : Except ConfigurationError Environment :=
  let path := flags.text "env-file" ".env"
  if path = "" then .ok s.environment
  else
    match s.contentAt path with
    | .error e =>
      if e.cause = .notFound && !flags.isGiven "env-file" then .ok s.environment
      else .error (.envFile path e.message)
    | .ok content =>
      match EnvFile.parse? content with
      | none => .error (.envFile path "not a list of variables")
      | some vars => .ok (s.environment ++ vars)

def configNames : List String :=
  "codelens" :: (["json", "toml", "yaml", "yml", "properties", "props", "prop", "hcl", "tfvars", "dotenv", "env",
    "ini"].map fun e => "codelens." ++ e)

def configPaths : List String :=
  [s.here, Path.join [s.home, ".config", "codelens"], Path.join [s.home, ".codelens"]].flatMap fun d =>
    configNames.map fun n => Path.join [d, n]

def searchConfig? : Option String := s.configPaths.find? fun p => (s.tree.look true p) matches .ok (.file ..)

def readConfig (shown path : String) (parse? : Bytes → Option Datum) : Except ConfigurationError Datum :=
  match s.contentAt path with
  | .error e => .error (.configFile shown e.message)
  | .ok content =>
    match parse? content with
    | some (.record fields) => .ok (Layers.lowerKeys (.record fields))
    | some .null => .ok (.record [])
    | _ => .error (.configFile shown "not a configuration")

def formatOf? (path : String) : Option (Bytes → Option Datum) :=
  match Path.extension path with
  | ".yaml" | ".yml" => some Yaml.parse?
  | ".json" => some Json.parse?
  | _ => none

/-- The configuration file and its content: the one that a flag names, or the first one found. -/
def configFile (flags : FlagSettings) : Except ConfigurationError (String × Datum) :=
  match flags.text "config" "" with
  | "" =>
    match s.searchConfig? with
    | none => .ok ("", .record [])
    | some path => (s.readConfig "searched locations for codelens.yaml" path Yaml.parse?).map (path, ·)
  | path =>
    match formatOf? path with
    | none => .error (.configFile path "unsupported format")
    | some parse? => (s.readConfig path path parse?).map (path, ·)

end Surroundings

namespace Profiled

/-- The values in a record with their paths. A key with dots stands for several parts; values that are
null are left out. -/
def leaves (above : List Bytes) : Datum → List (List Bytes × Datum)
  | .null => []
  | .record fields => leavesOf above fields
  | d => [(above, d)]
where
  leavesOf (above : List Bytes) : List (Bytes × Datum) → List (List Bytes × Datum)
    | [] => []
    | (k, v) :: fields => leaves (above ++ Bytes.splitByte k 46) v ++ leavesOf above fields

def set (fields : List (Bytes × Datum)) (k : Bytes) (v : Datum) : List (Bytes × Datum) :=
  fields.filter (·.1 ≠ k) ++ [(k, v)]

def insert (v : Datum) : List Bytes → List (Bytes × Datum) → List (Bytes × Datum)
  | [], fields => fields
  | [k], fields => set fields k v
  | k :: path, fields =>
    let inner := match fields.lookup k with
      | some (.record inner) => inner
      | _ => []
    set fields k (.record (insert v path inner))

def nested (d : Datum) : List (Bytes × Datum) :=
  (leaves [] d).foldl (fun fields (path, v) => insert v path fields) []

/-- The fields of one record over those of another. A record stays where the other has a single
value. -/
def mergeFields : (above below : List (Bytes × Datum)) → List (Bytes × Datum)
  | [], below => below
  | (k, v) :: above, below => mergeFields above (set below k (mergeValue v (below.lookup k)))
where
  mergeValue : Datum → Option Datum → Datum
    | .record above, some (.record below) => .record (mergeFields above below)
    | _, some (.record below) => .record below
    | v, _ => v

/-- The configuration with a profile's values in place of its own. -/
def apply (name file : String) (d : Datum) : Except ConfigurationError Datum :=
  let shown := if file = "" then "(no config file found)" else file
  match Layers.at? d (Layers.pathOf ("profiles." ++ name)) with
  | none => .error (.profileMissing name shown)
  | some (.record fields) => .ok (.record (mergeFields (nested (.record fields)) (d.fields?.getD [])))
  | some _ => .error (.profileNotRecord name shown)

end Profiled

namespace Configuration

def gather (s : Surroundings) (flags : FlagSettings) (version : String) :
    Except ConfigurationError Configuration := do
  let environment ← s.withEnvFile flags
  let (path, file) ← s.configFile flags
  let profile := flags.text "profile" ""
  let file ← if profile = "" then pure file else Profiled.apply profile path file
  let c ← ofLayers { flags, environment, file }
  return { c with scan := { c.scan with configFile := path, profile, appVersion := version } }

def load (s : Surroundings) (flags : FlagSettings) (version : String) :
    Except ConfigurationError Configuration := do
  let c ← gather s flags version
  c.check
  return c

def diffMode (flags : FlagSettings) (ref : String) : Except ConfigurationError String :=
  let since := flags.isGiven "git-since"
  if flags.toggle "git-diff-only" then if since then .error .twoDiffs else .ok DiffMode.uncommitted.name
  else if since then if ref = "" then .error .emptyRef else .ok DiffMode.since.name
  else .ok DiffMode.none.name

def checkInput (s : Surroundings) (path : String) : Except ConfigurationError String :=
  let full := s.absolute path
  if path = "" then .error .missingInput
  else
    match s.tree.stat full with
    | .ok .directory => .ok full
    | .ok _ => .error (.notDirectory full)
    | .error e => .error (if e.cause = .notFound then .absentInput full else .unreachableInput full e)

def makeOutput (s : Surroundings) (path : String) : Except ConfigurationError (String × FileTree) :=
  let full := s.absolute path
  if path = "" then .error .missingOutput
  else
    match s.tree.makeDirectory full with
    | .error e => .error (.uncreatableOutput full e)
    | .ok t => .ok (full, t)

/-- The configuration of a scan: paths are absolute and checked, the output directory is made, and
progress is not shown where it would mix with a log. -/
def forScan (c : Configuration) (s : Surroundings) (flags : FlagSettings) :
    Except ConfigurationError (Configuration × FileTree) := do
  let input ← checkInput s c.scan.input
  let (output, tree) ← makeOutput s c.scan.output
  allow c.scan.onError "onError" ["continue", "stop"]
  allow c.scan.binaryMode "binaryMode" ["skip", "notice", "error"]
  allow c.scan.outputFormat "outputFormat" ["json", "yaml"]
  allow c.reportFormat "reportFormat" ["text", "json"]
  allow c.scan.cacheFormat "cacheFormat" ["gob", "json"]
  if c.scan.concurrency < 0 then throw (.negativeConcurrency c.scan.concurrency)
  if c.watchDebounce < 0 then throw (.negativeDebounce c.watchDebounce)
  let gitDiffMode ← diffMode flags c.scan.gitSinceRef
  return ({ c with
    scan := { c.scan with input, output, gitDiffMode }
    interactive := c.interactive && !c.verbose && !c.watch }, tree)

end Configuration

end SourceSurvey
