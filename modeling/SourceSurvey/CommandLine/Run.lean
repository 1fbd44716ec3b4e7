import SourceSurvey.CommandLine.Command
import SourceSurvey.Configuration.Load
import SourceSurvey.Console.Log
import SourceSurvey.Profile.Registry
import SourceSurvey.Service.Server

namespace SourceSurvey

inductive CommandLineError
  | unknown (u : Command.UnknownCommand)
  | flag (e : FlagError)
  | surplus (word : String) (c : Command)
  | tooMany (most given : Nat)
  | format (name : String)
  | configuration (e : ConfigurationError)
  | input (e : FileError)
  | generator (e : GeneratorSetupError)
  | analyzer (e : AnalyzerError)
  | analysis (e : AnalysisError)
  | engine (e : EngineError)
  | run (e : RunError)
  | server (e : ServiceSettingsError)
  deriving Repr, DecidableEq

def CommandLineError.message : CommandLineError → String
  | unknown u => u.message
  | flag e => e.message
  | surplus word c => (Command.UnknownCommand.mk word c.path []).message
  | tooMany most given => s!"accepts at most {most} arg(s), received {given}"
  | format name => invalidOptions ++ "invalid value '" ++ name ++ "' for --format. Must be 'json' or 'yaml'"
  | configuration e => e.message
  | input e => "failed to read input: " ++ e.message
  | generator e => invalidOptions ++ e.message
  | analyzer e => e.message
  | analysis e => e.message
  | engine e => e.message
  | run e => e.message
  | server e => e.message

structure CommandSetting extends Surroundings where
  input : Bytes := []
  reach : Provider.Reach
  git : FileTree → GitClient
  version : String := "dev"
  commit : String := "none"
  built : String := "unknown"

inductive Continuation
  | serve (s : Server)
  | watch (c : Configuration)

structure CommandResult where
  output : Bytes := []
  log : String := ""
  error : Option CommandLineError := none
  tree : FileTree
  continuation : Option Continuation := none

namespace CommandLine

variable (s : CommandSetting)

def printed (text : String) : CommandResult := { output := utf8 text, tree := s.tree }

def failed (e : CommandLineError) : CommandResult := { error := some e, tree := s.tree }

def versionText : String :=
  "codelens version " ++ s.version ++ " (commit: " ++ s.commit ++ ", built: " ++ s.built ++ ")\n"

def languagesText : String :=
  String.join (Registry.profiles.map fun p => Report.padRight 12 p.id ++ " " ++ " ".intercalate p.extensions ++ "\n")

def logged (c : Configuration) (records : List LogRecord) : String :=
  let wanted := records.filter fun r => c.verbose || LogLevel.info.rank ≤ r.level.rank
  String.join (wanted.map fun r => if c.logFormat = "json" then r.jsonLine else r.line)

def loadRecord (e : ConfigurationError) : LogRecord :=
  match e with
  | .envFile .. => ⟨.error, "Error loading environment file", [("error", .ofString e.message)]⟩
  | .configFile path cause =>
    ⟨.error, "Error reading configuration file", [("path", .ofString path), ("error", .ofString cause)]⟩
  | .unusable key => ⟨.error, "Error unmarshalling configuration", [("error", .ofString key)]⟩
  | _ => ⟨.error, e.message, []⟩

def loadedRecord (c : Configuration) : LogRecord :=
  ⟨.debug, "Configuration loaded", [("configFile", .ofString c.scan.configFile), ("profile", .ofString c.scan.profile),
    ("verbose", .bool c.verbose), ("generator", .ofString c.generator.provider)]⟩

def checkedRecord (c : Configuration) : LogRecord :=
  ⟨.debug, "Scan settings validated", [("input", .ofString c.scan.input), ("output", .ofString c.scan.output),
    ("gitDiffMode", .ofString c.scan.gitDiffMode), ("tuiEnabledEffective", .bool c.interactive)]⟩

def withConfiguration (flags : FlagSettings) (go : Configuration → CommandResult) : CommandResult :=
  match Configuration.gather s.toSurroundings flags s.version with
  | .error e => { failed s (.configuration e) with log := (loadRecord e).line }
  | .ok c =>
    match c.check with
    | .error e => { failed s (.configuration e) with log := logged c [loadRecord e] }
    | .ok _ =>
      let r := go c
      { r with log := logged c [loadedRecord c] ++ r.log }

def analyzerOptions (c : Configuration) : Except CommandLineError AnalyzerOptions :=
  match Provider.ofSettings c.generator true with
  | .error e => .error (.generator e)
  | .ok p =>
    let o := c.scan.analyzer
    let patience := if 0 < o.explain.timeout then o.explain.timeout else 15 * Duration.second
    if p.backend = .unavailable then .ok o
    else .ok { o with generator := some ⟨p.label, p.toGenerator s.reach (some patience)⟩ }

def analyzerOf (c : Configuration) : Except CommandLineError Analyzer :=
  match analyzerOptions s c with
  | .error e => .error e
  | .ok o =>
    match Analyzer.ofOptions o with
    | .error e => .error (.analyzer e)
    | .ok a => .ok a

def code (flags : FlagSettings) : Except CommandLineError (Bytes × String) :=
  let name := flags.text "filename" ""
  match flags.arguments with
  | [] => .ok (s.input, name)
  | file :: _ =>
    match s.contentAt file with
    | .error e => .error (.input e)
    | .ok content => .ok (content, if name = "" then Path.base file else name)

def analyze (flags : FlagSettings) : CommandResult :=
  let name := flags.text "format" "json"
  match ScanOptions.formats.lookup name with
  | none => failed s (.format name)
  | some format =>
    withConfiguration s flags fun c =>
      let result : Except CommandLineError Bytes := do
        let (content, filename) ← code s flags
        let a ← analyzerOf s c
        match a.analyze .live content filename with
        | .error e => throw (.analysis e)
        | .ok r => return format.encode r.fields
      match result with
      | .error e => failed s e
      | .ok output => { output, tree := s.tree }

def reportText (r : Report) (format : String) : Bytes :=
  if format = "json" then Json.render .indented r.toDatum ++ utf8 "\n" else utf8 r.text

def scanLog (c : Configuration) (f : Engine.Finished) : String :=
  let console : Console := ⟨false, c.verbose⟩
  let reaction : ScanEvent → Reaction
    | .discovered path => console.onDiscovered path
    | .status path status message => console.onStatus ⟨path, status.name, message, 0⟩
    | .complete => console.onComplete f.report
  logged c (f.events.filterMap fun e =>
    match reaction e with
    | .record r => some r
    | _ => none)

def runScan (c : Configuration) (t : FileTree) : CommandResult :=
  match analyzerOptions s c with
  | .error e => { failed s e with tree := t }
  | .ok analyzer =>
    let asksGit := c.scan.gitMetadata || c.scan.gitDiffMode ≠ DiffMode.none.name
    let options := { c.scan with analyzer, git := if asksGit then some (s.git t) else none }
    match Engine.ofOptions options .live s.here t with
    | (tree, .error e) => { error := some (.engine e), tree }
    | (_, .ok engine) =>
      let f := engine.run
      { output := reportText f.report c.reportFormat
        log := scanLog c f
        error := f.error.map .run
        tree := f.tree }

def scan (flags : FlagSettings) : CommandResult :=
  withConfiguration s flags fun c =>
    match c.forScan s.toSurroundings flags with
    | .error e => { failed s (.configuration e) with log := logged c [⟨.error, e.message, []⟩] }
    | .ok (c, t) =>
      let r : CommandResult :=
        if c.watch then { tree := t, continuation := some (.watch c) } else runScan s c t
      { r with log := logged c [checkedRecord c] ++ r.log }

def serve (flags : FlagSettings) : CommandResult :=
  withConfiguration s flags fun c =>
    match analyzerOf s c with
    | .error e => failed s e
    | .ok a =>
      match Server.ofSettings (some a) c.server with
      | .error e => failed s (.server e)
      | .ok server => { tree := s.tree, continuation := some (.serve server) }

def help (words : List String) : CommandResult :=
  match Command.find words with
  | .ok (c, _) => printed s c.helpText
  | .error _ =>
    let topics := " ".intercalate (words.map fun w => "`" ++ w ++ "`")
    printed s ("Unknown help topic [" ++ topics ++ "]\n" ++ Command.root.usage Flags.everywhere)

def checkArguments (c : Command) (arguments : List String) : Except CommandLineError Unit :=
  match c, arguments with
  | .help, _ | _, [] => .ok ()
  | .analyze, _ => if 1 < arguments.length then .error (.tooMany 1 arguments.length) else .ok ()
  | _, word :: _ => .error (.surplus word c)

def perform (c : Command) (flags : FlagSettings) : CommandResult :=
  match c with
  | .root | .completion => printed s c.helpText
  | .analyze => analyze s flags
  | .scan => scan s flags
  | .serve => serve s flags
  | .languages => printed s languagesText
  | .version => printed s (versionText s)
  | .help => help s flags.arguments

def runCommand (c : Command) (arguments : List String) : CommandResult :=
  match Flag.parse c.flags arguments with
  | .error e => failed s (.flag e)
  | .ok flags =>
    if flags.toggle "help" then printed s c.helpText
    else if c = .root && flags.toggle "version" then printed s (versionText s)
    else if !c.isRunnable then printed s c.helpText
    else
      match checkArguments c flags.arguments with
      | .error e => failed s e
      | .ok _ => perform s c flags

def run (arguments : List String) : CommandResult :=
  match Command.find arguments with
  | .error u =>
    { failed s (.unknown u) with
      log := "Error: " ++ u.message ++ "\nRun '" ++ Command.program ++ " --help' for usage.\n" }
  | .ok (c, rest) =>
    let r := runCommand s c rest
    match r.error with
    | none => r
    | some e => { r with log := r.log ++ "Error: " ++ e.message ++ "\n" }

end CommandLine

end SourceSurvey
