import SourceSurvey.CommandLine.Run
import SourceSurvey.Generation.Shell
import SourceSurvey.Repository.Basic

/-!
The program. It reads the files that a command may need into a tree, runs the command on that tree and
writes back what has changed. Directories are not listed: a scan takes the paths of the files to look
at from standard input, one a line.
-/

namespace SourceSurvey

namespace Program

def keys : List String :=
  ["verbose", "logFormat", "tuiEnabled", "watch", "reportFormat", "inputPath", "outputPath", "concurrency", "onError",
    "binaryMode", "outputFormat", "writeDocumented", "cache", "cacheFormat", "ignore", "includeVendored", "gitMetadata",
    "gitSinceRef", "watchDebounce", "analyzer", "analyzer.maxInputBytes", "analyzer.defaultEncoding",
    "analyzer.classifier", "analyzer.includeDetails", "analyzer.language", "analyzer.language.topK",
    "analyzer.language.acceptanceThreshold", "analyzer.language.confidenceFloor", "analyzer.language.minLength",
    "analyzer.language.sampleLines", "analyzer.language.timeout", "analyzer.explain", "analyzer.explain.excerptLimit",
    "analyzer.explain.timeout", "generator", "generator.provider", "generator.model", "generator.apiKey",
    "generator.baseURL", "generator.maxTokens", "generator.command", "generator.requestsPerSecond", "generator.burst",
    "server", "server.addr", "server.maxCodeChars", "server.requestsPerMinute", "server.burst", "server.cacheSize",
    "server.cacheTTL", "server.readTimeout", "server.writeTimeout", "server.shutdownTimeout"]

def variableNames : List String := keys.flatMap fun k => Layers.variableOf k :: Layers.furtherVariables k

/-- A tree with one more file, and the directories above it. -/
def withFile (t : FileTree) (path : String) (content : Bytes) : FileTree :=
  match t.makeDirectory (Path.parent path) with
  | .error _ => t
  | .ok t => (t.setContent path content 0).toOption.getD t

def written (before after : FileTree) : List (String × Bytes) :=
  after.nodes.filterMap fun (p, n) =>
    match n with
    | .file content _ =>
      match before.node? p with
      | some (.file old _) => if old = content then none else some (p, content)
      | _ => some (p, content)
    | _ => none

def removed (before after : FileTree) : List String :=
  before.nodes.filterMap fun (p, n) =>
    match n with
    | .file .. => if (after.node? p).isNone then some p else none
    | _ => none

def mentioned (s : Surroundings) (arguments : List String) : List String :=
  s.configPaths ++ (".env" :: arguments ++ arguments.flatMap (·.splitOn "=")).map s.absolute

def scanned (c : Configuration) (s : Surroundings) (sources : List String) : List String :=
  let input := s.absolute c.scan.input
  let output := s.absolute c.scan.output
  let results := sources.flatMap fun p =>
    match Path.relative? input (s.absolute p) with
    | none => []
    | some r => [r, r ++ ".json", r ++ ".yaml"].map fun q => Path.join [output, q]
  sources.map s.absolute ++ results ++ [Path.join [output, CacheManager.fileName]]

def readInto (t : FileTree) (paths : List String) : IO FileTree :=
  paths.foldlM (fun t (p : String) => do
    try
      let content ← IO.FS.readBinFile p
      return withFile t p content.toList
    catch _ => return t) t

def writeBack (before after : FileTree) : IO Unit := do
  for p in removed before after do
    IO.FS.removeFile p
  for (p, content) in written before after do
    IO.FS.createDirAll (Path.parent p)
    IO.FS.writeBinFile p ⟨content.toArray⟩

partial def drain (stream : IO.FS.Stream) (seen : ByteArray) : IO ByteArray := do
  let chunk ← stream.read 65536
  if chunk.isEmpty then return seen else drain stream (seen ++ chunk)

def readAll : IO Bytes := do return (← drain (← IO.getStdin) .empty).toList

def readPaths : IO (List String) := do
  return ((Utf8.toString (← readAll)).splitOn "\n").filter (· ≠ "")

def surroundings (arguments : List String) : IO Surroundings := do
  let here := (← IO.getEnv "PWD").getD "/"
  let home := (← IO.getEnv "HOME").getD here
  let environment ← variableNames.filterMapM fun name => do return (← IO.getEnv name).map fun v => (name, v)
  let s : Surroundings := ⟨{}, here, home, environment⟩
  let base := (s.tree.makeDirectory here).toOption.getD {}
  return { s with tree := ← readInto base (mentioned s arguments) }

def supply (s : Surroundings) (arguments : List String) : IO (Surroundings × Bytes) := do
  match Command.find arguments with
  | .ok (.analyze, rest) =>
    match Flag.parse Command.analyze.flags rest with
    | .ok flags => return (s, ← if flags.arguments.isEmpty then readAll else pure [])
    | .error _ => return (s, [])
  | .ok (.scan, rest) =>
    match Flag.parse Command.scan.flags rest with
    | .error _ => return (s, [])
    | .ok flags =>
      match Configuration.gather s flags "" with
      | .error _ => return (s, [])
      | .ok c =>
        return ({ s with tree := ← readInto s.tree (scanned c s (← readPaths)) }, [])
  | _ => return (s, [])

/-- No chat service is reached from here. -/
def offline : Web := fun call _ =>
  .error (if call.context.isLive then .unreachable "no connection" else .ended .cancelled)

def run (arguments : List String) : IO UInt32 := do
  let (s, input) ← supply (← surroundings arguments) arguments
  let r := CommandLine.run {
    s with input, reach := ⟨.ofLauncher Shell.launch, offline⟩, git := Repository.toClient none } arguments
  writeBack s.tree r.tree
  let stdout ← IO.getStdout
  stdout.write ⟨r.output.toArray⟩
  stdout.flush
  IO.eprint r.log
  match r.error, r.continuation with
  | none, none => return 0
  | some _, _ => return 1
  | none, some (.serve _) =>
    IO.eprintln "Error: no socket to listen on"
    return 1
  | none, some (.watch _) =>
    IO.eprintln "Error: no events to watch for"
    return 1

end Program

end SourceSurvey

def main (arguments : List String) : IO UInt32 := SourceSurvey.Program.run arguments
