import SourceSurvey.Configuration.Flags
import SourceSurvey.Scan.Report
import SourceSurvey.Text.Letter

namespace SourceSurvey

inductive Command
  | root
  | analyze
  | scan
  | serve
  | languages
  | version
  | help
  | completion
  deriving Repr, DecidableEq

namespace Command

def program : String := "codelens"

def name : Command → String
  | root => program
  | analyze => "analyze"
  | scan => "scan"
  | serve => "serve"
  | languages => "languages"
  | version => "version"
  | help => "help"
  | completion => "completion"

def path (c : Command) : String := if c = root then program else program ++ " " ++ c.name

def all : List Command := [analyze, scan, serve, languages, version, help, completion]

def summary : Command → String
  | root => "Structural analysis of source code in many languages."
  | analyze => "Analyze one source file, or standard input"
  | scan => "Analyze every source file under a directory"
  | serve => "Serve the analysis over HTTP"
  | languages => "List the supported languages and their file extensions"
  | version => "Print the version"
  | help => "Help about any command"
  | completion => "Generate the autocompletion script for the specified shell"

def description : Command → List String
  | root => [
    "codelens identifies the language of a piece of source code, measures its",
    "structure (lines, comments, imports, functions, classes, loops, conditionals),",
    "annotates it with purpose comments and explains it in plain language.",
    "",
    "It runs on a single input (analyze), over a whole source tree with caching,",
    "git filtering and watch mode (scan), or as an HTTP service (serve)."]
  | analyze => [
    "Analyze identifies the language of the input, extracts its structure,",
    "annotates it and explains it. The result is written to standard output.",
    "",
    "Without a file argument the code is read from standard input; --filename then",
    "supplies the name used as a language hint."]
  | scan => [
    "Scan walks the input tree in parallel and writes one result file per",
    "recognized source file into the output tree, mirroring its layout.",
    "",
    "Results are cached by content so unchanged files are not analyzed again.",
    "Git integration restricts the scan to changed files and records the last",
    "commit of each file. With --watch the scan re-runs whenever files change."]
  | serve => [
    "Serve exposes the analysis at POST /api/analyze (and /analyze), with a",
    "health check at GET /api/health and Prometheus metrics at GET /metrics.",
    "It shuts down gracefully on SIGINT or SIGTERM."]
  | help => [
    "Help provides help for any command in the application.",
    "Simply type codelens help [path to command] for full details."]
  | completion => [
    "Generate the autocompletion script for codelens for the specified shell.",
    "See each sub-command's help for details on how to use the generated script."]
  | c => [c.summary]

def operands : Command → String
  | analyze => " [file]"
  | scan => " -i <inputDir> -o <outputDir>"
  | help => " [command]"
  | _ => ""

def isRunnable : Command → Bool
  | root | completion => false
  | _ => true

def subcommands : Command → List (String × String)
  | root => [("analyze", analyze.summary), ("completion", completion.summary), ("help", help.summary),
    ("languages", languages.summary), ("scan", scan.summary), ("serve", serve.summary), ("version", version.summary)]
  | completion => ["bash", "fish", "powershell", "zsh"].map fun s => (s, "Generate the autocompletion script for " ++ s)
  | _ => []

def helpFlag (c : Command) : Flag := ⟨"help", .toggle, "help for " ++ c.name, some 'h', ""⟩

def versionFlag : Flag := ⟨"version", .toggle, "version for " ++ program, none, ""⟩

def localFlags : Command → List Flag
  | analyze => [
    ⟨"format", .text, "Result format (\"json\", \"yaml\")", none, "json"⟩,
    ⟨"filename", .text, "File name used as a language hint (default: the file argument's name)", none, ""⟩] ++
    Flags.analyzer
  | scan => Flags.scan ++ Flags.analyzer
  | serve => Flags.server ++ Flags.analyzer
  | _ => []

def knownFlags (c : Command) : List Flag := c.localFlags ++ Flags.everywhere

def flags (c : Command) : List Flag :=
  c.knownFlags ++ [c.helpFlag] ++ (if c = root then [versionFlag] else [])

/-- Whether an argument is a flag whose value is the next argument. A flag that is not known counts as
one. -/
def takesNext (flags : List Flag) (a : String) : Bool :=
  let takes (f? : Option Flag) : Bool := (f?.map fun f => decide (f.kind ≠ .toggle)).getD true
  if a.contains '=' then false
  else if a.startsWith "--" then takes (flags.find? fun f => f.name = (a.drop 2).toString)
  else
    match a.toList with
    | ['-', c] => takes (flags.find? fun f => f.short = some c)
    | _ => false

/-- The arguments that are neither flags nor their values. A flag that would take the last argument
ends the search. -/
def operandsOf (flags : List Flag) : List String → List String
  | [] => []
  | a :: rest =>
    if a = "--" then []
    else if takesNext flags a then
      match rest with
      | _ :: b :: more => operandsOf flags (b :: more)
      | _ => []
    else if a ≠ "" && !a.startsWith "-" then a :: operandsOf flags rest
    else operandsOf flags rest

def without (flags : List Flag) (word : String) : List String → List String
  | [] => []
  | a :: rest =>
    if a = "--" then a :: rest
    else if takesNext flags a then
      match rest with
      | [] => [a]
      | b :: more => a :: b :: without flags word more
    else if a = word then rest
    else a :: without flags word rest

/-- How many letters must be changed, put in or left out to make one word another. -/
def distance (s t : List Char) : Nat :=
  let step (row : List Nat) (c : Char) : List Nat :=
    let start := row.headD 0 + 1
    let (cells, _) := (t.zip (row.zip row.tail)).foldl (fun (acc : List Nat × Nat) (d, diagonal, above) =>
      let n := if c = d then diagonal else min (min diagonal above) acc.2 + 1
      (acc.1 ++ [n], n)) ([start], start)
    cells
  (s.foldl step (List.range (t.length + 1))).getLastD 0

def suggestions (word : String) : List String :=
  let lower (s : String) := Utf8.toString (Bytes.lower (utf8 s))
  (all.filter (· ≠ help)).map name |>.filter fun n =>
    distance (lower word).toList n.toList ≤ 2 || n.startsWith (lower word)

structure UnknownCommand where
  word : String
  parent : String
  suggestions : List String := []
  deriving Repr, DecidableEq

def UnknownCommand.message (u : UnknownCommand) : String :=
  "unknown command " ++ quoted u.word ++ " for " ++ quoted u.parent ++
    (if u.suggestions.isEmpty then ""
     else "\n\nDid you mean this?\n" ++ String.join (u.suggestions.map fun s => "\t" ++ s ++ "\n"))

def find (arguments : List String) : Except UnknownCommand (Command × List String) :=
  match operandsOf root.knownFlags arguments with
  | [] => .ok (root, arguments)
  | word :: _ =>
    match all.find? (·.name = word) with
    | some c => .ok (c, without root.knownFlags word arguments)
    | none => .error ⟨word, root.path, suggestions word⟩

def section_ (title : String) (lines : List String) : List String :=
  if lines.isEmpty then [] else "" :: title :: lines

def usage (c : Command) (own : List Flag) : String :=
  let list := c.subcommands
  let lines :=
    ["Usage:"] ++
    (if c.isRunnable then ["  " ++ c.path ++ c.operands ++ " [flags]"] else []) ++
    (if list.isEmpty then [] else ["  " ++ c.path ++ " [command]"]) ++
    section_ "Available Commands:" (list.map fun (n, s) => "  " ++ Report.padRight 11 n ++ " " ++ s) ++
    section_ "Flags:" (Flag.usages own) ++
    section_ "Global Flags:" (if c = root then [] else Flag.usages Flags.everywhere) ++
    (if list.isEmpty then []
     else ["", "Use \"" ++ c.path ++ " [command] --help\" for more information about a command."])
  String.join (lines.map (· ++ "\n"))

def ownFlags (c : Command) : List Flag := if c = root then c.flags else c.localFlags ++ [c.helpFlag]

def helpText (c : Command) : String :=
  String.join (c.description.map (· ++ "\n")) ++ "\n" ++ c.usage c.ownFlags

end Command

end SourceSurvey
