import SourceSurvey.Configuration.Number
import SourceSurvey.Duration

namespace SourceSurvey

inductive FlagKind
  | text
  | toggle
  | number
  | texts
  | duration
  deriving Repr, DecidableEq

def FlagKind.name : FlagKind → String
  | text => "string"
  | toggle => ""
  | number => "int"
  | texts => "stringArray"
  | duration => "duration"

inductive FlagValue
  | text (s : String)
  | toggle (b : Bool)
  | number (n : Int)
  | texts (items : List String)
  | duration (d : Int)
  deriving Repr, DecidableEq

def FlagValue.items : FlagValue → List String
  | texts xs => xs
  | _ => []

structure Flag where
  name : String
  kind : FlagKind
  usage : String
  short : Option Char := none
  default : String := ""
  deriving Repr, DecidableEq

inductive FlagError
  | unknown (name : String)
  | unknownShort (c : Char) (shorts : String)
  | needsValue (name : String)
  | needsValueShort (c : Char) (shorts : String)
  | invalid (value : String) (flag : Flag) (cause : String)
  | badSyntax (argument : String)
  | help
  deriving Repr, DecidableEq

def FlagError.message : FlagError → String
  | unknown n => "unknown flag: --" ++ n
  | unknownShort c s => "unknown shorthand flag: '" ++ String.singleton c ++ "' in -" ++ s
  | needsValue n => "flag needs an argument: --" ++ n
  | needsValueShort c s => "flag needs an argument: '" ++ String.singleton c ++ "' in -" ++ s
  | invalid v f cause =>
    let shown := match f.short with
      | some c => "-" ++ String.singleton c ++ ", --" ++ f.name
      | none => "--" ++ f.name
    "invalid argument " ++ quoted v ++ " for " ++ quoted shown ++ " flag: " ++ cause
  | badSyntax s => "bad flag syntax: " ++ s
  | help => "pflag: help requested"

structure FlagSettings where
  given : List (String × FlagValue) := []
  arguments : List String := []
  deriving Repr, DecidableEq

namespace FlagSettings

variable (s : FlagSettings)

def isGiven (name : String) : Bool := s.given.any (·.1 = name)

def value? (name : String) : Option FlagValue :=
  let all : List FlagValue := s.given.filterMap fun (n, v) => if n = name then some v else none
  match all.getLast? with
  | some (.texts _) => some (.texts (all.map FlagValue.items).flatten)
  | v => v

def text (name default : String) : String :=
  match s.value? name with
  | some (.text t) => t
  | _ => default

def toggle (name : String) : Bool := s.value? name = some (.toggle true)

end FlagSettings

namespace Flag

def read (f : Flag) (value : String) : Except FlagError FlagValue :=
  let orElse {ε α : Type} (message : ε → String) (r : Except ε α) (make : α → FlagValue) : Except FlagError FlagValue :=
    match r with
    | .ok a => .ok (make a)
    | .error e => .error (.invalid value f (message e))
  match f.kind with
  | .text => .ok (.text value)
  | .texts => .ok (.texts [value])
  | .toggle => orElse NumberFault.message (Number.parseBool value) .toggle
  | .number => orElse NumberFault.message (Number.parseInt value) .number
  | .duration => orElse Duration.Fault.message (Duration.parse value) .duration

/-- Reads a long flag, given without its dashes, and takes its value from the arguments that follow
if need be. -/
def readLong (flags : List Flag) (argument : String) (rest : List String) :
    Except FlagError ((String × FlagValue) × List String) :=
  let body := (argument.drop 2).toString
  let name := ((body.splitOn "=").headD "")
  if body.isEmpty || body.startsWith "-" || body.startsWith "=" then .error (.badSyntax argument)
  else
    match flags.find? (·.name = name) with
    | none => .error (if name = "help" then .help else .unknown name)
    | some f =>
      let value : Except FlagError (String × List String) :=
        if body.contains '=' then .ok ((body.drop (name.length + 1)).toString, rest)
        else if f.kind = .toggle then .ok ("true", rest)
        else
          match rest with
          | [] => .error (.needsValue name)
          | v :: rest => .ok (v, rest)
      match value with
      | .error e => .error e
      | .ok (v, rest) =>
        match f.read v with
        | .error e => .error e
        | .ok v => .ok ((name, v), rest)

def readShorts (flags : List Flag) : (shorts : List Char) → (rest : List String) → (done : List (String × FlagValue)) →
    Except FlagError (List (String × FlagValue) × List String)
  | [], rest, done => .ok (done, rest)
  | c :: s, rest, done =>
    let shown := String.ofList (c :: s)
    match flags.find? (·.short = some c) with
    | none => .error (if c = 'h' then .help else .unknownShort c shown)
    | some f =>
      let keep (value : String) (more : List Char) (rest : List String) (_h : more.length ≤ s.length) :=
        match f.read value with
        | .error e => .error e
        | .ok v => readShorts flags more rest (done ++ [(f.name, v)])
      if s.head? = some '=' && 1 < s.length then keep (String.ofList (s.drop 1)) [] rest (Nat.zero_le _)
      else if f.kind = .toggle then keep "true" s rest (Nat.le_refl _)
      else if !s.isEmpty then keep (String.ofList s) [] rest (Nat.zero_le _)
      else
        match rest with
        | [] => .error (.needsValueShort c shown)
        | v :: rest => keep v [] rest (Nat.zero_le _)
termination_by shorts => shorts.length
decreasing_by simp; omega

def readAll (flags : List Flag) : (fuel : Nat) → List String → FlagSettings → Except FlagError FlagSettings
  | _, [], s => .ok s
  | 0, _, s => .ok s
  | fuel + 1, a :: rest, s =>
    if a = "--" then .ok { s with arguments := s.arguments ++ rest }
    else if a.startsWith "--" then
      match readLong flags a rest with
      | .error e => .error e
      | .ok (g, rest) => readAll flags fuel rest { s with given := s.given ++ [g] }
    else if a.startsWith "-" && a ≠ "-" then
      match readShorts flags (a.toList.drop 1) rest [] with
      | .error e => .error e
      | .ok (gs, rest) => readAll flags fuel rest { s with given := s.given ++ gs }
    else readAll flags fuel rest { s with arguments := s.arguments ++ [a] }

def parse (flags : List Flag) (arguments : List String) : Except FlagError FlagSettings :=
  readAll flags arguments.length arguments {}

def lead (f : Flag) : String :=
  (match f.short with
    | some c => "  -" ++ String.singleton c ++ ", --"
    | none => "      --") ++
    f.name ++ (if f.kind.name = "" then "" else " " ++ f.kind.name)

def usages (flags : List Flag) : List String :=
  let sorted := flags.mergeSort fun a b => a.name ≤ b.name
  let width := (sorted.map fun f => (lead f).length).foldl max 0
  sorted.map fun f =>
    let default := if f.default = "" then "" else
      " (default " ++ (if f.kind = .text then quoted f.default else f.default) ++ ")"
    lead f ++ "".pushn ' ' (width - (lead f).length) ++ "   " ++ f.usage ++ default

end Flag

namespace Flags

def everywhere : List Flag := [
  ⟨"config", .text, "Configuration file path (default: search ., $HOME/.config/codelens, $HOME/.codelens)", none, ""⟩,
  ⟨"profile", .text, "Name of the configuration profile to apply", none, ""⟩,
  ⟨"env-file", .text, "Environment file loaded before reading the environment", none, ".env"⟩,
  ⟨"verbose", .toggle, "Enable debug logging (disables the TUI)", some 'v', ""⟩,
  ⟨"log-format", .text, "Log format (\"text\", \"json\")", none, "text"⟩]

def analyzer : List Flag := [
  ⟨"classifier", .text, "Language classifier (\"enry\", \"heuristic\")", none, "enry"⟩,
  ⟨"details", .toggle, "Include the declaration inventory in results", none, ""⟩,
  ⟨"max-input-bytes", .number, "Largest input analyzed, in bytes", none, "1000000"⟩,
  ⟨"default-encoding", .text, "Encoding assumed when detection is uncertain (e.g. windows-1252)", none, ""⟩,
  ⟨"generator", .text, "Explanation generator (\"none\", \"openai\", \"gemini\", \"exec\")", none, "none"⟩,
  ⟨"model", .text, "Model name for the openai and gemini generators", none, ""⟩,
  ⟨"generator-url", .text, "Base URL of an OpenAI-compatible endpoint", none, ""⟩,
  ⟨"generator-cmd", .texts, "Command of the exec generator, one argument per use", none, ""⟩]

def scan : List Flag := [
  ⟨"input", .text, "Source directory to scan", some 'i', ""⟩,
  ⟨"output", .text, "Directory receiving one result file per source file", some 'o', ""⟩,
  ⟨"output-format", .text, "Result file format (\"json\", \"yaml\")", none, "json"⟩,
  ⟨"report-format", .text, "Final report format (\"text\", \"json\")", none, "text"⟩,
  ⟨"binary-mode", .text, "Binary file handling (\"skip\", \"notice\", \"error\")", none, "skip"⟩,
  ⟨"onError", .text, "Behavior after a file fails (\"continue\", \"stop\")", none, "continue"⟩,
  ⟨"concurrency", .number, "Parallel workers (0 uses the CPU count)", none, ""⟩,
  ⟨"ignore", .texts, "Doublestar pattern to ignore, repeatable", none, ""⟩,
  ⟨"include-vendored", .toggle, "Also scan vendored and dependency directories", none, ""⟩,
  ⟨"write-documented", .toggle, "Also write the annotated copy of every source file", none, ""⟩,
  ⟨"cache-format", .text, "Cache file encoding (\"gob\", \"json\")", none, ""⟩,
  ⟨"no-tui", .toggle, "Disable the terminal UI even on a terminal", none, ""⟩,
  ⟨"no-cache", .toggle, "Ignore cached results (the cache is still written)", none, ""⟩,
  ⟨"clear-cache", .toggle, "Delete the cache file before scanning", none, ""⟩,
  ⟨"git-metadata", .toggle, "Record the last commit of every file", none, ""⟩,
  ⟨"git-diff-only", .toggle, "Scan only files changed in the working tree against HEAD", none, ""⟩,
  ⟨"git-since", .text, "Scan only files changed since the given commit, tag or branch", none, ""⟩,
  ⟨"watch", .toggle, "Re-run the scan when files change", none, ""⟩,
  ⟨"watch-debounce", .duration, "Quiet period before a watch re-run", none, "300ms"⟩]

def server : List Flag := [
  ⟨"addr", .text, "Listen address", none, ":5000"⟩,
  ⟨"max-code-chars", .number, "Largest accepted code field, in characters", none, "1000000"⟩]

def keys : List (String × String) := [
  ("verbose", "verbose"), ("log-format", "logFormat"), ("input", "inputPath"), ("output", "outputPath"),
  ("output-format", "outputFormat"), ("report-format", "reportFormat"), ("binary-mode", "binaryMode"),
  ("onError", "onError"), ("concurrency", "concurrency"), ("ignore", "ignore"), ("include-vendored", "includeVendored"),
  ("write-documented", "writeDocumented"), ("cache-format", "cacheFormat"), ("git-metadata", "gitMetadata"),
  ("git-since", "gitSinceRef"), ("watch", "watch"), ("watch-debounce", "watchDebounce"),
  ("classifier", "analyzer.classifier"), ("details", "analyzer.includeDetails"),
  ("max-input-bytes", "analyzer.maxInputBytes"), ("default-encoding", "analyzer.defaultEncoding"),
  ("generator", "generator.provider"), ("model", "generator.model"), ("generator-url", "generator.baseURL"),
  ("generator-cmd", "generator.command"), ("addr", "server.addr"), ("max-code-chars", "server.maxCodeChars")]

end Flags

end SourceSurvey
