import SourceSurvey.Console.Monitor
import SourceSurvey.Scan.Engine

namespace SourceSurvey

inductive LogLevel
  | debug
  | info
  | warn
  | error
  deriving Repr, DecidableEq

namespace LogLevel

def name : LogLevel → String
  | debug => "DEBUG"
  | info => "INFO"
  | warn => "WARN"
  | error => "ERROR"

def rank : LogLevel → Nat
  | debug => 0
  | info => 1
  | warn => 2
  | error => 3

end LogLevel

structure LogRecord where
  level : LogLevel
  message : String
  attributes : List (String × Datum)

namespace LogRecord

/-- A value as a line of the log shows it: quoted if it is empty or holds anything that could be taken
for the end of the value. -/
def shown (s : String) : String :=
  let needsQuotes (c : Char) : Bool :=
    if c.toNat < 0x80 then c = ' ' || c = '=' || c = '"' || c.toNat < 0x20 || c.toNat = 0x7F
    else c = Utf8.replacement || Letter.isSpace c || !Quoted.isShown c
  if s = "" || s.any needsQuotes then quoted s else s

def valueText : Datum → String
  | .text s => shown (Utf8.toString s)
  | d => Utf8.toString (Json.render .compact d)

def line (r : LogRecord) : String :=
  "level=" ++ r.level.name ++ " msg=" ++ shown r.message ++
    String.join (r.attributes.map fun (k, v) => " " ++ k ++ "=" ++ valueText v) ++ "\n"

def jsonLine (r : LogRecord) : String :=
  Utf8.toString (Json.render .compact (.ofFields
    ([("level", .ofString r.level.name), ("msg", .ofString r.message)] ++ r.attributes))) ++ "\n"

end LogRecord

structure Console where
  interactive : Bool
  verbose : Bool

inductive Reaction
  | nothing
  | tell (m : MonitorMessage)
  | record (r : LogRecord)

namespace Console

variable (c : Console)

def record (level : LogLevel) (message : String) (attributes : List (String × Datum)) : Reaction :=
  .record ⟨level, message, ("component", .ofString "cliHooks") :: attributes⟩

def onDiscovered (path : String) : Reaction :=
  if c.interactive then .tell (.discovered path)
  else if c.verbose then record .debug "File discovered" [("path", .ofString path)]
  else .nothing

def onStatus (u : StatusUpdate) : Reaction :=
  if c.interactive then .tell (.status u)
  else if u.status = FileStatus.failed.name then
    record .error "File analysis failed" [("path", .ofString u.path), ("error", .ofString u.message)]
  else if !c.verbose || u.status = FileStatus.processing.name then .nothing
  else
    record .info "File status updated" ([("path", .ofString u.path), ("status", .ofString u.status)] ++
      (if 0 < u.duration then [("duration", .ofInt u.duration)] else []) ++
      (if u.message = "" then [] else [("message", .ofString u.message)]))

def onComplete (r : Report) : Reaction :=
  let s := r.summary
  if c.interactive then .tell (.complete r)
  else
    record .info "Scan complete" [("processed", .ofInt s.processed), ("cached", .ofInt s.cached),
      ("skipped", .ofInt s.skipped), ("errors", .ofInt s.failed), ("degraded", .ofInt s.degraded)]

end Console

end SourceSurvey
