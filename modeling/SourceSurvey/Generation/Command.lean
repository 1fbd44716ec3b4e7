import SourceSurvey.Collaborator
import SourceSurvey.Datum.JsonFault

namespace SourceSurvey

structure CommandRequest where
  prompt : Bytes
  excerpt : Bytes
  language : String := ""
  deriving Repr, DecidableEq

namespace CommandRequest

def schemaVersion : String := "1"

def toDatum (r : CommandRequest) : Datum :=
  .ofFields ([("$schemaVersion", .ofString schemaVersion), ("prompt", .text r.prompt), ("excerpt", .text r.excerpt)] ++
    if r.language = "" then [] else [("language", .ofString r.language)])

def encode (r : CommandRequest) : Bytes := Json.render .compact r.toDatum

end CommandRequest

inductive CommandFault
  | unspecific
  | ended (e : Ending)
  | timedOut
  | exited
  | badOutput
  deriving Repr, DecidableEq

def CommandFault.message : CommandFault → String
  | unspecific => ""
  | ended e => e.message
  | timedOut => "exec generator timed out"
  | exited => "exec generator exited non-zero"
  | badOutput => "exec generator returned invalid output or reported error"

inductive CommandError
  | fault (detail : String) (cause : CommandFault)
  | foreign (message : String)
  deriving Repr, DecidableEq

namespace CommandError

def lead : String := "exec generator failed"

def message : CommandError → String
  | fault detail .unspecific => lead ++ ": " ++ detail
  | fault detail cause => lead ++ ": " ++ detail ++ ": " ++ cause.message
  | foreign m => m

end CommandError

structure CommandRun where
  request : Option Ending := none
  /-- A status of -1 stands for a signal, or for streams that stayed open. -/
  status : Int := 0
  /-- Why the request could not be written. A command that does not read it is no reason. -/
  unwritten : Option String := none
  unread : Option String := none
  output : Bytes := []
  deriving Repr, DecidableEq

inductive CommandOutcome
  | unconnected (stream reason : String)
  /-- It was not started, because the request was over by then. -/
  | refused (e : Ending)
  | notStarted (reason : String)
  | ran (r : CommandRun)
  deriving Repr, DecidableEq

inductive AnswerField
  | version
  | text
  | error
  deriving Repr, DecidableEq

namespace AnswerField

def name : AnswerField → String
  | version => "$schemaVersion"
  | text => "text"
  | error => "error"

def all : List AnswerField := [version, text, error]

/-- A letter without its case. The long s and the sign for kelvins are letters of other cases as well. -/
def fold (c : Char) : Char := if c = '\u017F' then 's' else if c = '\u212A' then 'k' else c.toLower

def ofName? (name : Bytes) : Option AnswerField :=
  all.find? fun f => f.name.toList.map fold = (Utf8.chars name).map fold

end AnswerField

structure CommandAnswer where
  version : Bytes := []
  text : Bytes := []
  error : Bytes := []
  /-- What is wrong with the first field whose value is no text. -/
  mismatch : Option String := none
  deriving Repr, DecidableEq

namespace CommandAnswer

def kindOf : Datum → String
  | .null => "null"
  | .bool _ => "bool"
  | .number _ => "number"
  | .text _ => "string"
  | .list _ => "array"
  | .record _ => "object"

def set (a : CommandAnswer) (s : Bytes) : AnswerField → CommandAnswer
  | .version => { a with version := s }
  | .text => { a with text := s }
  | .error => { a with error := s }

/-- Takes one field. A later field replaces an earlier one, and null changes nothing. -/
def take (a : CommandAnswer) (name : Bytes) (d : Datum) : CommandAnswer :=
  match AnswerField.ofName? name with
  | none => a
  | some f =>
    match d with
    | .null => a
    | .text s => a.set s f
    | d =>
      { a with mismatch := some (a.mismatch.getD
          ("json: cannot unmarshal " ++ kindOf d ++ " into Go struct field ExecResponse." ++ f.name ++ " of type string")) }

def ofFields (fields : List (Bytes × Datum)) : CommandAnswer := fields.foldl (fun a (k, d) => a.take k d) {}

def decode (output : Bytes) : Except String CommandAnswer :=
  match Json.fault? output, Json.parse? output with
  | some f, _ => .error f.message
  | none, some (.record fields) =>
    match (ofFields fields).mismatch with
    | some m => .error m
    | none => .ok (ofFields fields)
  | none, some .null | none, none => .ok {}
  | none, some d => .error ("json: cannot unmarshal " ++ kindOf d ++ " into Go value of type generator.ExecResponse")

end CommandAnswer

namespace CommandRun

def maxOutput : Nat := 10 * 1024 * 1024

def readFault? (r : CommandRun) : Option String :=
  r.unread.or (if maxOutput ≤ r.output.length then some s!"stdout exceeded limit of {maxOutput} bytes" else none)

def accept (program : String) (output : Bytes) : Except CommandError Bytes :=
  let bad (detail : String) : Except CommandError Bytes := .error (.fault detail .badOutput)
  if output.isBlank then bad (quoted program ++ " returned empty stdout")
  else
    match CommandAnswer.decode output with
    | .error m => bad ("decode output of " ++ quoted program ++ ": " ++ m)
    | .ok a =>
      if a.version ≠ utf8 CommandRequest.schemaVersion then
        bad (quoted program ++ " uses schema version " ++ quoted (Utf8.toString a.version) ++ ", expected " ++
          quoted CommandRequest.schemaVersion)
      else if !a.error.isEmpty then bad (quoted program ++ " reported: " ++ Utf8.toString a.error)
      else .ok a.text

/-- The text that a command gave, if it ended well. What became of the request goes before what the command did. -/
def judge (program : String) (r : CommandRun) : Except CommandError Bytes :=
  match r.request with
  | some .cancelled => .error (.fault (quoted program ++ " cancelled") (.ended .cancelled))
  | some .deadline => .error (.fault (quoted program ++ ": " ++ Ending.deadline.message) .timedOut)
  | none =>
    if r.status ≠ 0 then .error (.fault (quoted program ++ s!" exited with code {r.status}") .exited)
    else
      match r.unwritten, r.readFault? with
      | some reason, _ => .error (.fault ("write request to " ++ quoted program ++ ": " ++ reason) .unspecific)
      | none, some reason => .error (.fault ("read stdout of " ++ quoted program ++ ": " ++ reason) .badOutput)
      | none, none => accept program r.output

end CommandRun

def CommandOutcome.judge (program : String) : CommandOutcome → Except CommandError Bytes
  | unconnected stream reason => .error (.fault ("create " ++ stream ++ " pipe: " ++ reason) .unspecific)
  | refused e => .error (.fault ("start " ++ quoted program) (.ended e))
  | notStarted reason => .error (.fault ("start " ++ quoted program ++ ": " ++ reason) .unspecific)
  | ran r => r.judge program

structure CallContext where
  context : Context := .live
  patience : Option Int := none
  deriving Repr, DecidableEq

abbrev CommandRunner := CallContext → (command : List String) → CommandRequest → Except CommandError Bytes

abbrev Launcher := CallContext → (command : List String) → (input : Bytes) → CommandOutcome

def CommandRunner.ofLauncher (launch : Launcher) : CommandRunner := fun call command request =>
  match command with
  | [] | "" :: _ => .error (.fault "command cannot be empty" .unspecific)
  | program :: _ => (launch call command request.encode).judge program

end SourceSurvey
