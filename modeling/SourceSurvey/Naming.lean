import SourceSurvey.Line.Constructs

namespace SourceSurvey

namespace Naming

/-- Whether a word ends between `prev` and the upper-case letter after it, whose own successor is
`next`. -/
def startsWord (prev : Char) (next : Option Char) : Bool :=
  Letter.isLower prev || Letter.isDigit prev || (Letter.isUpper prev && (next.map Letter.isLower).getD false)

def wordsFrom : (word : List Char) → List Char → List (List Char)
  | [], [] => []
  | word, [] => [word.reverse]
  | word, c :: cs =>
    if !Letter.isLetter c && !Letter.isDigit c then
      match word with
      | [] => wordsFrom [] cs
      | word => word.reverse :: wordsFrom [] cs
    else
      match word with
      | [] => wordsFrom [c] cs
      | prev :: _ =>
        if Letter.isUpper c && startsWord prev cs.head? then word.reverse :: wordsFrom [c] cs
        else wordsFrom (c :: word) cs

def splitWords (name : Bytes) : List Bytes :=
  (wordsFrom [] (Utf8.chars name)).map fun w => (Utf8.encode w).lower

def verbs : List (String × String) := [
  ("get", "Retrieves or calculates"), ("set", "Updates or changes"), ("is", "Checks if"),
  ("has", "Checks if it contains"), ("calc", "Calculates"), ("calculate", "Calculates"),
  ("compute", "Computes or calculates"), ("create", "Creates a new"), ("build", "Constructs"),
  ("make", "Creates"), ("generate", "Produces or creates"), ("find", "Searches for"),
  ("search", "Searches for"), ("parse", "Analyzes and processes"), ("format", "Formats or structures"),
  ("convert", "Converts or transforms"), ("transform", "Transforms"), ("validate", "Validates or checks"),
  ("check", "Checks or verifies"), ("handle", "Manages or processes"), ("process", "Processes"),
  ("update", "Updates"), ("delete", "Removes"), ("remove", "Removes"), ("add", "Adds"),
  ("insert", "Inserts"), ("fetch", "Fetches"), ("load", "Loads"), ("save", "Saves or persists"),
  ("store", "Stores or saves"), ("render", "Displays or renders"), ("display", "Shows or displays"),
  ("print", "Outputs or prints"), ("log", "Records or logs"), ("init", "Initializes"),
  ("initialize", "Sets up initial state"), ("setup", "Configures or sets up"),
  ("configure", "Configures"), ("start", "Begins or initiates"), ("stop", "Stops or terminates"),
  ("pause", "Temporarily halts"), ("resume", "Continues after pausing"), ("on", "Handles event")]

open Pattern in
def returnKinds : List (String × Pattern) :=
  let returns := edge ++ lit "return" ++ gap1
  [("boolean", returns ++ oneOf ["true", "false", "True", "False", "!"]),
    ("string", returns ++ opt (one (.among "fbru")) ++ one (.among "\"'`")),
    ("number", returns ++ opt (lit "-") ++ one .digit),
    ("array", returns ++ lit "["),
    ("object", returns ++ anyOf [lit "\x7b", lit "new" ++ gap1 ++ one .upper, lit "dict("])]

def areas : List (String × List String) := [
  ("works with the user interface", ["render", "display", "component", "dom", "html", "css", "style",
    "widget", "button", "innerHTML", "setState"]),
  ("communicates with an external API", ["fetch", "axios", "http", "request", "requests", "response",
    "api", "endpoint", "url"]),
  ("responds to events", ["event", "listener", "addEventListener", "onclick", "emit", "subscribe",
    "callback", "dispatch"]),
  ("processes collections of data", ["map", "filter", "reduce", "sort", "sorted", "forEach", "append",
    "push", "json", "JSON"])]

def returnKind? (body : List Bytes) : Option String :=
  (returnKinds.find? fun (_, p) => body.any p.occursIn).map (·.1)

def identifiers (code : Bytes) : List Bytes :=
  Constructs.tokens (fun b => b = 36 || Constructs.isWordStart b) (fun b => b = 36 || Bytes.isWord b) code

def area? (body : List Bytes) : Option String :=
  let found := body.flatMap identifiers
  (areas.find? fun (_, ws) => ws.any fun w => found.contains (utf8 w)).map (·.1)

/-- The sentence for a function of this name and body. -/
def purpose (name : Bytes) (body : List Bytes) : Bytes :=
  match splitWords name with
  | [] => utf8 "Performs an operation."
  | verb :: object =>
    let base :=
      match verbs.find? fun (w, _) => utf8 w = verb with
      | some (_, phrase) => utf8 phrase ++ [32] ++ (if object.isEmpty then utf8 "data" else .join [32] object)
      | none => utf8 "Handles " ++ .join [32] (verb :: object) ++ utf8 " functionality"
    let returned := (returnKind? body).toList.map fun k => utf8 ("returns " ++ k)
    let area := (area? body).toList.map utf8
    .join (utf8 " and ") (base :: returned ++ area) ++ utf8 "."

def classKind (keyword : Bytes) : Bytes :=
  let k := keyword.strip.lower
  if k.isEmpty then utf8 "class"
  else if k.startsWith (utf8 "enum") then utf8 "enum"
  else if k.includes (utf8 "class") then utf8 "class"
  else k

def classPurpose (name keyword : Bytes) : Bytes :=
  if name.isEmpty then utf8 "Defines a " ++ classKind keyword ++ utf8 "."
  else utf8 "Defines the " ++ name ++ [32] ++ classKind keyword ++ utf8 "."

end Naming

end SourceSurvey
