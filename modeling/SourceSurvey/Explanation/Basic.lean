import SourceSurvey.Explanation.Excerpt
import SourceSurvey.Inventory
import SourceSurvey.Collaborator

namespace SourceSurvey

structure Explained where
  language : String
  text : Bytes
  summary : Summary := {}
  inventory : Inventory := {}

structure Explanation where
  text : Bytes
  skeleton : Bytes
  elaboration : Bytes := []
  degraded : Bool := true
  deriving Repr, DecidableEq

inductive GeneratorError
  | ended (e : Ending)
  | unavailable (detail : String)
  | timedOut (detail : String)
  | other (message : String)
  deriving Repr, DecidableEq

def GeneratorError.message : GeneratorError → String
  | ended e => e.message
  | unavailable d => "explanation generator unavailable" ++ d
  | timedOut d => "explanation generator timed out" ++ d
  | other m => m

abbrev Generator := (language : String) → (prompt excerpt : Bytes) → Response GeneratorError Bytes

structure ExplainConfig where
  excerptLimit : Int := 0
  /-- In nanoseconds. -/
  timeout : Int := 0
  deriving Repr, DecidableEq

namespace Explanation

def defaultExcerptLimit : Int := 4000

def count (n : Int) (one many : String) : Bytes :=
  utf8 (if n = 1 then "1 " ++ one else toString n ++ " " ++ many)

def article (word : Bytes) : Bytes :=
  utf8 (if (word.head?.map (utf8 "AEIOUaeiou").contains).getD false then "an" else "a")

def listed (items : List Bytes) : Bytes := .join (utf8 ", ") items

def names (all : List Bytes) : Bytes :=
  if all.length ≤ 3 then listed all ++ utf8 "." else listed (all.take 3) ++ utf8 "..."

def learningSentence (m : Learning) : Bytes :=
  let subject := if m.frameworks.isEmpty then utf8 " It appears to contain machine learning code"
    else utf8 " It appears to be a machine learning project using " ++ listed (m.frameworks.map utf8)
  let work := if m.operations.isEmpty then []
    else utf8 ", performing operations such as " ++ listed (m.operations.map utf8)
  subject ++ work ++ utf8 "."

def skeletonOf (e : Explained) : Bytes :=
  let s := e.summary
  let language := utf8 e.language
  let opening := utf8 "This is " ++ article language ++ [32] ++ language ++ utf8 " file with " ++
    count s.totalLines "line" "lines" ++ utf8 ", " ++ count s.functions "function" "functions" ++ utf8 ", " ++
    count s.classes "class" "classes" ++ utf8 " and " ++ count s.imports "import" "imports" ++ utf8 "."
  let control := if s.loops = 0 && s.conditionals = 0 then []
    else utf8 " The code includes " ++ count s.loops "loop" "loops" ++ utf8 " and " ++
      count s.conditionals "conditional statement" "conditional statements" ++ utf8 "."
  let learning := (e.inventory.learning.map learningSentence).getD []
  let named (lead : String) (ds : List Declaration) : Bytes :=
    let ns := Inventory.names ds
    if ns.isEmpty then [] else utf8 lead ++ names ns
  Bytes.strip (opening ++ control ++ learning ++ named " Main classes include: " e.inventory.classes ++
    named " Key functions include: " e.inventory.functions)

def prompt (language : String) (skeleton : Bytes) : Bytes :=
  Bytes.strip (utf8 "You are reviewing a " ++ utf8 language ++
    utf8 " source file. A static analysis produced this summary:\n\n" ++ skeleton ++
    utf8 "\n\nUsing the summary and the excerpt that follows, explain in one short paragraph what the code does and how it is organized. Do not repeat the counts.")

def plain (skeleton : Bytes) : Explanation := { text := skeleton, skeleton }

def elaborated (skeleton written : Bytes) : Explanation :=
  let t := written.strip
  if t.isEmpty then plain skeleton
  else { text := skeleton ++ [10, 10] ++ t, skeleton, elaboration := t, degraded := false }

def ask (g : Generator) (config : ExplainConfig) (e : Explained) : Response GeneratorError Bytes :=
  let limit := if 0 < config.excerptLimit then config.excerptLimit else defaultExcerptLimit
  g e.language (prompt e.language (skeletonOf e)) (excerpt limit e.text)

def ofResponse (skeleton : Bytes) : Response GeneratorError Bytes → Explanation
  | .value t => elaborated skeleton t
  | _ => plain skeleton

def explain (generator : Option Generator) (config : ExplainConfig) (context : Context) (e : Explained) :
    Except Ending Explanation :=
  match context.ended? .explaining with
  | some ending => .error ending
  | none =>
    match generator with
    | none => .ok (plain (skeletonOf e))
    | some g =>
      let response := ask g config e
      match context.endedAfter? .generated response with
      | some ending => .error ending
      | none => .ok (ofResponse (skeletonOf e) response)

end Explanation

end SourceSurvey
