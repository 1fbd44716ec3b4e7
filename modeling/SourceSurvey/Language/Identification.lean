import SourceSurvey.Language.Classifier
import SourceSurvey.Path

namespace SourceSurvey

inductive IdentificationSource
  | extension
  | classifier
  | fallback
  deriving Repr, DecidableEq

def IdentificationSource.name : IdentificationSource → String
  | extension => "extension"
  | classifier => "classifier"
  | fallback => "fallback"

structure Identification where
  language : String
  confidence : Rat
  profile : Profile
  source : IdentificationSource
  deriving Repr, DecidableEq

/-- How guesses and the file name are merged. Values that are not positive stand for the
defaults. The thresholds are fractions and so are never without an order, as a machine number can be. -/
structure IdentifyConfig where
  topK : Int := 0
  acceptance : Rat := 0
  floor : Rat := 0
  minLength : Int := 0
  sampleLines : Int := 0
  timeout : Int := 0
  deriving Repr, DecidableEq

namespace IdentifyConfig

def withDefaults (c : IdentifyConfig) : IdentifyConfig where
  topK := Classifier.positiveOr c.topK Classifier.defaultTopK
  acceptance := if 0 < c.acceptance then c.acceptance else 2 / 10
  floor := if 0 < c.floor then c.floor else 3 / 10
  minLength := Classifier.positiveOr c.minLength 8
  sampleLines := Classifier.positiveOr c.sampleLines Classifier.defaultSampleLines
  timeout := Classifier.positiveOr c.timeout 2000000000

end IdentifyConfig

inductive IdentifyError
  | empty
  | ended (e : Ending)
  deriving Repr, DecidableEq

def IdentifyError.message : IdentifyError → String
  | empty => "no source text provided"
  | ended e => e.message

namespace Identification

def fallback (language : String) : Identification := ⟨language, 0, .empty language, .fallback⟩

def byExtension (p : Profile) (confidence : Rat) : Identification := ⟨p.id, confidence, p, .extension⟩

def hint? (filename : String) : Option Profile := Registry.profileForExtension? (Path.extension filename)

def firstKnown? (floor : Rat) : List Guess → Option Identification
  | [] => none
  | g :: gs =>
    match Registry.profile? g.language with
    | none => firstKnown? floor gs
    | some p => if g.confidence < floor then none else some ⟨p.id, g.confidence, p, .classifier⟩

def merge (c : IdentifyConfig) (hint : Option Profile) (corroboration : Rat) (guesses : List Guess) :
    Identification :=
  let accepted : Option Identification := do
    let h ← hint
    match guesses.find? fun g => g.language = h.id && decide (c.acceptance ≤ g.confidence) with
    | some g => some (byExtension h (if g.confidence ≤ corroboration then corroboration else g.confidence))
    | none => if c.acceptance ≤ corroboration then some (byExtension h corroboration) else none
  (accepted.or (firstKnown? c.floor guesses)).getD (fallback Profile.plainText)

/-- The guesses of a classifier's response, if it gave any in time. -/
def guesses? (k : Int) : Response ClassifierError (List Guess) → Option (List Guess)
  | .value gs => some (Guess.rank k gs)
  | _ => none

end Identification

open Identification in
/-- Identifies the language of a text. It fails only on blank text and on a request no longer
wanted. -/
def identify (classifier : Classifier) (config : IdentifyConfig) (context : Context) (text : Bytes)
    (filename : String) : Except IdentifyError Identification :=
  let c := config.withDefaults
  let trimmed := text.strip
  let hint := hint? filename
  let corroboration := (hint.map fun h => Corroboration.score h c.sampleLines text).getD 0
  let response := classifier context text
  if trimmed.isEmpty then .error .empty
  else if (Utf8.length trimmed : Int) < c.minLength then
    .ok ((hint.map (byExtension · corroboration)).getD (fallback Profile.plainText))
  else
    match context.endedAfter? .classified response with
    | some e => .error (.ended e)
    | none =>
      match guesses? c.topK response with
      | none => .ok ((hint.map (byExtension · corroboration)).getD (fallback Profile.unknown))
      | some gs => .ok (merge c hint corroboration gs)

end SourceSurvey
