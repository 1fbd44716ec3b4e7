import SourceSurvey.Language.Corroboration
import SourceSurvey.Language.Declared
import SourceSurvey.Collaborator

namespace SourceSurvey

inductive ClassifierError
  | ended (e : Ending)
  | binary
  | tooLate (e : Ending)
  | unavailable
  | other (message : String)
  deriving Repr, DecidableEq

def ClassifierError.message : ClassifierError → String
  | ended e => e.message
  | binary => unavailableText ++ ": binary content"
  | tooLate e => unavailableText ++ ": " ++ e.message
  | unavailable => unavailableText
  | other m => m
where unavailableText := "language classifier unavailable"

abbrev Classifier := Context → Bytes → Response ClassifierError (List Guess)

namespace Classifier

def defaultTopK : Int := 3
def defaultSampleLines : Int := 200

def positiveOr (n default : Int) : Int := if 0 < n then n else default

def heuristic (sampleLines topK : Int) (text : Bytes) : List Guess :=
  Guess.rank topK <| (Registry.profiles.map fun p => ⟨p.id, Corroboration.score p sampleLines text⟩).filter
    fun g => decide (0 < g.confidence)

/-- A zero byte among the first eight thousand makes a text binary. -/
def isBinary (text : Bytes) : Bool := (text.take 8000).contains 0

def shebangConfidence : Rat := 95 / 100
def modelineConfidence : Rat := 9 / 10
def rankShare : Rat := 3 / 10
def signatureBonus : Rat := 2 / 10

def rankedConfidence (sampleLines : Int) (text : Bytes) (p : Profile) (rank : Nat) : Rat :=
  let c := Corroboration.score p sampleLines text * (1 - rankShare + rankShare * (1 / (rank + 1 : Nat)))
  if Corroboration.isSigned p sampleLines text then if 1 ≤ c + signatureBonus then 1 else c + signatureBonus
  else c

/-- What has been noted so far: languages in order of their first mention, and the best positive
confidence of each. -/
structure Notes where
  order : List String := []
  best : List (String × Rat) := []

/-- Notes a confidence for a language; names outside the registry are dropped. A language without a
positive confidence so far is mentioned anew. -/
def Notes.record (n : Notes) (language : String) (confidence : Rat) : Notes :=
  match Registry.profile? language with
  | none => n
  | some p =>
    match n.best.lookup p.id with
    | some old =>
      if old < confidence then
        { n with best := n.best.map fun e => if e.1 = p.id then (p.id, confidence) else e }
      else n
    | none =>
      { order := n.order ++ [p.id]
        best := if 0 < confidence then n.best ++ [(p.id, confidence)] else n.best }

def Notes.guesses (n : Notes) : List Guess := n.order.map fun id => ⟨id, (n.best.lookup id).getD 0⟩

def weigh (byShebang byModeline ranked : List String) (sampleLines topK : Int) (text : Bytes) : List Guess :=
  let declared := byModeline.foldl (·.record · modelineConfidence)
    (byShebang.foldl (·.record · shebangConfidence) {})
  let noted := ranked.zipIdx.foldl (fun (n : Notes) (language, i) =>
    match Registry.profile? language with
    | none => n
    | some p => n.record language (rankedConfidence sampleLines text p i)) declared
  Guess.rank topK noted.guesses

/-- The registry languages in the order in which they are weighed: those that stand last in the
registry, and are seldom met by chance, come first. -/
def candidates : List String := Registry.identifiers.rotateRight 2

def evidence (sampleLines topK : Int) (text : Bytes) : List Guess :=
  weigh (Declared.byInterpreter text) (Declared.byModeline text) candidates
    (positiveOr sampleLines defaultSampleLines) (positiveOr topK defaultTopK) text

def ofHeuristic (sampleLines topK : Int) : Classifier := fun context text =>
  match context.ended? .begun with
  | some e => .failure (.ended e)
  | none => .value (heuristic sampleLines topK text)

def ofEvidence (sampleLines topK : Int) : Classifier := fun context text =>
  match context.ended? .begun with
  | some e => .failure (.tooLate e)
  | none => if isBinary text then .failure .binary else .value (evidence sampleLines topK text)

end Classifier

end SourceSurvey
