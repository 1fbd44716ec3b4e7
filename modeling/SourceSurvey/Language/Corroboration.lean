import SourceSurvey.Line.Scan
import SourceSurvey.Profile.Registry

namespace SourceSurvey

namespace Corroboration

variable (p : Profile)

/-- The weight of one line, in quarters. -/
def lineWeight (line : Bytes) : Nat :=
  let trimmed := line.strip
  let token (t : Bytes) := if p.ignoresCase then t.lower else t
  if p.signatures.any (·.occursIn line) then 4
  else if [p.imports, p.functions, p.classes, p.bindings].any fun ps => ps.any (·.occursIn line) then 2
  else if p.lineComments.any (trimmed.startsWith ·) then 1
  else if p.blockComments.any (trimmed.startsWith ·.opener) then 1
  else if (Constructs.keywords line).any fun t => (p.loops ++ p.conditionals).contains (token t) then 1
  else 0

def sample (limit : Int) (text : Bytes) : List Bytes :=
  let lines := (Line.split text).filter fun l => !l.isBlank
  if 0 < limit then lines.take limit.toNat else lines

def weights (limit : Int) (text : Bytes) : List Nat := (sample limit text).map (lineWeight p)

/-- The mean weight of the sampled lines. A machine number rounds it. -/
def score (limit : Int) (text : Bytes) : Rat :=
  if !p.hasConstructs then 0
  else
    let ws := weights p limit text
    if ws.isEmpty then 0 else ((ws.foldr (· + ·) 0 : Nat) : Rat) / (4 * ws.length : Nat)

def isSigned (limit : Int) (text : Bytes) : Bool :=
  p.hasConstructs && (weights p limit text).contains 4

end Corroboration

structure Guess where
  language : String
  /-- A fraction stands for a machine number: it is exact, and every one of them can be compared. -/
  confidence : Rat
  deriving Repr, DecidableEq

/-- By descending confidence, equal ones in the order given; at most `k` of them if `k` is
positive. -/
def Guess.rank (k : Int) (gs : List Guess) : List Guess :=
  let sorted := gs.mergeSort fun a b => decide (b.confidence ≤ a.confidence)
  if 0 < k then sorted.take k.toNat else sorted

end SourceSurvey
