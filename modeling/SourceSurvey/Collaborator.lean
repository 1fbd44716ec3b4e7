namespace SourceSurvey

inductive Ending
  | cancelled
  | deadline
  deriving Repr, DecidableEq

def Ending.message : Ending → String
  | cancelled => "context canceled"
  | deadline => "context deadline exceeded"

/-- The points at which it is asked whether a request is still wanted, in their order. -/
inductive Checkpoint
  | begun
  | classified
  | identified
  | catalogued
  | explaining
  | generated
  | explained
  deriving Repr, DecidableEq

def Checkpoint.rank : Checkpoint → Nat
  | begun => 0
  | classified => 1
  | identified => 2
  | catalogued => 3
  | explaining => 4
  | generated => 5
  | explained => 6

inductive Context
  | live
  /-- Ends by the time of a checkpoint, and not before the one that precedes it. -/
  | ends (p : Checkpoint) (e : Ending)
  deriving Repr, DecidableEq

inductive Response (ε α : Type)
  | value (a : α)
  | failure (e : ε)
  | crash (message : String)
  /-- Waits until its context ends. -/
  | stall
  /-- Answers only after the request has been cancelled. -/
  | cancels
  deriving Repr, DecidableEq

namespace Context

def cancelled : Context := ends .begun .cancelled

def ended? : Context → Checkpoint → Option Ending
  | live, _ => none
  | ends p e, q => if p.rank ≤ q.rank then some e else none

def isLive (c : Context) : Bool := (c.ended? .begun).isNone

def endedAfter? {ε α : Type} (c : Context) (p : Checkpoint) : Response ε α → Option Ending
  | .cancels => some ((c.ended? p).getD .cancelled)
  | _ => c.ended? p

@[simp] theorem ended?_live (p : Checkpoint) : live.ended? p = none := rfl

end Context

end SourceSurvey
