import SourceSurvey.Scan.Engine

/-!
The parties of a scan that carries on after failures. One walker sends the candidates it meets to a
number of workers, and walker and workers send what became of each file to one gatherer. Both queues hold as
many entries as there are workers; a party waits while the queue it sends to is full. The parties
take their steps in any order. The candidates are closed once the walk is over, and the outcomes once
every worker has left.
-/

namespace SourceSurvey

/-- What a party has still to do about a file: announcements in their order, and then a delivery. -/
structure Task (α : Type) where
  news : List ScanEvent
  delivers : α

inductive Delivery
  | candidate (path : String)
  | outcome (o : Outcome)

inductive Worker
  | idle
  | busy (t : Task Outcome)
  | gone

namespace Pipeline

structure State where
  /-- The files the walker has not met yet. -/
  ahead : List Found
  walker : Option (Task Delivery) := none
  candidates : List String := []
  walked : Bool := false
  workers : List Worker
  outcomes : List Outcome := []
  sealed : Bool := false
  gathered : List Outcome := []
  finished : Bool := false
  events : List ScanEvent := []

def start (workers : Nat) (files : List Found) : State :=
  { ahead := files, workers := List.replicate workers .idle }

def State.report (s : State) (frame : Report.Frame) : Report := .ofOutcomes frame false s.gathered

def visit : Found → Task Delivery
  | .leftOut path reason details =>
    ⟨[.status path .skipped details], .outcome (.skipped ⟨path, reason.name, details⟩)⟩
  | .unchanged path details =>
    ⟨[.discovered path, .status path .skipped details],
      .outcome (.skipped ⟨path, SkipReason.unchanged.name, details⟩)⟩
  | .candidate path => ⟨[.discovered path], .candidate path⟩

abbrev Endings := String → FileScan.Ended

def work (ends : Endings) (path : String) : Task Outcome :=
  ⟨[.status path .processing "", .status path (ends path).status (ends path).message],
    (ends path).outcome path false⟩

inductive Step (ends : Endings) (workers : Nat) : State → State → Prop
  | meet {s f fs} : s.walker = none → s.ahead = f :: fs →
      Step ends workers s { s with ahead := fs, walker := some (visit f) }
  | tell {s e news d} : s.walker = some ⟨e :: news, d⟩ →
      Step ends workers s { s with walker := some ⟨news, d⟩, events := s.events ++ [e] }
  | offer {s path} : s.walker = some ⟨[], .candidate path⟩ → s.candidates.length < workers →
      Step ends workers s { s with walker := none, candidates := s.candidates ++ [path] }
  | skip {s o} : s.walker = some ⟨[], .outcome o⟩ → s.outcomes.length < workers →
      Step ends workers s { s with walker := none, outcomes := s.outcomes ++ [o] }
  | close {s} : s.walker = none → s.ahead = [] → s.walked = false → Step ends workers s { s with walked := true }
  | take {s before after path paths} : s.workers = before ++ .idle :: after → s.candidates = path :: paths →
      Step ends workers s
        { s with workers := before ++ .busy (work ends path) :: after, candidates := paths }
  | report {s before after e news o} : s.workers = before ++ .busy ⟨e :: news, o⟩ :: after →
      Step ends workers s { s with workers := before ++ .busy ⟨news, o⟩ :: after, events := s.events ++ [e] }
  | post {s before after o} : s.workers = before ++ .busy ⟨[], o⟩ :: after → s.outcomes.length < workers →
      Step ends workers s { s with workers := before ++ .idle :: after, outcomes := s.outcomes ++ [o] }
  | leave {s before after} : s.workers = before ++ .idle :: after → s.candidates = [] → s.walked = true →
      Step ends workers s { s with workers := before ++ .gone :: after }
  | shut {s} : s.walked = true → (∀ w ∈ s.workers, w = .gone) → s.sealed = false →
      Step ends workers s { s with sealed := true }
  | gather {s o os} : s.outcomes = o :: os →
      Step ends workers s { s with outcomes := os, gathered := s.gathered ++ [o] }
  | finish {s} : s.sealed = true → s.outcomes = [] → s.finished = false →
      Step ends workers s { s with finished := true }

def State.Halted (ends : Endings) (workers : Nat) (s : State) : Prop := ∀ t, ¬Step ends workers s t

end Pipeline

end SourceSurvey
