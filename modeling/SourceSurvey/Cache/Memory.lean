namespace SourceSurvey

structure Memory (α : Type) where
  size : Nat
  entries : List (String × α) := []

namespace Memory

variable {α : Type}

def defaultSize : Nat := 100

def ofSize (size : Int) : Memory α := ⟨if 0 < size then size.toNat else defaultSize, []⟩

def get (m : Memory α) (key : String) : Option α × Memory α :=
  match m.entries.lookup key with
  | none => (none, m)
  | some v => (some v, { m with entries := (key, v) :: m.entries.filter (·.1 ≠ key) })

/-- Stores a value, and drops the least recently used one if the store is full. -/
def add (m : Memory α) (key : String) (v : α) : Memory α :=
  { m with entries := ((key, v) :: m.entries.filter (·.1 ≠ key)).take m.size }

def length (m : Memory α) : Nat := m.entries.length

def purge (m : Memory α) : Memory α := { m with entries := [] }

end Memory

end SourceSurvey
