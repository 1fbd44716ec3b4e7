import SourceSurvey.Text.Utf8

/-!
Search patterns over texts. A pattern is a tree; matching tries alternatives in the order written
and prefers longer repetitions, so among all matches the first in that order is reported. Two
labels may capture a part of the match.
-/

namespace SourceSurvey

structure CharSet where
  ranges : List (Char × Char)
  negated : Bool := false
  deriving Repr, DecidableEq

namespace CharSet

def has (s : CharSet) (c : Char) : Bool := (s.ranges.any fun (lo, hi) => lo ≤ c && c ≤ hi) != s.negated

def among (s : String) : CharSet := ⟨s.toList.map fun c => (c, c), false⟩
def except (s : String) : CharSet := ⟨s.toList.map fun c => (c, c), true⟩
def letter : CharSet := ⟨[('a', 'z'), ('A', 'Z')], false⟩
def upper : CharSet := ⟨[('A', 'Z')], false⟩
def lower : CharSet := ⟨[('a', 'z')], false⟩
def digit : CharSet := ⟨[('0', '9')], false⟩
def word : CharSet := ⟨[('a', 'z'), ('A', 'Z'), ('0', '9'), ('_', '_')], false⟩
def upperSnake : CharSet := ⟨[('A', 'Z'), ('0', '9'), ('_', '_')], false⟩
def blank : CharSet := among "\t\n\x0c\r "
def visible : CharSet := { blank with negated := true }
def notNewline : CharSet := except "\n"

/-- The words of a search that ignores case also hold the long s and the Kelvin sign. -/
def foldedWord : CharSet := ⟨word.ranges ++ [('\u017F', '\u017F'), ('\u212A', '\u212A')], false⟩

def or (s : CharSet) (more : String) : CharSet := { s with ranges := s.ranges ++ (among more).ranges }

/-- All spellings of one letter: both cases, and the two signs that fold to s and k. -/
def anyCase (c : Char) : CharSet :=
  let l := c.toLower
  let more := if l = 's' then [('\u017F', '\u017F')] else if l = 'k' then [('\u212A', '\u212A')] else []
  ⟨[(l, l), (c.toUpper, c.toUpper)] ++ more, false⟩

end CharSet

/-- What a captured part of a match is: the declared name, or the keyword of the declaration. -/
inductive Label
  | name
  | kind
  deriving Repr, DecidableEq

inductive Pattern
  | done
  | one (s : CharSet)
  | many (s : CharSet)
  | seq (p q : Pattern)
  | alt (p q : Pattern)
  | star (p : Pattern)
  | label (l : Label) (p : Pattern)
  | start
  | stop
  | edge
  deriving Repr, DecidableEq

namespace Pattern

instance : Append Pattern := ⟨.seq⟩
instance : OrOp Pattern := ⟨.alt⟩

def chars : List Char → Pattern
  | [] => done
  | [c] => one ⟨[(c, c)], false⟩
  | c :: cs => one ⟨[(c, c)], false⟩ ++ chars cs

def lit (s : String) : Pattern := chars s.toList

def anyCase (s : String) : Pattern :=
  s.toList.foldr (fun c p => one (.anyCase c) ++ p) done

def anyOf : List Pattern → Pattern
  | [] => one ⟨[], false⟩
  | [p] => p
  | p :: ps => p ||| anyOf ps

def oneOf (ws : List String) : Pattern := anyOf (ws.map lit)

def opt (p : Pattern) : Pattern := p ||| done
def plus (p : Pattern) : Pattern := p ++ star p
def many1 (s : CharSet) : Pattern := one s ++ many s

def name (p : Pattern) : Pattern := label .name p
def kind (p : Pattern) : Pattern := label .kind p

def gap : Pattern := many .blank

def gap1 : Pattern := many1 .blank

def ident : Pattern := one (.or .letter "_") ++ many .word

def dollarIdent : Pattern := one (.or .letter "_$") ++ many (.or .word "$")

def modifiers (ws : List String) : Pattern := star (oneOf ws ++ gap1)

end Pattern

structure Captures where
  name : Bytes := []
  kind : Bytes := []
  deriving Repr, DecidableEq

def Captures.set (c : Captures) (text : Bytes) : Label → Captures
  | .name => { c with name := text }
  | .kind => { c with kind := text }

structure Cursor where
  pos : Nat
  rest : Bytes
  afterWord : Bool
  captures : Captures := {}
  deriving Repr, DecidableEq

namespace Cursor

def ofText (s : Bytes) : Cursor := ⟨0, s, false, {}⟩

def atEdge (c : Cursor) : Bool := c.afterWord != (c.rest.head?.map Bytes.isWord).getD false

def accept? (s : CharSet) (c : Cursor) : Option Cursor :=
  match Utf8.next? c.rest with
  | none => none
  | some (g, r) =>
    if s.has g.char then
      some { c with pos := c.pos + g.raw.length, rest := r, afterWord := CharSet.word.has g.char }
    else none

theorem accept?_length {s : CharSet} {c d : Cursor} (h : accept? s c = some d) :
    d.rest.length < c.rest.length := by
  unfold accept? at h
  split at h
  · simp at h
  · rename_i g r hn
    split at h
    · simp only [Option.some.injEq] at h
      subst h
      exact Utf8.next?_length hn
    · simp at h

/-- All places reached by taking characters of `s` as long as possible, the farthest first, in
front of `nearer`. -/
def runs (s : CharSet) (c : Cursor) (nearer : List Cursor) : List Cursor :=
  match _h : accept? s c with
  | none => c :: nearer
  | some d => runs s d (c :: nearer)
termination_by c.rest.length
decreasing_by exact accept?_length _h

end Cursor

namespace Pattern

variable {α : Type}

def repeated (step : Cursor → (Cursor → Option α) → Option α) :
    Nat → Cursor → (Cursor → Option α) → Option α
  | 0, c, k => k c
  | n + 1, c, k =>
    match step c fun d => if c.pos < d.pos then repeated step n d k else none with
    | some a => some a
    | none => k c

/-- Matches at `c` and hands each place reached to `k`, in order of preference, until one
succeeds. -/
def run : Pattern → Cursor → (Cursor → Option α) → Option α
  | done, c, k => k c
  | one s, c, k =>
    match c.accept? s with
    | some d => k d
    | none => none
  | many s, c, k => (c.runs s []).findSome? k
  | seq p q, c, k => p.run c fun d => q.run d k
  | alt p q, c, k =>
    match p.run c k with
    | some a => some a
    | none => q.run c k
  | star p, c, k => repeated p.run c.rest.length c k
  | label l p, c, k =>
    p.run c fun d => k { d with captures := d.captures.set (c.rest.take (d.pos - c.pos)) l }
  | start, c, k => if c.pos = 0 then k c else none
  | stop, c, k => if c.rest.isEmpty then k c else none
  | edge, c, k => if c.atEdge then k c else none

/-- The first match at or after `c`: the places where it begins and ends. -/
def searchFrom (p : Pattern) (c : Cursor) : Option (Cursor × Cursor) :=
  match p.run c some with
  | some d => some (c, d)
  | none =>
    match _h : Utf8.next? c.rest with
    | none => none
    | some (g, r) =>
      searchFrom p ⟨c.pos + g.raw.length, r, CharSet.word.has g.char, {}⟩
termination_by c.rest.length
decreasing_by exact Utf8.next?_length _h

def search (p : Pattern) (s : Bytes) : Option Captures :=
  (p.searchFrom (.ofText s)).map (·.2.captures)

def occursIn (p : Pattern) (s : Bytes) : Bool := (p.searchFrom (.ofText s)).isSome

end Pattern

end SourceSurvey
