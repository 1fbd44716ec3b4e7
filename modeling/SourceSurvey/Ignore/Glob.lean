import SourceSurvey.Text.Utf8

/-!
Globs over slash-separated paths. A star and a question mark match within one segment, two stars
that fill a segment match any number of segments, classes stand in brackets and alternatives in
braces, and a backslash takes the next character as it is.
-/

namespace SourceSurvey

namespace Glob

def star : UInt8 := 42
def slash : UInt8 := 47
def backslash : UInt8 := 92
def openBracket : UInt8 := 91
def closeBracket : UInt8 := 93
def openBrace : UInt8 := 123
def closeBrace : UInt8 := 125

def isNegation (b : UInt8) : Bool := b = 33 || b = 94

def afterClass? : Bytes → Option Bytes
  | [] => none
  | b :: s =>
    if b = closeBracket then some s
    else if b = backslash then
      match s with
      | [] => none
      | _ :: t => afterClass? t
    else afterClass? s

theorem afterClass?_length {s r : Bytes} (h : afterClass? s = some r) : r.length < s.length := by
  fun_induction afterClass? s <;> grind

def dropNegation : Bytes → Bytes
  | [] => []
  | b :: s => if isNegation b then s else b :: s

theorem dropNegation_length (s : Bytes) : (dropNegation s).length ≤ s.length := by
  cases s with
  | nil => simp [dropNegation]
  | cons b t => simp only [dropNegation]; split <;> simp

def classBody? (s : Bytes) : Option Bytes :=
  if (dropNegation s).head? = some closeBracket then none else afterClass? (dropNegation s)

theorem classBody?_length {s r : Bytes} (h : classBody? s = some r) : r.length < s.length := by
  unfold classBody? at h
  split at h
  · simp at h
  · exact Nat.lt_of_lt_of_le (afterClass?_length h) (dropNegation_length s)

/-- Whether classes and braces are closed and no backslash stands at the end; `depth` braces are
open. -/
def isValidFrom (depth : Nat) (s : Bytes) : Bool :=
  match s with
  | [] => depth = 0
  | b :: r =>
    if b = backslash then
      match r with
      | [] => false
      | _ :: t => isValidFrom depth t
    else if b = openBracket then
      match _h : classBody? r with
      | none => false
      | some t => isValidFrom depth t
    else if b = openBrace then isValidFrom (depth + 1) r
    else if b = closeBrace then depth ≠ 0 && isValidFrom (depth - 1) r
    else isValidFrom depth r
termination_by s.length
decreasing_by
  · simp only [List.length_cons]; omega
  · have := classBody?_length _h; simp; omega
  · simp
  · simp
  · simp

def isValid (s : Bytes) : Bool := isValidFrom 0 s

def closing? : (depth : Nat) → (seen : Bytes) → Bytes → Option (Bytes × Bytes)
  | _, _, [] => none
  | depth, seen, b :: s =>
    if b = backslash then
      match s with
      | [] => none
      | c :: t => closing? depth (c :: b :: seen) t
    else if b = openBrace then closing? (depth + 1) (b :: seen) s
    else if b = closeBrace then
      if depth ≤ 1 then some (seen.reverse, s) else closing? (depth - 1) (b :: seen) s
    else closing? depth (b :: seen) s

/-- The alternatives between commas that stand in no inner braces; `piece` is the one begun, last
byte first. -/
def alternatives : (depth : Int) → (piece : Bytes) → Bytes → List Bytes
  | _, piece, [] => [piece.reverse]
  | depth, piece, b :: s =>
    if b = backslash then
      match s with
      | [] => [(b :: piece).reverse]
      | c :: t => alternatives depth (c :: b :: piece) t
    else if b = openBrace then alternatives (depth + 1) (b :: piece) s
    else if b = closeBrace then alternatives (depth - 1) (b :: piece) s
    else if b = 44 && depth = 1 then piece.reverse :: alternatives depth [] s
    else alternatives depth (b :: piece) s

/-- The first character and the rest; past the end there is a character that matches nothing. -/
def rune (s : Bytes) : Char × Bytes :=
  match Utf8.next? s with
  | some (g, r) => (g.char, r)
  | none => (Utf8.replacement, [])

/-- Looks a character up in a class; gives whether it is in it and where in the class the search
ended. `last` is the character before, if a range may begin with it. -/
def inClass (c : Char) : (fuel : Nat) → (last : Option Char) → Bytes → Bool × Bytes
  | 0, _, s => (false, s)
  | fuel + 1, last, s =>
    match s with
    | [] => (false, [])
    | b :: _ =>
      if b = closeBracket then (false, s)
      else
        let (p, rest) := rune s
        match last, rest with
        | some lo, d :: _ =>
          if p = '-' && d ≠ closeBracket then
            let (hi, rest) := rune (if d = backslash then rest.drop 1 else rest)
            if lo ≤ c && c ≤ hi then (true, rest) else inClass c fuel none rest
          else single fuel p rest
        | _, _ => single fuel p rest
where
  single (fuel : Nat) (p : Char) (rest : Bytes) : Bool × Bytes :=
    let (p, rest) := if p = '\\' then rune rest else (p, rest)
    if p = c then (true, rest) else inClass c fuel (if p.toNat = 0x10FFFF then none else some p) rest

/-- Places to go back to: what of the pattern follows a star, and what of the name it has still to
take. -/
structure Resume where
  pattern : Bytes
  name : Bytes

def Resume.replaceEnd (r : Resume) (old new : Bytes) : Resume :=
  { r with pattern := r.pattern.take (r.pattern.length - old.length) ++ new }

/-- The first answer that is not no; no answer at all counts as one. -/
def firstOf {α : Type} (answer : α → Option Bool) : List α → Option Bool
  | [] => some false
  | a :: as =>
    match answer a with
    | some false => firstOf answer as
    | r => r

/-- Whether what is left of a pattern can match nothing at all. -/
def matchesNothing : (fuel : Nat) → Bytes → Option Bool
  | 0, _ => none
  | fuel + 1, p =>
    if ["", "*", "**", "/**", "**/", "/**/"].any (utf8 · = p) then some true
    else
      match p with
      | b :: r =>
        if b = openBrace then
          match closing? 1 [] r with
          | none => none
          | some (inner, after) => firstOf (fun a => matchesNothing fuel (a ++ after)) (alternatives 1 [] inner)
        else if isValid p then some false
        else none
      | [] => some true

def nextSegment? : Bytes → Option Bytes
  | [] => none
  | b :: s => if b = slash then some s else nextSegment? s

inductive Step
  | go (pattern name : Bytes) (atStart : Bool)
  /-- The pattern does not fit here; what is left of it is kept to be checked. -/
  | back (pattern : Bytes)
  | invalid

def step (p : Bytes) (b : UInt8) (r name : Bytes) : Step :=
  let (c, nameRest) := rune name
  if b = 63 then if c = '/' then .back p else .go r nameRest false
  else if b = openBracket then
    let negated := r.head?.any isNegation
    let body := dropNegation r
    if body.isEmpty || body.head? = some closeBracket then .invalid
    else
      let (found, rest) := inClass c (body.length + 1) none body
      if found = negated then if rest.isEmpty then .invalid else .back rest
      else
        match afterClass? rest with
        | none => .invalid
        | some after => .go after nameRest false
  else
    let literal := if b = backslash then r else p
    if literal.isEmpty then .invalid
    else
      let (d, rest) := rune literal
      if d = c then .go rest nameRest (d = '/') else .back p

mutual

/-- Matches a name, going back to the last star and then to the last double star. A pattern that
turns out to be invalid has no answer. -/
def run : (fuel : Nat) → (wide narrow : Option Resume) → (atStart : Bool) → (p name : Bytes) → Option Bool
  | 0, _, _, _, _, _ => none
  | fuel + 1, wide, narrow, atStart, p, name =>
    match name with
    | [] => matchesNothing (p.length + 1) p
    | _ :: _ =>
      match p with
      | [] => goBack fuel wide narrow p
      | b :: r =>
        if b = star then
          let double := r.head? = some star
          let rest := if double then r.drop 1 else r
          if double && atStart && rest.isEmpty then some true
          else if double && atStart && rest.head? = some slash then
            run fuel (some ⟨rest.drop 1, name⟩) none true (rest.drop 1) name
          else run fuel wide (some ⟨rest, name⟩) false rest name
        else if b = openBrace then
          match closing? 1 [] r with
          | none => none
          | some (inner, after) => runAny fuel wide narrow p (alternatives 1 [] inner) after name
        else
          match step p b r name with
          | .go p' name' s => run fuel wide narrow s p' name'
          | .back p' => goBack fuel wide narrow p'
          | .invalid => none

/-- Tries alternatives in place of the braces, which begin what is left of the pattern. -/
def runAny : (fuel : Nat) → (wide narrow : Option Resume) → (p : Bytes) → List Bytes → (after name : Bytes) → Option Bool
  | 0, _, _, _, _, _, _ => none
  | _, _, _, _, [], _, _ => some false
  | fuel + 1, wide, narrow, p, a :: as, after, name =>
    let with_ (r : Resume) := r.replaceEnd p (a ++ after)
    match run fuel (wide.map with_) (narrow.map with_) true (a ++ after) name with
    | some false => runAny fuel wide narrow p as after name
    | r => r

def goBack : (fuel : Nat) → (wide narrow : Option Resume) → (p : Bytes) → Option Bool
  | 0, _, _, _ => none
  | fuel + 1, wide, narrow, p =>
    let takeMore : Option Resume := narrow.bind fun n =>
      let (c, rest) := rune n.name
      if c = '/' then none else some { n with name := rest }
    match takeMore with
    | some n => run fuel wide (some n) false n.pattern n.name
    | none =>
      match wide.bind fun w => (nextSegment? w.name).map fun rest => { w with name := rest } with
      | some w => run fuel (some w) narrow true w.pattern w.name
      | none => if isValid p then some false else none

end

def isMatch (pattern name : Bytes) : Bool :=
  run (Nat.pow (pattern.length + name.length + 2) 4) none none true pattern name = some true

end Glob

end SourceSurvey
