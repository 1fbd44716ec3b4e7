import SourceSurvey.Datum.Basic

namespace SourceSurvey

namespace Json

def hexDigit (n : Nat) : UInt8 := (if n < 10 then 48 + n else 87 + n).toUInt8

def unitEscape (n : Nat) : Bytes :=
  utf8 "\\u" ++ [hexDigit (n / 4096 % 16), hexDigit (n / 256 % 16), hexDigit (n / 16 % 16), hexDigit (n % 16)]

def escapeChar (c : Char) : Bytes :=
  let n := c.toNat
  if c = '"' || c = '\\' then [92, n.toUInt8]
  else if n = 8 then utf8 "\\b"
  else if n = 9 then utf8 "\\t"
  else if n = 10 then utf8 "\\n"
  else if n = 12 then utf8 "\\f"
  else if n = 13 then utf8 "\\r"
  else if n < 0x20 || c = '<' || c = '>' || c = '&' || n = 0x2028 || n = 0x2029 then unitEscape n
  else Utf8.encodeChar c

def quote (s : Bytes) : Bytes := 34 :: ((Utf8.chars s).flatMap escapeChar ++ [34])

inductive Layout
  | compact
  | indented
  deriving Repr, DecidableEq

def Layout.breakLine (l : Layout) (depth : Nat) : Bytes :=
  match l with
  | compact => []
  | indented => 10 :: List.replicate (2 * depth) 32

def Layout.colon : Layout → Bytes
  | compact => [58]
  | indented => [58, 32]

mutual

def renderAt (l : Layout) (depth : Nat) : Datum → Bytes
  | .null => utf8 "null"
  | .bool b => utf8 (if b then "true" else "false")
  | .number literal => literal
  | .text s => quote s
  | .list items =>
    if items.isEmpty then [91, 93]
    else 91 :: (renderItems l (depth + 1) true items ++ l.breakLine depth ++ [93])
  | .record fields =>
    if fields.isEmpty then [123, 125]
    else 123 :: (renderFields l (depth + 1) true fields ++ l.breakLine depth ++ [125])

def renderItems (l : Layout) (depth : Nat) (first : Bool) : List Datum → Bytes
  | [] => []
  | d :: ds =>
    (if first then [] else [44]) ++ l.breakLine depth ++ renderAt l depth d ++ renderItems l depth false ds

def renderFields (l : Layout) (depth : Nat) (first : Bool) : List (Bytes × Datum) → Bytes
  | [] => []
  | (k, d) :: fs =>
    (if first then [] else [44]) ++ l.breakLine depth ++ quote k ++ l.colon ++ renderAt l depth d ++
      renderFields l depth false fs

end

def render (l : Layout) (d : Datum) : Bytes := renderAt l 0 d

inductive Token
  | mark (b : UInt8)
  | text (s : Bytes)
  | value (d : Datum)
  deriving Repr

def hexValue? (b : UInt8) : Option Nat :=
  if Bytes.isDigit b then some (b.toNat - 48)
  else if 97 ≤ b && b ≤ 102 then some (b.toNat - 87)
  else if 65 ≤ b && b ≤ 70 then some (b.toNat - 55)
  else none

/-- The code unit that four hexadecimal digits spell, and the rest. -/
def unit? : Bytes → Option (Nat × Bytes)
  | a :: b :: c :: d :: s => do
    let n := (← hexValue? a) * 4096 + (← hexValue? b) * 256 + (← hexValue? c) * 16 + (← hexValue? d)
    return (n, s)
  | _ => none

theorem unit?_length {s r : Bytes} {n : Nat} (h : unit? s = some (n, r)) : r.length < s.length := by
  unfold unit? at h
  split at h
  · simp [Option.bind_eq_some_iff] at h
    obtain ⟨_, _, _, _, _, _, _, _, _, rfl⟩ := h
    simp
    omega
  · simp at h

/-- The character of an escape of code units, whose mark has been read, and the rest. Half of a pair
that stands alone is the replacement character. -/
def unicode? (s : Bytes) : Option (Char × Bytes) :=
  match unit? s with
  | none => none
  | some (u, r) =>
    if u < 0xD800 || 0xDFFF < u then some (Char.ofNat u, r)
    else
      match (Bytes.dropStart? (utf8 "\\u") r).bind unit? with
      | some (v, t) =>
        if u < 0xDC00 && 0xDC00 ≤ v && v ≤ 0xDFFF && t.length < s.length then
          some (Char.ofNat (0x10000 + (u - 0xD800) * 0x400 + (v - 0xDC00)), t)
        else some (Utf8.replacement, r)
      | none => some (Utf8.replacement, r)

theorem unicode?_length {s r : Bytes} {c : Char} (h : unicode? s = some (c, r)) : r.length < s.length := by
  unfold unicode? at h
  split at h
  · simp at h
  · rename_i hu
    have := unit?_length hu
    grind

def shortEscape? (b : UInt8) : Option UInt8 :=
  if b = 34 || b = 92 || b = 47 then some b
  else if b = 98 then some 8
  else if b = 102 then some 12
  else if b = 110 then some 10
  else if b = 114 then some 13
  else if b = 116 then some 9
  else none

/-- The text up to the closing quote and the rest; `seen` holds the bytes before, last first. -/
def readText (seen : Bytes) (s : Bytes) : Option (Bytes × Bytes) :=
  match s with
  | [] => none
  | b :: r =>
    if b = 34 then some (Utf8.repair seen.reverse, r)
    else if b < 32 then none
    else if b = 92 then
      match r with
      | [] => none
      | e :: t =>
        if e = 117 then
          match _h : unicode? t with
          | some (c, u) => readText ((Utf8.encodeChar c).reverse ++ seen) u
          | none => none
        else
          match shortEscape? e with
          | some x => readText (x :: seen) t
          | none => none
    else readText (b :: seen) r
termination_by s.length
decreasing_by
  · have := unicode?_length _h; simp; omega
  · simp only [List.length_cons]; omega
  · simp

def isBlank (b : UInt8) : Bool := b = 32 || b = 9 || b = 10 || b = 13

def digits? (s : Bytes) : Option (Bytes × Bytes) :=
  let ds := s.takeWhile Bytes.isDigit
  if ds.isEmpty then none else some (ds, s.dropWhile Bytes.isDigit)

/-- The part of a number in front of its fraction: no zero stands before another digit. -/
def whole? (s : Bytes) : Option (Bytes × Bytes) :=
  match s with
  | 48 :: r => some ([48], r)
  | _ => digits? s

def fraction? (s : Bytes) : Option (Bytes × Bytes) :=
  match s with
  | 46 :: r => (digits? r).map fun (ds, t) => (46 :: ds, t)
  | _ => some ([], s)

def exponent? (s : Bytes) : Option (Bytes × Bytes) :=
  match s with
  | e :: r =>
    if e = 101 || e = 69 then
      match r with
      | [] => none
      | c :: t =>
        if c = 43 || c = 45 then (digits? t).map fun (ds, u) => (e :: c :: ds, u)
        else (digits? r).map fun (ds, u) => (e :: ds, u)
    else some ([], s)
  | [] => some ([], [])

def number? (s : Bytes) : Option (Bytes × Bytes) := do
  let (sign, s) := match s with
    | 45 :: r => ([45], r)
    | _ => (([] : Bytes), s)
  let (w, s) ← whole? s
  let (f, s) ← fraction? s
  let (e, s) ← exponent? s
  return (sign ++ w ++ f ++ e, s)

def words : List (String × Datum) := [("null", .null), ("true", .bool true), ("false", .bool false)]

def token? (s : Bytes) : Option (Token × Bytes) :=
  match s with
  | [] => none
  | b :: r =>
    if (utf8 "[]\x7b\x7d:,").contains b then some (.mark b, r)
    else if b = 34 then (readText [] r).map fun (t, u) => (.text t, u)
    else
      match words.findSome? fun (w, d) => (Bytes.dropStart? (utf8 w) s).map fun u => (Token.value d, u) with
      | some found => some found
      | none => (number? s).map fun (n, u) => (.value (.number n), u)

/-- A container still open, its members last first. -/
inductive Frame
  | list (done : List Datum)
  | record (done : List (Bytes × Datum)) (name : Bytes)

inductive Phase
  | value
  | valueOrClose
  | name (closable : Bool)
  | colon
  | commaOrClose
  | finished (d : Datum)

structure Reader where
  frames : List Frame
  phase : Phase

namespace Reader

def start : Reader := ⟨[], .value⟩

def maxDepth : Nat := 10000

def place (d : Datum) : List Frame → Reader
  | [] => ⟨[], .finished d⟩
  | .list done :: fs => ⟨.list (d :: done) :: fs, .commaOrClose⟩
  | .record done name :: fs => ⟨.record ((name, d) :: done) name :: fs, .commaOrClose⟩

def openWith (f : Frame) (p : Phase) (fs : List Frame) : Option Reader :=
  if fs.length < maxDepth then some ⟨f :: fs, p⟩ else none

def takeValue (fs : List Frame) : Token → Option Reader
  | .text s => some (place (.text s) fs)
  | .value d => some (place d fs)
  | .mark b =>
    if b = 91 then openWith (.list []) .valueOrClose fs
    else if b = 123 then openWith (.record [] []) (.name true) fs
    else none

def close (b : UInt8) : List Frame → Option Reader
  | .list done :: fs => if b = 93 then some (place (.list done.reverse) fs) else none
  | .record done _ :: fs => if b = 125 then some (place (.record done.reverse) fs) else none
  | [] => none

def take (r : Reader) (t : Token) : Option Reader :=
  match r.phase, t, r.frames with
  | .value, t, fs => takeValue fs t
  | .valueOrClose, .mark 93, fs => close 93 fs
  | .valueOrClose, t, fs => takeValue fs t
  | .name _, .text s, .record done _ :: fs => some ⟨.record done s :: fs, .colon⟩
  | .name true, .mark 125, fs => close 125 fs
  | .colon, .mark 58, fs => some ⟨fs, .value⟩
  | .commaOrClose, .mark 44, .list done :: fs => some ⟨.list done :: fs, .value⟩
  | .commaOrClose, .mark 44, .record done n :: fs => some ⟨.record done n :: fs, .name false⟩
  | .commaOrClose, .mark b, fs => close b fs
  | _, _, _ => none

/-- Reads tokens until a value is complete; gives it with the rest of the text. -/
def read : (fuel : Nat) → Reader → Bytes → Option (Datum × Bytes)
  | 0, _, _ => none
  | fuel + 1, r, s => do
    let (t, rest) ← token? (s.dropLeft isBlank)
    let r ← r.take t
    match r.phase with
    | .finished d => return (d, rest)
    | _ => read fuel r rest

end Reader

def first? (s : Bytes) : Option Datum := (Reader.read (s.length + 1) .start s).map (·.1)

def parse? (s : Bytes) : Option Datum := do
  let (d, rest) ← Reader.read (s.length + 1) .start s
  if rest.all isBlank then some d else none

end Json

end SourceSurvey
