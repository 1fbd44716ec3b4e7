import SourceSurvey.Datum.Yaml.Printer

namespace SourceSurvey

namespace Yaml

structure Row where
  indent : Nat
  text : List Char
  stop : Option Char

/-- The lines of a text, the current one begun by `line` last first. All line breaks but the two
separators count as newlines. -/
def rowsFrom (line : List Char) : List Char → List Row
  | [] => if line.isEmpty then [] else [make line none]
  | '\r' :: '\n' :: cs => make line (some '\n') :: rowsFrom [] cs
  | c :: cs =>
    if isBreak c then
      let kept := c.toNat = 0x2028 || c.toNat = 0x2029
      make line (some (if kept then c else '\n')) :: rowsFrom [] cs
    else rowsFrom (c :: line) cs
where
  make (line : List Char) (stop : Option Char) : Row :=
    let cs := line.reverse
    let text := cs.dropWhile (· = ' ')
    ⟨cs.length - text.length, text, stop⟩

namespace Row

def isEmpty (r : Row) : Bool := r.text.all isBlank

def isVoid (r : Row) : Bool := (r.text.dropWhile isBlank).head?.all (· = '#')

def isMark (mark : String) (r : Row) : Bool :=
  r.indent = 0 && r.text.take 3 = mark.toList && (r.text.drop 3).head?.all isBlank

def isDash (r : Row) : Bool := r.text.head? = some '-' && (r.text.drop 1).head?.all isBlank

def stops (r : Row) : List Char := r.stop.toList

end Row

structure Cursor where
  text : List Char
  stop : Option Char
  rows : List Row

/-- What a plain scalar is read as. A date is kept as it is spelled, as a number is. -/
def ofPlain (cs : List Char) : Datum :=
  let s := Utf8.encode cs
  let plain : Bytes := s.filter (· ≠ 95)
  match meaning s with
  | .null => .null
  | .bool b => .bool b
  | .int => Datum.ofInt ((intOf? plain).getD 0)
  | .float => .number plain
  | .timestamp => .number s
  | .text => .text s

def trimRight (cs : List Char) : List Char := (cs.reverse.dropWhile isBlank).reverse

def isDone (cs : List Char) : Bool :=
  match cs.dropWhile isBlank with
  | [] => true
  | c :: _ => c = '#' && cs.head?.all isBlank

/-- What the end of a line and the empty lines after it become inside a scalar: a space, or the
further line breaks. -/
def fold (stop : Option Char) (empties : List Row) : List Char :=
  let further := empties.flatMap Row.stops
  match stop with
  | some '\n' => if further.isEmpty then [' '] else further
  | s => s.toList ++ further

def Cursor.nextLine? (c : Cursor) : Option (List Char × Cursor) :=
  match c.rows.dropWhile Row.isEmpty with
  | [] => none
  | r :: rows => some (fold c.stop (c.rows.takeWhile Row.isEmpty), ⟨r.text.dropWhile isBlank, r.stop, rows⟩)

/-- The text of single quotes, whose opening has been read; `seen` holds it so far, last first, and
ends with `blanks` blanks. -/
def readSingle : (fuel : Nat) → (seen : List Char) → (blanks : Nat) → Cursor → Option (List Char × Cursor)
  | 0, _, _, _ => none
  | fuel + 1, seen, blanks, c =>
    match c.text with
    | '\'' :: '\'' :: cs => readSingle fuel ('\'' :: seen) 0 { c with text := cs }
    | '\'' :: cs => some (seen.reverse, { c with text := cs })
    | x :: cs => readSingle fuel (x :: seen) (if isBlank x then blanks + 1 else 0) { c with text := cs }
    | [] => do
      let (folded, next) ← c.nextLine?
      readSingle fuel (folded.reverse ++ seen.drop blanks) 0 next

def hexOf? (cs : List Char) : Option Nat := digitsOf? 16 (Utf8.encode cs)

def unescape? : List Char → Option (Char × List Char)
  | [] => none
  | c :: cs =>
    let coded (width : Nat) : Option (Char × List Char) := do
      if cs.length < width then none
      let n ← hexOf? (cs.take width)
      if (0xD800 ≤ n && n < 0xE000) || 0x10FFFF < n then none else some (Char.ofNat n, cs.drop width)
    if c = 'x' then coded 2
    else if c = 'u' then coded 4
    else if c = 'U' then coded 8
    else if c = ' ' || c = '/' || c = '\t' || c = '\'' then some (c, cs)
    else (shortEscapes.find? (·.2 = c)).map fun (n, _) => (Char.ofNat n, cs)

def readDouble : (fuel : Nat) → (seen : List Char) → (blanks : Nat) → Cursor → Option (List Char × Cursor)
  | 0, _, _, _ => none
  | fuel + 1, seen, blanks, c =>
    match c.text with
    | '"' :: cs => some (seen.reverse, { c with text := cs })
    | ['\\'] => do
      let (folded, next) ← c.nextLine?
      readDouble fuel ((folded.filter (· ≠ ' ')).reverse ++ seen) 0 next
    | '\\' :: cs => do
      let (x, rest) ← unescape? cs
      readDouble fuel (x :: seen) 0 { c with text := rest }
    | x :: cs => readDouble fuel (x :: seen) (if isBlank x then blanks + 1 else 0) { c with text := cs }
    | [] => do
      let (folded, next) ← c.nextLine?
      readDouble fuel (folded.reverse ++ seen.drop blanks) 0 next

/-- The part of a line that belongs to a plain scalar, and the rest. Inside flow collections their
punctuation ends it too. -/
def plainPart (flow : Bool) (seen : List Char) : List Char → List Char × List Char
  | [] => (seen.reverse, [])
  | c :: cs =>
    let marks := ",[]\x7b\x7d".toList
    let ends := (c = ':' && cs.head?.all (fun d => isBlank d || (flow && marks.contains d))) ||
      (c = '#' && seen.head?.any isBlank) || (flow && marks.contains c)
    if ends then (seen.reverse, c :: cs) else plainPart flow (c :: seen) cs

def startsPlain (c : Char) (next : Option Char) : Bool :=
  !"#,[]\x7b\x7d&*!|>'\"%@`".toList.contains c && (!"?:-".toList.contains c || next.any (!isBlank ·))

def splitKey? (text : List Char) : Option (List Char × List Char) :=
  let afterColon (rest : List Char) : Option (List Char) :=
    match rest.dropWhile isBlank with
    | ':' :: r => if r.head?.all isBlank then some r else none
    | _ => none
  match text with
  | '"' :: cs => do
    let (key, c) ← readDouble (cs.length + 1) [] 0 ⟨cs, none, []⟩
    return (key, ← afterColon c.text)
  | '\'' :: cs => do
    let (key, c) ← readSingle (cs.length + 1) [] 0 ⟨cs, none, []⟩
    return (key, ← afterColon c.text)
  | c :: cs =>
    if !startsPlain c cs.head? then none
    else
      let (key, rest) := plainPart false [] text
      (afterColon rest).map fun r => (trimRight key, r)
  | [] => none

/-- A plain scalar; lines indented at least `least` go on with it. -/
def readPlain (least : Nat) : (fuel : Nat) → (seen : List Char) → Cursor → Option (List Char × List Row)
  | 0, _, _ => none
  | fuel + 1, seen, c =>
    let (part, rest) := plainPart false [] c.text
    let seen := seen ++ trimRight part
    if !isDone rest && rest.head? ≠ some '#' then none
    else if !rest.isEmpty then some (seen, c.rows)
    else
      match c.rows.dropWhile Row.isEmpty with
      | [] => some (seen, c.rows)
      | r :: rows =>
        if r.indent < least || r.isVoid || r.isMark "---" || r.isMark "..." then some (seen, c.rows)
        else
          let folded := fold c.stop (c.rows.takeWhile Row.isEmpty)
          readPlain least fuel (seen ++ folded) ⟨r.text.dropWhile isBlank, r.stop, rows⟩

inductive Chomp
  | strip
  | clip
  | keep
  deriving DecidableEq

def blockHeader? : List Char → Option (Option Nat × Chomp)
  | cs =>
    let marks := cs.takeWhile fun c => c.isDigit || c = '+' || c = '-'
    let depth := (marks.find? Char.isDigit).map fun c => c.toNat - 48
    let chomp := match marks.find? (!·.isDigit) with
      | some '-' => Chomp.strip
      | some _ => .keep
      | none => .clip
    let rest := cs.drop marks.length
    if 2 < marks.length || depth = some 0 || !isDone rest || (rest.head?.any (!isBlank ·)) then none
    else some (depth, chomp)

def blockRows (least : Nat) (depth : Option Nat) (rows : List Row) : List (List Char × Option Char) × List Row :=
  let blank := rows.takeWhile fun r => r.text.isEmpty
  let found := (blank.map (·.indent)).foldl max (((rows.drop blank.length).head?.map (·.indent)).getD 0)
  let indent := match depth with
    | some k => (least - 1) + k
    | none => max (max found least) 1
  let inside (r : Row) : Bool := r.text.isEmpty || indent ≤ r.indent
  let body := rows.takeWhile inside
  (body.map fun r => (List.replicate (r.indent - indent) ' ' ++ r.text, r.stop), rows.drop body.length)

def literalText (chomp : Chomp) (lines : List (List Char × Option Char)) : List Char :=
  let trailing := lines.reverse.takeWhile (·.1.isEmpty)
  let body := lines.take (lines.length - trailing.length)
  let all := body.flatMap fun (l, stop) => l ++ stop.toList
  let final := (body.getLast?.bind (·.2)).toList
  match chomp with
  | .keep => all ++ trailing.flatMap (·.2.toList)
  | .clip => all
  | .strip => all.take (all.length - final.length)

/-- The text of a folded block: single line ends between lines that begin with no blank become
spaces. -/
def foldedText (chomp : Chomp) (lines : List (List Char × Option Char)) : List Char :=
  let trailing := lines.reverse.takeWhile (·.1.isEmpty)
  let body := lines.take (lines.length - trailing.length)
  let rec go (pending : List Char) (wasBlank : Bool) : List (List Char × Option Char) → List Char × List Char
    | [] => ([], pending)
    | (l, stop) :: rest =>
      if l.isEmpty then
        let (t, p) := go (pending ++ stop.toList) wasBlank rest
        (t, p)
      else
        let isBlankLine := l.head?.any isBlank
        let joined := match pending with
          | '\n' :: more => if wasBlank || isBlankLine then pending else if more.isEmpty then [' '] else more
          | p => p
        let (t, p) := go stop.toList isBlankLine rest
        (joined ++ l ++ t, p)
  let (t, final) := go [] true body
  match chomp with
  | .keep => t ++ final ++ trailing.flatMap (·.2.toList)
  | .clip => t ++ final
  | .strip => t

def base64Value? (b : UInt8) : Option Nat :=
  if Bytes.isUpper b then some (b.toNat - 65)
  else if Bytes.isLower b then some (b.toNat - 71)
  else if Bytes.isDigit b then some (b.toNat + 4)
  else if b = 43 then some 62
  else if b = 47 then some 63
  else none

def unbase64? : Bytes → Option Bytes
  | [] => some []
  | [a, b, 61, 61] => do return [((← base64Value? a) * 4 + (← base64Value? b) / 16).toUInt8]
  | [a, b, c, 61] => do
    let y ← base64Value? b
    return [((← base64Value? a) * 4 + y / 16).toUInt8, (y * 16 + (← base64Value? c) / 4).toUInt8]
  | a :: b :: c :: d :: s => do
    let y ← base64Value? b
    let z ← base64Value? c
    return ((← base64Value? a) * 4 + y / 16).toUInt8 :: (y * 16 + z / 4).toUInt8 ::
      (z * 64 + (← base64Value? d)).toUInt8 :: (← unbase64? s)
  | _ => none

def tagged? (tag : List Char) (d : Datum) : Option Datum :=
  if tag = "!!binary".toList then
    match d with
    | .text s => (unbase64? (s.filter fun b => b ≠ 10 && b ≠ 13)).map .text
    | _ => none
  else if tag = "!!str".toList then
    match d with
    | .number s => some (.text s)
    | .bool b => some (.text (utf8 (if b then "true" else "false")))
    | .null => some (.text [])
    | d => some d
  else some d

def addField? (fields : List (Bytes × Datum)) (name : List Char) (d : Datum) : Option (List (Bytes × Datum)) :=
  let key := Utf8.encode name
  if fields.any (·.1 = key) then none else some ((key, d) :: fields)

def Cursor.skip : (fuel : Nat) → Cursor → Cursor
  | 0, c => c
  | fuel + 1, c =>
    let text := c.text.dropWhile isBlank
    if (text.isEmpty || text.head? = some '#') && !c.rows.isEmpty then
      match c.rows with
      | r :: rows => Cursor.skip fuel ⟨r.text, r.stop, rows⟩
      | [] => c
    else { c with text }

mutual

def flowValue : (fuel : Nat) → Cursor → Option (Datum × Cursor)
  | 0, _ => none
  | fuel + 1, c =>
    match c.text with
    | '[' :: cs => flowItems fuel [] (Cursor.skip fuel { c with text := cs })
    | '\x7b' :: cs => flowFields fuel [] (Cursor.skip fuel { c with text := cs })
    | '"' :: cs => (readDouble fuel [] 0 { c with text := cs }).map fun (s, c) => (.text (Utf8.encode s), c)
    | '\'' :: cs => (readSingle fuel [] 0 { c with text := cs }).map fun (s, c) => (.text (Utf8.encode s), c)
    | x :: cs =>
      if !startsPlain x (cs.head?) then none
      else
        let (part, rest) := plainPart true [] c.text
        some (ofPlain (trimRight part), { c with text := rest })
    | [] => none

/-- The items of a list up to its closing bracket; `done` holds those before, last first. -/
def flowItems : (fuel : Nat) → (done : List Datum) → Cursor → Option (Datum × Cursor)
  | 0, _, _ => none
  | fuel + 1, done, c =>
    match c.text with
    | ']' :: cs => some (.list done.reverse, { c with text := cs })
    | _ => do
      let (d, c) ← flowValue fuel c
      let c := Cursor.skip fuel c
      let (d, c) ← match c.text with
        | ':' :: cs => do
          let (v, c) ← flowValue fuel (Cursor.skip fuel { c with text := cs })
          pure (.record [((d.text?).getD [], v)], Cursor.skip fuel c)
        | _ => pure (d, c)
      match c.text with
      | ',' :: cs => flowItems fuel (d :: done) (Cursor.skip fuel { c with text := cs })
      | ']' :: cs => some (.list (d :: done).reverse, { c with text := cs })
      | _ => none

def flowFields : (fuel : Nat) → (done : List (Bytes × Datum)) → Cursor → Option (Datum × Cursor)
  | 0, _, _ => none
  | fuel + 1, done, c =>
    match c.text with
    | '\x7d' :: cs => some (.record done.reverse, { c with text := cs })
    | _ => do
      let (key, c) ← flowKey fuel c
      let c := Cursor.skip fuel c
      let (d, c) ← match c.text with
        | ':' :: cs =>
          let c := Cursor.skip fuel { c with text := cs }
          if c.text.head?.any fun x => x = ',' || x = '\x7d' then pure (Datum.null, c) else flowValue fuel c
        | _ => pure (Datum.null, c)
      let c := Cursor.skip fuel c
      let done ← addField? done key d
      match c.text with
      | ',' :: cs => flowFields fuel done (Cursor.skip fuel { c with text := cs })
      | '\x7d' :: cs => some (.record done.reverse, { c with text := cs })
      | _ => none

def flowKey : (fuel : Nat) → Cursor → Option (List Char × Cursor)
  | 0, _ => none
  | fuel + 1, c =>
    match c.text with
    | '"' :: cs => readDouble fuel [] 0 { c with text := cs }
    | '\'' :: cs => readSingle fuel [] 0 { c with text := cs }
    | x :: cs =>
      if !startsPlain x cs.head? then none
      else
        let (part, rest) := plainPart true [] c.text
        some (trimRight part, { c with text := rest })
    | [] => none

end

def finish? (d : Datum) (c : Cursor) : Option (Datum × List Row) := if isDone c.text then some (d, c.rows) else none

mutual

def inlineValue : (fuel : Nat) → (least : Nat) → Cursor → Option (Datum × List Row)
  | 0, _, _ => none
  | fuel + 1, least, c =>
    let text := c.text.dropWhile isBlank
    let c := { c with text }
    match text with
    | '!' :: _ => do
      let tag := text.takeWhile (!isBlank ·)
      let (d, rows) ← inlineValue fuel least { c with text := text.drop tag.length }
      return (← tagged? tag d, rows)
    | '&' :: _ => inlineValue fuel least { c with text := text.dropWhile (!isBlank ·) }
    | '|' :: cs => do
      let (depth, chomp) ← blockHeader? cs
      let (lines, rows) := blockRows least depth c.rows
      return (.text (Utf8.encode (literalText chomp lines)), rows)
    | '>' :: cs => do
      let (depth, chomp) ← blockHeader? cs
      let (lines, rows) := blockRows least depth c.rows
      return (.text (Utf8.encode (foldedText chomp lines)), rows)
    | '"' :: cs => do
      let (s, c) ← readDouble fuel [] 0 { c with text := cs }
      finish? (.text (Utf8.encode s)) c
    | '\'' :: cs => do
      let (s, c) ← readSingle fuel [] 0 { c with text := cs }
      finish? (.text (Utf8.encode s)) c
    | '[' :: _ | '\x7b' :: _ => do
      let (d, c) ← flowValue fuel c
      finish? d c
    | [] => node fuel least c.rows
    | x :: cs =>
      if x = '#' then node fuel least c.rows
      else if !startsPlain x cs.head? then none
      else do
        let (s, rows) ← readPlain least fuel [] c
        return (ofPlain s, rows)

def node : (fuel : Nat) → (least : Nat) → List Row → Option (Datum × List Row)
  | 0, _, _ => none
  | fuel + 1, least, rows =>
    match rows.dropWhile Row.isVoid with
    | [] => some (.null, [])
    | r :: rest =>
      if r.indent < least then some (.null, r :: rest)
      else if r.isDash then dashRows fuel r.indent [] (r :: rest)
      else if (splitKey? r.text).isSome then keyRows fuel r.indent [] (r :: rest)
      else if r.text.head? = some '\t' then none
      else inlineValue fuel least ⟨r.text, r.stop, rest⟩

def dashRows : (fuel : Nat) → (indent : Nat) → (done : List Datum) → List Row → Option (Datum × List Row)
  | 0, _, _, _ => none
  | fuel + 1, indent, done, rows =>
    match rows.dropWhile Row.isVoid with
    | [] => some (.list done.reverse, [])
    | r :: rest =>
      if indent < r.indent then none
      else if r.indent < indent || !r.isDash then some (.list done.reverse, r :: rest)
      else do
        let text := (r.text.drop 1).dropWhile isBlank
        let (d, rows) ←
          if text.isEmpty || text.head? = some '#' then node fuel (indent + 1) rest
          else node fuel (indent + 1) (⟨indent + (r.text.length - text.length), text, r.stop⟩ :: rest)
        dashRows fuel indent (d :: done) rows

def keyRows : (fuel : Nat) → (indent : Nat) → (done : List (Bytes × Datum)) → List Row → Option (Datum × List Row)
  | 0, _, _, _ => none
  | fuel + 1, indent, done, rows =>
    match rows.dropWhile Row.isVoid with
    | [] => some (.record done.reverse, [])
    | r :: rest =>
      if indent < r.indent then none
      else if r.indent < indent then some (.record done.reverse, r :: rest)
      else if r.isMark "..." || r.isMark "---" then some (.record done.reverse, r :: rest)
      else do
        let (key, after) ← splitKey? r.text
        let text := after.dropWhile isBlank
        let below := (rest.dropWhile Row.isVoid).head?
        let (d, rows) ←
          if (text.isEmpty || text.head? = some '#') && below.any (fun b => b.indent = indent && b.isDash) then
            dashRows fuel indent [] rest
          else inlineValue fuel (indent + 1) ⟨text, r.stop, rest⟩
        keyRows fuel indent (← addField? done key d) rows

end

def parse? (s : Bytes) : Option Datum := do
  if !Utf8.isValid s then none
  let cs := Utf8.chars s
  let cs := if cs.head? = some '\uFEFF' then cs.drop 1 else cs
  let rows := rowsFrom [] cs
  let start := rows.dropWhile fun r => r.isVoid || (r.indent = 0 && r.text.head? = some '%')
  let rows := match start with
    | r :: rest => if r.isMark "---" then ⟨3, (r.text.drop 3).dropWhile isBlank, r.stop⟩ :: rest else start
    | [] => []
  let (d, rest) ← node (2 * cs.length + rows.length + 10) 0 rows
  if (rest.dropWhile Row.isVoid).head?.all (fun r => r.isMark "..." || r.isMark "---") then some d else none

end Yaml

end SourceSurvey
