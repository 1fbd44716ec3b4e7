import SourceSurvey.Text.Letter

namespace SourceSurvey

namespace Charset

namespace Meta

def isBlank (b : UInt8) : Bool := b = 32 || b = 9 || b = 10 || b = 12 || b = 13

def value (s : Bytes) : Bytes × Bytes :=
  match s with
  | q :: r =>
    if q = 34 || q = 39 then (r.takeWhile (· ≠ q), (r.dropWhile (· ≠ q)).drop 1)
    else
      let stop (b : UInt8) := isBlank b || b = 62
      (s.takeWhile (!stop ·), s.dropWhile (!stop ·))
  | [] => ([], [])

def attributes : Nat → Bytes → List (Bytes × Bytes) × Bytes
  | 0, s => ([], s)
  | n + 1, s =>
    match s.dropWhile fun b => isBlank b || b = 47 with
    | [] => ([], [])
    | 62 :: rest => ([], rest)
    | s =>
      let stop (b : UInt8) := isBlank b || b = 61 || b = 62 || b = 47
      -- an equals sign in front belongs to the key
      let lead := s.take 1
      let key := Bytes.lowerAscii (lead ++ (s.drop 1).takeWhile (!stop ·))
      let rest := ((s.drop 1).dropWhile (!stop ·)).dropWhile isBlank
      match rest with
      | 61 :: r =>
        let (v, rest) := value (r.dropWhile isBlank)
        let (more, rest) := attributes n rest
        ((key, v) :: more, rest)
      | _ =>
        let (more, rest) := attributes n rest
        ((key, []) :: more, rest)

def fromContent : Nat → Bytes → Bytes
  | 0, _ => []
  | n + 1, s =>
    match s.cut? (utf8 "charset") with
    | none => []
    | some (_, rest) =>
      match rest.dropWhile isBlank with
      | 61 :: r =>
        match r.dropWhile isBlank with
        | [] => []
        | q :: r' =>
          if q = 34 || q = 39 then if r'.contains q then r'.takeWhile (· ≠ q) else []
          else (q :: r').takeWhile fun b => !isBlank b && b ≠ 59
      | s => fromContent n s

def firstValues (attrs : List (Bytes × Bytes)) : List (Bytes × Bytes) :=
  attrs.foldl (fun seen a => if seen.any (·.1 = a.1) then seen else seen ++ [(a.1, a.2.lowerAscii)]) []

/-- What the attributes of one tag declare, `known` telling the name behind a label. -/
def declared? (known : Bytes → Option String) (attrs : List (Bytes × Bytes)) : Option String :=
  let step (s : Option String × Bool × Bool × Bool) (a : Bytes × Bytes) :=
    let (name, pragma, needs, decided) := s
    if a.1 = utf8 "http-equiv" then (name, pragma || a.2 = utf8 "content-type", needs, decided)
    else if a.1 = utf8 "content" && name.isNone then
      match known (fromContent a.2.length a.2) with
      | some n => (some n, pragma, true, true)
      | none => s
    else if a.1 = utf8 "charset" then (known a.2, pragma, false, true)
    else s
  let (name, pragma, needs, decided) := (firstValues attrs).foldl step (none, false, false, false)
  if !decided || (needs && !pragma) then none
  else name.map fun n => if n.startsWith "utf-16" then "utf-8" else n

def rawElements : List Bytes :=
  ["iframe", "noembed", "noframes", "noscript", "plaintext", "script", "style", "title", "textarea", "xmp"].map utf8

def afterRaw (name : Bytes) : Nat → Bytes → Bytes
  | 0, _ => []
  | n + 1, s =>
    match s.cut? (utf8 "</") with
    | none => []
    | some (_, rest) =>
      if Bytes.lowerAscii (rest.take name.length) = name then rest.drop name.length else afterRaw name n rest

def search? (known : Bytes → Option String) : Nat → Bytes → Option String
  | 0, _ => none
  | n + 1, s =>
    match s.cut? [60] with
    | none => none
    | some (_, rest) =>
      match rest with
      | [] => none
      | b :: _ =>
        if rest.startsWith (utf8 "!--") then
          match Bytes.cut? (rest.drop 3) (utf8 "-->") with
          | none => none
          | some (_, r) => search? known n r
        else if b = 33 || b = 63 || b = 47 then
          match rest.cut? [62] with
          | none => none
          | some (_, r) => search? known n r
        else if !Bytes.isAlpha b then search? known n rest
        else
          let stop (b : UInt8) := isBlank b || b = 62 || b = 47
          let name := Bytes.lowerAscii (rest.takeWhile (!stop ·))
          let (attrs, after) := attributes rest.length (rest.dropWhile (!stop ·))
          let found := if name = utf8 "meta" then declared? known attrs else none
          match found with
          | some e => some e
          | none => search? known n (if rawElements.contains name then afterRaw name after.length after else after)

end Meta

end Charset

end SourceSurvey
