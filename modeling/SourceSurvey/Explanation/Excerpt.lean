import SourceSurvey.Text.Letter

namespace SourceSurvey

namespace Excerpt

def truncationMarker : Bytes := utf8 "... [truncated]"

def separators : List Bytes := ["\n\n", "\n", " ", ""].map utf8

def divide (separator text : Bytes) : List Bytes :=
  if separator.isEmpty then (Utf8.glyphs text).map (·.raw) else text.splitOn separator

/-- The pieces being put together: the finished chunks and the current pieces, both last first, and
the length of the current ones together. -/
structure Merge where
  chunks : List Bytes := []
  current : List Bytes := []
  total : Nat := 0

variable (limit : Nat) (separator : Bytes)

def Merge.finish (m : Merge) : Merge :=
  let chunk := (Bytes.join separator m.current.reverse).strip
  if chunk.isEmpty then m else { m with chunks := chunk :: m.chunks }

/-- Drops pieces from the front until nothing of them counts. -/
def dropPieces : List Bytes → Nat → List Bytes × Nat
  | [], total => ([], total)
  | p :: ps, total =>
    if 0 < total then
      dropPieces ps (total - Utf8.length p - (if ps.isEmpty then 0 else Utf8.length separator))
    else (p :: ps, total)

def Merge.add (m : Merge) (piece : Bytes) : Merge :=
  let width := Utf8.length piece
  let gap := if m.current.isEmpty then 0 else Utf8.length separator
  let m :=
    if limit < m.total + width + gap && !m.current.isEmpty then
      let closed := m.finish separator
      let (kept, total) := dropPieces separator m.current.reverse m.total
      { closed with current := kept.reverse, total }
    else m
  let gap := if m.current.isEmpty then 0 else Utf8.length separator
  { m with current := piece :: m.current, total := m.total + width + gap }

def merge (pieces : List Bytes) : List Bytes :=
  ((pieces.foldl (Merge.add limit separator) {}).finish separator).chunks.reverse

/-- Merges runs of short pieces and divides long ones further. -/
def arrange (deeper : Bytes → List Bytes) : (short : List Bytes) → List Bytes → List Bytes
  | short, [] => if short.isEmpty then [] else merge limit separator short.reverse
  | short, p :: ps =>
    if Utf8.length p < limit then arrange deeper (p :: short) ps
    else
      (if short.isEmpty then [] else merge limit separator short.reverse) ++ deeper p ++ arrange deeper [] ps

def chunks : List Bytes → Bytes → List Bytes
  | [], text => [text]
  | s :: finer, text =>
    if s.isEmpty || text.includes s then
      let deeper := if finer.isEmpty then fun p => [p] else chunks finer
      arrange limit s deeper [] (divide s text)
    else chunks finer text

end Excerpt

/-- At most `limit` characters of a text, or all of it if the limit is not positive. A shortened
excerpt ends in a mark of its own. -/
def excerpt (limit : Int) (text : Bytes) : Bytes :=
  if limit ≤ 0 || (Utf8.length text : Int) ≤ limit then text
  else
    let n := limit.toNat
    let head := (Excerpt.chunks n Excerpt.separators text).headD []
    let head :=
      if head.isEmpty || n < Utf8.length head then Utf8.encode ((Utf8.chars text).take n) else head
    head.dropRight (fun b => b = 32 || b = 9 || b = 13 || b = 10) ++ [10] ++ Excerpt.truncationMarker

end SourceSurvey
