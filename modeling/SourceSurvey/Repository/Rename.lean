import SourceSurvey.Text.Bytes

namespace SourceSurvey

abbrev Snapshot := List (String × Bytes)

namespace Rename

def shared {α : Type} [DecidableEq α] : List α → List α → Nat
  | a :: as, b :: bs => if a = b then shared as bs + 1 else 0
  | _, _ => 0

/-- How alike two paths are, in percent: half for their directories, compared from both ends, and
half for the ends of their names. -/
def nameScore (a b : String) : Nat :=
  let split (s : Bytes) : Bytes × Bytes :=
    let name := (s.reverse.takeWhile (· ≠ 47)).reverse
    (s.take (s.length - name.length), name)
  let (aDir, aName) := split (utf8 a)
  let (bDir, bName) := split (utf8 b)
  let longest := max aDir.length bDir.length
  let forwards := if longest = 0 then 100 else shared aDir bDir * 100 / longest
  let backwards := if forwards = 100 then 100 else shared aDir.reverse bDir.reverse * 100 / longest
  let name := shared aName.reverse bName.reverse * 100 / max aName.length bName.length
  ((forwards + backwards) * 25 + name * 50) / 100

/-- Blocks are lines, cut after this many bytes. -/
def blockSize : Nat := 64

/-- The blocks of a content, each with the number of bytes it stands for. The end of a line counts
but does not distinguish blocks. -/
def blocksFrom : (block : Bytes) → (room : Nat) → Bytes → List (Bytes × Nat)
  | block, _, [] => if block.isEmpty then [] else [(block.reverse, block.length)]
  | block, room, b :: s =>
    if b = 10 then (block.reverse, block.length + 1) :: blocksFrom [] blockSize s
    else if room ≤ 1 then ((b :: block).reverse, block.length + 1) :: blocksFrom [] blockSize s
    else blocksFrom (b :: block) (room - 1) s

def withoutReturns : Bytes → Bytes
  | 13 :: 10 :: s => 10 :: withoutReturns s
  | b :: s => b :: withoutReturns s
  | [] => []

def isText (s : Bytes) : Bool := !(s.take 8000).contains 0

def blocks (s : Bytes) : List (Bytes × Nat) := blocksFrom [] blockSize (if isText s then withoutReturns s else s)

def weight (block : Bytes) (bs : List (Bytes × Nat)) : Nat :=
  ((bs.filter (·.1 = block)).map (·.2)).foldr (· + ·) 0

def contentScore (a b : Bytes) : Nat :=
  let x := blocks a
  let y := blocks b
  let total := max ((x.map (·.2)).foldr (· + ·) 0) ((y.map (·.2)).foldr (· + ·) 0)
  if total = 0 then 10000
  else (((x.map (·.1)).eraseDups.map fun k => min (weight k x) (weight k y)).foldr (· + ·) 0) * 10000 / total

def threshold : Nat := 60

def score? (gone come : String × Bytes) : Option Nat :=
  let small := min gone.2.length come.2.length + 1
  let large := max gone.2.length come.2.length + 1
  if small * 100 / large < threshold then none
  else
    let score := (contentScore gone.2 come.2 * 99 + nameScore gone.1 come.1 * 100) / 10000
    if score < threshold then none else some score

structure Pair where
  come : Nat
  gone : Nat
  score : Nat
  deriving Repr, DecidableEq

/-- Higher scores go first; of equal scores the later files. -/
def Pair.precedes (p q : Pair) : Bool :=
  if p.score ≠ q.score then q.score < p.score
  else if p.come ≠ q.come then q.come < p.come
  else q.gone ≤ p.gone

def claim : (taken : List Pair) → List Pair → List Pair
  | taken, [] => taken
  | taken, p :: ps =>
    if taken.any fun q => q.come = p.come || q.gone = p.gone then claim taken ps else claim (p :: taken) ps

def pairs (score : String × Bytes → String × Bytes → Option Nat) (gone come : Snapshot) : List Pair :=
  let all := (gone.zipIdx.map fun (g, i) => come.zipIdx.filterMap fun (c, j) => (score g c).map fun s => Pair.mk j i s).flatten
  claim [] (all.mergeSort Pair.precedes)

/-- The place of the path most alike a given one, if any is alike at all; the first of several. -/
def mostAlike? (path : String) (files : Snapshot) : Option Nat :=
  let scored := files.zipIdx.map fun ((p, _), i) => (nameScore path p, i)
  let best := scored.foldl (fun b (s, i) => if b.1 < s then (s, some i) else b) ((0, none) : Nat × Option Nat)
  best.2

def equalPairs (gone come : Snapshot) : List Pair :=
  match gone, come with
  | [_], [_] => [⟨0, 0, 100⟩]
  | gone, [c] => ((mostAlike? c.1 gone).map fun i => Pair.mk 0 i 100).toList
  | [g], come => ((mostAlike? g.1 come).map fun j => Pair.mk j 0 100).toList
  | gone, come => pairs (fun g c => some (nameScore c.1 g.1)) gone come

def unclaimed (files : Snapshot) (place : Pair → Nat) (ps : List Pair) : Snapshot :=
  (files.zipIdx.filter fun (_, i) => !ps.any fun p => place p = i).map (·.1)

def withoutEqual (gone come : Snapshot) : Snapshot × Snapshot :=
  let contents := (gone.map (·.2)).eraseDups
  let group (c : Bytes) (files : Snapshot) := files.filter (·.2 = c)
  let matched := contents.map fun c => (group c gone, group c come, equalPairs (group c gone) (group c come))
  let left := (matched.map fun (g, _, ps) => unclaimed g Pair.gone ps).flatten
  let right := (matched.map fun (_, c, ps) => unclaimed c Pair.come ps).flatten
  (gone.filter left.contains, come.filter fun c => right.contains c || !contents.contains c.2)

/-- The files among `gone` that did not move to one among `come`. -/
def vanished (gone come : Snapshot) : Snapshot :=
  let (gone, come) := withoutEqual gone come
  unclaimed gone Pair.gone (pairs score? gone come)

end Rename

namespace Snapshot

/-- The paths at which two snapshots differ; a file that moved is known by its new path only. -/
def changes (before after : Snapshot) : List String :=
  let gone := before.filter fun (p, _) => (after.lookup p).isNone
  let come := after.filter fun (p, _) => (before.lookup p).isNone
  let modified := after.filter fun (p, c) => (before.lookup p).any (· ≠ c)
  (come ++ modified ++ Rename.vanished gone come).map (·.1)

end Snapshot

end SourceSurvey
