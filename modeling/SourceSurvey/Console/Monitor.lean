import SourceSurvey.Scan.File

namespace SourceSurvey

structure StatusUpdate where
  path : String
  status : String
  message : String := ""
  /-- In nanoseconds. -/
  duration : Int := 0
  deriving Repr, DecidableEq

inductive MonitorMessage
  | resized (width height : Int)
  | key (name : String)
  | tick
  | discovered (path : String)
  | status (u : StatusUpdate)
  | complete (r : Report)
  | refresh
  deriving Repr, DecidableEq

inductive MonitorCommand
  | nothing
  | refreshSoon
  | quit
  deriving Repr, DecidableEq

inductive Phase
  | initializing
  | scanning
  | analyzing
  | complete
  deriving Repr, DecidableEq

def Phase.title : Phase → String
  | initializing => "Initializing..."
  | scanning => "Scanning..."
  | analyzing => "Analyzing..."
  | complete => "Complete"

structure MonitorItem where
  path : String
  status : String := FileStatus.pending.name
  message : String := ""
  duration : Int := 0
  deriving Repr, DecidableEq

structure MonitorCounts where
  discovered : Int := 0
  processed : Int := 0
  cached : Int := 0
  skipped : Int := 0
  failed : Int := 0
  degraded : Int := 0
  deriving Repr, DecidableEq

structure Monitor where
  version : String
  width : Option Int := none
  quitting : Bool := false
  items : List MonitorItem := []
  /-- Where the item of each file met stands among the items. -/
  index : List (String × Nat) := []
  counts : MonitorCounts := {}
  refreshing : Bool := false
  shown : List MonitorItem := []
  selected : Nat := 0
  languages : List (String × Int) := []
  phase : Phase := .initializing
  fatal : String := ""
  deriving Repr, DecidableEq

namespace Monitor

def ofVersion (v : String) : Monitor := { version := if v = "" then "dev" else v }

def finals : List FileStatus := [.success, .failed, .skipped, .cached]

def isFinal (status : String) : Bool := finals.any (·.name = status)

def count (c : MonitorCounts) (status : String) (delta : Int) : MonitorCounts :=
  if status = FileStatus.success.name then { c with processed := c.processed + delta }
  else if status = FileStatus.cached.name then { c with processed := c.processed + delta, cached := c.cached + delta }
  else if status = FileStatus.skipped.name then { c with skipped := c.skipped + delta }
  else if status = FileStatus.failed.name then { c with failed := c.failed + delta }
  else c

variable (m : Monitor)

def position? (path : String) : Option Nat := m.index.lookup path

def add (path : String) : Monitor :=
  { m with
    items := m.items ++ [{ path }]
    index := (path, m.items.length) :: m.index
    counts := { m.counts with discovered := m.counts.discovered + 1 } }

def MonitorItem.update (i : MonitorItem) (u : StatusUpdate) : MonitorItem :=
  { i with
    status := u.status
    message := u.message
    duration := if u.status = FileStatus.processing.name then 0 else if isFinal u.status then u.duration else i.duration }

def setStatus (u : StatusUpdate) : Monitor :=
  let (m, position) := match position? m u.path with
    | some i => (m, i)
    | none => (add m u.path, m.items.length)
  match m.items[position]? with
  | none => m
  | some i =>
    let counts := if isFinal i.status then count m.counts i.status (-1) else m.counts
    { m with
      items := m.items.set position (MonitorItem.update i u)
      counts := if isFinal u.status then count counts u.status 1 else counts }

def completed (r : Report) : Monitor :=
  let s := r.summary
  let fatal := if !s.fatal then m.fatal
    else
      match r.failed.find? (·.fatal) with
      | some e => "Fatal error: " ++ e.error ++ " (" ++ e.path ++ ")"
      | none => "Scan halted by a fatal error."
  { m with
    phase := .complete
    counts := { m.counts with
      processed := s.processed, cached := s.cached, skipped := s.skipped, failed := s.failed, degraded := s.degraded }
    languages := s.languages
    fatal }

def refreshSoon : Monitor × MonitorCommand :=
  if m.refreshing then (m, .nothing) else ({ m with refreshing := true }, .refreshSoon)

def move (key : String) : Monitor :=
  let last := m.shown.length - 1
  match key with
  | "j" | "down" => { m with selected := min (m.selected + 1) last }
  | "k" | "up" => { m with selected := m.selected - 1 }
  | "g" | "home" => { m with selected := 0 }
  | "G" | "end" => { m with selected := last }
  | _ => m

def update : MonitorMessage → Monitor × MonitorCommand
  | .resized w _ => ({ m with width := some w }, .nothing)
  | .key k =>
    if m.quitting then (m, .nothing)
    else if k = "q" || k = "ctrl+c" then ({ m with quitting := true }, .quit)
    else (move m k, .nothing)
  | .tick => (m, .nothing)
  | .discovered path =>
    let phase := if m.phase = .initializing then .scanning else m.phase
    if (position? m path).isSome then ({ m with phase }, .nothing) else refreshSoon { add m path with phase }
  | .status u =>
    let m := setStatus m u
    let phase := if u.status = FileStatus.processing.name && m.phase ≠ .complete then .analyzing else m.phase
    refreshSoon { m with phase }
  | .complete r => refreshSoon (completed m r)
  | .refresh => ({ m with refreshing := false, shown := m.items }, .nothing)

/-- A duration in the largest unit that leaves a digit before the point; none at all if it is not
positive. -/
def durationText (d : Int) : String :=
  if d ≤ 0 then ""
  else if d < 1000000 then s!"{d / 1000}µs"
  else if d < 1000000000 then s!"{d / 1000000}ms"
  else
    let fraction := Decimal.nearestDouble ((d % 1000000000 : Int) / (1000000000 : Rat))
    Decimal.fixed 2 (Decimal.nearestDouble ((d / 1000000000 : Int) + fraction)) ++ "s"

def icon (status : String) : String :=
  if status = FileStatus.success.name then "✓"
  else if status = FileStatus.failed.name then "✗"
  else if status = FileStatus.skipped.name then "S"
  else if status = FileStatus.cached.name then "C"
  else if status = FileStatus.processing.name then "…"
  else " "

def description (i : MonitorItem) : String :=
  let details :=
    if i.status = FileStatus.failed.name || i.status = FileStatus.skipped.name then i.message
    else if i.status = FileStatus.success.name || i.status = FileStatus.cached.name then durationText i.duration
    else ""
  "[" ++ icon i.status ++ "] " ++ details

def itemLines (isSelected : Bool) (i : MonitorItem) : List String :=
  let mark := if isSelected then "│ " else " "
  [mark ++ i.path, mark ++ ((description i).splitOn "\n").headD ""]

def languageLine : List String :=
  if m.languages.isEmpty then []
  else
    let names := (Report.sortBy (·.1) m.languages).map fun (l, n) => s!"{l}: {n}"
    let degraded := if 0 < m.counts.degraded then s!" | Template-only explanations: {m.counts.degraded}" else ""
    ["Languages: " ++ ", ".intercalate names ++ degraded]

def spread (width : Int) (left right : String) : String :=
  left ++ "".pushn ' ' (max 1 (width - left.length - right.length - 2)).toNat ++ right

def view (elapsed : String) : List String :=
  if m.quitting then ["Exiting..."]
  else
    match m.width with
    | none => [Phase.initializing.title]
    | some width =>
      let spinning := m.phase ≠ .complete && m.phase ≠ .initializing
      let c := m.counts
      let header := spread width ("codelens " ++ m.version) ((if spinning then "⣾  " else "") ++ m.phase.title)
      let list := if m.shown.isEmpty then ["No items."]
        else (m.shown.zipIdx.map fun (i, n) => itemLines (n = m.selected) i).flatten
      let footer := s!"Analyzed: {c.processed} (Cached: {c.cached}) | Skipped: {c.skipped} | Failed: {c.failed} | Found: {c.discovered} | Elapsed: {elapsed}"
      [header] ++ list ++ languageLine m ++ (if m.fatal = "" then [] else m.fatal.splitOn "\n") ++
        [spread width footer "q: quit"]

end Monitor

end SourceSurvey
