import SourceSurvey.Scan.File

/-!
A scan of a whole tree. Every file found becomes one outcome; the report does not depend on the
order in which outcomes arrive. After a fatal failure or a cancellation no further file is
processed.
-/

namespace SourceSurvey

inductive ScanEvent
  | discovered (path : String)
  | status (path : String) (status : FileStatus) (message : String)
  | complete
  deriving Repr, DecidableEq

inductive EngineError
  | options (e : ScanOptionError)
  | analyzer (e : AnalyzerError)
  | git (e : GitError)
  deriving Repr, DecidableEq

def EngineError.message : EngineError → String
  | options e => e.message
  | analyzer e => e.message
  | git e => e.message

inductive RunError
  | ignoreFile (message : String)
  | stopped (path message : String)
  | ended (e : Ending)
  | persist (e : CacheError)
  deriving Repr, DecidableEq

def RunError.message : RunError → String
  | ignoreFile m => invalidOptions ++ "load ignore file: " ++ m
  | stopped path m => "processing stopped: fatal error processing " ++ quoted path ++ ": " ++ m
  | ended e => e.message
  | persist e => e.message

structure Engine where
  setting : FileScan.Setting
  world : FileScan.World
  changed : List String
  context : Context

namespace Engine

def cachePath (plan : ScanPlan) : String :=
  if plan.cacheFile = "" then Path.join [plan.output, CacheManager.fileName] else plan.cacheFile

/-- The cache a scan begins with, and the tree once an unwanted cache file is gone. A file that
cannot be loaded counts as none. -/
def openCache (plan : ScanPlan) (t : FileTree) : FileScan.World :=
  if !plan.cache then ⟨t, {}⟩
  else
    let t := if plan.clearCache then ((t.remove (cachePath plan)).toOption).getD t else t
    let fresh := CacheManager.ofSettings plan.appVersion plan.cacheFormat
    ⟨t, (fresh.load t (cachePath plan)).1⟩

def changedFiles (plan : ScanPlan) : Except EngineError (List String) :=
  match plan.diff, plan.git with
  | .none, _ => .ok []
  | mode, none => .error (.options (.needsClient mode.name))
  | mode, some g =>
    match g.changed plan.input mode.name plan.sinceRef with
    | .error e => .error (.git e)
    | .ok files => .ok files

def prepareDirectories (plan : ScanPlan) (t : FileTree) : Except ScanOptionError FileTree :=
  match t.stat plan.input with
  | .error e => .error (.unreachableInput plan.input e)
  | .ok .directory =>
    match t.makeDirectory plan.output with
    | .error e => .error (.uncreatableOutput plan.output e)
    | .ok t => .ok t
  | .ok _ => .error (.notDirectory plan.input)

def ofOptions (o : ScanOptions) (context : Context) (here : String) (t : FileTree) :
    FileTree × Except EngineError Engine :=
  match o.check here with
  | .error e => (t, .error (.options e))
  | .ok plan =>
    match prepareDirectories plan t with
    | .error e => (t, .error (.options e))
    | .ok t =>
      match Analyzer.ofOptions o.analyzer with
      | .error e => (t, .error (.analyzer e))
      | .ok analyzer =>
        let world := openCache plan t
        match changedFiles plan with
        | .error e => (world.tree, .error e)
        | .ok changed => (world.tree, .ok ⟨⟨plan, analyzer⟩, world, changed, context⟩)

/-- How far a scan has come; outcomes and events are kept last first. -/
structure Progress where
  world : FileScan.World
  context : Context
  outcomes : List Outcome := []
  events : List ScanEvent := []
  stopped : Bool := false
  /-- How many more candidates the walk passes once nothing is processed any more. -/
  ahead : Nat

variable (e : Engine)

def note (p : Progress) (path : String) (status : FileStatus) (message : String) (o : Option Outcome) : Progress :=
  { p with outcomes := o.toList ++ p.outcomes, events := .status path status message :: p.events }

def announce (p : Progress) (path : String) : Progress := { p with events := .discovered path :: p.events }

def processOne (p : Progress) (path : String) : Progress :=
  let p := note p path .processing "" none
  let (world, ended) := FileScan.process e.setting p.world path
  let p := { p with world }
  let fatal : Bool := e.setting.plan.onError = .stop
  match ended with
  | .failed (.analysis (.ended x)) =>
    { note p path .failed x.message none with context := .cancelled }
  | .failed f =>
    let p := note p path .failed f.message (some (ended.outcome path fatal))
    if fatal then { p with stopped := true, context := .cancelled } else p
  | _ => note p path ended.status ended.message (some (ended.outcome path fatal))

/-- Takes one file of the walk. Once the scan has ended, the walk still runs ahead of it a little. -/
def step (p : Progress) (f : Found) : Progress :=
  let live := p.context.isLive
  if !live && p.ahead = 0 then p
  else
    match f with
    | .leftOut path reason details => note p path .skipped details (some (.skipped ⟨path, reason.name, details⟩))
    | .unchanged path details =>
      note (announce p path) path .skipped details (some (.skipped ⟨path, SkipReason.unchanged.name, details⟩))
    | .candidate path =>
      let p := announce p path
      if live then processOne e p path else { p with ahead := p.ahead - 1 }

def frame : Report.Frame :=
  let plan := e.setting.plan
  { input := plan.input, output := plan.output, profile := plan.profile, configFile := plan.configFile,
    cacheEnabled := plan.cache, concurrency := plan.concurrency }

structure Finished where
  report : Report
  events : List ScanEvent
  tree : FileTree
  error : Option RunError

def finish (p : Progress) (fatal : Bool) (error : Option RunError) : Finished :=
  let (tree, saved) :=
    if e.setting.plan.cache then p.world.cache.persist (fun _ => none) p.world.tree (cachePath e.setting.plan)
    else (p.world.tree, .ok ())
  let error := match error, saved with
    | some x, _ => some x
    | none, .error x => some (.persist x)
    | none, .ok _ => none
  { report := .ofOutcomes (frame e) fatal p.outcomes.reverse
    events := (ScanEvent.complete :: p.events).reverse
    tree, error }

def firstFatal? (outcomes : List Outcome) : Option FailedFile :=
  (outcomes.filterMap Outcome.failed?).find? (·.fatal)

def rules (lines : List Bytes) : Walk.Rules :=
  let plan := e.setting.plan
  { input := plan.input, output := plan.output, includeVendored := plan.includeVendored,
    ignores := IgnoreList.ofLines (lines ++ plan.ignore.map utf8), diff := plan.diff, changed := e.changed }

def found : Except String (List Found) :=
  match Walk.loadIgnoreFile e.world.tree e.setting.plan.input with
  | .error m => .error m
  | .ok lines => .ok (Walk.files (rules e lines) e.world.tree)

def start : Progress :=
  { world := e.world, context := e.context
    ahead := if e.context.isLive then e.setting.plan.concurrency.toNat + 1 else 0 }

def run : Finished :=
  match found e with
  | .error m => finish e (start e) true (some (.ignoreFile m))
  | .ok files =>
    let p := files.foldl (step e) (start e)
    let error := match firstFatal? p.outcomes.reverse with
      | some f => some (.stopped f.path f.error)
      | none => if p.context.isLive then none else some (.ended .cancelled)
    finish e p p.stopped error

end Engine

end SourceSurvey
