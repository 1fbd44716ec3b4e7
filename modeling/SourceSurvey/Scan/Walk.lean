import SourceSurvey.Ignore.Pattern
import SourceSurvey.Language.Identification
import SourceSurvey.Scan.Options
import SourceSurvey.Scan.Report
import SourceSurvey.Scan.Vendored

namespace SourceSurvey

inductive Found
  | candidate (path : String)
  /-- Left out before it was announced. -/
  | leftOut (path : String) (reason : SkipReason) (details : String)
  /-- Announced, and then left out as unchanged. -/
  | unchanged (path : String) (details : String)
  deriving Repr, DecidableEq

def Found.path : Found → String
  | candidate p => p
  | leftOut p _ _ => p
  | unchanged p _ => p

namespace Walk

def ignoreFileName : String := ".codelensignore"

/-- Lines of this many bytes or more are not read. -/
def maxIgnoreLine : Nat := 65536

def ignoreLines (content : Bytes) : List Bytes :=
  let lines := content.splitByte Bytes.newline
  let lines := if lines.getLast? = some [] then lines.dropLast else lines
  lines.map fun l => l.dropEnd [Bytes.carriageReturn]

def loadIgnoreFile (t : FileTree) (input : String) : Except String (List Bytes) :=
  match t.contentAt (Path.join [input, ignoreFileName]) with
  | .error e => if e.cause = .notFound then .ok [] else .error e.message
  | .ok content =>
    if (content.splitByte Bytes.newline).any (maxIgnoreLine ≤ ·.length) then .error "bufio.Scanner: token too long"
    else .ok (ignoreLines content)

structure Rules where
  input : String
  output : String
  includeVendored : Bool
  ignores : IgnoreList
  diff : DiffMode
  changed : List String
  fits : GlobMatcher := Glob.isMatch

variable (r : Rules)

def isVendored (path : String) (isDir : Bool) : Bool :=
  !r.includeVendored && (Vendored.isVendored (if isDir then path ++ "/" else path) || Vendored.isHidden path)

def enters (path : String) : Bool :=
  Path.base path ≠ ".git" && Path.join [r.input, path] ≠ r.output && !isVendored r path true &&
    (r.ignores.ignoredBy? path true r.fits).isNone

def ofFile (path : String) : Option Found :=
  if (Identification.hint? path).isNone then none
  else if isVendored r path false then some (.leftOut path .vendored "Vendored or hidden path")
  else
    match r.ignores.ignoredBy? path false r.fits with
    | some p => some (.leftOut path .ignored ("Matched pattern: " ++ Utf8.toString p.raw))
    | none =>
      if r.diff.isActive && !r.changed.contains path then
        some (.unchanged path ("Not changed (git diff mode " ++ r.diff.name ++ ")"))
      else some (.candidate path)

/-- The files below a directory, in the order of their names; `depth` bounds how deep it goes. -/
def below (t : FileTree) : (depth : Nat) → (absolute path : String) → List Found
  | 0, _, _ => []
  | depth + 1, absolute, path =>
    (t.names absolute).flatMap fun n =>
      let child := FileTree.child absolute n
      let rel := if path = "" then n else path ++ "/" ++ n
      match t.node? child with
      | some .directory => if enters r rel then below t depth child rel else []
      | some (.file ..) => (ofFile r rel).toList
      | _ => []

/-- All files found below the input directory. A link in its place is not followed. -/
def files (t : FileTree) : List Found :=
  match t.resolve false r.input with
  | .ok real =>
    if (t.node? real) matches some .directory then below r t (t.nodes.length + 1) real "" else []
  | .error _ => []

end Walk

end SourceSurvey
