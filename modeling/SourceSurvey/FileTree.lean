import SourceSurvey.Path
import SourceSurvey.Text.Bytes

/-!
A tree of files, directories and links, with the operations of a file system on it. Operations that
fail say what was tried, on which path and why; they leave the tree as it was.
-/

namespace SourceSurvey

inductive FileNode
  /-- A file's content and the instant it was last modified, in nanoseconds since 1970. -/
  | file (content : Bytes) (modified : Int)
  | directory
  | link (target : String)
  deriving Repr, DecidableEq

inductive FileCause
  | notFound
  | notDirectory
  | isDirectory
  | occupied
  | notEmpty
  | tooManyLinks
  | noSpace
  deriving Repr, DecidableEq

def FileCause.message : FileCause → String
  | notFound => "no such file or directory"
  | notDirectory => "not a directory"
  | isDirectory => "is a directory"
  | occupied => "file exists"
  | notEmpty => "directory not empty"
  | tooManyLinks => "too many levels of symbolic links"
  | noSpace => "no space left on device"

structure FileError where
  operation : String
  path : String
  cause : FileCause
  deriving Repr, DecidableEq

def FileError.message (e : FileError) : String := e.operation ++ " " ++ e.path ++ ": " ++ e.cause.message

/-- Nodes by clean absolute path. The root is there without being listed. -/
structure FileTree where
  nodes : List (String × FileNode) := []
  deriving Repr, DecidableEq

namespace FileTree

def node? (t : FileTree) (path : String) : Option FileNode :=
  if path = "/" then some .directory else t.nodes.lookup path

def put (t : FileTree) (path : String) (n : FileNode) : FileTree :=
  ⟨t.nodes.filter (·.1 ≠ path) ++ [(path, n)]⟩

def erase (t : FileTree) (path : String) : FileTree := ⟨t.nodes.filter (·.1 ≠ path)⟩

def isBelow (directory path : String) : Bool :=
  if directory = "/" then path ≠ "/" else ((directory ++ "/").toList.isPrefixOf path.toList)

def child (directory name : String) : String := if directory = "/" then "/" ++ name else directory ++ "/" ++ name

def maxLinks : Nat := 40

def walk (t : FileTree) (followLast : Bool) : (links : Nat) → String → List String → Except FileCause String
  | _, here, [] => .ok here
  | links, here, p :: ps =>
    let next := child here p
    match t.node? next with
    | none => if ps.isEmpty then .ok next else .error .notFound
    | some .directory => walk t followLast links next ps
    | some (.file ..) => if ps.isEmpty then .ok next else .error .notDirectory
    | some (.link target) =>
      if ps.isEmpty && !followLast then .ok next
      else
        match links with
        | 0 => .error .tooManyLinks
        | links + 1 =>
          let goal := Path.clean (if Path.isAbsolute target then target else here ++ "/" ++ target)
          walk t followLast links "/" (Path.parts goal ++ ps)
termination_by links _ ps => (links, ps.length)

/-- The path that a path leads to once links are followed. -/
def resolve (t : FileTree) (followLast : Bool) (path : String) : Except FileCause String :=
  walk t followLast maxLinks "/" (Path.parts (Path.clean path))

def look (t : FileTree) (followLast : Bool) (path : String) : Except FileCause FileNode :=
  match t.resolve followLast path with
  | .error c => .error c
  | .ok p =>
    match t.node? p with
    | some n => .ok n
    | none => .error .notFound

def stat (t : FileTree) (path : String) : Except FileError FileNode :=
  match t.look true path with
  | .ok n => .ok n
  | .error c => .error ⟨"stat", path, c⟩

def isDirectory (t : FileTree) (path : String) : Bool := (t.look true path) matches .ok .directory

def exists? (t : FileTree) (path : String) : Bool := (t.look true path) matches .ok _

def contentAt (t : FileTree) (path : String) : Except FileError Bytes :=
  match t.look true path with
  | .ok (.file content _) => .ok content
  | .ok _ => .error ⟨"read", path, .isDirectory⟩
  | .error c => .error ⟨"open", path, c⟩

def setContent (t : FileTree) (path : String) (content : Bytes) (modified : Int) : Except FileError FileTree :=
  match t.resolve true path with
  | .error c => .error ⟨"open", path, c⟩
  | .ok p =>
    match t.node? p with
    | some .directory => .error ⟨"open", path, .isDirectory⟩
    | _ => .ok (t.put p (.file content modified))

def makeParts (t : FileTree) : (here : String) → List String → Except FileError FileTree
  | _, [] => .ok t
  | here, p :: ps =>
    let next := child here p
    match t.look true next with
    | .ok .directory => makeParts t next ps
    | .ok _ => .error ⟨"mkdir", next, .notDirectory⟩
    | .error _ =>
      match t.resolve false next with
      | .error c => .error ⟨"mkdir", next, c⟩
      | .ok real =>
        /- A link that leads nowhere is in the way. -/
        if (t.node? real).isSome then .error ⟨"mkdir", next, .occupied⟩
        else makeParts (t.put real .directory) next ps

def makeDirectory (t : FileTree) (path : String) : Except FileError FileTree :=
  makeParts t "/" (Path.parts (Path.clean path))

def names (t : FileTree) (directory : String) : List String :=
  let below := t.nodes.filterMap fun (p, _) =>
    if isBelow directory p && Path.parent p = directory then some (Path.base p) else none
  below.mergeSort (· ≤ ·)

def remove (t : FileTree) (path : String) : Except FileError FileTree :=
  match t.resolve false path with
  | .error c => .error ⟨"remove", path, c⟩
  | .ok p =>
    match t.node? p with
    | none => .error ⟨"remove", path, .notFound⟩
    | some .directory =>
      if t.nodes.any fun (q, _) => isBelow p q then .error ⟨"remove", path, .notEmpty⟩ else .ok (t.erase p)
    | some _ => .ok (t.erase p)

def removeAll (t : FileTree) (path : String) : FileTree :=
  match t.resolve false path with
  | .error _ => t
  | .ok p => ⟨t.nodes.filter fun (q, _) => q ≠ p && !isBelow p q⟩

def makeLink (t : FileTree) (path target : String) : Except FileError FileTree :=
  match t.resolve false path with
  | .error c => .error ⟨"symlink", path, c⟩
  | .ok p => if (t.node? p).isSome then .error ⟨"symlink", path, .occupied⟩ else .ok (t.put p (.link target))

def filesBelow (t : FileTree) (directory : String) : List (String × Bytes) :=
  t.nodes.filterMap fun (p, n) =>
    match n with
    | .file content _ => if isBelow directory p then (Path.relative? directory p).map (·, content) else none
    | _ => none

end FileTree

end SourceSurvey
