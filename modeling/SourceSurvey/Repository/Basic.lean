import SourceSurvey.FileTree
import SourceSurvey.Instant
import SourceSurvey.Repository.Rename
import SourceSurvey.Scan.Options

namespace SourceSurvey

structure Commit where
  id : String
  author : String
  email : String
  /-- In seconds since the beginning of 1970. -/
  time : Int
  files : Snapshot

structure Repository where
  root : String
  /-- Oldest first. -/
  commits : List Commit := []
  staged : Snapshot := []
  tags : List (String × String) := []

inductive RepositoryError
  | ended (e : Ending)
  | failed (e : GitError)

def RepositoryError.message : RepositoryError → String
  | ended e => e.message
  | failed e => e.message

inductive StageError
  | unknownPath
  | emptyCommit
  | noCommit
  | tagExists
  deriving Repr, DecidableEq

def StageError.message : StageError → String
  | unknownPath => "entry not found"
  | emptyCommit => "cannot create empty commit: clean working tree"
  | noCommit => "reference not found"
  | tagExists => "tag already exists"

namespace Repository

variable (r : Repository)

def worktree (t : FileTree) : Snapshot := (t.filesBelow r.root).filter fun (p, _) => !p.startsWith ".git/"

def stage (t : FileTree) (path : String) : Except StageError Repository :=
  let within (p : String) : Bool := path = "." || p = path || p.startsWith (path ++ "/")
  let present := (r.worktree t).filter fun (p, _) => within p
  if present.isEmpty && !r.staged.any (fun (p, _) => within p) then .error .unknownPath
  else .ok { r with staged := r.staged.filter (fun (p, _) => !within p) ++ present }

def head? : Option Commit := r.commits.getLast?

def commit (id author email : String) (time : Int) : Except StageError Repository :=
  if r.staged.isEmpty then .error .emptyCommit
  else
    let name := String.ofList ((author.toList.dropWhile (· = ' ')).reverse.dropWhile (· = ' ')).reverse
    .ok { r with commits := r.commits ++ [⟨id, name, email, time, r.staged⟩] }

def tag (name : String) : Except StageError Repository :=
  match r.head? with
  | none => .error .noCommit
  | some c => if r.tags.any (·.1 = name) then .error .tagExists else .ok { r with tags := (name, c.id) :: r.tags }

def branch : String := "master"

/-- The names under which a commit may be looked up, for a short name. -/
def expansions (name : String) : List String := [name, "refs/" ++ name, "refs/tags/" ++ name, "refs/heads/" ++ name]

def named? (full : String) : Option String :=
  if full = "HEAD" || full = "refs/heads/" ++ branch then r.head?.map (·.id)
  else r.tags.findSome? fun (t, id) => if full = "refs/tags/" ++ t then some id else none

def place? (name : String) : Option Nat :=
  let id := match r.commits.find? (·.id = name) with
    | some c => some c.id
    | none => (expansions (if name = "@" then "HEAD" else name)).findSome? r.named?
  id.bind fun id => r.commits.findIdx? (·.id = id)

inductive RevisionStep
  | back (generations : Nat)
  | parent (number : Nat)
  deriving Repr, DecidableEq

def steps? : (fuel : Nat) → List Char → Option (List RevisionStep)
  | 0, _ => none
  | _, [] => some []
  | fuel + 1, c :: s =>
    let digits := s.takeWhile Char.isDigit
    let number := if digits.isEmpty then 1 else digits.foldl (fun n d => n * 10 + (d.toNat - 48)) 0
    let step := if c = '~' then some (RevisionStep.back number)
      else if c = '^' then some (RevisionStep.parent number)
      else none
    step.bind fun step => (steps? fuel (s.dropWhile Char.isDigit)).map (step :: ·)

def RevisionStep.apply (place : Nat) : RevisionStep → Option Nat
  | back n => if n ≤ place then some (place - n) else none
  | parent 0 => some place
  | parent 1 => if 1 ≤ place then some (place - 1) else none
  | parent _ => none

def resolve (revision : String) : Except GitError Commit :=
  let isMark (c : Char) : Bool := c = '~' || c = '^'
  let name := String.ofList (revision.toList.takeWhile (!isMark ·))
  let marks := revision.toList.dropWhile (!isMark ·)
  match r.place? name, steps? (marks.length + 1) marks with
  | some place, some steps =>
    match (steps.foldlM RevisionStep.apply place).bind fun i => r.commits[i]? with
    | some c => .ok c
    | none => .error ⟨"resolve reference " ++ quoted revision ++ ": EOF"⟩
  | _, _ => .error ⟨"invalid reference " ++ quoted revision ++ ": reference not found"⟩

/-- Whether a file differs between the newest commit, what is staged and the worktree. Files that are
only in the worktree do not count. -/
def isChanged (t : FileTree) (path : String) : Bool :=
  let committed := (r.head?.map (·.files)).getD [] |>.lookup path
  let staged := r.staged.lookup path
  let present := (r.worktree t).lookup path
  let untracked := staged.isNone && present.isSome
  !untracked && (committed ≠ staged || staged ≠ present)

def changed (t : FileTree) (mode ref : String) : Except GitError (List String) :=
  if mode = "diffOnly" then
    let paths := ((r.head?.map (·.files)).getD [] ++ r.staged ++ r.worktree t).map (·.1)
    .ok (paths.eraseDups.filter (r.isChanged t))
  else if mode = "since" then
    if ref = "" then .error ⟨"mode " ++ quoted mode ++ " requires a reference"⟩
    else
      match r.head? with
      | none => .ok []
      | some head => (r.resolve ref).map fun c => Snapshot.changes c.files head.files
  else .error ⟨"unsupported diff mode " ++ quoted mode⟩

def covers (path : String) : Bool := path = r.root || path.startsWith (r.root ++ "/")

def changedIn (repository : Option Repository) (context : Context) (t : FileTree) (directory mode ref : String) :
    Except RepositoryError (List String) :=
  if !context.isLive then .error (.ended .cancelled)
  else
    match repository.filter (·.covers directory) with
    | none => .error (.failed ⟨"no repository at or above " ++ quoted directory ++ ": repository does not exist"⟩)
    | some r =>
      match r.changed t mode ref with
      | .error e => .error (.failed e)
      | .ok paths =>
        let inside := if directory = r.root then paths
          else
            let lead := (directory.drop (r.root.length + 1)).toString ++ "/"
            paths.filterMap fun p => if p.startsWith lead then some (p.drop lead.length).toString else none
        .ok (inside.mergeSort (· ≤ ·))

def history : List (Commit × Snapshot) :=
  let before := [] :: r.commits.map (·.files)
  (r.commits.zip before).reverse

def factsOf (c : Commit) : List (String × String) :=
  [("commit", c.id), ("author", c.author), ("authorEmail", c.email),
    ("dateISO", Instant.render (c.time * Instant.nanosecondsPerSecond) 0), ("dateUnix", toString c.time)]

def metadata (repository : Option Repository) (context : Context) (file : String) :
    Except RepositoryError (List (String × String)) :=
  if !context.isLive then .error (.ended .cancelled)
  else
    match repository with
    | none => .ok []
    | some r =>
      match Path.relative? r.root file with
      | none => .ok []
      | some path =>
        if path.startsWith ".." then .ok []
        else
          match r.history.find? fun (c, before) => c.files.lookup path ≠ before.lookup path with
          | none => .ok []
          | some (c, _) => .ok (factsOf c)

def toClient (repository : Option Repository) (t : FileTree) : GitClient :=
  let known {α : Type} (r : Except RepositoryError α) : Except GitError α :=
    match r with
    | .ok a => .ok a
    | .error (.failed e) => .error e
    | .error (.ended e) => .error ⟨e.message⟩
  { changed := fun directory mode ref => known (changedIn repository .live t directory mode ref)
    metadata := fun directory file => known (metadata repository .live (Path.join [directory, file])) }

end Repository

end SourceSurvey
