import SourceSurvey.Ignore.Glob
import SourceSurvey.Path
import SourceSurvey.Text.Letter

namespace SourceSurvey

abbrev GlobMatcher := (glob path : Bytes) → Bool

structure IgnorePattern where
  raw : Bytes
  glob : Bytes := []
  negated : Bool := false
  rooted : Bool := false
  dirOnly : Bool := false
  deriving Repr, DecidableEq

namespace IgnorePattern

def isSlash (b : UInt8) : Bool := b = Glob.slash

def marks (raw : Bytes) : IgnorePattern × Bytes :=
  let s := raw.strip
  let (negated, s) := match s with
    | 33 :: r => (true, Bytes.strip r)
    | _ => (false, s)
  let rooted := s.head? = some Glob.slash
  let s := if rooted then s.dropLeft isSlash else s
  let dirOnly := s.getLast? = some Glob.slash
  let s := if dirOnly then s.dropRight isSlash else s
  ({ raw, negated, rooted, dirOnly }, s)

/-- A line read as far as it goes, and whether it is a pattern: blank lines, comments and invalid
globs are none. -/
def read (raw : Bytes) : IgnorePattern × Bool :=
  let s := raw.strip
  if s.isEmpty || s.head? = some 35 then ({ raw }, false)
  else
    let (p, glob) := marks raw
    if glob.isEmpty || !Glob.isValid glob then (p, false)
    else
      let inner := glob.contains Glob.slash && !glob.startsWith (utf8 "**/")
      ({ p with glob, rooted := p.rooted || inner }, true)

def parse? (raw : Bytes) : Option IgnorePattern :=
  match read raw with
  | (p, true) => some p
  | (_, false) => none

def matchesOne (p : IgnorePattern) (path : String) (fits : GlobMatcher := Glob.isMatch) : Bool :=
  fits p.glob (utf8 path) || (!p.rooted && fits p.glob (utf8 (Path.base path)))

def withParents (parts : List String) : List (List String) :=
  (List.range parts.length).reverse.map fun n => parts.take (n + 1)

def partsOf (path : String) : List String :=
  let c := Path.clean path
  if c = "." then [] else Path.parts c

def isMatch (p : IgnorePattern) (path : String) (isDir : Bool) (fits : GlobMatcher := Glob.isMatch) : Bool :=
  let parts := partsOf path
  (withParents parts).any fun q =>
    (!p.dirOnly || isDir || q.length < parts.length) && p.matchesOne ("/".intercalate q) fits

end IgnorePattern

abbrev IgnoreList := List IgnorePattern

namespace IgnoreList

def ofLines (lines : List Bytes) : IgnoreList := lines.filterMap IgnorePattern.parse?

/-- The pattern that a path is ignored by: the last one that matches it, unless that re-includes. -/
def ignoredBy? (l : IgnoreList) (path : String) (isDir : Bool) (fits : GlobMatcher := Glob.isMatch) :
    Option IgnorePattern :=
  match l.reverse.find? (·.isMatch path isDir fits) with
  | some p => if p.negated then none else some p
  | none => none

end IgnoreList

end SourceSurvey
