import SourceSurvey.Naming
import SourceSurvey.Summary

/-!
Annotation: a one-line comment above every declaration that has none. Lines of the text are never
changed; the result is the text with whole lines added.
-/

namespace SourceSurvey

namespace Annotation

def maxBodyLines : Nat := 50

def braceBalance (code : Bytes) : Int := List.count 123 code - List.count 125 code

def bracedBody (depth : Int) (opened : Bool) : List Line → List Bytes
  | [] => []
  | l :: rest =>
    if opened && depth ≤ 0 then []
    else
      let depth := depth + braceBalance l.code
      l.code :: bracedBody depth (opened || 0 < depth) rest

/-- The code of the lines indented deeper than the declaration; blank lines and lines inside a
string go along. -/
def indentedBody (indent : Nat) (rest : List Line) : List Bytes :=
  (rest.takeWhile fun l => l.kind = .blank || l.kind = .string || indent < l.indent.length).map (·.code)

def body (p : Profile) (decl : Line) (rest : List Line) : List Bytes :=
  let braced := !p.indentBlocks &&
    (decl.code.contains 123 || (rest.head?.map fun l => l.code.strip.startsWith [123]).getD false)
  let near := rest.take (maxBodyLines - 1)
  let depth := braceBalance decl.code
  decl.code :: if braced then bracedBody depth (0 < depth) near else indentedBody decl.indent.length near

def describe (p : Profile) (decl : Line) (rest : List Line) : Bytes :=
  if decl.constructs.isFunction then Naming.purpose decl.constructs.name (body p decl rest)
  else Naming.classPurpose decl.constructs.name decl.constructs.keyword

def comment (m : CommentMarker) (decl : Line) (purpose : Bytes) : Bytes :=
  decl.indent ++ m.opener ++ [32] ++ purpose ++ (if m.closer.isEmpty then [] else 32 :: m.closer) ++
    (if decl.cr then [13, 10] else [10])

/-- The comment lines to insert, one slot for each line of the text: a declaration gets one unless
the line right above it is a comment. -/
def insertions (p : Profile) (m : CommentMarker) (above : Option LineKind) : List Line → List (Option Bytes)
  | [] => []
  | l :: rest =>
    let wanted := l.isDeclaration && l.start.isClean && above != some .comment
    (if wanted then some (comment m l (describe p l rest)) else none) ::
      insertions p m (some l.kind) rest

def pieces (text : Bytes) : List Bytes :=
  match (text.splitByte Bytes.newline).reverse with
  | [] => []
  | last :: before => (before.map (· ++ [Bytes.newline])).reverse ++ [last]

/-- Puts every comment line in front of its piece; pieces without a slot are kept. -/
def weave : List (Option Bytes) → List Bytes → Bytes
  | _, [] => []
  | [], r :: rs => r ++ weave [] rs
  | slot :: slots, r :: rs => slot.getD [] ++ r ++ weave slots rs

def ofLines (p : Profile) (text : Bytes) (lines : List Line) : Bytes :=
  match p.commentMarker? with
  | none => text
  | some m =>
    if !p.hasConstructs then text else weave (insertions p m none lines) (pieces text)

end Annotation

def annotate (p : Profile) (text : Bytes) : Bytes := Annotation.ofLines p text (Line.scan p text)

end SourceSurvey
