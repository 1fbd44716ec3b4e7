import SourceSurvey.Text.Pattern
import SourceSurvey.Text.Letter

namespace SourceSurvey

structure BlockComment where
  opener : Bytes
  closer : Bytes
  deriving Repr, DecidableEq

structure Profile where
  id : String
  extensions : List String := []
  lineComments : List Bytes := []
  blockComments : List BlockComment := []
  /-- Delimiters of string literals that may span lines. -/
  fences : List Bytes := []
  quotes : Bytes := []
  imports : List Pattern := []
  functions : List Pattern := []
  classes : List Pattern := []
  bindings : List Pattern := []
  loops : List Bytes := []
  conditionals : List Bytes := []
  ignoresCase : Bool := false
  /-- Constructs characteristic of the language; they only support a classification. -/
  signatures : List Pattern := []
  indentBlocks : Bool := false
  deriving Repr, DecidableEq

/-- How a one-line comment is written: an opener, and a closer that may be empty. -/
structure CommentMarker where
  opener : Bytes
  closer : Bytes
  deriving Repr, DecidableEq

namespace Profile

def plainText : String := "Plain Text"
def unknown : String := "Unknown"

def empty (id : String) : Profile := { id }

def hasConstructs (p : Profile) : Bool :=
  !(p.imports.isEmpty && p.functions.isEmpty && p.classes.isEmpty && p.bindings.isEmpty &&
    p.loops.isEmpty && p.conditionals.isEmpty)

def commentMarker? (p : Profile) : Option CommentMarker :=
  match p.lineComments, p.blockComments with
  | m :: _, _ => some ⟨m, []⟩
  | [], b :: _ => some ⟨b.opener, b.closer⟩
  | [], [] => none

def fold (p : Profile) (word : Bytes) : Bytes := if p.ignoresCase then word.lower else word

def slashes : Bytes := utf8 "//"
def slashStar : BlockComment := ⟨utf8 "/*", utf8 "*/"⟩
def curlyLoops : List Bytes := ["for", "while", "do"].map utf8
def curlyBranches : List Bytes := ["if", "switch"].map utf8

end Profile

end SourceSurvey
