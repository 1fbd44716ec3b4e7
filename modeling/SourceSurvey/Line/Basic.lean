import SourceSurvey.Profile.Basic

namespace SourceSurvey

/-- What is still open where a line starts: nothing, or a block comment or multi-line string ended
by its closer. -/
inductive ScanState
  | clean
  | comment (closer : Bytes)
  | string (closer : Bytes)
  deriving Repr, DecidableEq

def ScanState.isClean : ScanState → Bool
  | clean => true
  | _ => false

def ScanState.depth : ScanState → Nat
  | clean => 0
  | _ => 1

inductive LineKind
  | blank
  | comment
  | code
  | string
  deriving Repr, DecidableEq

/-- The constructs of one line, each counted at most once. -/
structure Constructs where
  isImport : Bool := false
  isFunction : Bool := false
  isClass : Bool := false
  isVariable : Bool := false
  isLoop : Bool := false
  isConditional : Bool := false
  name : Bytes := []
  /-- The keyword of a class line, where its pattern captures one. -/
  keyword : Bytes := []
  deriving Repr, DecidableEq

structure Line where
  number : Nat
  text : Bytes
  cr : Bool
  kind : LineKind
  start : ScanState
  code : Bytes
  constructs : Constructs
  deriving Repr, DecidableEq

namespace Line

def isDeclaration (l : Line) : Bool := l.constructs.isFunction || l.constructs.isClass

def indent (l : Line) : Bytes := l.text.takeWhile Bytes.isIndent

/-- The physical lines of a text. A newline at its very end starts no further line. -/
def split (text : Bytes) : List Bytes :=
  let pieces := text.splitByte Bytes.newline
  if pieces.getLast? = some [] then pieces.dropLast else pieces

end Line

end SourceSurvey
