import SourceSurvey.Line.Basic

namespace SourceSurvey

namespace Constructs

/-- Keywords that a loose declaration pattern may take for a name. -/
def reservedNames : List Bytes :=
  ["if", "else", "elif", "elseif", "for", "foreach", "while", "do", "switch", "case", "when", "match",
    "catch", "try", "with", "return", "sizeof", "typeof", "new", "delete", "until", "unless", "func",
    "var", "let", "await", "throw", "using", "lock", "fixed", "synchronized"].map utf8

def statementWords : List Bytes :=
  ["return", "throw", "yield", "goto", "case", "delete", "echo", "print", "puts", "await", "raise",
    "assert", "del", "else", "new", "not"].map utf8

def leadingWord (code : Bytes) : Bytes := (code.dropWhile Bytes.isIndent).takeWhile Bytes.isWord

/-- The words of a line: each begins with a letter or underscore, found from left to right. -/
def tokens (isFirst isRest : UInt8 → Bool) (s : Bytes) : List Bytes :=
  match s with
  | [] => []
  | b :: r =>
    if isFirst b then (b :: r.takeWhile isRest) :: tokens isFirst isRest (r.dropWhile isRest)
    else tokens isFirst isRest r
termination_by s.length
decreasing_by
  · have := (List.dropWhile_suffix isRest (l := r)).length_le
    simp only [List.length_cons]
    omega
  · simp

def isWordStart (b : UInt8) : Bool := b = 95 || Bytes.isAlpha b

def keywords (code : Bytes) : List Bytes := tokens isWordStart Bytes.isWord code

def declaration? (patterns : List Pattern) (code : Bytes) : Option Captures :=
  patterns.findSome? fun p => (p.search code).filter fun c => !reservedNames.contains c.name.lower

def ofCode (p : Profile) (code : Bytes) : Constructs :=
  if !p.hasConstructs || code.isBlank then {}
  else
    let isStatement := statementWords.contains (p.fold (leadingWord code))
    let declared := if isStatement then none else declaration? p.functions code
    let grouped := if isStatement then none else declaration? p.classes code
    let words := (keywords code).map p.fold
    { isImport := p.imports.any (·.occursIn code)
      isFunction := declared.isSome
      isClass := grouped.isSome
      isVariable := !isStatement && p.bindings.any (·.occursIn code)
      isLoop := words.any (p.loops.map p.fold).contains
      isConditional := words.any (p.conditionals.map p.fold).contains
      name := ((declared.or grouped).map (·.name)).getD []
      keyword := (grouped.map (·.kind)).getD [] }

end Constructs

end SourceSurvey
