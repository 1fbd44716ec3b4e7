import SourceSurvey.Line.Scan

namespace SourceSurvey

structure Summary where
  totalLines : Int := 0
  emptyLines : Int := 0
  commentLines : Int := 0
  imports : Int := 0
  functions : Int := 0
  classes : Int := 0
  bindings : Int := 0
  loops : Int := 0
  conditionals : Int := 0
  deriving Repr, DecidableEq

namespace Summary

def ofLines (lines : List Line) : Summary :=
  let count (f : Line → Bool) : Int := lines.countP f
  { totalLines := lines.length
    emptyLines := count (·.kind = .blank)
    commentLines := count (·.kind = .comment)
    imports := count (·.constructs.isImport)
    functions := count (·.constructs.isFunction)
    classes := count (·.constructs.isClass)
    bindings := count (·.constructs.isVariable)
    loops := count (·.constructs.isLoop)
    conditionals := count (·.constructs.isConditional) }

def ofText (p : Profile) (text : Bytes) : Summary := ofLines (Line.scan p text)

end Summary

def Line.declarations (lines : List Line) : List Line :=
  lines.filter fun l => l.isDeclaration && l.start.isClean

end SourceSurvey
