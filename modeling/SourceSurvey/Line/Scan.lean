import SourceSurvey.Line.Lexer
import SourceSurvey.Line.Constructs

namespace SourceSurvey

namespace Line

variable (p : Profile)

def opensBlock (trimmed : Bytes) : Bool := p.blockComments.any fun b => trimmed.startsWith b.opener

def startsComment (trimmed : Bytes) : Bool := p.lineComments.any fun m => trimmed.startsWith m

def classify (state : ScanState) (text : Bytes) : LineKind × Bytes × ScanState :=
  let trimmed := text.strip
  if trimmed.isEmpty then (.blank, [], state)
  else
    match state with
    | .comment _ => (.comment, [], (Lexer.line p state text).2)
    | .string _ => (.string, [], (Lexer.line p state text).2)
    | .clean =>
      if opensBlock p trimmed then (.comment, [], (Lexer.line p state text).2)
      else if startsComment p trimmed then (.comment, [], state)
      else (.code, Lexer.line p state text)

def read (number : Nat) (state : ScanState) (raw : Bytes) : Line × ScanState :=
  let cr := raw.getLast? = some Bytes.carriageReturn
  let text := if cr then raw.dropLast else raw
  let (kind, code, after) := classify p state text
  let constructs := if kind = .code then Constructs.ofCode p code else {}
  ({ number, text, cr, kind, start := state, code, constructs }, after)

def readAll (number : Nat) (state : ScanState) : List Bytes → List Line
  | [] => []
  | raw :: rest =>
    let (line, after) := read p number state raw
    line :: readAll (number + 1) after rest

def stateAfter (state : ScanState) : List Bytes → ScanState
  | [] => state
  | raw :: rest => stateAfter (read p 0 state raw).2 rest

def scan (text : Bytes) : List Line := readAll p 1 .clean (split text)

end Line

end SourceSurvey
