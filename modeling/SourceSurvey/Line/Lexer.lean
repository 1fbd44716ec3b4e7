import SourceSurvey.Line.Basic

/-!
The code of one line. Walking a line from the state in which it starts, comments are dropped,
literals are reduced to their delimiters, and all other bytes are kept; the walk also finds the
state in which the next line starts.
-/

namespace SourceSurvey

namespace Lexer

/-- The rest of a line after the literal that quote `q` closes; a backslash hides the byte after
it. -/
def afterQuote? (q : UInt8) : Bytes → Option Bytes
  | [] => none
  | c :: s =>
    if c = 92 then
      match s with
      | [] => none
      | _ :: s => afterQuote? q s
    else if c = q then some s
    else afterQuote? q s

/-- A number sign glued to a word, a dollar sign or a brace belongs to a parameter expansion. -/
def isGlue (b : UInt8) : Bool := b = 36 || b = 123 || Bytes.isWord b

theorem afterQuote?_length {q : UInt8} {s r : Bytes} (h : afterQuote? q s = some r) :
    r.length < s.length := by
  fun_induction afterQuote? q s <;> grind

variable (p : Profile)

/-- The block comment that opens at `s`. An empty opener opens nothing and hides those after it. -/
def blockAt? (s : Bytes) : Option BlockComment :=
  (p.blockComments.find? fun b => s.startsWith b.opener).filter fun b => !b.opener.isEmpty

/-- The multi-line string that opens at `s`, with the same rule for an empty fence. -/
def fenceAt? (s : Bytes) : Option Bytes :=
  (p.fences.find? fun f => s.startsWith f).filter fun f => !f.isEmpty

/-- A fence closes itself, except the double bracket. -/
def fenceCloser (fence : Bytes) : Bytes := if fence = utf8 "[[" then utf8 "]]" else fence

/-- Whether a line comment starts at `s`, where `before` is the byte in front of it. -/
def commentAt (before : Option UInt8) (s : Bytes) : Bool :=
  p.lineComments.any fun m =>
    s.startsWith m && !(m.head? = some 35 && (before.map isGlue).getD false)

theorem state_closes {m n : Nat} (h : m ≤ n) : Prod.Lex (· < ·) (· < ·) (m, 0) (n, 1) := by
  rcases Nat.lt_or_eq_of_le h with hlt | rfl
  · exact Prod.Lex.left _ _ hlt
  · exact Prod.Lex.right _ Nat.zero_lt_one

/-- Walks the rest `s` of a line. `before` is the byte in front of it and `written` the code found
so far, last byte first. -/
def lex (before : Option UInt8) (state : ScanState) (written s : Bytes) : Bytes × ScanState :=
  match s with
  | [] => (written.reverse, state)
  | b :: r =>
    match state with
    | .comment closer =>
      match _h : Bytes.cut? (b :: r) closer with
      | none => (written.reverse, state)
      | some (passed, rest) =>
        lex ((passed ++ closer).getLast?.or before) .clean (Bytes.space :: written) rest
    | .string closer =>
      match _h : Bytes.cut? (b :: r) closer with
      | none => (written.reverse, state)
      | some (passed, rest) =>
        lex ((passed ++ closer).getLast?.or before) .clean (closer.reverse ++ written) rest
    | .clean =>
      match blockAt? p (b :: r) with
      | some block =>
        lex block.opener.getLast? (.comment block.closer) written (r.drop (block.opener.length - 1))
      | none =>
        match fenceAt? p (b :: r) with
        | some f => lex f.getLast? (.string (fenceCloser f)) (f.reverse ++ written) (r.drop (f.length - 1))
        | none =>
          if commentAt p before (b :: r) then (written.reverse, .clean)
          else if p.quotes.contains b then
            match _h : afterQuote? b r with
            | none => ((b :: b :: written).reverse, .clean)
            | some rest => lex (some b) .clean (b :: b :: written) rest
          else lex (some b) .clean (b :: written) r
termination_by (s.length, state.depth)
decreasing_by
  · exact state_closes (Bytes.cut?_length _h)
  · exact state_closes (Bytes.cut?_length _h)
  · exact Prod.Lex.left _ _ (by simp only [List.length_drop, List.length_cons]; omega)
  · exact Prod.Lex.left _ _ (by simp only [List.length_drop, List.length_cons]; omega)
  · exact Prod.Lex.left _ _ (Nat.lt_succ_of_lt (afterQuote?_length _h))
  · exact Prod.Lex.left _ _ (Nat.lt_succ_self _)

def line (state : ScanState) (s : Bytes) : Bytes × ScanState := lex p none state [] s

end Lexer

end SourceSurvey
