import Mathlib
import SourceSurvey.Proofs.Line.Reading
import SourceSurvey.Proofs.Text.Lines
import SourceSurvey.Proofs.Summary

namespace SourceSurvey.Line

open Bytes

variable {p : Profile}

def shift (count : Nat) (l : Line) : Line := { l with number := l.number + count }

theorem readAll_shift (number count : Nat) (state : ScanState) (raws : List Bytes) :
    readAll p (number + count) state raws = (readAll p number state raws).map (shift count) := by
  induction raws generalizing number state with
  | nil => rfl
  | cons raw raws ih =>
      rw [readAll_cons, readAll_cons, List.map_cons, Nat.add_right_comm, ih]
      rfl

/-- Behind whole lines, a text is scanned from the state that they end in. -/
theorem scan_append {above : Bytes} (h : EndsLine above) (text : Bytes) :
    scan p (above ++ text) =
      scan p above ++ (readAll p 1 (stateAfter p .clean (split above)) (split text)).map
        (shift (scan p above).length) := by
  rw [scan, split_append h, readAll_append, readAll_shift, ← length_readAll (p := p) 1 .clean, scan]

/-- Texts that are put together between two lines, with nothing open there, do not see each other. -/
theorem scan_append_of_clean {above : Bytes} (h : EndsLine above)
    (hclean : stateAfter p .clean (split above) = .clean) (text : Bytes) :
    scan p (above ++ text) = scan p above ++ (scan p text).map (shift (scan p above).length) ∧
      Summary.ofText p (above ++ text) = Summary.ofText p above + Summary.ofText p text := by
  have hscan : scan p (above ++ text) = scan p above ++ (scan p text).map (shift (scan p above).length) := by
    rw [scan_append h, hclean]
    rfl
  have hshift (count : Nat) (lines : List Line) :
      Summary.ofLines (lines.map (shift count)) = Summary.ofLines lines :=
    Summary.ofLines_map (f := shift count) (fun _ => rfl) (fun _ => rfl) lines
  refine ⟨hscan, ?_⟩
  rw [Summary.ofText, hscan, Summary.ofLines_append, hshift]
  rfl

def closedString : Bytes := utf8 "s = \"\"\"\n\"\"\"\n"

theorem scan_append_of_clean_python :
    EndsLine closedString ∧ stateAfter .python .clean (split closedString) = .clean ∧
      scan .python (closedString ++ utf8 "def f():") =
        scan .python closedString ++ (scan .python (utf8 "def f():")).map (shift 2) ∧
      Summary.ofText .python (closedString ++ utf8 "def f():") =
        Summary.ofText .python closedString + Summary.ofText .python (utf8 "def f():") := by
  have hends : EndsLine closedString := fun b hb => (Option.mem_some_iff.mp hb).symm
  have hclean : stateAfter .python .clean (split closedString) = .clean := by cbv
  have hlength : (scan .python closedString).length = 2 := by cbv
  have happend := scan_append_of_clean hends hclean (utf8 "def f():")
  rw [hlength] at happend
  exact ⟨hends, hclean, happend⟩

end SourceSurvey.Line
