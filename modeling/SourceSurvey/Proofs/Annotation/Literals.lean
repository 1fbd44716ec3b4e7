import Mathlib
import SourceSurvey.Proofs.Annotation.Rescan
import SourceSurvey.Proofs.Line.Literal
import SourceSurvey.Proofs.Summary

namespace SourceSurvey.Line

open Bytes Lexer

variable {p : Profile}

/-- A text with a gap between two quotes on one of its lines. -/
structure Gap where
  above : List Bytes
  head : Bytes
  quote : UInt8
  tail : Bytes
  below : Option Bytes
  above_line : ∀ raw ∈ above, newline ∉ raw
  head_line : newline ∉ head
  tail_line : newline ∉ tail

namespace Gap

variable (g : Gap)

def line (body : Bytes) : Bytes := g.head ++ literal g.quote body g.tail

def fill (body : Bytes) : Bytes :=
  g.above.flatMap (· ++ [newline]) ++ g.line body ++ g.below.elim [] (newline :: ·)

/-- Whether the walk over the line comes to stand clean at the literal that `body` makes. -/
def IsReached (p : Profile) (body : Bytes) : Prop :=
  ∃ before written, Reaches p ⟨none, stateAfter p .clean g.above, [], chomp (g.line body)⟩
    ⟨before, .clean, written, literal g.quote body (chomp g.tail)⟩

/-- Every place between two quotes is a gap. -/
theorem exists_fill (start : Bytes) (q : UInt8) (rest : Bytes) :
    ∃ g : Gap, g.quote = q ∧ ∀ body, g.fill body = start ++ literal q body rest := by
  obtain ⟨above, head, habove, hhead, rfl⟩ := exists_lines start
  obtain hlast | ⟨tail, below, htail, rfl⟩ := exists_line rest
  · exact ⟨⟨above, head, q, rest, none, habove, hhead, hlast⟩, rfl, fun body => by simp [fill, line]⟩
  · exact ⟨⟨above, head, q, tail, some below, habove, hhead, htail⟩, rfl, fun body => by
      simp [fill, line, literal]⟩

variable {g}

theorem split_fill {body : Bytes} (hquote : g.quote ≠ newline) (h : IsBody g.quote body) :
    split (g.fill body) = g.above ++ g.line body :: g.below.elim [] split := by
  have hline : newline ∉ g.line body := by
    simp [line, literal, g.head_line, g.tail_line, h.newline_notMem, hquote.symm]
  rw [fill, List.append_assoc, split_lines g.above_line]
  cases g.below with
  | none =>
      rw [Option.elim_none, List.append_nil, split_last hline, if_neg (by simp [line, literal])]
      rfl
  | some below => rw [Option.elim_some, split_line hline]; rfl

/-- Scanning does not see what fills a gap that the walk reaches. -/
theorem scan_fill (hq : p.IsQuote g.quote) (hmem : g.quote ∈ p.quotes) {body body' : Bytes}
    (h : IsBody g.quote body) (h' : IsBody g.quote body') (hreach : g.IsReached p body) :
    (scan p (g.fill body)).map skeleton = (scan p (g.fill body')).map skeleton := by
  have hquote : g.quote ≠ newline := by
    intro he
    exact absurd (he ▸ hq.1) (by decide)
  obtain ⟨before, written, hreach⟩ := hreach
  have hline := (read_literal hq hmem h h' hreach (1 + g.above.length)).1
  have hafter := (read_literal hq hmem h h' hreach 0).2
  rw [scan, scan, split_fill hquote h, split_fill hquote h', readAll_append, readAll_append, readAll_cons,
    readAll_cons, List.map_append, List.map_append, List.map_cons, List.map_cons]
  rw [line, line, hline, hafter]

end Gap

@[simp] theorem indent_skeleton (l : Line) : l.skeleton.indent = l.indent := by
  simp [skeleton, indent, List.takeWhile_takeWhile]

end SourceSurvey.Line

namespace SourceSurvey.Annotation

open Bytes Line Lexer

variable {p : Profile}

theorem keepsReading_skeleton : KeepsReading skeleton where
  kind _ := rfl
  start _ := rfl
  code _ := rfl
  constructs _ := rfl
  indent := indent_skeleton

theorem insertions_skeleton (m : CommentMarker) (above : Option LineKind) (lines : List Line) :
    insertions p m above (lines.map skeleton) = insertions p m above lines := by
  have hcomment : ∀ l ∈ lines, ∀ rest,
      comment m l.skeleton (describe p l rest) = id (comment m l (describe p l rest)) := by
    intro l _ rest
    rw [comment, indent_skeleton]
    rfl
  rw [keepsReading_skeleton.insertions_map above hcomment, Option.map_id, List.map_id]

theorem slots_congr {text text' : Bytes} (h : (scan p text).map skeleton = (scan p text').map skeleton) :
    slots p text = slots p text' := by
  have hlen : (scan p text).length = (scan p text').length := by simpa using congrArg List.length h
  rw [slots, slots]
  split
  · rw [← insertions_skeleton, h, insertions_skeleton]
  · rw [List.map_const', List.map_const', hlen]

/-- What a literal holds has no part in any result. -/
theorem literal_irrelevant (hp : p ∈ Registry.profiles) {g : Gap} (hq : g.quote ∈ p.quotes)
    {body body' : Bytes} (h : IsBody g.quote body) (h' : IsBody g.quote body') (hreach : g.IsReached p body) :
    (scan p (g.fill body)).map skeleton = (scan p (g.fill body')).map skeleton ∧
      Summary.ofText p (g.fill body) = Summary.ofText p (g.fill body') ∧
      ∃ slots, (∀ slot ∈ slots, HoldsLine slot) ∧
        annotate p (g.fill body) = weave slots (pieces (g.fill body)) ∧
        annotate p (g.fill body') = weave slots (pieces (g.fill body')) := by
  have hscan := Gap.scan_fill (Profile.isQuote_of_mem p hp g.quote hq) hq h h' hreach
  refine ⟨hscan, ?_, slots p (g.fill body), ?_, annotate_eq_weave p _, ?_⟩
  · have hskeleton (lines : List Line) : Summary.ofLines (lines.map skeleton) = Summary.ofLines lines :=
      Summary.ofLines_map (f := skeleton) (fun _ => rfl) (fun _ => rfl) lines
    rw [Summary.ofText, Summary.ofText, ← hskeleton, hscan, hskeleton]
  · exact holdsLine_of_isCommentFor (slots_forall₂ (Profile.annotatable_of_mem hp) _)
  · rw [slots_congr hscan, annotate_eq_weave]

def assignment : Gap := ⟨[], utf8 "x=", 34, [], none, by simp, by decide, by simp⟩

theorem literal_irrelevant_assignment :
    (scan .python (assignment.fill (utf8 "a"))).map skeleton =
      (scan .python (assignment.fill (utf8 "# b"))).map skeleton := by
  have hfirst : next? .python ⟨none, .clean, [], utf8 "x=\"a\""⟩ =
      some ⟨some 120, .clean, [120], utf8 "=\"a\""⟩ := by cbv
  have hsecond : next? .python ⟨some 120, .clean, [120], utf8 "=\"a\""⟩ =
      some ⟨some 61, .clean, [61, 120], utf8 "\"a\""⟩ := by cbv
  have hreach : assignment.IsReached .python (utf8 "a") :=
    ⟨some 61, [61, 120], .head hfirst (.head hsecond .refl)⟩
  have hpython : Profile.python ∈ Registry.profiles := by simp [Registry.profiles]
  have hbody : IsBody 34 (utf8 "a") := ⟨by decide, by decide, by decide, by decide⟩
  have hbody' : IsBody 34 (utf8 "# b") := ⟨by decide, by decide, by decide, by decide⟩
  exact (literal_irrelevant hpython (by decide) hbody hbody' hreach).1

end SourceSurvey.Annotation
