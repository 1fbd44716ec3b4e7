import SourceSurvey.Summary

namespace SourceSurvey.Summary

theorem ofLines_map {f : Line → Line} (hkind : ∀ l, (f l).kind = l.kind)
    (hconstructs : ∀ l, (f l).constructs = l.constructs) (lines : List Line) :
    ofLines (lines.map f) = ofLines lines := by
  simp only [ofLines, List.length_map, List.countP_map, Function.comp_def, hkind, hconstructs]

theorem ofLines_perm {lines lines' : List Line} (h : lines.Perm lines') : ofLines lines = ofLines lines' := by
  simp only [ofLines, h.length_eq, h.countP_eq]

instance : Add Summary where
  add s t :=
    { totalLines := s.totalLines + t.totalLines
      emptyLines := s.emptyLines + t.emptyLines
      commentLines := s.commentLines + t.commentLines
      imports := s.imports + t.imports
      functions := s.functions + t.functions
      classes := s.classes + t.classes
      bindings := s.bindings + t.bindings
      loops := s.loops + t.loops
      conditionals := s.conditionals + t.conditionals }

theorem ofLines_append (lines more : List Line) : ofLines (lines ++ more) = ofLines lines + ofLines more := by
  simp only [ofLines, List.length_append, List.countP_append, Int.natCast_add]
  rfl

def addComments (s : Summary) (count : Nat) : Summary :=
  { s with totalLines := s.totalLines + count, commentLines := s.commentLines + count }

theorem ofLines_comment_cons {c : Line} (hkind : c.kind = .comment) (hconstructs : c.constructs = {})
    (lines : List Line) : ofLines (c :: lines) = (ofLines lines).addComments 1 := by
  simp [ofLines, addComments, hkind, hconstructs]

theorem ofLines_comments_append {comments : List Line}
    (h : ∀ c ∈ comments, c.kind = .comment ∧ c.constructs = {}) (lines : List Line) :
    ofLines (comments ++ lines) = (ofLines lines).addComments comments.length := by
  induction comments with
  | nil => simp [addComments]
  | cons c comments ih =>
      obtain ⟨hkind, hconstructs⟩ := h c List.mem_cons_self
      rw [List.cons_append, ofLines_comment_cons hkind hconstructs, ih fun d hd => h d (List.mem_cons_of_mem c hd)]
      simp only [addComments, List.length_cons, Int.natCast_succ, Int.add_assoc]
      rfl

end SourceSurvey.Summary
