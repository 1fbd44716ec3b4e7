import SourceSurvey.Proofs.Line.Reading

namespace SourceSurvey.Lexer

open Bytes Profile

variable {p : Profile}

/-- What may stand in a literal: some bytes, none of which ends the literal or its line. -/
structure IsBody (q : UInt8) (body : Bytes) : Prop where
  ne_nil : body ≠ []
  newline_notMem : newline ∉ body
  quote_notMem : q ∉ body
  backslash_notMem : 92 ∉ body

def literal (q : UInt8) (body after : Bytes) : Bytes := q :: (body ++ q :: after)

theorem doublesQuote_tail {q a : UInt8} {m : Bytes} (h : doublesQuote q (a :: m)) : doublesQuote q m := by
  cases m with
  | nil => rfl
  | cons b m => exact (Bool.and_eq_true_iff.mp h).2

theorem startsWith_literal {q : UInt8} {m body : Bytes} (hm : doublesQuote q m) (hbody : IsBody q body)
    (u after : Bytes) : (u ++ literal q body after).startsWith m ↔ m <+: u ++ [q] := by
  induction u generalizing m with
  | nil =>
      obtain ⟨c, body, rfl⟩ := List.exists_cons_of_ne_nil hbody.ne_nil
      have hc : c ≠ q := fun he => hbody.quote_notMem (he ▸ List.mem_cons_self)
      match m with
      | [] => simp [startsWith, dropStart?]
      | [a] => simp [startsWith, dropStart?, literal, List.prefix_cons_iff]
      | a :: b :: m =>
          simp only [doublesQuote] at hm
          simp [startsWith, dropStart?, literal, List.prefix_cons_iff]
          grind
  | cons d u ih =>
      cases m with
      | nil => simp [startsWith, dropStart?]
      | cons a m =>
          have hrest := ih (doublesQuote_tail hm)
          rw [startsWith] at hrest
          by_cases had : a = d
          · simp [startsWith, dropStart?, had, List.cons_prefix_cons, hrest]
          · simp [startsWith, dropStart?, had, List.cons_prefix_cons]

theorem afterQuote?_cons {c : UInt8} (hc : c ≠ 92) (q : UInt8) (s : Bytes) :
    afterQuote? q (c :: s) = if c = q then some s else afterQuote? q s := by
  rw [afterQuote?.eq_def]
  simp [hc]

theorem afterQuote?_escape (q d : UInt8) (s : Bytes) : afterQuote? q (92 :: d :: s) = afterQuote? q s := by
  rw [afterQuote?.eq_def]
  simp

theorem afterQuote?_body {q : UInt8} (hq : q ≠ 92) {body : Bytes} (hbody : q ∉ body) (hback : 92 ∉ body)
    (after : Bytes) : afterQuote? q (body ++ q :: after) = some after := by
  induction body with
  | nil => rw [List.nil_append, afterQuote?_cons hq, if_pos rfl]
  | cons c body ih =>
      rw [List.mem_cons, not_or] at hbody hback
      rw [List.cons_append, afterQuote?_cons (Ne.symm hback.1), if_neg (Ne.symm hbody.1)]
      exact ih hbody.2 hback.2

theorem afterQuote?_append {q : UInt8} {s r : Bytes} (more : Bytes) (h : afterQuote? q s = some r) :
    afterQuote? q (s ++ more) = some (r ++ more) := by
  fun_induction afterQuote? q s with
  | case1 => simp at h
  | case2 => simp at h
  | case3 d s ih => rw [List.cons_append, List.cons_append, afterQuote?_escape, ih h]
  | case4 s hq => rw [List.cons_append, afterQuote?_cons hq, if_pos rfl, Option.some.inj h]
  | case5 c s hc hq ih => rw [List.cons_append, afterQuote?_cons hc, if_neg hq, ih h]

theorem afterQuote?_of_append {q : UInt8} {s r more : Bytes}
    (h : afterQuote? q (s ++ more) = some (r ++ more)) : afterQuote? q s = some r := by
  fun_induction afterQuote? q s with
  | case1 =>
      have hlen := afterQuote?_length h
      simp only [List.nil_append, List.length_append] at hlen
      omega
  | case2 =>
      cases more with
      | nil => simp [afterQuote?] at h
      | cons d more =>
          rw [List.singleton_append, afterQuote?_escape] at h
          have hlen := afterQuote?_length h
          simp only [List.length_append, List.length_cons] at hlen
          omega
  | case3 d s ih =>
      rw [List.cons_append, List.cons_append, afterQuote?_escape] at h
      exact ih h
  | case4 s hq =>
      rw [List.cons_append, afterQuote?_cons hq, if_pos rfl, Option.some.injEq] at h
      rw [List.append_cancel_right h]
  | case5 c s hc hq ih =>
      rw [List.cons_append, afterQuote?_cons hc, if_neg hq] at h
      exact ih h

theorem next?_comment {closer rest : Bytes} (h : rest ≠ []) (before : Option UInt8) (written : Bytes) :
    next? p ⟨before, .comment closer, written, rest⟩ = (cut? rest closer).map fun found =>
      ⟨(found.1 ++ closer).getLast?.or before, .clean, space :: written, found.2⟩ := by
  obtain ⟨b, r, rfl⟩ := List.exists_cons_of_ne_nil h
  rfl

theorem next?_string {closer rest : Bytes} (h : rest ≠ []) (before : Option UInt8) (written : Bytes) :
    next? p ⟨before, .string closer, written, rest⟩ = (cut? rest closer).map fun found =>
      ⟨(found.1 ++ closer).getLast?.or before, .clean, closer.reverse ++ written, found.2⟩ := by
  obtain ⟨b, r, rfl⟩ := List.exists_cons_of_ne_nil h
  rfl

theorem next?_clean_length {w x : Walk} (hw : w.state = .clean) (h : next? p w = some x) :
    x.rest.length < w.rest.length := by
  have hlex := next?_decreases h
  rw [hw, Prod.lex_def] at hlex
  obtain hlt | ⟨-, hdepth⟩ := hlex
  · exact hlt
  · exact absurd hdepth (Nat.not_lt_zero _)

/-- Two rests of a line that no marker tells apart, whatever stands before them. -/
structure Alike (p : Profile) (s t : Bytes) : Prop where
  ne_nil : s ≠ []
  ne_nil' : t ≠ []
  startsWith_eq : ∀ m ∈ p.markers, ∀ u : Bytes, (u ++ s).startsWith m = (u ++ t).startsWith m

theorem alike_literal {q : UInt8} (hq : p.IsQuote q) {body body' : Bytes} (h : IsBody q body)
    (h' : IsBody q body') (after : Bytes) : Alike p (literal q body after) (literal q body' after) := by
  refine ⟨List.cons_ne_nil _ _, List.cons_ne_nil _ _, fun m hm u => ?_⟩
  have hdoubles := (hq.2.2 m hm).2.2
  rw [Bool.eq_iff_iff, startsWith_literal hdoubles h, startsWith_literal hdoubles h']

namespace Alike

variable {s t : Bytes} (h : Alike p s t)

include h

theorem blockAt? (u : Bytes) : blockAt? p (u ++ s) = blockAt? p (u ++ t) := by
  rw [Lexer.blockAt?, Lexer.blockAt?, ← List.head?_filter, ← List.head?_filter, List.filter_congr]
  intro b hb
  exact h.startsWith_eq b.opener (opener_mem_markers hb) u

theorem fenceAt? (u : Bytes) : fenceAt? p (u ++ s) = fenceAt? p (u ++ t) := by
  rw [Lexer.fenceAt?, Lexer.fenceAt?, ← List.head?_filter, ← List.head?_filter, List.filter_congr]
  intro f hf
  exact h.startsWith_eq f (fence_mem_markers hf) u

theorem commentAt (before : Option UInt8) (u : Bytes) :
    commentAt p before (u ++ s) = commentAt p before (u ++ t) := by
  rw [Lexer.commentAt, Lexer.commentAt, Bool.eq_iff_iff, List.any_eq_true, List.any_eq_true]
  refine exists_congr fun m => and_congr_right fun hm => ?_
  rw [h.startsWith_eq m (lineComment_mem_markers hm) u]

theorem drop {u v : Bytes} {n : Nat} (hdrop : (u ++ s).drop n = v ++ s) : (u ++ t).drop n = v ++ t := by
  have hlen := congrArg List.length hdrop
  have hpos := List.length_pos_of_ne_nil h.ne_nil
  simp only [List.length_drop, List.length_append] at hlen
  have hn : n ≤ u.length := by omega
  rw [List.drop_append_of_le_length hn] at hdrop ⊢
  rw [List.append_cancel_right hdrop]

theorem afterQuote? {q : UInt8} {u v : Bytes} (hafter : (afterQuote? q (u ++ s)).getD [] = v ++ s) :
    (Lexer.afterQuote? q (u ++ t)).getD [] = v ++ t := by
  cases hfound : Lexer.afterQuote? q (u ++ s) with
  | none =>
      rw [hfound] at hafter
      exact absurd (List.append_eq_nil_iff.mp hafter.symm).2 h.ne_nil
  | some r =>
      rw [hfound, Option.getD_some] at hafter
      rw [hafter] at hfound
      rw [afterQuote?_append t (afterQuote?_of_append hfound), Option.getD_some]

theorem next? {before before' : Option UInt8} {state state' : ScanState} {written written' u v : Bytes}
    (hstep : next? p ⟨before, state, written, u ++ s⟩ = some ⟨before', state', written', v ++ s⟩) :
    Lexer.next? p ⟨before, state, written, u ++ t⟩ = some ⟨before', state', written', v ++ t⟩ := by
  have hs : u ++ s ≠ [] := by simp [h.ne_nil]
  have ht : u ++ t ≠ [] := by simp [h.ne_nil']
  cases state with
  | comment closer | string closer =>
      simp only [next?_comment hs, next?_string hs, Option.map_eq_some_iff, Walk.mk.injEq] at hstep
      obtain ⟨⟨passed, rest⟩, hcut, rfl, rfl, rfl, rfl⟩ := hstep
      simp only [next?_comment ht, next?_string ht,
        cut?_append t (cut?_of_append hcut), Option.map_some]
  | clean =>
      cases u with
      | nil =>
          -- A clean step moves on, so it would end behind the beginning of the rest.
          have hlen := next?_clean_length rfl hstep
          simp only [List.nil_append, List.length_append] at hlen
          omega
      | cons b u =>
          have hblock : Lexer.blockAt? p (b :: (u ++ s)) = Lexer.blockAt? p (b :: (u ++ t)) := h.blockAt? (b :: u)
          have hfence : Lexer.fenceAt? p (b :: (u ++ s)) = Lexer.fenceAt? p (b :: (u ++ t)) := h.fenceAt? (b :: u)
          have hcomment : Lexer.commentAt p before (b :: (u ++ s)) = Lexer.commentAt p before (b :: (u ++ t)) :=
            h.commentAt before (b :: u)
          simp only [List.cons_append, Lexer.next?, hblock, hfence, hcomment] at hstep ⊢
          split at hstep
          · rename_i block hfound
            simp only [hfound, Option.some.injEq, Walk.mk.injEq] at hstep ⊢
            exact ⟨hstep.1, hstep.2.1, hstep.2.2.1, h.drop hstep.2.2.2⟩
          rename_i hnoBlock
          split at hstep
          · rename_i f hfound
            simp only [hnoBlock, hfound, Option.some.injEq, Walk.mk.injEq] at hstep ⊢
            exact ⟨hstep.1, hstep.2.1, hstep.2.2.1, h.drop hstep.2.2.2⟩
          rename_i hnoFence
          split at hstep
          · cases hstep
          rename_i hnoComment
          simp only [hnoBlock, hnoFence, if_neg hnoComment]
          split at hstep
          · rename_i hquote
            simp only [if_pos hquote, Option.some.injEq, Walk.mk.injEq] at hstep ⊢
            exact ⟨hstep.1, hstep.2.1, hstep.2.2.1, h.afterQuote? hstep.2.2.2⟩
          · rename_i hplain
            simp only [if_neg hplain, Option.some.injEq, Walk.mk.injEq] at hstep ⊢
            exact ⟨hstep.1, hstep.2.1, hstep.2.2.1, by rw [List.append_cancel_right hstep.2.2.2]⟩

theorem reaches {w x : Walk} (hreach : Reaches p w x) (hx : x.rest = s) {u : Bytes} (hw : w.rest = u ++ s) :
    Reaches p { w with rest := u ++ t } { x with rest := t } := by
  induction hreach using Relation.ReflTransGen.head_induction_on generalizing u with
  | refl =>
      obtain rfl : u = [] := by simpa [hx] using hw
      exact .refl
  | @head w y hstep hrest ih =>
      obtain ⟨v, hv⟩ := suffix_of_reaches hrest
      rw [hx] at hv
      refine .head ?_ (ih hv.symm)
      apply h.next?
      rw [← hw, hv]
      exact hstep

end Alike

theorem next?_literal {q : UInt8} (hq : p.IsQuote q) (hmem : q ∈ p.quotes) {body : Bytes} (h : IsBody q body)
    (before : Option UInt8) (written after : Bytes) :
    next? p ⟨before, .clean, written, literal q body after⟩ =
      some ⟨some q, .clean, q :: q :: written, after⟩ := by
  have hnone : ∀ m ∈ p.markers, (literal q body after).startsWith m = false := by
    intro m hm
    obtain ⟨hne, hquote, hdoubles⟩ := hq.2.2 m hm
    rw [Bool.eq_false_iff, ne_eq, ← List.nil_append (literal q body after), startsWith_literal hdoubles h]
    simp [List.prefix_cons_iff, hne, hquote]
  have hblock : blockAt? p (literal q body after) = none := by
    have hfind : p.blockComments.find? (fun b => (literal q body after).startsWith b.opener) = none :=
      List.find?_eq_none.mpr fun b hb => by simp [hnone b.opener (opener_mem_markers hb)]
    rw [blockAt?, hfind, Option.filter_none]
  have hfence : fenceAt? p (literal q body after) = none := by
    have hfind : p.fences.find? (fun f => (literal q body after).startsWith f) = none :=
      List.find?_eq_none.mpr fun f hf => by simp [hnone f (fence_mem_markers hf)]
    rw [fenceAt?, hfind, Option.filter_none]
  have hcomment : commentAt p before (literal q body after) = false :=
    List.any_eq_false.mpr fun m hm => by simp [hnone m (lineComment_mem_markers hm)]
  rw [literal] at *
  simp only [next?, hblock, hfence, hcomment, Bool.false_eq_true, if_false, List.contains_iff_mem.mpr hmem, if_true,
    afterQuote?_body hq.2.1 h.quote_notMem h.backslash_notMem, Option.getD_some]

/-- The code of a line and the state after it do not depend on what a literal holds. -/
theorem line_literal {q : UInt8} (hq : p.IsQuote q) (hmem : q ∈ p.quotes) {body body' : Bytes} (h : IsBody q body)
    (h' : IsBody q body') {before : Option UInt8} {state : ScanState} {written u after : Bytes}
    (hreach : Reaches p ⟨none, state, [], u ++ literal q body after⟩
      ⟨before, .clean, written, literal q body after⟩) :
    line p state (u ++ literal q body after) = line p state (u ++ literal q body' after) := by
  have hreach' := (alike_literal hq h h' after).reaches hreach rfl rfl
  have hrun := run_of_reaches (hreach.tail (next?_literal hq hmem h before written after))
  have hrun' := run_of_reaches (hreach'.tail (next?_literal hq hmem h' before written after))
  exact hrun.trans hrun'.symm

end SourceSurvey.Lexer

namespace SourceSurvey.Line

open Bytes Lexer

variable {p : Profile}

def skeleton (l : Line) : Line := { l with text := l.indent }

theorem opensBlock_alike {s t : Bytes} (h : Alike p s t) (u : Bytes) :
    opensBlock p (u ++ s) = opensBlock p (u ++ t) := by
  rw [opensBlock, opensBlock, Bool.eq_iff_iff, List.any_eq_true, List.any_eq_true]
  refine exists_congr fun b => and_congr_right fun hb => ?_
  rw [h.startsWith_eq b.opener (Profile.opener_mem_markers hb)]

theorem startsComment_alike {s t : Bytes} (h : Alike p s t) (u : Bytes) :
    startsComment p (u ++ s) = startsComment p (u ++ t) := by
  rw [startsComment, startsComment, Bool.eq_iff_iff, List.any_eq_true, List.any_eq_true]
  refine exists_congr fun m => and_congr_right fun hm => ?_
  rw [h.startsWith_eq m (Profile.lineComment_mem_markers hm)]

theorem classify_literal {q : UInt8} (hq : p.IsQuote q) {body body' : Bytes} (h : IsBody q body)
    (h' : IsBody q body') {state : ScanState} {u after : Bytes}
    (hline : Lexer.line p state (u ++ literal q body after) = Lexer.line p state (u ++ literal q body' after)) :
    classify p state (u ++ literal q body after) = classify p state (u ++ literal q body' after) := by
  have hstrip (b : Bytes) : (u ++ literal q b after).strip = stripLeft u ++ literal q b (stripRight after) :=
    strip_between hq.1 hq.1 u b after
  have hempty (b : Bytes) : (stripLeft u ++ literal q b (stripRight after)).isEmpty = false := by
    simp [literal]
  have halike := alike_literal hq h h' (stripRight after)
  simp only [classify, hstrip, hempty, opensBlock_alike halike, startsComment_alike halike, hline]

theorem getLast?_literal (u body after : Bytes) (q : UInt8) :
    (u ++ literal q body after).getLast? = (q :: after).getLast? := by
  simp [literal, List.getLast?_cons]

theorem chomp_literal {q : UInt8} (hq : isVisible q) (u body tail : Bytes) :
    chomp (u ++ literal q body tail) = u ++ literal q body (chomp tail) := by
  rw [chomp, chomp, getLast?_literal]
  cases tail with
  | nil =>
      have hne : q ≠ carriageReturn := by
        rintro rfl
        exact absurd hq (by decide)
      simp [hne]
  | cons c tail =>
      rw [List.getLast?_cons_cons]
      split
      · have hdrop : (body ++ q :: c :: tail).dropLast = body ++ q :: (c :: tail).dropLast := by
          rw [List.dropLast_append_of_ne_nil (List.cons_ne_nil _ _), List.dropLast_cons_cons]
        rw [literal, List.dropLast_append_of_ne_nil (List.cons_ne_nil _ _),
          List.dropLast_cons_of_ne_nil (by simp), hdrop, literal]
      · rfl

theorem takeWhile_literal {q : UInt8} (hq : isVisible q) (u body after : Bytes) :
    (u ++ literal q body after).takeWhile isIndent = u.takeWhile isIndent := by
  have hindent : ¬isIndent q := by grind [isVisible, isIndent]
  rw [literal, List.takeWhile_append, List.takeWhile_cons_of_neg hindent, List.append_nil]
  split
  · rename_i hlen
    exact ((List.takeWhile_prefix isIndent).eq_of_length hlen).symm
  · rfl

/-- A line reads the same whatever a literal on it holds, its text apart. -/
theorem read_literal {q : UInt8} (hq : p.IsQuote q) (hmem : q ∈ p.quotes) {body body' : Bytes} (h : IsBody q body)
    (h' : IsBody q body') {before : Option UInt8} {state : ScanState} {written head tail : Bytes}
    (hreach : Reaches p ⟨none, state, [], chomp (head ++ literal q body tail)⟩
      ⟨before, .clean, written, literal q body (chomp tail)⟩) (number : Nat) :
    (read p number state (head ++ literal q body tail)).1.skeleton =
        (read p number state (head ++ literal q body' tail)).1.skeleton ∧
      (read p number state (head ++ literal q body tail)).2 =
        (read p number state (head ++ literal q body' tail)).2 := by
  rw [chomp_literal hq.1] at hreach
  have hclassify := classify_literal hq h h' (line_literal hq hmem h h' hreach)
  rw [← chomp_literal hq.1, ← chomp_literal hq.1] at hclassify
  rw [read_of_classify hclassify, read_of_classify rfl, getLast?_literal, getLast?_literal]
  simp only [skeleton, indent, chomp_literal hq.1, takeWhile_literal hq.1, and_self]

end SourceSurvey.Line
