import SourceSurvey.Line.Lexer
import SourceSurvey.Proofs.Text.Search
import Mathlib.Logic.Relation

namespace SourceSurvey.Lexer

open Bytes

/-- Where a walk over a line stands: the byte in front of it, the state, the code found so far,
last byte first, and the rest of the line. -/
structure Walk where
  before : Option UInt8
  state : ScanState
  written : Bytes
  rest : Bytes

variable (p : Profile)

def next? (w : Walk) : Option Walk :=
  match w.rest with
  | [] => none
  | b :: r =>
    match w.state with
    | .comment closer =>
      (cut? (b :: r) closer).map fun found =>
        ⟨(found.1 ++ closer).getLast?.or w.before, .clean, space :: w.written, found.2⟩
    | .string closer =>
      (cut? (b :: r) closer).map fun found =>
        ⟨(found.1 ++ closer).getLast?.or w.before, .clean, closer.reverse ++ w.written, found.2⟩
    | .clean =>
      match blockAt? p (b :: r) with
      | some block =>
        some ⟨block.opener.getLast?, .comment block.closer, w.written, r.drop (block.opener.length - 1)⟩
      | none =>
        match fenceAt? p (b :: r) with
        | some f => some ⟨f.getLast?, .string (fenceCloser f), f.reverse ++ w.written, r.drop (f.length - 1)⟩
        | none =>
          if commentAt p w.before (b :: r) then none
          else if p.quotes.contains b then
            some ⟨some b, .clean, b :: b :: w.written, (afterQuote? b r).getD []⟩
          else some ⟨some b, .clean, b :: w.written, r⟩

def run (w : Walk) : Bytes × ScanState := lex p w.before w.state w.written w.rest

def Reaches (w x : Walk) : Prop := Relation.ReflTransGen (fun w x => next? p w = some x) w x

variable {p}

theorem run_of_end {w : Walk} (h : next? p w = none) : run p w = (w.written.reverse, w.state) := by
  obtain ⟨before, state, written, rest⟩ := w
  cases rest with
  | nil => rw [run, lex]
  | cons b r =>
      cases state with
      | comment closer | string closer =>
          rw [run, lex, Option.map_eq_none_iff.mp h]
      | clean =>
          simp only [next?] at h
          rw [run, lex]
          grind

theorem run_of_next? {w x : Walk} (h : next? p w = some x) : run p w = run p x := by
  obtain ⟨before, state, written, rest⟩ := w
  cases rest with
  | nil => simp [next?] at h
  | cons b r =>
      cases state with
      | comment closer | string closer =>
          obtain ⟨⟨passed, rest⟩, hcut, rfl⟩ := Option.map_eq_some_iff.mp h
          rw [run, lex, hcut]
          rfl
      | clean =>
          rw [run, lex]
          simp only [next?] at h
          cases hblock : blockAt? p (b :: r) with
          | some block =>
              rw [hblock] at h
              exact congrArg (run p) (Option.some.inj h)
          | none =>
              rw [hblock] at h
              cases hfence : fenceAt? p (b :: r) with
              | some f =>
                  rw [hfence] at h
                  exact congrArg (run p) (Option.some.inj h)
              | none =>
                  rw [hfence] at h
                  by_cases hcomment : commentAt p before (b :: r)
                  · simp [hcomment] at h
                  · simp only [hcomment, Bool.false_eq_true, if_false] at h ⊢
                    by_cases hquote : p.quotes.contains b
                    · rw [if_pos hquote] at h ⊢
                      cases hafter : afterQuote? b r with
                      | none =>
                          rw [hafter] at h
                          have hend : next? p ⟨some b, .clean, b :: b :: written, []⟩ = none := rfl
                          rw [← Option.some.inj h]
                          exact (run_of_end hend).symm
                      | some rest =>
                          rw [hafter] at h
                          exact congrArg (run p) (Option.some.inj h)
                    · rw [if_neg hquote] at h ⊢
                      exact congrArg (run p) (Option.some.inj h)

theorem run_of_reaches {w x : Walk} (h : Reaches p w x) : run p w = run p x := by
  induction h with
  | refl => rfl
  | tail _ hstep ih => rw [ih, run_of_next? hstep]

/-- A step shortens the rest of the line, or closes what was open. -/
theorem next?_decreases {w x : Walk} (h : next? p w = some x) :
    Prod.Lex (· < ·) (· < ·) (x.rest.length, x.state.depth) (w.rest.length, w.state.depth) := by
  obtain ⟨before, state, written, rest⟩ := w
  cases rest with
  | nil => simp [next?] at h
  | cons b r =>
      cases state with
      | comment closer | string closer =>
          obtain ⟨⟨passed, rest⟩, hcut, rfl⟩ := Option.map_eq_some_iff.mp h
          exact state_closes (cut?_length hcut)
      | clean =>
          apply Prod.Lex.left
          simp only [next?] at h
          have hquote : ((afterQuote? b r).getD []).length < r.length + 1 := by
            cases hafter : afterQuote? b r with
            | none => simp
            | some rest => have := afterQuote?_length hafter; simp; omega
          grind

theorem afterQuote?_suffix {q : UInt8} {s r : Bytes} (h : afterQuote? q s = some r) : r <:+ s := by
  fun_induction afterQuote? q s with
  | case1 => simp at h
  | case2 => simp at h
  | case3 d s ih => exact ((ih h).trans (List.suffix_cons d s)).trans (List.suffix_cons 92 (d :: s))
  | case4 s => exact Option.some.inj h ▸ List.suffix_cons q s
  | case5 c s _ _ ih => exact (ih h).trans (List.suffix_cons c s)

theorem next?_suffix {w x : Walk} (h : next? p w = some x) : x.rest <:+ w.rest := by
  obtain ⟨before, state, written, rest⟩ := w
  cases rest with
  | nil => simp [next?] at h
  | cons b r =>
      cases state with
      | comment closer | string closer =>
          obtain ⟨⟨passed, rest⟩, hcut, rfl⟩ := Option.map_eq_some_iff.mp h
          exact ⟨passed ++ closer, (cut?_spec hcut).symm⟩
      | clean =>
          have hdrop (n : Nat) : r.drop n <:+ b :: r := (List.drop_suffix n r).trans (List.suffix_cons b r)
          have hquote : (afterQuote? b r).getD [] <:+ b :: r := by
            cases hafter : afterQuote? b r with
            | none => exact List.nil_suffix
            | some rest => exact (afterQuote?_suffix hafter).trans (List.suffix_cons b r)
          simp only [next?] at h
          have hr := List.suffix_cons b r
          grind

theorem suffix_of_reaches {w x : Walk} (h : Reaches p w x) : x.rest <:+ w.rest := by
  induction h with
  | refl => exact List.suffix_rfl
  | tail _ hstep ih => exact (next?_suffix hstep).trans ih

/-- What every step of a walk preserves holds where the walk ends. -/
theorem run_invariant {Inv : Walk → Prop} (hstep : ∀ w x, Inv w → next? p w = some x → Inv x)
    (w : Walk) (hw : Inv w) : ∃ x, Inv x ∧ run p w = (x.written.reverse, x.state) := by
  cases h : next? p w with
  | none => exact ⟨w, hw, run_of_end h⟩
  | some x =>
      obtain ⟨y, hy, hrun⟩ := run_invariant hstep x (hstep w x hw h)
      exact ⟨y, hy, (run_of_next? h).trans hrun⟩
termination_by (w.rest.length, w.state.depth)
decreasing_by exact next?_decreases h

end SourceSurvey.Lexer
