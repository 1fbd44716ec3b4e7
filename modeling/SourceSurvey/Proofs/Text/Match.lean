import SourceSurvey.Text.Pattern
import SourceSurvey.Proofs.Text.Glyphs
import Mathlib.Logic.Relation

namespace SourceSurvey.Cursor

open Relation

theorem accept?_eq_some_iff {set : CharSet} {c d : Cursor} :
    c.accept? set = some d ↔ ∃ g r, Utf8.next? c.rest = some (g, r) ∧ set.has g.char ∧
      d = ⟨c.pos + g.raw.length, r, CharSet.word.has g.char, c.captures⟩ := by
  unfold accept?
  constructor
  · intro h
    split at h
    · simp at h
    · rename_i g r hn
      split at h
      · rename_i hset
        exact ⟨g, r, hn, hset, (Option.some.inj h).symm⟩
      · simp at h
  · rintro ⟨g, r, hn, hset, rfl⟩
    rw [hn]
    exact if_pos hset

theorem accept?_pos {set : CharSet} {c d : Cursor} (h : c.accept? set = some d) :
    d.pos + d.rest.length = c.pos + c.rest.length := by
  obtain ⟨g, r, hn, -, rfl⟩ := accept?_eq_some_iff.mp h
  rw [← Utf8.next?_raw hn, List.length_append, Nat.add_assoc]

theorem mem_runs {set : CharSet} {c d : Cursor} {nearer : List Cursor} :
    d ∈ c.runs set nearer ↔ d ∈ nearer ∨ ReflTransGen (fun c d => c.accept? set = some d) c d := by
  fun_induction runs set c nearer with
  | case1 c nearer h =>
      rw [List.mem_cons, ReflTransGen.cases_head_iff]
      simp [h, or_comm, eq_comm]
  | case2 c nearer e h ih =>
      rw [ih, List.mem_cons, ReflTransGen.cases_head_iff (a := c)]
      simp [h, or_assoc, or_left_comm, eq_comm]

def Next (c d : Cursor) : Prop :=
  ∃ g r, Utf8.next? c.rest = some (g, r) ∧ d = ⟨c.pos + g.raw.length, r, CharSet.word.has g.char, {}⟩

end SourceSurvey.Cursor

namespace SourceSurvey.Pattern

open Relation

variable {α : Type}

/-- Whether a match of the pattern may lead from one place to another. -/
def Spans : Pattern → Cursor → Cursor → Prop
  | done, c, d => d = c
  | one s, c, d => c.accept? s = some d
  | many s, c, d => ReflTransGen (fun c d => c.accept? s = some d) c d
  | seq p q, c, d => ∃ m, p.Spans c m ∧ q.Spans m d
  | alt p q, c, d => p.Spans c d ∨ q.Spans c d
  | star p, c, d => ReflTransGen (fun c d => p.Spans c d ∧ c.pos < d.pos) c d
  | label l p, c, d =>
    ∃ m, p.Spans c m ∧ d = { m with captures := m.captures.set (c.rest.take (m.pos - c.pos)) l }
  | start, c, d => c.pos = 0 ∧ d = c
  | stop, c, d => c.rest = [] ∧ d = c
  | edge, c, d => c.atEdge ∧ d = c

theorem Spans.pos {p : Pattern} {c d : Cursor} (h : p.Spans c d) :
    d.pos + d.rest.length = c.pos + c.rest.length := by
  induction p generalizing c d with
  | done => rw [show d = c from h]
  | one s => exact Cursor.accept?_pos h
  | many s =>
      induction h with
      | refl => rfl
      | tail _ hstep ih => rw [Cursor.accept?_pos hstep, ih]
  | seq p q ihp ihq =>
      obtain ⟨m, hp, hq⟩ := h
      rw [ihq hq, ihp hp]
  | alt p q ihp ihq =>
      obtain h | h := h
      · exact ihp h
      · exact ihq h
  | star p ih =>
      induction h with
      | refl => rfl
      | tail _ hstep ihd => rw [ih hstep.1, ihd]
  | label l p ih =>
      obtain ⟨m, hm, rfl⟩ := h
      have hpos := ih hm
      exact hpos
  | start | stop | edge => rw [h.2]

/-- As many repetitions as there are bytes left are enough. -/
theorem repeated_isSome_iff {p : Pattern}
    (hp : ∀ c (k : Cursor → Option α), (p.run c k).isSome ↔ ∃ d, p.Spans c d ∧ (k d).isSome)
    {n : Nat} {c : Cursor} (hn : c.rest.length ≤ n) (k : Cursor → Option α) :
    (repeated p.run n c k).isSome ↔ ∃ d, (star p).Spans c d ∧ (k d).isSome := by
  induction n generalizing c with
  | zero =>
      have hend : ∀ d, (star p).Spans c d ↔ d = c := by
        intro d
        rw [Spans, ReflTransGen.cases_head_iff]
        constructor
        · rintro (rfl | ⟨e, ⟨he, hlt⟩, -⟩)
          · rfl
          · have := he.pos
            omega
        · rintro rfl
          exact .inl rfl
      simp [repeated, hend]
  | succ n ih =>
      -- A repetition that moves on leaves fewer bytes, for which one repetition less is enough.
      have hstep : (p.run c fun d => if c.pos < d.pos then repeated p.run n d k else none).isSome ↔
          ∃ d, (p.Spans c d ∧ c.pos < d.pos) ∧ ∃ e, (star p).Spans d e ∧ (k e).isSome := by
        rw [hp]
        refine exists_congr fun d => ?_
        rw [and_assoc]
        refine and_congr_right fun hd => ?_
        split
        · rename_i hlt
          have := hd.pos
          rw [ih (by omega)]
          simp [hlt]
        · rename_i hnot
          simp [hnot]
      have hstar : (∃ d, (star p).Spans c d ∧ (k d).isSome) ↔ (k c).isSome ∨
          ∃ d, (p.Spans c d ∧ c.pos < d.pos) ∧ ∃ e, (star p).Spans d e ∧ (k e).isSome := by
        simp only [Spans]
        constructor
        · rintro ⟨e, he, hk⟩
          obtain rfl | ⟨d, hd, hrest⟩ := ReflTransGen.cases_head he
          · exact .inl hk
          · exact .inr ⟨d, hd, e, hrest, hk⟩
        · rintro (hk | ⟨d, hd, e, he, hk⟩)
          · exact ⟨c, .refl, hk⟩
          · exact ⟨e, .head hd he, hk⟩
      rw [hstar, ← hstep, repeated]
      split
      · rename_i a ha
        simp [ha]
      · rename_i hnone
        simp [hnone]

theorem run_isSome_iff (p : Pattern) (c : Cursor) (k : Cursor → Option α) :
    (p.run c k).isSome ↔ ∃ d, p.Spans c d ∧ (k d).isSome := by
  induction p generalizing c k with
  | done => simp [run, Spans]
  | one s =>
      rw [run]
      split
      · rename_i d hd
        simp [Spans, hd]
      · rename_i hnone
        simp [Spans, hnone]
  | many s => simp [run, Spans, List.findSome?_isSome_iff, Cursor.mem_runs]
  | seq p q ihp ihq =>
      simp only [run, ihp, ihq, Spans]
      constructor
      · rintro ⟨m, hm, d, hd, hk⟩
        exact ⟨d, ⟨m, hm, hd⟩, hk⟩
      · rintro ⟨d, ⟨m, hm, hd⟩, hk⟩
        exact ⟨m, hm, d, hd, hk⟩
  | alt p q ihp ihq =>
      simp only [Spans, or_and_right, exists_or, ← ihp, ← ihq]
      rw [run]
      split
      · rename_i a ha
        simp [ha]
      · rename_i hnone
        simp [hnone]
  | star p ih => exact repeated_isSome_iff ih (Nat.le_refl _) k
  | label l p ih =>
      simp only [run, ih, Spans]
      constructor
      · rintro ⟨m, hm, hk⟩
        exact ⟨_, ⟨m, hm, rfl⟩, hk⟩
      · rintro ⟨d, ⟨m, hm, rfl⟩, hk⟩
        exact ⟨m, hm, hk⟩
  | start | stop | edge =>
      rw [run]
      split
      · rename_i h
        simp_all [Spans]
      · rename_i h
        simp_all [Spans]

theorem repeated_spans {p : Pattern}
    (hp : ∀ {c} {k : Cursor → Option α} {a}, p.run c k = some a → ∃ d, p.Spans c d ∧ k d = some a)
    {n : Nat} {c : Cursor} {k : Cursor → Option α} {a : α} (h : repeated p.run n c k = some a) :
    ∃ d, (star p).Spans c d ∧ k d = some a := by
  induction n generalizing c a with
  | zero => exact ⟨c, .refl, h⟩
  | succ n ih =>
      rw [repeated] at h
      split at h
      · rename_i found hfound
        obtain ⟨d, hd, hk⟩ := hp hfound
        split at hk
        · rename_i hlt
          obtain ⟨e, he, hke⟩ := ih hk
          exact ⟨e, .head ⟨hd, hlt⟩ he, hke.trans h⟩
        · simp at hk
      · exact ⟨c, .refl, h⟩

theorem run_spans (p : Pattern) {c : Cursor} {k : Cursor → Option α} {a : α} (h : p.run c k = some a) :
    ∃ d, p.Spans c d ∧ k d = some a := by
  induction p generalizing c k a with
  | done => exact ⟨c, rfl, h⟩
  | one s =>
      rw [run] at h
      split at h
      · rename_i d hd
        exact ⟨d, hd, h⟩
      · simp at h
  | many s =>
      obtain ⟨d, hd, hk⟩ := List.exists_of_findSome?_eq_some h
      obtain hd | hd := Cursor.mem_runs.mp hd
      · simp at hd
      · exact ⟨d, hd, hk⟩
  | seq p q ihp ihq =>
      obtain ⟨m, hm, hq⟩ := ihp h
      obtain ⟨d, hd, hk⟩ := ihq hq
      exact ⟨d, ⟨m, hm, hd⟩, hk⟩
  | alt p q ihp ihq =>
      rw [run] at h
      split at h
      · rename_i found hfound
        obtain ⟨d, hd, hk⟩ := ihp hfound
        exact ⟨d, .inl hd, hk.trans h⟩
      · obtain ⟨d, hd, hk⟩ := ihq h
        exact ⟨d, .inr hd, hk⟩
  | star p ih => exact repeated_spans @ih h
  | label l p ih =>
      obtain ⟨m, hm, hk⟩ := ih h
      exact ⟨_, ⟨m, hm, rfl⟩, hk⟩
  | start | stop | edge =>
      rw [run] at h
      split at h
      · rename_i hhere
        exact ⟨c, ⟨by simpa using hhere, rfl⟩, h⟩
      · simp at h

theorem not_spans_of_run {p : Pattern} {c : Cursor} (h : p.run c some = none) (d : Cursor) : ¬p.Spans c d := by
  intro hd
  have hrun := (run_isSome_iff p c some).mpr ⟨d, hd, rfl⟩
  simp [h] at hrun

theorem searchFrom_isSome_iff (p : Pattern) (c : Cursor) :
    (p.searchFrom c).isSome ↔ ∃ d e, ReflTransGen Cursor.Next c d ∧ p.Spans d e := by
  fun_induction searchFrom p c with
  | case1 c found hfound =>
      obtain ⟨e, he, -⟩ := (run_isSome_iff p c some).mp (by simp [hfound])
      simpa using ⟨c, .refl, e, he⟩
  | case2 c hnone hend =>
      simp only [Option.isSome_none, Bool.false_eq_true, false_iff, not_exists, not_and]
      intro d e hd
      obtain rfl | ⟨m, ⟨g, r, hn, -⟩, -⟩ := ReflTransGen.cases_head hd
      · exact not_spans_of_run hnone e
      · simp [hend] at hn
  | case3 c hnone g r hn ih =>
      rw [ih]
      constructor
      · rintro ⟨d, e, hd, he⟩
        exact ⟨d, e, .head ⟨g, r, hn, rfl⟩ hd, he⟩
      · rintro ⟨d, e, hd, he⟩
        obtain rfl | ⟨m, ⟨g', r', hn', rfl⟩, hrest⟩ := ReflTransGen.cases_head hd
        · exact absurd he (not_spans_of_run hnone e)
        · obtain ⟨rfl, rfl⟩ : g = g' ∧ r = r' := by simpa [hn] using hn'
          exact ⟨d, e, hrest, he⟩

theorem searchFrom_spans {p : Pattern} {c d e : Cursor} (h : p.searchFrom c = some (d, e)) :
    ReflTransGen Cursor.Next c d ∧ p.Spans d e := by
  fun_induction searchFrom p c with
  | case1 c found hfound =>
      obtain ⟨e', he, hk⟩ := run_spans p hfound
      simp only [Option.some.injEq, Prod.mk.injEq] at h hk
      obtain ⟨rfl, rfl⟩ := h
      exact ⟨.refl, hk ▸ he⟩
  | case2 => simp at h
  | case3 c hnone g r hn ih =>
      obtain ⟨hd, he⟩ := ih h
      exact ⟨.head ⟨g, r, hn, rfl⟩ hd, he⟩

/-- A pattern occurs in a text if a match of it begins at some place of the text. -/
theorem occursIn_iff (p : Pattern) (s : Bytes) :
    p.occursIn s ↔ ∃ c d, ReflTransGen Cursor.Next (.ofText s) c ∧ p.Spans c d :=
  searchFrom_isSome_iff p (.ofText s)

end SourceSurvey.Pattern
