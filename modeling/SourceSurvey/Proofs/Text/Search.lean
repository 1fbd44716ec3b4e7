import SourceSurvey.Text.Bytes
import Mathlib.Data.List.Infix

namespace SourceSurvey.Bytes

theorem dropStart?_eq_some {p s r : Bytes} : dropStart? p s = some r ↔ s = p ++ r := by
  fun_induction dropStart? p s with
  | case1 s => simp [eq_comm]
  | case2 => simp
  | case3 a p s ih => simpa using ih
  | case4 a p b s h => simp [Ne.symm h]

theorem startsWith_iff {s p : Bytes} : startsWith s p = true ↔ ∃ r, s = p ++ r := by
  simp [startsWith, Option.isSome_iff_exists, dropStart?_eq_some]

theorem dropStart?_eq_none {p s : Bytes} : dropStart? p s = none ↔ ∀ r, s ≠ p ++ r := by
  simp [Option.eq_none_iff_forall_ne_some, dropStart?_eq_some]

theorem cutFrom_spec {p passed s before rest : Bytes}
    (h : cutFrom p passed s = some (before, rest)) :
    ∃ skipped, before = passed.reverse ++ skipped ∧ s = skipped ++ p ++ rest := by
  fun_induction cutFrom p passed s with
  | case1 passed hp =>
      simp only [Option.some.injEq, Prod.mk.injEq] at h
      exact ⟨[], by simp [h.1], by simp [List.isEmpty_iff.mp hp, h.2]⟩
  | case2 => simp at h
  | case3 passed b s r hr =>
      simp only [Option.some.injEq, Prod.mk.injEq] at h
      exact ⟨[], by simp [h.1], by simpa [h.2] using dropStart?_eq_some.mp hr⟩
  | case4 passed b s hn ih =>
      obtain ⟨skipped, hbefore, hs⟩ := ih h
      exact ⟨b :: skipped, by simp [hbefore], by simp [hs]⟩

theorem cut?_spec {p s before rest : Bytes} (h : cut? s p = some (before, rest)) :
    s = before ++ p ++ rest := by
  obtain ⟨skipped, hbefore, hs⟩ := cutFrom_spec h
  rw [hs, hbefore, List.reverse_nil, List.nil_append]

theorem cutFrom_append {p passed s before rest : Bytes} (more : Bytes)
    (h : cutFrom p passed s = some (before, rest)) :
    cutFrom p passed (s ++ more) = some (before, rest ++ more) := by
  fun_induction cutFrom p passed s with
  | case1 passed hp =>
      simp only [Option.some.injEq, Prod.mk.injEq] at h
      obtain ⟨rfl, rfl⟩ := h
      cases more <;> simp [cutFrom, List.isEmpty_iff.mp hp, dropStart?]
  | case2 => simp at h
  | case3 passed b s r hr =>
      have hmore : dropStart? p (b :: (s ++ more)) = some (r ++ more) := by
        rw [dropStart?_eq_some, ← List.cons_append, dropStart?_eq_some.mp hr, List.append_assoc]
      simp only [Option.some.injEq, Prod.mk.injEq] at h
      simp [cutFrom, hmore, h]
  | case4 passed b s hn ih =>
      have hmore : dropStart? p (b :: (s ++ more)) = none := by
        rw [dropStart?_eq_none] at hn ⊢
        intro r hr
        obtain ⟨skipped, -, hs⟩ := cutFrom_spec h
        have hlen : p.length ≤ (b :: s).length := by simp [hs]; omega
        obtain ⟨t, ht⟩ := List.prefix_of_prefix_length_le ⟨r, hr.symm⟩
          (List.prefix_append (b :: s) more) hlen
        exact hn t ht.symm
      simp [cutFrom, hmore, ih h]

theorem cut?_append {p s before rest : Bytes} (more : Bytes) (h : cut? s p = some (before, rest)) :
    cut? (s ++ more) p = some (before, rest ++ more) := cutFrom_append more h

theorem cutFrom_of_append {p passed s before rest more : Bytes}
    (h : cutFrom p passed (s ++ more) = some (before, rest ++ more)) :
    cutFrom p passed s = some (before, rest) := by
  induction s generalizing passed with
  | nil =>
      obtain ⟨skipped, rfl, hs⟩ := cutFrom_spec h
      have hlen := congrArg List.length hs
      simp only [List.nil_append, List.length_append] at hlen
      obtain rfl : p = [] := List.eq_nil_of_length_eq_zero (by omega)
      obtain rfl : rest = [] := List.eq_nil_of_length_eq_zero (by omega)
      obtain rfl : skipped = [] := List.eq_nil_of_length_eq_zero (by omega)
      simp [cutFrom]
  | cons b s ih =>
      rw [List.cons_append, cutFrom] at h
      split at h
      · rename_i r hr
        simp only [Option.some.injEq, Prod.mk.injEq] at h
        obtain ⟨rfl, rfl⟩ := h
        have hs : b :: s = p ++ rest := by
          rw [dropStart?_eq_some, ← List.cons_append, ← List.append_assoc] at hr
          exact List.append_cancel_right hr
        rw [cutFrom, dropStart?_eq_some.mpr hs]
      · rename_i hn
        have hnone : dropStart? p (b :: s) = none := by
          rw [dropStart?_eq_none] at hn ⊢
          intro r hr
          exact hn (r ++ more) (by rw [← List.cons_append, hr, List.append_assoc])
        rw [cutFrom, hnone]
        exact ih h

theorem cut?_of_append {p s before rest more : Bytes}
    (h : cut? (s ++ more) p = some (before, rest ++ more)) : cut? s p = some (before, rest) :=
  cutFrom_of_append h

theorem cutFrom_eq_none {p passed s : Bytes} : cutFrom p passed s = none ↔ ¬p <:+: s := by
  fun_induction cutFrom p passed s with
  | case1 passed hp => simp [List.isEmpty_iff.mp hp]
  | case2 passed hp => simpa using hp
  | case3 passed b s rest hrest =>
      have hstarts : p <+: b :: s := ⟨rest, (dropStart?_eq_some.mp hrest).symm⟩
      simp [hstarts.isInfix]
  | case4 passed b s hnone ih =>
      have hstarts : ¬p <+: b :: s := by
        rintro ⟨rest, hrest⟩
        exact dropStart?_eq_none.mp hnone rest hrest.symm
      rw [ih, List.infix_cons_iff]
      simp [hstarts]

/-- What is found is the first occurrence. -/
theorem cut?_le {p s before rest : Bytes} (h : cut? s p = some (before, rest)) {a r : Bytes} (hs : s = a ++ p ++ r) :
    before.length ≤ a.length := by
  have hoccurs : p <:+: a ++ p := ⟨a, [], List.append_nil _⟩
  cases hfound : cut? (a ++ p) p with
  | none => exact absurd hoccurs (cutFrom_eq_none.mp hfound)
  | some found =>
      obtain ⟨before', rest'⟩ := found
      have hmore := cut?_append r hfound
      rw [← hs, h, Option.some.injEq, Prod.mk.injEq] at hmore
      obtain ⟨rfl, -⟩ := hmore
      have hlength := congrArg List.length (cut?_spec hfound)
      simp only [List.length_append] at hlength
      omega

end SourceSurvey.Bytes
