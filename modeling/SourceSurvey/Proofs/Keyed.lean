import Mathlib.Data.List.Nodup

namespace SourceSurvey.Keyed

variable {α : Type} {entries others : List (String × α)} {k q : String} {x : α}

theorem mem_of_lookup (h : entries.lookup k = some x) : (k, x) ∈ entries := by
  obtain ⟨before, after, hentries, -⟩ := List.lookup_eq_some_iff.mp h
  simp [hentries]

theorem lookup_iff_mem (hunique : (entries.map Prod.fst).Nodup) : entries.lookup k = some x ↔ (k, x) ∈ entries := by
  constructor
  · exact mem_of_lookup
  · intro h
    cases hlookup : entries.lookup k with
    | none => exact absurd (List.lookup_eq_none_iff.mp hlookup _ h) (by simp)
    | some y =>
        have heq := List.inj_on_of_nodup_map hunique (mem_of_lookup hlookup) h rfl
        rw [(Prod.mk.inj heq).2]

theorem lookup_of_perm (hunique : (entries.map Prod.fst).Nodup) (h : entries.Perm others) (k : String) :
    entries.lookup k = others.lookup k := by
  have hothers : (others.map Prod.fst).Nodup := (h.map Prod.fst).nodup_iff.mp hunique
  apply Option.ext
  intro x
  rw [lookup_iff_mem hunique, lookup_iff_mem hothers, h.mem_iff]

theorem lookup_filter (entries : List (String × α)) (keep : String → Bool) (q : String) :
    (entries.filter fun e => keep e.1).lookup q = if keep q then entries.lookup q else none := by
  induction entries with
  | nil => simp
  | cons e entries ih =>
      obtain ⟨k, x⟩ := e
      by_cases hk : keep k
      · rw [List.filter_cons_of_pos (by simpa using hk), List.lookup_cons, List.lookup_cons, ih]
        by_cases hq : q = k
        · simp [hq, hk]
        · rw [beq_eq_false_iff_ne.mpr hq]
      · rw [List.filter_cons_of_neg (by simpa using hk), ih]
        by_cases hq : q = k
        · simp [hq, hk]
        · rw [List.lookup_cons, beq_eq_false_iff_ne.mpr hq]

theorem lookup_filter_ne (entries : List (String × α)) (k q : String) :
    (entries.filter (·.1 ≠ k)).lookup q = if q = k then none else entries.lookup q := by
  rw [lookup_filter entries (fun e => e ≠ k) q]
  simp

theorem lookup_cons (k : String) (x : α) (entries : List (String × α)) (q : String) :
    ((k, x) :: entries).lookup q = if q = k then some x else entries.lookup q := by
  by_cases hq : q = k
  · simp [hq]
  · rw [List.lookup_cons, beq_eq_false_iff_ne.mpr hq, if_neg hq]

theorem lookup_replace (entries : List (String × α)) (k : String) (x : α) (q : String) :
    (entries.map fun e => if e.1 = k then (k, x) else e).lookup q =
      if q = k then (entries.lookup k).map fun _ => x else entries.lookup q := by
  induction entries with
  | nil => simp
  | cons e entries ih =>
      obtain ⟨j, y⟩ := e
      rw [List.map_cons, lookup_cons, lookup_cons]
      by_cases hj : j = k
      · subst hj
        rw [if_pos rfl, lookup_cons, ih]
        by_cases hq : q = j <;> simp [hq]
      · rw [if_neg hj, lookup_cons, ih]
        by_cases hq : q = k
        · subst hq
          simp [Ne.symm hj]
        · simp [hq]

end SourceSurvey.Keyed
