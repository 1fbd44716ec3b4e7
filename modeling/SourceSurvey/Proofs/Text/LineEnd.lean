import SourceSurvey.Proofs.Text.Match

namespace SourceSurvey.Cursor

open Relation Bytes

/-- The same place in a text and in that text with a carriage return behind it. -/
def Shadows (c c' : Cursor) : Prop :=
  c'.rest = c.rest ++ [carriageReturn] ∧ c'.pos = c.pos ∧ c'.afterWord = c.afterWord

def Past (c : Cursor) : Prop := c.rest = [] ∧ 0 < c.pos ∧ c.afterWord = false

variable {c c' d d' : Cursor} {set : CharSet}

theorem Shadows.rest_ne_nil (h : Shadows c c') : c'.rest ≠ [] := by
  simp [h.1]

theorem Shadows.next? (h : Shadows c c') {g : Glyph} {r : Bytes} (hn : Utf8.next? c.rest = some (g, r)) :
    Utf8.next? c'.rest = some (g, r ++ [carriageReturn]) := by
  rw [h.1]
  exact Utf8.next?_append (by decide) hn []

theorem Shadows.next?_nil (h : Shadows c c') (hc : c.rest = []) :
    Utf8.next? c'.rest = some (Utf8.ascii carriageReturn, []) := by
  rw [h.1, hc]
  exact Utf8.next?_ascii (by decide) []

theorem Shadows.accept? (h : Shadows c c') (hd : c.accept? set = some d) :
    ∃ d', c'.accept? set = some d' ∧ Shadows d d' := by
  obtain ⟨g, r, hn, hset, rfl⟩ := accept?_eq_some_iff.mp hd
  exact ⟨_, accept?_eq_some_iff.mpr ⟨g, _, h.next? hn, hset, rfl⟩, rfl, by rw [h.2.1], rfl⟩

theorem Shadows.accept?_return (h : Shadows c c') (hc : c.rest = []) (hset : set.has '\r') :
    ∃ d', c'.accept? set = some d' ∧ Past d' :=
  ⟨_, accept?_eq_some_iff.mpr ⟨_, _, h.next?_nil hc, hset, rfl⟩, rfl, Nat.succ_pos _, rfl⟩

theorem Shadows.of_accept? (h : Shadows c c') (hd : c'.accept? set = some d') :
    (∃ d, c.accept? set = some d ∧ Shadows d d') ∨ (c.rest = [] ∧ set.has '\r' ∧ Past d') := by
  obtain ⟨g', r', hn', hset, rfl⟩ := accept?_eq_some_iff.mp hd
  cases hn : Utf8.next? c.rest with
  | none =>
      have hc := Utf8.next?_eq_none hn
      rw [h.next?_nil hc, Option.some.injEq, Prod.mk.injEq] at hn'
      obtain ⟨rfl, rfl⟩ := hn'
      exact .inr ⟨hc, hset, rfl, Nat.succ_pos _, rfl⟩
  | some found =>
      obtain ⟨g, r⟩ := found
      rw [h.next? hn, Option.some.injEq, Prod.mk.injEq] at hn'
      obtain ⟨rfl, rfl⟩ := hn'
      exact .inl ⟨_, accept?_eq_some_iff.mpr ⟨g, r, hn, hset, rfl⟩, rfl, by rw [h.2.1], rfl⟩

theorem accept?_of_rest_nil (h : c.rest = []) (set : CharSet) : c.accept? set = none := by
  rw [accept?, h]
  rfl

theorem Shadows.atEdge (h : Shadows c c') : c'.atEdge = c.atEdge := by
  rw [Cursor.atEdge, Cursor.atEdge, h.1, h.2.2]
  cases hc : c.rest with
  | nil => simp [isWord, isDigit, isAlpha, isUpper, isLower, carriageReturn]
  | cons b r => rfl

theorem Past.not_atEdge (h : Past c) : c.atEdge = false := by
  rw [Cursor.atEdge, h.1, h.2.2]
  rfl

theorem shadows_ofText (s : Bytes) : Shadows (.ofText s) (.ofText (s ++ [carriageReturn])) := ⟨rfl, rfl, rfl⟩

theorem Shadows.next (h : Shadows c c') (hd : Next c d) : ∃ d', Next c' d' ∧ Shadows d d' := by
  obtain ⟨g, r, hn, rfl⟩ := hd
  exact ⟨_, ⟨g, _, h.next? hn, rfl⟩, rfl, by rw [h.2.1], rfl⟩

theorem Shadows.of_next (h : Shadows c c') (hd : Next c' d') :
    (∃ d, Next c d ∧ Shadows d d') ∨ (c.rest = [] ∧ Past d') := by
  obtain ⟨g', r', hn', rfl⟩ := hd
  cases hn : Utf8.next? c.rest with
  | none =>
      have hc := Utf8.next?_eq_none hn
      rw [h.next?_nil hc, Option.some.injEq, Prod.mk.injEq] at hn'
      obtain ⟨rfl, rfl⟩ := hn'
      exact .inr ⟨hc, rfl, Nat.succ_pos _, rfl⟩
  | some found =>
      obtain ⟨g, r⟩ := found
      rw [h.next? hn, Option.some.injEq, Prod.mk.injEq] at hn'
      obtain ⟨rfl, rfl⟩ := hn'
      exact .inl ⟨_, ⟨g, r, hn, rfl⟩, rfl, by rw [h.2.1], rfl⟩

theorem Past.not_next (h : Past c) : ¬Next c d := by
  rintro ⟨g, r, hn, -⟩
  simp [h.1, Utf8.next?] at hn

section Walks

variable {r : Cursor → Cursor → Prop}

theorem Shadows.walk (hstep : ∀ {c d c'}, Shadows c c' → r c d → ∃ d', r c' d' ∧ Shadows d d')
    (hc : Shadows c c') (h : ReflTransGen r c d) : ∃ d', ReflTransGen r c' d' ∧ Shadows d d' := by
  induction h with
  | refl => exact ⟨c', .refl, hc⟩
  | tail _ hlast ih =>
      obtain ⟨m', hm', hm⟩ := ih
      obtain ⟨d', hd', hd⟩ := hstep hm hlast
      exact ⟨d', hm'.tail hd', hd⟩

theorem Shadows.of_walk {spares : Prop}
    (hstep : ∀ {c c' d'}, Shadows c c' → r c' d' →
      (∃ d, r c d ∧ Shadows d d') ∨ (Past d' ∧ (spares → ∃ d, ReflTransGen r c d ∧ d.rest = [])))
    (hpast : ∀ {c d}, Past c → ¬r c d) (hc : Shadows c c') (h : ReflTransGen r c' d') :
    (∃ d, ReflTransGen r c d ∧ Shadows d d') ∨
      (Past d' ∧ (spares → ∃ d, ReflTransGen r c d ∧ d.rest = [])) := by
  induction h with
  | refl => exact .inl ⟨c, .refl, hc⟩
  | tail _ hlast ih =>
      rcases ih with ⟨m, hm, hmm⟩ | ⟨hend, -⟩
      -- Only the last step can go over the carriage return, and it ends the walk.
      · rcases hstep hmm hlast with ⟨d, hd, hdd⟩ | ⟨hend, hspares⟩
        · exact .inl ⟨d, hm.tail hd, hdd⟩
        · refine .inr ⟨hend, fun h => ?_⟩
          obtain ⟨d, hd, hrest⟩ := hspares h
          exact ⟨d, hm.trans hd, hrest⟩
      · exact absurd hlast (hpast hend)

end Walks

theorem exists_shadow {s : Bytes} (h : ReflTransGen Next (.ofText s) c) :
    ∃ c', ReflTransGen Next (.ofText (s ++ [carriageReturn])) c' ∧ Shadows c c' :=
  (shadows_ofText s).walk (fun hc hd => hc.next hd) h

theorem shadow_or_past {s : Bytes} (h : ReflTransGen Next (.ofText (s ++ [carriageReturn])) c') :
    ∃ c, ReflTransGen Next (.ofText s) c ∧ (Shadows c c' ∨ (c.rest = [] ∧ Past c')) := by
  have hstep {c c' d' : Cursor} (hc : Shadows c c') (hd : Next c' d') :
      (∃ d, Next c d ∧ Shadows d d') ∨
        (Past d' ∧ (True → ∃ d, ReflTransGen Next c d ∧ d.rest = [])) := by
    rcases hc.of_next hd with hshadow | ⟨hend, hpast⟩
    · exact .inl hshadow
    · exact .inr ⟨hpast, fun _ => ⟨c, .refl, hend⟩⟩
  rcases (shadows_ofText s).of_walk hstep Past.not_next h with ⟨c, hc, hshadow⟩ | ⟨hpast, hwalk⟩
  · exact ⟨c, hc, .inl hshadow⟩
  · obtain ⟨c, hc, hend⟩ := hwalk trivial
    exact ⟨c, hc, .inr ⟨hend, hpast⟩⟩

end SourceSurvey.Cursor

namespace SourceSurvey.Pattern

open Relation Bytes Cursor

def isPassable : Pattern → Bool
  | done | many _ | star _ | stop => true
  | one _ | start | edge => false
  | seq p q => p.isPassable && q.isPassable
  | alt p q => p.isPassable || q.isPassable
  | label _ p => p.isPassable

def isOpen : Pattern → Bool
  | stop => false
  | seq p q | alt p q => p.isOpen && q.isOpen
  | star p | label _ p => p.isOpen
  | _ => true

/-- Whether every match over the last carriage return might as well stop in front of it. -/
def sparesReturn : Pattern → Bool
  | one s => !s.has '\r'
  | seq p q => (p.sparesReturn || !q.isPassable) && q.sparesReturn
  | alt p q => p.sparesReturn && q.sparesReturn
  | star p | label _ p => p.sparesReturn
  | _ => true

/-- Whether every match up to the last carriage return may go on over it. -/
def takesReturn : Pattern → Bool
  | many s => s.has '\r'
  | seq p q => p.isOpen && q.takesReturn
  | label _ p => p.takesReturn
  | _ => false

variable {p : Pattern} {c c' d d' : Cursor}

theorem exists_spans_of_isPassable (h : p.isPassable) (hc : c.rest = []) : ∃ d, p.Spans c d ∧ d.rest = [] := by
  induction p generalizing c with
  | done => exact ⟨c, rfl, hc⟩
  | many s => exact ⟨c, .refl, hc⟩
  | star p _ => exact ⟨c, .refl, hc⟩
  | stop => exact ⟨c, ⟨hc, rfl⟩, hc⟩
  | one | start | edge => simp [isPassable] at h
  | seq p q ihp ihq =>
      rw [isPassable, Bool.and_eq_true] at h
      obtain ⟨m, hm, hrest⟩ := ihp h.1 hc
      obtain ⟨d, hd, hend⟩ := ihq h.2 hrest
      exact ⟨d, ⟨m, hm, hd⟩, hend⟩
  | alt p q ihp ihq =>
      rw [isPassable, Bool.or_eq_true] at h
      obtain h | h := h
      · obtain ⟨d, hd, hend⟩ := ihp h hc
        exact ⟨d, .inl hd, hend⟩
      · obtain ⟨d, hd, hend⟩ := ihq h hc
        exact ⟨d, .inr hd, hend⟩
  | label l p ih =>
      obtain ⟨d, hd, hend⟩ := ih h hc
      exact ⟨_, ⟨d, hd, rfl⟩, hend⟩

theorem Spans.past (h : p.Spans c d) (hc : Past c) : Past d ∧ p.isPassable := by
  induction p generalizing c d with
  | done => exact ⟨(show d = c from h) ▸ hc, rfl⟩
  | one s =>
      rw [Spans, accept?_of_rest_nil hc.1] at h
      cases h
  | many s =>
      obtain rfl | ⟨m, hstep, -⟩ := ReflTransGen.cases_head h
      · exact ⟨hc, rfl⟩
      · rw [accept?_of_rest_nil hc.1] at hstep
        cases hstep
  | seq p q ihp ihq =>
      obtain ⟨m, hm, hd⟩ := h
      obtain ⟨hmid, hp⟩ := ihp hm hc
      obtain ⟨hend, hq⟩ := ihq hd hmid
      exact ⟨hend, by simp [isPassable, hp, hq]⟩
  | alt p q ihp ihq =>
      obtain h | h := h
      · obtain ⟨hend, hp⟩ := ihp h hc
        exact ⟨hend, by simp [isPassable, hp]⟩
      · obtain ⟨hend, hq⟩ := ihq h hc
        exact ⟨hend, by simp [isPassable, hq]⟩
  | star p ih =>
      obtain rfl | ⟨m, ⟨hm, hlt⟩, -⟩ := ReflTransGen.cases_head h
      · exact ⟨hc, rfl⟩
      · have hpos := hm.pos
        rw [hc.1, List.length_nil] at hpos
        omega
  | label l p ih =>
      obtain ⟨m, hm, rfl⟩ := h
      have hmid := ih hm hc
      exact hmid
  | start => exact absurd h.1 hc.2.1.ne'
  | stop => exact ⟨h.2 ▸ hc, rfl⟩
  | edge =>
      have hedge := h.1
      rw [hc.not_atEdge] at hedge
      cases hedge

theorem Spans.shadow (hp : p.isOpen) (h : p.Spans c d) (hc : Shadows c c') :
    ∃ d', p.Spans c' d' ∧ Shadows d d' := by
  induction p generalizing c d c' with
  | done => exact ⟨c', rfl, (show d = c from h) ▸ hc⟩
  | one s => exact hc.accept? h
  | many s => exact hc.walk (fun hm hd => hm.accept? hd) h
  | seq p q ihp ihq =>
      rw [isOpen, Bool.and_eq_true] at hp
      obtain ⟨m, hm, hd⟩ := h
      obtain ⟨m', hm', hmm⟩ := ihp hp.1 hm hc
      obtain ⟨d', hd', hdd⟩ := ihq hp.2 hd hmm
      exact ⟨d', ⟨m', hm', hd'⟩, hdd⟩
  | alt p q ihp ihq =>
      rw [isOpen, Bool.and_eq_true] at hp
      obtain h | h := h
      · obtain ⟨d', hd', hdd⟩ := ihp hp.1 h hc
        exact ⟨d', .inl hd', hdd⟩
      · obtain ⟨d', hd', hdd⟩ := ihq hp.2 h hc
        exact ⟨d', .inr hd', hdd⟩
  | star p ihp =>
      refine hc.walk (fun hm hstep => ?_) h
      obtain ⟨d', hd', hd⟩ := ihp hp hstep.1 hm
      exact ⟨d', ⟨hd', by rw [hm.2.1, hd.2.1]; exact hstep.2⟩, hd⟩
  | label l p ih =>
      obtain ⟨m, hm, rfl⟩ := h
      obtain ⟨m', hm', hmm⟩ := ih hp hm hc
      exact ⟨_, ⟨m', hm', rfl⟩, hmm⟩
  | start =>
      obtain ⟨hpos, rfl⟩ := h
      exact ⟨c', ⟨hc.2.1.trans hpos, rfl⟩, hc⟩
  | stop => cases hp
  | edge =>
      obtain ⟨hedge, rfl⟩ := h
      exact ⟨c', ⟨hc.atEdge.trans hedge, rfl⟩, hc⟩

theorem Spans.of_shadow (h : p.Spans c' d') (hc : Shadows c c') :
    (∃ d, p.Spans c d ∧ Shadows d d') ∨
      (Past d' ∧ (p.sparesReturn → ∃ d, p.Spans c d ∧ d.rest = [])) := by
  induction p generalizing c c' d' with
  | done => exact .inl ⟨c, rfl, (show d' = c' from h) ▸ hc⟩
  | one s =>
      obtain hd | ⟨-, hset, hpast⟩ := hc.of_accept? h
      · exact .inl hd
      · exact .inr ⟨hpast, by simp [sparesReturn, hset]⟩
  | many s =>
      refine hc.of_walk (fun {m _ _} hm hd => ?_) (fun hpast hd => ?_) h
      · rcases hm.of_accept? hd with hshadow | ⟨hend, -, hpast⟩
        · exact .inl hshadow
        · exact .inr ⟨hpast, fun _ => ⟨m, .refl, hend⟩⟩
      · rw [accept?_of_rest_nil hpast.1] at hd
        cases hd
  | seq p q ihp ihq =>
      obtain ⟨m', hm', hd'⟩ := h
      obtain ⟨m, hm, hmm⟩ | ⟨hpast, hm⟩ := ihp hm' hc
      · obtain ⟨d, hd, hdd⟩ | ⟨hpast, hd⟩ := ihq hd' hmm
        · exact .inl ⟨d, ⟨m, hm, hd⟩, hdd⟩
        · refine .inr ⟨hpast, fun hspares => ?_⟩
          rw [sparesReturn, Bool.and_eq_true] at hspares
          obtain ⟨d, hd, hend⟩ := hd hspares.2
          exact ⟨d, ⟨m, hm, hd⟩, hend⟩
      · obtain ⟨hend, hq⟩ := hd'.past hpast
        refine .inr ⟨hend, fun hspares => ?_⟩
        simp only [sparesReturn, hq, Bool.not_true, Bool.or_false, Bool.and_eq_true] at hspares
        obtain ⟨m, hm, hrest⟩ := hm hspares.1
        obtain ⟨d, hd, hend⟩ := exists_spans_of_isPassable hq hrest
        exact ⟨d, ⟨m, hm, hd⟩, hend⟩
  | alt p q ihp ihq =>
      obtain h | h := h
      · obtain ⟨d, hd, hdd⟩ | ⟨hpast, hd⟩ := ihp h hc
        · exact .inl ⟨d, .inl hd, hdd⟩
        · refine .inr ⟨hpast, fun hspares => ?_⟩
          rw [sparesReturn, Bool.and_eq_true] at hspares
          obtain ⟨d, hd, hend⟩ := hd hspares.1
          exact ⟨d, .inl hd, hend⟩
      · obtain ⟨d, hd, hdd⟩ | ⟨hpast, hd⟩ := ihq h hc
        · exact .inl ⟨d, .inr hd, hdd⟩
        · refine .inr ⟨hpast, fun hspares => ?_⟩
          rw [sparesReturn, Bool.and_eq_true] at hspares
          obtain ⟨d, hd, hend⟩ := hd hspares.2
          exact ⟨d, .inr hd, hend⟩
  | star p ihp =>
      refine hc.of_walk (fun {m _ _} hm hstep => ?_) (fun hpast hstep => ?_) h
      · rcases ihp hstep.1 hm with ⟨d, hd, hdd⟩ | ⟨hpast, hd⟩
        · exact .inl ⟨d, ⟨hd, by rw [← hm.2.1, ← hdd.2.1]; exact hstep.2⟩, hdd⟩
        · refine .inr ⟨hpast, fun hspares => ?_⟩
          obtain ⟨d, hd, hend⟩ := hd hspares
          by_cases hmoves : m.pos < d.pos
          · exact ⟨d, .single ⟨hd, hmoves⟩, hend⟩
          · have hpos := hd.pos
            rw [hend, List.length_nil] at hpos
            exact ⟨m, .refl, List.eq_nil_of_length_eq_zero (by omega)⟩
      · have hpos := hstep.1.pos
        rw [hpast.1, List.length_nil] at hpos
        omega
  | label l p ih =>
      obtain ⟨m', hm', rfl⟩ := h
      obtain ⟨m, hm, hmm⟩ | ⟨hpast, hm⟩ := ih hm' hc
      · exact .inl ⟨_, ⟨m, hm, rfl⟩, hmm⟩
      · refine .inr ⟨hpast, fun hspares => ?_⟩
        obtain ⟨m, hm, hend⟩ := hm hspares
        exact ⟨_, ⟨m, hm, rfl⟩, hend⟩
  | start =>
      obtain ⟨hpos, rfl⟩ := h
      exact .inl ⟨c, ⟨hc.2.1.symm.trans hpos, rfl⟩, hc⟩
  | stop => exact absurd h.1 hc.rest_ne_nil
  | edge =>
      obtain ⟨hedge, rfl⟩ := h
      exact .inl ⟨c, ⟨hc.atEdge.symm.trans hedge, rfl⟩, hc⟩

theorem Spans.past_of_takesReturn (hp : p.takesReturn) (h : p.Spans c d) (hd : d.rest = []) (hc : Shadows c c') :
    ∃ d', p.Spans c' d' ∧ Past d' := by
  induction p generalizing c d c' with
  | many s =>
      obtain ⟨m', hm', hm⟩ := shadow (p := many s) rfl h hc
      obtain ⟨d', hd', hpast⟩ := hm.accept?_return hd hp
      exact ⟨d', hm'.tail hd', hpast⟩
  | seq p q _ ihq =>
      rw [takesReturn, Bool.and_eq_true] at hp
      obtain ⟨m, hm, hq⟩ := h
      obtain ⟨m', hm', hmm⟩ := hm.shadow hp.1 hc
      obtain ⟨d', hd', hpast⟩ := ihq hp.2 hq hd hmm
      exact ⟨d', ⟨m', hm', hd'⟩, hpast⟩
  | label l p ih =>
      obtain ⟨m, hm, rfl⟩ := h
      obtain ⟨m', hm', hpast⟩ := ih hp hm hd hc
      exact ⟨_, ⟨m', hm', rfl⟩, hpast⟩
  | done | one | alt | star | start | stop | edge => cases hp

/-- Whether the pattern finds the same in every text with and without a carriage return behind it. -/
def isSteady : Pattern → Bool
  | seq p stop => p.takesReturn && p.sparesReturn
  | seq p q => p.isOpen && (p.sparesReturn || !q.isPassable) && q.isSteady
  | alt (one s) stop => s.has '\r'
  | alt p q => p.isSteady && q.isSteady
  | p => p.isOpen && p.sparesReturn

theorem exists_spans_of_shadow (hp : p.isSteady) (hc : Shadows c c') :
    (∃ d, p.Spans c d) ↔ ∃ d', p.Spans c' d' := by
  fun_induction isSteady p generalizing c c' with
  | case1 p =>
      rw [Bool.and_eq_true] at hp
      constructor
      · rintro ⟨d, m, hm, hend, -⟩
        obtain ⟨m', hm', hpast⟩ := hm.past_of_takesReturn hp.1 hend hc
        exact ⟨m', m', hm', hpast.1, rfl⟩
      · rintro ⟨d', m', hm', hend', -⟩
        obtain ⟨m, -, hmm⟩ | ⟨-, hm⟩ := hm'.of_shadow hc
        · exact absurd hend' hmm.rest_ne_nil
        · obtain ⟨m, hm, hend⟩ := hm hp.2
          exact ⟨m, m, hm, hend, rfl⟩
  -- The first part leaves the carriage return to the second, or it spares it and the second may match nothing.
  | case2 p q hq ih =>
      simp only [Bool.and_eq_true] at hp
      constructor
      · rintro ⟨d, m, hm, hd⟩
        obtain ⟨m', hm', hmm⟩ := hm.shadow hp.1.1 hc
        obtain ⟨d', hd'⟩ := (ih hp.2 hmm).mp ⟨d, hd⟩
        exact ⟨d', m', hm', hd'⟩
      · rintro ⟨d', m', hm', hd'⟩
        obtain ⟨m, hm, hmm⟩ | ⟨hpast, hm⟩ := hm'.of_shadow hc
        · obtain ⟨d, hd⟩ := (ih hp.2 hmm).mpr ⟨d', hd'⟩
          exact ⟨d, m, hm, hd⟩
        · obtain ⟨-, hpassable⟩ := hd'.past hpast
          obtain ⟨m, hm, hend⟩ := hm (by simpa [hpassable] using hp.1.2)
          obtain ⟨d, hd, -⟩ := exists_spans_of_isPassable hpassable hend
          exact ⟨d, m, hm, hd⟩
  | case3 s =>
      constructor
      · rintro ⟨d, hd | ⟨hend, -⟩⟩
        · obtain ⟨d', hd', -⟩ := hc.accept? hd
          exact ⟨d', .inl hd'⟩
        · obtain ⟨d', hd', -⟩ := hc.accept?_return hend hp
          exact ⟨d', .inl hd'⟩
      · rintro ⟨d', hd' | ⟨hend', -⟩⟩
        · obtain ⟨d, hd, -⟩ | ⟨hend, -⟩ := hc.of_accept? hd'
          · exact ⟨d, .inl hd⟩
          · exact ⟨c, .inr ⟨hend, rfl⟩⟩
        · exact absurd hend' hc.rest_ne_nil
  | case4 p q _ ihp ihq =>
      rw [Bool.and_eq_true] at hp
      simp only [Spans, exists_or, ihp hp.1 hc, ihq hp.2 hc]
  | case5 p _ _ _ _ =>
      rw [Bool.and_eq_true] at hp
      constructor
      · rintro ⟨d, hd⟩
        obtain ⟨d', hd', -⟩ := hd.shadow hp.1 hc
        exact ⟨d', hd'⟩
      · rintro ⟨d', hd'⟩
        obtain ⟨d, hd, -⟩ | ⟨-, hd⟩ := hd'.of_shadow hc
        · exact ⟨d, hd⟩
        · obtain ⟨d, hd, -⟩ := hd hp.2
          exact ⟨d, hd⟩

theorem occursIn_return_of_isSteady (hp : p.isSteady) (s : Bytes) :
    p.occursIn (s ++ [carriageReturn]) = p.occursIn s := by
  rw [Bool.eq_iff_iff, occursIn_iff, occursIn_iff]
  constructor
  · rintro ⟨c', d', hc', hd'⟩
    obtain ⟨c, hc, hshadow | ⟨hend, hpast⟩⟩ := shadow_or_past hc'
    · obtain ⟨d, hd⟩ := (exists_spans_of_shadow hp hshadow).mpr ⟨d', hd'⟩
      exact ⟨c, d, hc, hd⟩
    · obtain ⟨d, hd, -⟩ := exists_spans_of_isPassable (hd'.past hpast).2 hend
      exact ⟨c, d, hc, hd⟩
  · rintro ⟨c, d, hc, hd⟩
    obtain ⟨c', hc', hshadow⟩ := exists_shadow hc
    obtain ⟨d', hd'⟩ := (exists_spans_of_shadow hp hshadow).mp ⟨d, hd⟩
    exact ⟨c', d', hc', hd'⟩

theorem occursIn_return_blank (hp : p.isOpen) {s : CharSet} (hs : s.has '\r') (t : Bytes) :
    (seq p (one s)).occursIn (t ++ [carriageReturn]) =
      ((seq p (one s)).occursIn t || (seq p stop).occursIn t) := by
  rw [Bool.eq_iff_iff, Bool.or_eq_true, occursIn_iff, occursIn_iff, occursIn_iff]
  constructor
  · rintro ⟨c', d', hc', m', hm', hd'⟩
    have hnotPast (hpast : Past m') : False := by
      rw [Spans, accept?_of_rest_nil hpast.1] at hd'
      cases hd'
    obtain ⟨c, hc, hshadow | ⟨-, hpast⟩⟩ := shadow_or_past hc'
    · obtain ⟨m, hm, hmm⟩ | ⟨hpast, -⟩ := hm'.of_shadow hshadow
      · obtain ⟨d, hd, -⟩ | ⟨hend, -⟩ := hmm.of_accept? hd'
        · exact .inl ⟨c, d, hc, m, hm, hd⟩
        · exact .inr ⟨c, m, hc, m, hm, hend, rfl⟩
      · exact (hnotPast hpast).elim
    · exact (hnotPast (hm'.past hpast).1).elim
  · rintro (⟨c, d, hc, m, hm, hd⟩ | ⟨c, d, hc, m, hm, hend, -⟩)
    · obtain ⟨c', hc', hshadow⟩ := exists_shadow hc
      obtain ⟨m', hm', hmm⟩ := hm.shadow hp hshadow
      obtain ⟨d', hd', -⟩ := hmm.accept? hd
      exact ⟨c', d', hc', m', hm', hd'⟩
    · obtain ⟨c', hc', hshadow⟩ := exists_shadow hc
      obtain ⟨m', hm', hmm⟩ := hm.shadow hp hshadow
      obtain ⟨d', hd', -⟩ := hmm.accept?_return hend hs
      exact ⟨c', d', hc', m', hm', hd'⟩

theorem occursIn_optional (p q : Pattern) (t : Bytes) :
    (seq (seq p (alt q done)) stop).occursIn t = ((seq (seq p q) stop).occursIn t || (seq p stop).occursIn t) := by
  rw [Bool.eq_iff_iff, Bool.or_eq_true, occursIn_iff, occursIn_iff, occursIn_iff]
  constructor
  · rintro ⟨c, d, hc, e, ⟨m, hm, he | rfl⟩, hd⟩
    · exact .inl ⟨c, d, hc, e, ⟨m, hm, he⟩, hd⟩
    · exact .inr ⟨c, d, hc, _, hm, hd⟩
  · rintro (⟨c, d, hc, e, ⟨m, hm, he⟩, hd⟩ | ⟨c, d, hc, m, hm, hd⟩)
    · exact ⟨c, d, hc, e, ⟨m, hm, .inl he⟩, hd⟩
    · exact ⟨c, d, hc, m, ⟨m, hm, .inr rfl⟩, hd⟩

theorem occursIn_of_return (hp : p.sparesReturn) {t : Bytes}
    (h : (seq p stop).occursIn (t ++ [carriageReturn])) : (seq p stop).occursIn t := by
  rw [occursIn_iff] at h ⊢
  obtain ⟨c', d', hc', m', hm', hend', -⟩ := h
  obtain ⟨c, hc, hshadow | ⟨hrest, hpast⟩⟩ := shadow_or_past hc'
  · obtain ⟨m, -, hmm⟩ | ⟨-, hm⟩ := hm'.of_shadow hshadow
    · exact absurd hend' hmm.rest_ne_nil
    · obtain ⟨m, hm, hend⟩ := hm hp
      exact ⟨c, m, hc, m, hm, hend, rfl⟩
  · obtain ⟨m, hm, hend⟩ := exists_spans_of_isPassable (hm'.past hpast).2 hrest
    exact ⟨c, m, hc, m, hm, hend, rfl⟩

/-- The part of a pattern behind which it insists on a blank, or may only find the end of the text:
where this part ends a line, a carriage return behind it matters. -/
def brink? : Pattern → Option Pattern
  | seq p (one s) => if p.isOpen && s.has '\r' then some p else none
  | seq (seq p (alt q done)) stop =>
    if p.sparesReturn && (seq (seq p q) stop).isSteady then some p else none
  | _ => none

theorem brink?_eq_some {b : Pattern} (hb : p.brink? = some b) :
    (∃ s, p = seq b (one s) ∧ b.isOpen ∧ s.has '\r') ∨
      ∃ q, p = seq (seq b (alt q done)) stop ∧ b.sparesReturn ∧ (seq (seq b q) stop).isSteady := by
  revert hb
  fun_cases brink? p with
  | case1 q s hq =>
      rintro ⟨⟩
      rw [Bool.and_eq_true] at hq
      exact .inl ⟨s, rfl, hq⟩
  | case3 q r hq =>
      rintro ⟨⟩
      rw [Bool.and_eq_true] at hq
      exact .inr ⟨r, rfl, hq⟩
  | case2 | case4 | case5 => simp

theorem occursIn_return_of_brink {b : Pattern} (hb : p.brink? = some b) {t : Bytes}
    (h : ¬(seq b stop).occursIn t) : p.occursIn (t ++ [carriageReturn]) = p.occursIn t := by
  rw [Bool.not_eq_true] at h
  obtain ⟨s, rfl, hopen, hs⟩ | ⟨q, rfl, hspares, hsteady⟩ := brink?_eq_some hb
  · rw [occursIn_return_blank hopen hs, h, Bool.or_false]
  · have hreturn : (seq b stop).occursIn (t ++ [carriageReturn]) = false := by
      rw [Bool.eq_false_iff] at h ⊢
      exact fun hin => h (occursIn_of_return hspares hin)
    rw [occursIn_optional, occursIn_optional, hreturn, h, occursIn_return_of_isSteady hsteady]

end SourceSurvey.Pattern
