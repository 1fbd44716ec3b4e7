import SourceSurvey.Line.Constructs
import SourceSurvey.Proofs.Text.Match
import Mathlib.Data.List.Basic

namespace SourceSurvey

def CharSet.avoids (avoid : List UInt8) (s : CharSet) : Bool :=
  avoid.all fun b => b < 0x80 && !s.has (Char.ofNat b.toNat)

namespace Cursor

/-- The way from one place in the text to another one, past these bytes. -/
def Passes (taken : Bytes) (c d : Cursor) : Prop := c.rest = taken ++ d.rest ∧ d.pos = c.pos + taken.length

variable {c d m : Cursor} {taken more : Bytes}

theorem passes_nil (c : Cursor) : Passes [] c c := ⟨rfl, rfl⟩

theorem Passes.append (h : Passes taken c m) (h' : Passes more m d) : Passes (taken ++ more) c d := by
  constructor
  · rw [h.1, h'.1, List.append_assoc]
  · rw [h'.2, h.2, List.length_append, Nat.add_assoc]

theorem Passes.take_rest (h : Passes taken c d) : c.rest.take (d.pos - c.pos) = taken := by
  rw [h.2, Nat.add_sub_cancel_left, h.1, List.take_left]

theorem exists_passes {avoid : List UInt8} {s : CharSet} (h : c.accept? s = some d) :
    ∃ taken, Passes taken c d ∧ taken ≠ [] ∧ (s.avoids avoid → ∀ b ∈ taken, b ∉ avoid) := by
  obtain ⟨g, r, hn, hset, rfl⟩ := accept?_eq_some_iff.mp h
  have hraw := Utf8.next?_raw hn
  refine ⟨g.raw, ⟨hraw.symm, rfl⟩, ?_, fun havoids b hmem hb => ?_⟩
  · intro hnil
    have hlength := Utf8.next?_length hn
    rw [← hraw, hnil, List.nil_append] at hlength
    exact Nat.lt_irrefl _ hlength
  · have hchar := List.all_eq_true.mp havoids b hb
    rw [Bool.and_eq_true, decide_eq_true_eq, Bool.not_eq_true'] at hchar
    rw [Utf8.eq_ascii_of_mem_raw hn hmem hchar.1] at hset
    exact absurd hset (by simp [Utf8.ascii, hchar.2])

theorem rest_suffix_of_nexts (h : Relation.ReflTransGen Next c d) :
    d.rest <:+ c.rest ∧ (c.captures = {} → d.captures = {}) := by
  induction h with
  | refl => exact ⟨List.suffix_rfl, id⟩
  | tail _ hstep ih =>
      obtain ⟨g, r, hn, rfl⟩ := hstep
      exact ⟨List.IsSuffix.trans ⟨g.raw, Utf8.next?_raw hn⟩ ih.1, fun _ => rfl⟩

end Cursor

namespace Pattern

open Relation

def avoids (avoid : List UInt8) : Pattern → Bool
  | one s | many s => s.avoids avoid
  | seq p q | alt p q => p.avoids avoid && q.avoids avoid
  | star p | label _ p => p.avoids avoid
  | done | start | stop | edge => true

def moves : Pattern → Bool
  | one _ => true
  | seq p q => p.moves || q.moves
  | alt p q => p.moves && q.moves
  | label _ p => p.moves
  | many _ | star _ | done | start | stop | edge => false

def names : Pattern → Bool
  | label .name _ => true
  | label .kind p => p.names
  | seq p q => p.names || q.names
  | alt p q => p.names && q.names
  | one _ | many _ | star _ | done | start | stop | edge => false

def namesAvoid (avoid : List UInt8) : Pattern → Bool
  | label .name p => p.avoids avoid && p.moves && p.namesAvoid avoid
  | label .kind p | star p => p.namesAvoid avoid
  | seq p q | alt p q => p.namesAvoid avoid && q.namesAvoid avoid
  | one _ | many _ | done | start | stop | edge => true

variable {p : Pattern} {c d : Cursor} {s : Bytes} {avoid : List UInt8}

/-- A match takes the bytes between the places that it spans. -/
theorem Spans.exists_passes (avoid : List UInt8) (h : p.Spans c d) :
    ∃ taken, Cursor.Passes taken c d ∧ (p.moves → taken ≠ []) ∧ (p.avoids avoid → ∀ b ∈ taken, b ∉ avoid) := by
  induction p generalizing c d with
  | done => exact ⟨[], by rw [show d = c from h]; exact Cursor.passes_nil c, by simp [moves], by simp⟩
  | one set =>
      obtain ⟨taken, hpasses, hne, havoid⟩ := Cursor.exists_passes h
      exact ⟨taken, hpasses, fun _ => hne, havoid⟩
  | many set =>
      induction h with
      | refl => exact ⟨[], Cursor.passes_nil c, by simp [moves], by simp⟩
      | tail _ hstep ih =>
          obtain ⟨taken, hpasses, -, havoid⟩ := ih
          obtain ⟨more, hmore, -, havoid'⟩ := Cursor.exists_passes hstep
          refine ⟨taken ++ more, hpasses.append hmore, by simp [moves], fun hp b hb => ?_⟩
          exact (List.mem_append.mp hb).elim (havoid hp b) (havoid' hp b)
  | seq p q ihp ihq =>
      obtain ⟨m, hp, hq⟩ := h
      obtain ⟨taken, hpasses, hne, havoid⟩ := ihp hp
      obtain ⟨more, hmore, hne', havoid'⟩ := ihq hq
      refine ⟨taken ++ more, hpasses.append hmore, fun hmoves => ?_, fun havoids b hb => ?_⟩
      · rw [moves, Bool.or_eq_true] at hmoves
        have hnil := hmoves.imp hne hne'
        rwa [ne_eq, List.append_eq_nil_iff, not_and_or]
      · rw [avoids, Bool.and_eq_true] at havoids
        exact (List.mem_append.mp hb).elim (havoid havoids.1 b) (havoid' havoids.2 b)
  | alt p q ihp ihq =>
      rw [moves, avoids, Bool.and_eq_true, Bool.and_eq_true]
      obtain h | h := h
      · obtain ⟨taken, hpasses, hne, havoid⟩ := ihp h
        exact ⟨taken, hpasses, fun hmoves => hne hmoves.1, fun havoids => havoid havoids.1⟩
      · obtain ⟨taken, hpasses, hne, havoid⟩ := ihq h
        exact ⟨taken, hpasses, fun hmoves => hne hmoves.2, fun havoids => havoid havoids.2⟩
  | star p ih =>
      induction h with
      | refl => exact ⟨[], Cursor.passes_nil c, by simp [moves], by simp⟩
      | tail _ hstep ihd =>
          obtain ⟨taken, hpasses, -, havoid⟩ := ihd
          obtain ⟨more, hmore, -, havoid'⟩ := ih hstep.1
          refine ⟨taken ++ more, hpasses.append hmore, by simp [moves], fun hp b hb => ?_⟩
          exact (List.mem_append.mp hb).elim (havoid hp b) (havoid' hp b)
  | label l p ih =>
      obtain ⟨m, hm, rfl⟩ := h
      have hpasses := ih hm
      exact hpasses
  | start | stop | edge => exact ⟨[], by rw [h.2]; exact Cursor.passes_nil c, by simp [moves], by simp⟩

theorem Spans.rest_suffix (h : p.Spans c d) : d.rest <:+ c.rest := by
  obtain ⟨taken, hpasses, -⟩ := h.exists_passes []
  exact ⟨taken, hpasses.1.symm⟩

def Within (s : Bytes) (c : Captures) : Prop := c.name <:+: s ∧ c.kind <:+: s

theorem Spans.within (h : p.Spans c d) (hc : c.rest <:+ s) (hwithin : Within s c.captures) : Within s d.captures := by
  induction p generalizing c d with
  | done => rwa [show d = c from h]
  | one set =>
      obtain ⟨g, r, -, -, rfl⟩ := Cursor.accept?_eq_some_iff.mp h
      exact hwithin
  | many set =>
      induction h with
      | refl => exact hwithin
      | tail _ hstep ih =>
          obtain ⟨g, r, -, -, rfl⟩ := Cursor.accept?_eq_some_iff.mp hstep
          exact ih
  | seq p q ihp ihq =>
      obtain ⟨m, hp, hq⟩ := h
      exact ihq hq (hp.rest_suffix.trans hc) (ihp hp hc hwithin)
  | alt p q ihp ihq => exact h.elim (fun h => ihp h hc hwithin) fun h => ihq h hc hwithin
  | star p ih =>
      have hboth : d.rest <:+ s ∧ Within s d.captures := by
        induction h with
        | refl => exact ⟨hc, hwithin⟩
        | tail _ hstep ihd => exact ⟨hstep.1.rest_suffix.trans ihd.1, ih hstep.1 ihd.1 ihd.2⟩
      exact hboth.2
  | label l p ih =>
      obtain ⟨m, hm, rfl⟩ := h
      have hpart : c.rest.take (m.pos - c.pos) <:+: s := (List.take_prefix _ _).isInfix.trans hc.isInfix
      have hrest := ih hm hc hwithin
      cases l with
      | name => exact ⟨hpart, hrest.2⟩
      | kind => exact ⟨hrest.1, hpart⟩
  | start | stop | edge => rwa [h.2]

/-- A name is captured by every match of a pattern that names, and stays what the labelled part took. -/
theorem Spans.named (h : p.Spans c d) (hp : p.namesAvoid avoid)
    (hc : p.names ∨ (c.captures.name ≠ [] ∧ ∀ b ∈ c.captures.name, b ∉ avoid)) :
    d.captures.name ≠ [] ∧ ∀ b ∈ d.captures.name, b ∉ avoid := by
  induction p generalizing c d with
  | done =>
      rw [show d = c from h]
      simpa [names] using hc
  | one set =>
      obtain ⟨g, r, -, -, rfl⟩ := Cursor.accept?_eq_some_iff.mp h
      simpa [names] using hc
  | many set =>
      rw [names] at hc
      induction h with
      | refl => simpa using hc
      | tail _ hstep ih =>
          obtain ⟨g, r, -, -, rfl⟩ := Cursor.accept?_eq_some_iff.mp hstep
          exact ih
  | seq p q ihp ihq =>
      obtain ⟨m, hm, hd⟩ := h
      rw [namesAvoid, Bool.and_eq_true] at hp
      rw [names, Bool.or_eq_true, or_assoc] at hc
      apply ihq hd hp.2
      obtain hc | hc | hc := hc
      · exact .inr (ihp hm hp.1 (.inl hc))
      · exact .inl hc
      · exact .inr (ihp hm hp.1 (.inr hc))
  | alt p q ihp ihq =>
      rw [namesAvoid, Bool.and_eq_true] at hp
      rw [names, Bool.and_eq_true] at hc
      obtain h | h := h
      · exact ihp h hp.1 (hc.imp_left And.left)
      · exact ihq h hp.2 (hc.imp_left And.right)
  | star p ih =>
      rw [names] at hc
      induction h with
      | refl => simpa using hc
      | tail _ hstep ihd => exact ih hstep.1 hp (.inr ihd)
  | label l p ih =>
      obtain ⟨m, hm, rfl⟩ := h
      cases l with
      | kind =>
          have hrest := ih hm hp hc
          exact hrest
      | name =>
          rw [namesAvoid, Bool.and_eq_true, Bool.and_eq_true] at hp
          obtain ⟨taken, hpasses, hne, havoid⟩ := hm.exists_passes avoid
          -- Whatever was captured within the part, its label takes all of it.
          change c.rest.take (m.pos - c.pos) ≠ [] ∧ ∀ b ∈ c.rest.take (m.pos - c.pos), b ∉ avoid
          rw [hpasses.take_rest]
          exact ⟨hne hp.1.2, havoid hp.1.1⟩
  | start | stop | edge =>
      rw [h.2]
      simpa [names] using hc

theorem search_spans {captures : Captures} (h : p.search s = some captures) :
    ∃ c d : Cursor, p.Spans c d ∧ c.rest <:+ s ∧ c.captures = {} ∧ d.captures = captures := by
  obtain ⟨⟨c, d⟩, hfound, rfl⟩ := Option.map_eq_some_iff.mp h
  obtain ⟨hnext, hspans⟩ := searchFrom_spans hfound
  obtain ⟨hrest, hcaptures⟩ := Cursor.rest_suffix_of_nexts hnext
  exact ⟨c, d, hspans, hrest, hcaptures rfl, rfl⟩

theorem search_within {captures : Captures} (h : p.search s = some captures) : Within s captures := by
  obtain ⟨c, d, hspans, hrest, hcaptures, rfl⟩ := search_spans h
  refine hspans.within hrest ?_
  rw [hcaptures]
  exact ⟨List.nil_infix, List.nil_infix⟩

theorem search_named {captures : Captures} (h : p.search s = some captures) (hp : p.namesAvoid avoid) (hnames : p.names) :
    captures.name ≠ [] ∧ ∀ b ∈ captures.name, b ∉ avoid := by
  obtain ⟨c, d, hspans, -, -, rfl⟩ := search_spans h
  exact hspans.named hp (.inl hnames)

end Pattern

namespace Constructs

theorem exists_search_of_declaration? {patterns : List Pattern} {code : Bytes} {c : Captures}
    (h : declaration? patterns code = some c) :
    (∃ p ∈ patterns, p.search code = some c) ∧ c.name.lower ∉ reservedNames := by
  obtain ⟨p, hmem, hp⟩ := List.exists_of_findSome?_eq_some h
  obtain ⟨hsearch, hreserved⟩ := Option.filter_eq_some_iff.mp hp
  exact ⟨⟨p, hmem, hsearch⟩, by simpa using hreserved⟩

theorem ofCode_declares (p : Profile) (code : Bytes) :
    ∃ declared grouped : Option Captures,
      (∀ c ∈ declared, declaration? p.functions code = some c) ∧ (∀ c ∈ grouped, declaration? p.classes code = some c) ∧
        (ofCode p code).isFunction = declared.isSome ∧ (ofCode p code).isClass = grouped.isSome ∧
        (ofCode p code).name = ((declared.or grouped).map (·.name)).getD [] ∧
        (ofCode p code).keyword = (grouped.map (·.kind)).getD [] := by
  rw [ofCode]
  split
  · exact ⟨none, none, by simp, by simp, rfl, rfl, rfl, rfl⟩
  · refine ⟨_, _, fun c hc => ?_, fun c hc => ?_, rfl, rfl, rfl, rfl⟩
    all_goals
      split at hc
      · simp at hc
      · exact hc

theorem ofCode_subset (p : Profile) (code : Bytes) :
    (ofCode p code).name ⊆ code ∧ (ofCode p code).keyword ⊆ code := by
  obtain ⟨declared, grouped, hdeclared, hgrouped, -, -, hname, hkeyword⟩ := ofCode_declares p code
  have hwithin {patterns : List Pattern} {c : Captures} (h : declaration? patterns code = some c) :
      c.name ⊆ code ∧ c.kind ⊆ code := by
    obtain ⟨⟨q, -, hq⟩, -⟩ := exists_search_of_declaration? h
    obtain ⟨hname, hkind⟩ := Pattern.search_within hq
    exact ⟨hname.subset, hkind.subset⟩
  replace hdeclared := fun c hc => hwithin (hdeclared c hc)
  replace hgrouped := fun c hc => hwithin (hgrouped c hc)
  rw [hname, hkeyword]
  cases declared <;> cases grouped <;> simp_all

/-- A declared name stands in the code, is not empty and not reserved, and has only characters that patterns for
names take. -/
theorem ofCode_named {p : Profile} {avoid : List UInt8} {code : Bytes}
    (hp : ∀ q ∈ p.functions ++ p.classes, q.names ∧ q.namesAvoid avoid)
    (h : (ofCode p code).isFunction ∨ (ofCode p code).isClass) :
    (ofCode p code).name ≠ [] ∧ (ofCode p code).name.lower ∉ reservedNames ∧ (ofCode p code).name <:+: code ∧
      ∀ b ∈ (ofCode p code).name, b ∉ avoid := by
  obtain ⟨declared, grouped, hdeclared, hgrouped, hfunction, hclass, hname, -⟩ := ofCode_declares p code
  rw [hfunction, hclass, ← Bool.or_eq_true, ← Option.isSome_or] at h
  obtain ⟨c, hc⟩ := Option.isSome_iff_exists.mp h
  rw [hname, hc, Option.map_some, Option.getD_some]
  have hfound : ∃ patterns ⊆ p.functions ++ p.classes, declaration? patterns code = some c := by
    obtain hc | ⟨-, hc⟩ := Option.or_eq_some_iff.mp hc
    · exact ⟨p.functions, List.subset_append_left _ _, hdeclared c hc⟩
    · exact ⟨p.classes, List.subset_append_right _ _, hgrouped c hc⟩
  obtain ⟨patterns, hsub, hfound⟩ := hfound
  obtain ⟨⟨q, hq, hsearch⟩, hreserved⟩ := exists_search_of_declaration? hfound
  obtain ⟨hnames, havoid⟩ := hp q (hsub hq)
  obtain ⟨hne, hbytes⟩ := Pattern.search_named hsearch havoid hnames
  exact ⟨hne, hreserved, (Pattern.search_within hsearch).1, hbytes⟩

end Constructs

end SourceSurvey
