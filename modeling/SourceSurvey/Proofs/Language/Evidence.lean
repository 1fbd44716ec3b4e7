import Mathlib
import SourceSurvey.Proofs.Keyed
import SourceSurvey.Proofs.Language.Fit

namespace SourceSurvey

namespace Corroboration

variable (p : Profile) (limit : Int) (text : Bytes)

theorem score_nonneg : 0 ≤ score p limit text := by
  rw [score]
  split
  · exact le_rfl
  dsimp only
  split
  · exact le_rfl
  · positivity

end Corroboration

namespace Guess

variable {gs : List Guess} {g : Guess} {k : Int}

theorem rank_subperm (k : Int) (gs : List Guess) : (rank k gs).Subperm gs := by
  have hranks := ranks_mergeSort gs
  rw [hranks.rank_eq_ite]
  split
  · exact (List.take_sublist _ _).subperm.trans hranks.perm.subperm
  · exact hranks.perm.subperm

theorem pairwise_rank (k : Int) (gs : List Guess) : (rank k gs).Pairwise fun a b => b.confidence ≤ a.confidence := by
  have hranks := ranks_mergeSort gs
  rw [hranks.rank_eq_ite]
  split
  · exact hranks.descending.sublist (List.take_sublist _ _)
  · exact hranks.descending

theorem length_rank (hk : 0 < k) (gs : List Guess) : (rank k gs).length = min k.toNat gs.length := by
  have hranks := ranks_mergeSort gs
  rw [hranks.rank_eq hk, List.length_take, hranks.perm.length_eq]

theorem length_of_cut (hk : 0 < k) (hg : g ∈ gs) (hcut : g ∉ rank k gs) : (rank k gs).length = k := by
  have hfewer : (rank k gs).length < gs.length := by
    by_contra hall
    exact hcut (((rank_subperm k gs).perm_of_length_le (not_lt.mp hall)).mem_iff.mpr hg)
  rw [length_rank hk] at hfewer ⊢
  omega

end Guess

namespace Classifier

open Corroboration

def Notes.note (n : Notes) (g : Guess) : Notes :=
  match n.best.lookup g.language with
  | some old =>
    if old < g.confidence then
      { n with best := n.best.map fun e => if e.1 = g.language then (g.language, g.confidence) else e }
    else n
  | none =>
    { order := n.order ++ [g.language]
      best := if 0 < g.confidence then n.best ++ [(g.language, g.confidence)] else n.best }

namespace Notes

def confidence (n : Notes) (id : String) : Rat := (n.best.lookup id).getD 0

theorem languages_guesses (n : Notes) : n.guesses.map (·.language) = n.order := by
  rw [Notes.guesses, List.map_map]
  exact List.map_id _

variable {n : Notes} {gs : List Guess} (g : Guess) (id : String)

theorem lookup_note : (n.note g).best.lookup id =
    if id = g.language ∧ ((n.best.lookup id).isSome ∨ 0 < g.confidence) then
      some (max (n.confidence id) g.confidence)
    else n.best.lookup id := by
  rw [note, confidence]
  by_cases hid : id = g.language
  · subst hid
    cases hold : n.best.lookup g.language with
    | some old =>
        by_cases hless : old < g.confidence
        · simp [hless, Keyed.lookup_replace, hold, max_eq_right hless.le]
        · simp [hless, hold, max_eq_left (not_lt.mp hless)]
    | none =>
        by_cases hpos : 0 < g.confidence
        · simp [hpos, List.lookup_append, hold, max_eq_right hpos.le]
        · simp [hpos, hold]
  · simp only [hid, false_and, if_false]
    split
    · split
      · rw [Keyed.lookup_replace, if_neg hid]
      · rfl
    · split
      · simp [List.lookup_append, Keyed.lookup_cons, hid]
      · rfl

theorem isSome_note : ((n.note g).best.lookup id).isSome ↔
    (n.best.lookup id).isSome ∨ id = g.language ∧ 0 < g.confidence := by
  rw [lookup_note]
  split
  · rename_i h
    exact iff_of_true rfl (h.2.imp_right fun hpos => ⟨h.1, hpos⟩)
  · rename_i h
    exact (or_iff_left fun hnew => h ⟨hnew.1, .inr hnew.2⟩).symm

theorem confidence_note :
    (n.note g).confidence id = if id = g.language then max (n.confidence id) g.confidence else n.confidence id := by
  rw [confidence, lookup_note]
  by_cases hid : id = g.language
  · rw [if_pos hid]
    split
    · rfl
    · rename_i h
      obtain ⟨hnone, hpos⟩ := not_or.mp fun hnew => h ⟨hid, hnew⟩
      rw [confidence, Option.not_isSome_iff_eq_none.mp hnone, Option.getD_none, max_eq_left (not_lt.mp hpos)]
  · rw [if_neg hid, if_neg fun h => hid h.1, confidence]

theorem order_note : (n.note g).order =
    if (n.best.lookup g.language).isSome then n.order else n.order ++ [g.language] := by
  rw [note]
  split
  · rename_i old hold
    rw [hold]
    split <;> rfl
  · rename_i hnone
    rw [hnone]
    rfl

/-- What has been noted sums up the mentions: of each language the greatest confidence, if that is above zero. -/
structure Sums (n : Notes) (gs : List Guess) : Prop where
  known : ∀ id, (n.best.lookup id).isSome ↔ ∃ x > 0, ⟨id, x⟩ ∈ gs
  greatest : ∀ id, IsGreatest (insert 0 {x | ⟨id, x⟩ ∈ gs}) (n.confidence id)
  mentioned : ∀ id, id ∈ n.order ↔ ∃ x, ⟨id, x⟩ ∈ gs
  count_le : ∀ id, n.order.count id ≤ (gs.map (·.language)).count id
  /-- A language that is first mentioned with some confidence is listed this once. -/
  once : ∀ g, gs.find? (·.language = g.language) = some g → 0 < g.confidence → n.order.count g.language ≤ 1

theorem sums_nil : Sums {} [] where
  known := by simp
  greatest := by simp [confidence]
  mentioned := by simp
  count_le := by simp
  once := by simp

variable {g}

theorem mk_mem_append {x : Rat} : ⟨id, x⟩ ∈ gs ++ [g] ↔ ⟨id, x⟩ ∈ gs ∨ id = g.language ∧ x = g.confidence := by
  cases g
  simp

theorem Sums.note (h : n.Sums gs) : (n.note g).Sums (gs ++ [g]) where
  known id := by
    rw [isSome_note, h.known]
    simp only [mk_mem_append]
    constructor
    · rintro (⟨x, hpos, hx⟩ | ⟨hid, hpos⟩)
      · exact ⟨x, hpos, .inl hx⟩
      · exact ⟨g.confidence, hpos, .inr ⟨hid, rfl⟩⟩
    · rintro ⟨x, hpos, hx | ⟨hid, rfl⟩⟩
      · exact .inl ⟨x, hpos, hx⟩
      · exact .inr ⟨hid, hpos⟩
  greatest id := by
    have hset : insert 0 {x | ⟨id, x⟩ ∈ gs ++ [g]} =
        if id = g.language then insert g.confidence (insert 0 {x | ⟨id, x⟩ ∈ gs})
        else insert 0 {x | ⟨id, x⟩ ∈ gs} := by
      ext x
      simp only [Set.mem_insert_iff, Set.mem_ofPred_eq, mk_mem_append]
      split <;> simp only [Set.mem_insert_iff, Set.mem_ofPred_eq] <;> tauto
    rw [hset, confidence_note]
    split
    · rw [max_comm]
      exact (h.greatest id).insert g.confidence
    · exact h.greatest id
  mentioned id := by
    simp only [mk_mem_append, exists_or, exists_and_left, exists_eq, and_true]
    rw [order_note, ← h.mentioned]
    split
    · rename_i hsome
      obtain ⟨x, -, hx⟩ := (h.known _).mp hsome
      have hmem : g.language ∈ n.order := (h.mentioned _).mpr ⟨x, hx⟩
      exact (or_iff_left_of_imp fun hid => hid ▸ hmem).symm
    · simp
  count_le id := by
    rw [order_note, List.map_append, List.count_append]
    split
    · exact (h.count_le id).trans (Nat.le_add_right _ _)
    · rw [List.count_append]
      exact Nat.add_le_add_right (h.count_le id) _
  once first hfirst hpos := by
    rw [List.find?_append] at hfirst
    rw [order_note]
    cases hbefore : gs.find? (·.language = first.language) with
    | some earlier =>
        rw [hbefore] at hfirst
        obtain rfl : first = earlier := (Option.some.inj hfirst).symm
        have hcount := h.once _ hbefore hpos
        split
        · exact hcount
        · rename_i hnew
          -- The first mention left a positive confidence behind, so that this mention is of another language.
          have hother : g.language ≠ first.language := by
            intro hsame
            rw [hsame] at hnew
            exact hnew ((h.known _).mpr ⟨first.confidence, hpos, List.mem_of_find?_eq_some hbefore⟩)
          rwa [List.count_append, List.count_singleton, beq_eq_false_iff_ne.mpr hother]
    | none =>
        have hunlisted : n.order.count first.language = 0 := by
          rw [List.count_eq_zero, h.mentioned]
          rintro ⟨x, hx⟩
          simpa using List.find?_eq_none.mp hbefore _ hx
        split
        · omega
        · rw [List.count_append, hunlisted, Nat.zero_add]
          exact List.count_le_length

theorem Sums.foldl (h : n.Sums gs) (more : List Guess) : (more.foldl Notes.note n).Sums (gs ++ more) := by
  induction more generalizing n gs with
  | nil => simpa using h
  | cons g more ih => simpa using ih h.note

end Notes

/-- What a text is said to be: by its interpreter, by its mode lines, and by a ranking of candidates, the best first. -/
structure Lookups where
  byInterpreter : Bytes → List String
  byModeline : Bytes → List String
  ranked : Bytes → List String

def Lookups.declared : Lookups := ⟨Declared.byInterpreter, Declared.byModeline, fun _ => candidates⟩

/-- The strength of a candidate at a rank: its fit, less for a lower rank and more for a signature. -/
def strength (sampleLines : Int) (text : Bytes) (p : Profile) (rank : Nat) : Rat :=
  min 1 (score p sampleLines text * (7 / 10 + 3 / 10 / (rank + 1)) + if isSigned p sampleLines text then 2 / 10 else 0)

section Ranked

variable (sampleLines : Int) (text : Bytes) (p : Profile) (i : Nat)

theorem strength_nonneg : 0 ≤ strength sampleLines text p i := by
  have hscore := score_nonneg p sampleLines text
  rw [strength]
  split <;> positivity

theorem strength_pos_iff :
    0 < strength sampleLines text p i ↔ 0 < score p sampleLines text ∨ isSigned p sampleLines text := by
  have hscore := score_nonneg p sampleLines text
  have hscale : (0 : Rat) < 7 / 10 + 3 / 10 / (i + 1) := by positivity
  rw [strength, lt_min_iff, and_iff_right one_pos]
  split
  · rename_i hsigned
    simp only [hsigned, or_true, iff_true]
    positivity
  · rename_i hsigned
    rw [add_zero, or_iff_left hsigned, mul_pos_iff_of_pos_right hscale]

theorem rankedConfidence_eq : rankedConfidence sampleLines text p i = strength sampleLines text p i := by
  have hscale : 1 - rankShare + rankShare * (1 / ((i + 1 : Nat) : Rat)) = 7 / 10 + 3 / 10 / (i + 1) := by
    rw [rankShare]
    push_cast
    ring
  have hscale_le : (7 / 10 + 3 / 10 / (i + 1) : Rat) ≤ 1 := by
    have hshare : (3 / 10 : Rat) / (i + 1) ≤ 3 / 10 := div_le_self (by norm_num) (by simp)
    linarith
  have hscaled_le : score p sampleLines text * (7 / 10 + 3 / 10 / (i + 1)) ≤ 1 :=
    mul_le_one₀ (score_le_one p sampleLines text) (by positivity) hscale_le
  rw [rankedConfidence, strength, hscale]
  split
  · rw [min_def, signatureBonus]
  · rw [add_zero, min_eq_right hscaled_le]

end Ranked

/-- Evidence for a language, and how strong it is. Names stand for the language that they refer to in the registry. -/
inductive Evidence (l : Lookups) (sampleLines : Int) (text : Bytes) (p : Profile) : Rat → Prop
  | interpreter {name : String} (hname : name ∈ l.byInterpreter text) (hp : Registry.profile? name = some p) :
      Evidence l sampleLines text p (95 / 100)
  | modeline {name : String} (hname : name ∈ l.byModeline text) (hp : Registry.profile? name = some p) :
      Evidence l sampleLines text p (9 / 10)
  | ranked {name : String} {i : Nat} (hname : (l.ranked text)[i]? = some name) (hp : Registry.profile? name = some p) :
      Evidence l sampleLines text p (strength sampleLines text p i)

namespace Evidence

variable {l : Lookups} {sampleLines : Int} {text : Bytes} {p : Profile} {x : Rat}

theorem nonneg (h : Evidence l sampleLines text p x) : 0 ≤ x := by
  cases h with
  | interpreter | modeline => norm_num
  | ranked => exact strength_nonneg _ _ _ _

theorem le_one (h : Evidence l sampleLines text p x) : x ≤ 1 := by
  cases h with
  | interpreter | modeline => norm_num
  | ranked => exact min_le_left _ _

end Evidence

def mention? (strength : Profile → Rat) (name : String) : Option Guess :=
  (Registry.profile? name).map fun p => ⟨p.id, strength p⟩

theorem eq_of_id_eq {p q : Profile} (hp : p ∈ Registry.profiles) (hq : q ∈ Registry.profiles) (h : p.id = q.id) :
    p = q :=
  List.inj_on_of_nodup_map nodup_identifiers hp hq h

theorem exists_profile_of_mention? {name : String} {strength : Profile → Rat} {g : Guess}
    (h : mention? strength name = some g) :
    ∃ p ∈ Registry.profiles, g.language = p.id := by
  obtain ⟨p, hp, rfl⟩ := Option.map_eq_some_iff.mp h
  exact ⟨p, List.mem_of_find?_eq_some hp, rfl⟩

theorem mk_mem_filterMap_mention? {α : Type} {named : List α} {name : α → String} {strength : α → Profile → Rat}
    {p : Profile}
    {x : Rat} (hp : p ∈ Registry.profiles) :
    ⟨p.id, x⟩ ∈ named.filterMap (fun a => mention? (strength a) (name a)) ↔
      ∃ a ∈ named, Registry.profile? (name a) = some p ∧ x = strength a p := by
  simp only [List.mem_filterMap, mention?, Option.map_eq_some_iff, Guess.mk.injEq]
  constructor
  · rintro ⟨a, ha, q, hq, hid, rfl⟩
    obtain rfl := eq_of_id_eq (List.mem_of_find?_eq_some hq) hp hid
    exact ⟨a, ha, hq, rfl⟩
  · rintro ⟨a, ha, hq, rfl⟩
    exact ⟨a, ha, p, hq, rfl, rfl⟩

theorem foldl_record (n : Notes) (confidence : Rat) (names : List String) :
    names.foldl (·.record · confidence) n = (names.filterMap (mention? fun _ => confidence)).foldl Notes.note n := by
  rw [List.foldl_filterMap]
  apply List.foldl_ext
  intro n name _
  rw [Notes.record, mention?]
  cases Registry.profile? name <;> rfl

def identifiers (names : List String) : List String := names.filterMap fun name => (Registry.profile? name).map (·.id)

namespace Lookups

variable (l : Lookups) (sampleLines topK : Int) (text : Bytes)

def declarations : List Guess :=
  (l.byInterpreter text).filterMap (mention? fun _ => shebangConfidence) ++
    (l.byModeline text).filterMap (mention? fun _ => modelineConfidence)

def ranking : List Guess :=
  (l.ranked text).zipIdx.filterMap fun (name, i) => mention? (rankedConfidence sampleLines text · i) name

def guesses : List Guess :=
  weigh (l.byInterpreter text) (l.byModeline text) (l.ranked text) (positiveOr sampleLines defaultSampleLines)
    (positiveOr topK defaultTopK) text

theorem foldl_ranked (n : Notes) :
    (l.ranked text).zipIdx.foldl (fun (n : Notes) (language, i) =>
      match Registry.profile? language with
      | none => n
      | some p => n.record language (rankedConfidence sampleLines text p i)) n =
    (l.ranking sampleLines text).foldl Notes.note n := by
  rw [ranking, List.foldl_filterMap]
  apply List.foldl_ext
  rintro n ⟨name, i⟩ -
  dsimp only [mention?]
  cases hp : Registry.profile? name with
  | none => rfl
  | some p =>
      dsimp only
      rw [Notes.record, hp]
      rfl

def notes : Notes := (l.declarations text ++ l.ranking sampleLines text).foldl Notes.note {}

theorem weigh_eq :
    weigh (l.byInterpreter text) (l.byModeline text) (l.ranked text) sampleLines topK text =
      Guess.rank topK (l.notes sampleLines text).guesses := by
  rw [weigh, foldl_record, foldl_record, ← List.foldl_append]
  refine congrArg (fun n : Notes => Guess.rank topK n.guesses) ?_
  exact (l.foldl_ranked sampleLines text _).trans List.foldl_append.symm

theorem sums_notes : (l.notes sampleLines text).Sums (l.declarations text ++ l.ranking sampleLines text) :=
  Notes.sums_nil.foldl _

variable {l : Lookups} {sampleLines topK : Int} {text : Bytes} {p : Profile} {x : Rat}

theorem mk_mem_ranking (hp : p ∈ Registry.profiles) : ⟨p.id, x⟩ ∈ l.ranking sampleLines text ↔
    ∃ name i, (l.ranked text)[i]? = some name ∧ Registry.profile? name = some p ∧
      x = strength sampleLines text p i := by
  simp only [← rankedConfidence_eq]
  refine (mk_mem_filterMap_mention? hp).trans ?_
  simp [Prod.exists, List.mem_zipIdx_iff_getElem?]

theorem mk_mem_mentions (hp : p ∈ Registry.profiles) :
    ⟨p.id, x⟩ ∈ l.declarations text ++ l.ranking sampleLines text ↔ Evidence l sampleLines text p x := by
  rw [List.mem_append, mk_mem_ranking hp, declarations, List.mem_append, mk_mem_filterMap_mention? hp,
    mk_mem_filterMap_mention? hp]
  constructor
  · rintro ((⟨name, hname, hq, rfl⟩ | ⟨name, hname, hq, rfl⟩) | ⟨name, i, hname, hq, rfl⟩)
    · exact .interpreter hname hq
    · exact .modeline hname hq
    · exact .ranked hname hq
  · intro h
    cases h with
    | interpreter hname hq => exact .inl (.inl ⟨_, hname, hq, rfl⟩)
    | modeline hname hq => exact .inl (.inr ⟨_, hname, hq, rfl⟩)
    | ranked hname hq => exact .inr ⟨_, _, hname, hq, rfl⟩

theorem exists_profile_of_mem {g : Guess} (h : g ∈ l.declarations text ++ l.ranking sampleLines text) :
    ∃ p ∈ Registry.profiles, g.language = p.id := by
  rw [List.mem_append, declarations, List.mem_append] at h
  obtain (h | h) | h := h
  all_goals
    obtain ⟨a, -, ha⟩ := List.mem_filterMap.mp h
    exact exists_profile_of_mention? ha

theorem pos_of_mem_declarations {g : Guess} (h : g ∈ l.declarations text) : 0 < g.confidence := by
  rw [declarations, List.mem_append, List.mem_filterMap, List.mem_filterMap] at h
  obtain ⟨name, -, hg⟩ | ⟨name, -, hg⟩ := h
  all_goals
    obtain ⟨p, -, rfl⟩ := Option.map_eq_some_iff.mp hg
    norm_num [shebangConfidence, modelineConfidence]

theorem languages_ranking : (l.ranking sampleLines text).map (·.language) = identifiers (l.ranked text) := by
  have hnames : (l.ranked text).zipIdx.map Prod.fst = l.ranked text := List.zipIdx_map_fst 0 _
  rw [ranking, identifiers, List.map_filterMap, ← hnames, List.filterMap_map, hnames]
  congr
  funext ⟨name, i⟩
  dsimp only [mention?, Function.comp]
  rw [Option.map_map]
  rfl

/-- No language is listed twice but one that is ranked more than once and has nothing that speaks for it. -/
theorem count_order_le_one (hp : p ∈ Registry.profiles)
    (h : (∃ x > 0, Evidence l sampleLines text p x) ∨ (identifiers (l.ranked text)).count p.id ≤ 1) :
    (l.notes sampleLines text).order.count p.id ≤ 1 := by
  have hsums := l.sums_notes sampleLines text
  cases hdeclared : (l.declarations text).find? (·.language = p.id) with
  | some first =>
      have hid : first.language = p.id := by simpa using List.find?_some hdeclared
      rw [← hid] at hdeclared ⊢
      apply hsums.once first
      · rw [List.find?_append, hdeclared, Option.some_or]
      · exact pos_of_mem_declarations (List.mem_of_find?_eq_some hdeclared)
  | none =>
      have hundeclared : p.id ∉ (l.declarations text).map (·.language) := by
        rw [List.mem_map]
        rintro ⟨g, hg, hid⟩
        simpa [hid] using List.find?_eq_none.mp hdeclared g hg
      obtain ⟨x, hpos, hx⟩ | hcount := h
      · have hranked : ⟨p.id, x⟩ ∈ l.ranking sampleLines text := by
          refine (List.mem_append.mp ((mk_mem_mentions hp).mpr hx)).resolve_left fun hdecl => ?_
          exact hundeclared (List.mem_map_of_mem hdecl)
        cases hfirst : (l.ranking sampleLines text).find? (·.language = p.id) with
        | none => simpa using List.find?_eq_none.mp hfirst _ hranked
        | some first =>
            obtain ⟨id, y⟩ := first
            obtain rfl : id = p.id := by simpa using List.find?_some hfirst
            -- Its first mention is another rank, and ranks of one language have strength all together.
            obtain ⟨_, i, -, -, rfl⟩ := (mk_mem_ranking hp).mp hranked
            obtain ⟨_, j, -, -, rfl⟩ := (mk_mem_ranking hp).mp (List.mem_of_find?_eq_some hfirst)
            apply hsums.once ⟨p.id, strength sampleLines text p j⟩
            · rw [List.find?_append, hdeclared, Option.none_or, hfirst]
            · exact (strength_pos_iff ..).mpr ((strength_pos_iff ..).mp hpos)
      · calc (l.notes sampleLines text).order.count p.id
            ≤ ((l.declarations text ++ l.ranking sampleLines text).map (·.language)).count p.id := hsums.count_le _
          _ = (identifiers (l.ranked text)).count p.id := by
              rw [List.map_append, List.count_append, List.count_eq_zero.mpr hundeclared, Nat.zero_add,
                languages_ranking]
          _ ≤ 1 := hcount

theorem isGreatest_confidence {x : Rat} (hp : p ∈ Registry.profiles) (hx : Evidence l sampleLines text p x) :
    IsGreatest {e | Evidence l sampleLines text p e} ((l.notes sampleLines text).confidence p.id) := by
  have hsums := (l.sums_notes sampleLines text).greatest p.id
  simp only [mk_mem_mentions hp] at hsums
  obtain ⟨hmem, hupper⟩ := hsums
  refine ⟨?_, fun e he => hupper (.inr he)⟩
  obtain hzero | hmem := hmem
  · -- Evidence that is not below zero nor above a confidence of zero is that confidence.
    have hle : x ≤ (l.notes sampleLines text).confidence p.id := hupper (.inr hx)
    rw [hzero] at hle ⊢
    rwa [le_antisymm hle hx.nonneg] at hx
  · exact hmem

theorem mem_order_iff (hp : p ∈ Registry.profiles) :
    p.id ∈ (l.notes sampleLines text).order ↔ ∃ x, Evidence l sampleLines text p x := by
  rw [(l.sums_notes sampleLines text).mentioned]
  simp only [mk_mem_mentions hp]

theorem mem_guesses_notes {g : Guess} : g ∈ (l.notes sampleLines text).guesses ↔
    ∃ p ∈ Registry.profiles, (∃ x, Evidence l sampleLines text p x) ∧
      g = ⟨p.id, (l.notes sampleLines text).confidence p.id⟩ := by
  rw [Notes.guesses, List.mem_map]
  constructor
  · rintro ⟨id, hid, rfl⟩
    obtain ⟨x, hx⟩ := ((l.sums_notes sampleLines text).mentioned id).mp hid
    obtain ⟨p, hp, rfl⟩ := exists_profile_of_mem hx
    exact ⟨p, hp, (mem_order_iff hp).mp hid, rfl⟩
  · rintro ⟨p, hp, hx, rfl⟩
    exact ⟨p.id, (mem_order_iff hp).mpr hx, rfl⟩

end Lookups

theorem mem_candidates :
    ∀ id ∈ Registry.identifiers, id ∈ candidates ∧ (Registry.profile? id).map (·.id) = some id := by
  decide +kernel

theorem length_identifiers_le (sampleLines : Int) (text : Bytes) :
    Registry.identifiers.length ≤ (Lookups.declared.notes sampleLines text).order.length := by
  apply (nodup_identifiers.subperm _).length_le
  intro id hid
  obtain ⟨hcandidate, hknown⟩ := mem_candidates id hid
  obtain ⟨p, hp, rfl⟩ := Option.map_eq_some_iff.mp hknown
  obtain ⟨i, hi⟩ := List.mem_iff_getElem?.mp hcandidate
  exact (Lookups.mem_order_iff (List.mem_of_find?_eq_some hp)).mpr ⟨_, .ranked hi hp⟩

theorem length_evidence (sampleLines : Int) {topK : Int} (hk : topK ≤ 0) (text : Bytes) :
    (evidence sampleLines topK text).length = 3 := by
  let notes := Lookups.declared.notes (positiveOr sampleLines defaultSampleLines) text
  have hmany : Registry.identifiers.length ≤ notes.guesses.length := by
    have hlength := length_identifiers_le (positiveOr sampleLines defaultSampleLines) text
    rwa [← Notes.languages_guesses, List.length_map] at hlength
  calc (evidence sampleLines topK text).length
      = (Guess.rank 3 notes.guesses).length := by
        rw [← Lookups.weigh_eq, evidence, positiveOr, positiveOr, if_neg (not_lt.mpr hk)]
        rfl
    _ = min 3 notes.guesses.length := Guess.length_rank (by decide) _
    _ = 3 := min_eq_left (le_trans (by decide) hmany)

def ofLookups (l : Lookups) (sampleLines topK : Int) : Classifier := fun context text =>
  match context.ended? .begun with
  | some e => .failure (.tooLate e)
  | none => if isBinary text then .failure .binary else .value (l.guesses sampleLines topK text)

theorem ofEvidence_eq (sampleLines topK : Int) : ofEvidence sampleLines topK = ofLookups .declared sampleLines topK :=
  rfl

theorem ofLookups_eq_value_iff {l : Lookups} {sampleLines topK : Int} {context : Context} {text : Bytes}
    {gs : List Guess} : ofLookups l sampleLines topK context text = .value gs ↔
      context.ended? .begun = none ∧ isBinary text = false ∧ gs = l.guesses sampleLines topK text := by
  rw [ofLookups]
  cases context.ended? .begun <;> cases isBinary text <;> simp [eq_comm]

/-- Whatever the lookups answer, the guesses are at most so many registered languages by descending confidence. Each
confidence is between zero and one and the greatest of all evidence for its language, and a language left out has no
better evidence than those given. A language with a confidence above zero, or that is ranked no more than once, is given
once. -/
theorem ofLookups_greatest (l : Lookups) (sampleLines topK : Int) (text : Bytes) :
    let lines := if 0 < sampleLines then sampleLines else 200
    let k := if 0 < topK then topK else 3
    let found := l.guesses sampleLines topK text
    (∀ context gs, ofLookups l sampleLines topK context text = .value gs ↔
        context.ended? .begun = none ∧ isBinary text = false ∧ gs = found) ∧
      found.length ≤ k ∧
      found.Pairwise (fun a b => b.confidence ≤ a.confidence) ∧
      (∀ g ∈ found, ∃ p ∈ Registry.profiles, g.language = p.id ∧ 0 ≤ g.confidence ∧ g.confidence ≤ 1 ∧
        IsGreatest {e | Evidence l lines text p e} g.confidence ∧
        (0 < g.confidence ∨ (identifiers (l.ranked text)).count p.id ≤ 1 →
          (found.map (·.language)).count p.id = 1)) ∧
      ∀ p ∈ Registry.profiles, ∀ e, Evidence l lines text p e → p.id ∉ found.map (·.language) →
        found.length = k ∧ ∀ g ∈ found, e ≤ g.confidence := by
  intro lines k found
  have hk : 0 < k := by
    dsimp only [k]
    split
    · assumption
    · decide
  have hfound : found = Guess.rank k (l.notes lines text).guesses := l.weigh_eq lines k text
  have hsubperm : found.Subperm (l.notes lines text).guesses := hfound ▸ Guess.rank_subperm k _
  refine ⟨fun _ _ => ofLookups_eq_value_iff, ?_, hfound ▸ Guess.pairwise_rank k _, ?_, ?_⟩
  · have hlength := Guess.length_rank hk (l.notes lines text).guesses
    rw [← hfound] at hlength
    omega
  · intro g hg
    obtain ⟨p, hp, ⟨x, hx⟩, rfl⟩ := Lookups.mem_guesses_notes.mp (hsubperm.subset hg)
    have hgreatest := Lookups.isGreatest_confidence hp hx
    refine ⟨p, hp, rfl, hgreatest.1.nonneg, hgreatest.1.le_one, hgreatest, fun h => le_antisymm ?_ ?_⟩
    · obtain ⟨part, hpart, hsub⟩ := hsubperm
      calc (found.map (·.language)).count p.id
          = (part.map (·.language)).count p.id := ((hpart.map _).count_eq _).symm
        _ ≤ ((l.notes lines text).guesses.map (·.language)).count p.id := (hsub.map _).count_le _
        _ = (l.notes lines text).order.count p.id := by rw [Notes.languages_guesses]
        _ ≤ 1 := Lookups.count_order_le_one hp (h.imp_left fun hpos => ⟨_, hpos, hgreatest.1⟩)
    · exact List.one_le_count_iff.mpr (List.mem_map_of_mem hg)
  · intro p hp e he hleft
    have hguess : ⟨p.id, (l.notes lines text).confidence p.id⟩ ∈ (l.notes lines text).guesses :=
      Lookups.mem_guesses_notes.mpr ⟨p, hp, ⟨e, he⟩, rfl⟩
    have hcut : ⟨p.id, (l.notes lines text).confidence p.id⟩ ∉ found := fun hg => hleft (List.mem_map_of_mem hg)
    rw [hfound] at hcut ⊢
    refine ⟨Guess.length_of_cut hk hguess hcut, fun g hg => ?_⟩
    have hkept := (Guess.ranks_mergeSort _).le_of_cut hguess hcut g hg
    exact ((Lookups.isGreatest_confidence hp he).2 he).trans hkept

/-- A candidate without evidence is listed as often as it is ranked. The number of guesses cannot be set to zero. -/
theorem ofLookups_repeats :
    ofLookups ⟨fun _ => [], fun _ => [], fun _ => ["Python", "python"]⟩ 0 3 .live (utf8 "x") =
        .value [⟨"Python", 0⟩, ⟨"Python", 0⟩] ∧
      ∃ gs, ofEvidence 0 0 .live (utf8 "from a import b\nself.x = __name__\nelif y:\nfrom c import d\nself.y()\n") =
        .value gs ∧ (0 : Int) < gs.length := by
  refine ⟨by cbv, ?_⟩
  generalize htext : utf8 "from a import b\nself.x = __name__\nelif y:\nfrom c import d\nself.y()\n" = text
  have hbinary : isBinary text = false := by
    rw [← htext]
    decide +kernel
  have hthree : (evidence 0 0 text).length = 3 := length_evidence 0 le_rfl text
  refine ⟨evidence 0 0 text, ?_, by omega⟩
  rw [ofEvidence_eq]
  exact ofLookups_eq_value_iff.mpr ⟨rfl, hbinary, rfl⟩

end Classifier

end SourceSurvey
