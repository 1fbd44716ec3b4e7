import Mathlib
import SourceSurvey.Language.Identification

namespace SourceSurvey

section Sorting

variable {α β : Type} {R : α → β → Prop} {as : List α} {bs : List β}

theorem forall₂_iff_zip_map : List.Forall₂ R as bs ↔
    ∃ pairs : List (α × β), (∀ x ∈ pairs, R x.1 x.2) ∧ pairs.map Prod.fst = as ∧ pairs.map Prod.snd = bs := by
  constructor
  · intro h
    refine ⟨as.zip bs, fun x hx => List.forall₂_zip h hx, ?_, ?_⟩
    · exact List.map_fst_zip (Nat.le_of_eq h.length_eq)
    · exact List.map_snd_zip (Nat.le_of_eq h.length_eq.symm)
  · rintro ⟨pairs, h, rfl, rfl⟩
    rw [List.forall₂_map_left_iff, List.forall₂_map_right_iff, List.forall₂_same]
    exact h

theorem forall₂_mergeSort {le : α → α → Bool} {le' : β → β → Bool}
    (hle : ∀ a b a' b', R a a' → R b b' → le a b = le' a' b') (h : List.Forall₂ R as bs) :
    List.Forall₂ R (as.mergeSort le) (bs.mergeSort le') := by
  -- Sorting the pairs sorts both lists, of which they are made up.
  obtain ⟨pairs, hpairs, rfl, rfl⟩ := forall₂_iff_zip_map.mp h
  refine forall₂_iff_zip_map.mpr ⟨pairs.mergeSort fun x y => le x.1 y.1, ?_, ?_, ?_⟩
  · intro x hx
    exact hpairs x (List.mem_mergeSort.mp hx)
  · exact List.map_mergeSort fun _ _ _ _ => rfl
  · exact List.map_mergeSort fun x hx y hy => hle x.1 y.1 x.2 y.2 (hpairs x hx) (hpairs y hy)

end Sorting

/-- One guess made twice: the same confidence, and the same language or two names of one registered profile. -/
def Guess.Respells (g g' : Guess) : Prop :=
  g'.confidence = g.confidence ∧
    (g'.language = g.language ∨
      ∃ p, Registry.profile? g.language = some p ∧ Registry.profile? g'.language = some p)

namespace Identification

variable {c : IdentifyConfig} {g g' : Guess} {gs gs' : List Guess}

theorem Guess.Respells.profile?_eq (h : g.Respells g') :
    Registry.profile? g'.language = Registry.profile? g.language := by
  obtain hsame | ⟨p, hp, hp'⟩ := h.2
  · rw [hsame]
  · rw [hp, hp']

theorem firstKnown?_respelled (floor : Rat) (h : List.Forall₂ Guess.Respells gs gs') :
    firstKnown? floor gs' = firstKnown? floor gs := by
  induction h with
  | nil => rfl
  | cons hhead _ ih =>
      rw [firstKnown?, firstKnown?, Guess.Respells.profile?_eq hhead, hhead.1, ih]

/-- The guess is respelled, and where it is confident enough to bear out a file name's profile it has the profile's own
name in both spellings or in none. -/
def Respells (acceptance : Rat) (hint : Option Profile) (g g' : Guess) : Prop :=
  g.Respells g' ∧ ∀ h ∈ hint, acceptance ≤ g.confidence → (g.language = h.id ↔ g'.language = h.id)

variable {hint : Option Profile}

theorem rank_respelled (k : Int) (h : List.Forall₂ (Respells c.acceptance hint) gs gs') :
    List.Forall₂ (Respells c.acceptance hint) (Guess.rank k gs) (Guess.rank k gs') := by
  let le (a b : Guess) : Bool := decide (b.confidence ≤ a.confidence)
  have hsorted : List.Forall₂ (Respells c.acceptance hint) (gs.mergeSort le) (gs'.mergeSort le) :=
    forall₂_mergeSort (fun a b a' b' ha hb => by simp only [le, ha.1.1, hb.1.1]) h
  rw [Guess.rank, Guess.rank]
  split
  · exact List.forall₂_take _ hsorted
  · exact hsorted

theorem find?_respelled {h : Profile} (hgs : List.Forall₂ (Respells c.acceptance (some h)) gs gs') :
    (gs'.find? fun g => g.language = h.id && decide (c.acceptance ≤ g.confidence)).map (·.confidence) =
      (gs.find? fun g => g.language = h.id && decide (c.acceptance ≤ g.confidence)).map (·.confidence) := by
  induction hgs with
  | nil => rfl
  | @cons g g' gs gs' hhead _ ih =>
      have hsame : (decide (g'.language = h.id) && decide (c.acceptance ≤ g'.confidence)) =
          (decide (g.language = h.id) && decide (c.acceptance ≤ g.confidence)) := by
        rw [hhead.1.1]
        by_cases haccept : c.acceptance ≤ g.confidence
        · rw [decide_eq_decide.mpr (hhead.2 h rfl haccept)]
        · rw [decide_eq_false haccept, Bool.and_false, Bool.and_false]
      rw [List.find?_cons, List.find?_cons, hsame]
      split
      · exact congrArg some hhead.1.1
      · exact ih

theorem merge_respelled (corroboration : Rat) (hgs : List.Forall₂ (Respells c.acceptance hint) gs gs') :
    merge c hint corroboration gs' = merge c hint corroboration gs := by
  have hknown : firstKnown? c.floor gs' = firstKnown? c.floor gs :=
    firstKnown?_respelled c.floor (hgs.imp fun _ _ h => h.1)
  cases hint with
  | none => rw [merge, merge, hknown]; rfl
  | some h =>
      have hfound := find?_respelled hgs
      rw [merge, merge, hknown]
      congr 2
      dsimp only [Option.bind_eq_bind, Option.bind_some]
      generalize gs'.find? _ = found', gs.find? _ = found at hfound ⊢
      cases found' <;> cases found <;> simp_all

variable {classifier classifier' : Classifier} {config : IdentifyConfig} {context : Context} {text : Bytes}
  {filename : String}

/-- What is found does not depend on how the guesses spell their languages, so long as they bear out the file name's
profile in both spellings alike. -/
theorem identify_respelled (hgs : classifier context text = .value gs) (hgs' : classifier' context text = .value gs')
    (h : List.Forall₂ (Respells config.withDefaults.acceptance (hint? filename)) gs gs') :
    identify classifier' config context text filename = identify classifier config context text filename := by
  rw [identify, identify, hgs, hgs']
  simp only [Context.endedAfter?, guesses?, merge_respelled _ (rank_respelled _ h)]

theorem identify_respelled_go :
    Respells (2 / 10) (hint? "notes.py") ⟨"Go", 1 / 2⟩ ⟨" GO", 1 / 2⟩ ∧
      identify (fun _ _ => .value [⟨" GO", 1 / 2⟩]) {} .live (utf8 "hello there world") "notes.py" =
        identify (fun _ _ => .value [⟨"Go", 1 / 2⟩]) {} .live (utf8 "hello there world") "notes.py" := by
  have hhint : hint? "notes.py" = some .python := by decide +kernel
  have h : Respells (2 / 10) (hint? "notes.py") ⟨"Go", 1 / 2⟩ ⟨" GO", 1 / 2⟩ := by
    refine ⟨⟨rfl, .inr ⟨.go, by decide +kernel, by decide +kernel⟩⟩, ?_⟩
    rw [hhint]
    rintro h ⟨⟩ -
    decide +kernel
  exact ⟨h, identify_respelled rfl rfl (.cons h .nil)⟩

theorem identify_single (g : Guess) :
    identify (fun _ _ => .value [g]) {} .live (utf8 "hello there world") "notes.py" =
      .ok (merge (IdentifyConfig.withDefaults {}) (some .python) 0 [g]) := by
  have hhint : hint? "notes.py" = some .python := by decide +kernel
  have hblank : (utf8 "hello there world").strip.isEmpty = false := by cbv
  have hlength : Utf8.length (utf8 "hello there world").strip = 17 := by cbv
  have hlong : ¬(Utf8.length (utf8 "hello there world").strip : Int) < (IdentifyConfig.withDefaults {}).minLength := by
    rw [hlength]
    decide
  have hscore : Corroboration.score .python (IdentifyConfig.withDefaults {}).sampleLines
      (utf8 "hello there world") = 0 := by cbv
  have hrank : Guess.rank (IdentifyConfig.withDefaults {}).topK [g] = [g] := by
    rw [Guess.rank, List.mergeSort_singleton]
    rfl
  rw [identify, hhint, hblank, if_neg (by simp), if_neg hlong]
  simp only [Option.map_some, Option.getD_some, hscore, Context.endedAfter?, Context.ended?_live, guesses?, hrank]

/-- A guess that is confident enough to bear out the file name's profile, but not to stand alone, counts in the profile's
own spelling only. -/
theorem identify_of_lowerCase :
    Registry.profile? "python" = Registry.profile? "Python" ∧ Registry.profile? "Python" = some .python ∧
      identify (fun _ _ => .value [⟨"Python", 1 / 4⟩]) {} .live (utf8 "hello there world") "notes.py" =
        .ok (byExtension .python (1 / 4)) ∧
      identify (fun _ _ => .value [⟨"python", 1 / 4⟩]) {} .live (utf8 "hello there world") "notes.py" =
        .ok (fallback Profile.plainText) := by
  rw [identify_single, identify_single]
  decide +kernel

end Identification

end SourceSurvey
