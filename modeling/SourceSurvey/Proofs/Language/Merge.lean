import Mathlib
import SourceSurvey.Proofs.Analysis.Steps

namespace SourceSurvey

/-- A list ranks guesses if it holds them by descending confidence, equal ones in the order given. -/
structure Guess.Ranks (gs ranked : List Guess) : Prop where
  perm : ranked.Perm gs
  descending : ranked.Pairwise fun a b => b.confidence ≤ a.confidence
  stable : ∀ c, ranked.filter (·.confidence = c) = gs.filter (·.confidence = c)

namespace Guess

variable {gs ranked ranked' : List Guess} {k : Int}

def noLess (a b : Guess) : Bool := decide (b.confidence ≤ a.confidence)

theorem noLess_trans (a b c : Guess) (hab : noLess a b) (hbc : noLess b c) : noLess a c :=
  decide_eq_true (Rat.le_trans (of_decide_eq_true hbc) (of_decide_eq_true hab))

theorem noLess_total (a b : Guess) : noLess a b || noLess b a := by
  simpa [noLess] using Rat.le_total (a := b.confidence) (b := a.confidence)

theorem ranks_mergeSort (gs : List Guess) : Ranks gs (gs.mergeSort noLess) := by
  have hperm := List.mergeSort_perm gs noLess
  refine ⟨hperm, (List.pairwise_mergeSort noLess_trans noLess_total gs).imp of_decide_eq_true, fun c => ?_⟩
  -- Guesses of one confidence are in order already, so that sorting keeps them as they are.
  have hordered : (gs.filter (·.confidence = c)).Pairwise fun a b => noLess a b := by
    apply List.pairwise_filter.mpr
    apply List.pairwise_of_forall
    intro a b ha hb
    have heq : b.confidence = a.confidence := (of_decide_eq_true hb).trans (of_decide_eq_true ha).symm
    exact decide_eq_true (heq ▸ Rat.le_refl)
  have hsub := (List.sublist_mergeSort noLess_trans noLess_total hordered List.filter_sublist).filter (·.confidence = c)
  rw [List.filter_filter] at hsub
  simp only [Bool.and_self] at hsub
  exact (hsub.eq_of_length (hperm.filter _).length_eq.symm).symm

theorem Ranks.unique (h : Ranks gs ranked) (h' : Ranks gs ranked') : ranked = ranked' := by
  have hperm : ranked.Perm ranked' := h.perm.trans h'.perm.symm
  have hstable : ∀ c, ranked.filter (·.confidence = c) = ranked'.filter (·.confidence = c) := fun c =>
    (h.stable c).trans (h'.stable c).symm
  have hdesc := h.descending
  have hdesc' := h'.descending
  clear h h'
  induction ranked generalizing ranked' with
  | nil => exact hperm.nil_eq
  | cons a as ih =>
      cases ranked' with
      | nil => exact absurd hperm.length_eq (by simp)
      | cons b bs =>
          obtain ⟨ha, has⟩ := List.pairwise_cons.mp hdesc
          obtain ⟨hb, hbs⟩ := List.pairwise_cons.mp hdesc'
          have hba : b.confidence ≤ a.confidence := by
            rcases List.mem_cons.mp (hperm.mem_iff.mpr List.mem_cons_self) with rfl | hmem
            · exact Rat.le_refl
            · exact ha b hmem
          have hab : a.confidence ≤ b.confidence := by
            rcases List.mem_cons.mp (hperm.mem_iff.mp List.mem_cons_self) with rfl | hmem
            · exact Rat.le_refl
            · exact hb a hmem
          have hconf : a.confidence = b.confidence := Rat.le_antisymm hab hba
          have hhead := hstable a.confidence
          rw [List.filter_cons_of_pos (by simp), List.filter_cons_of_pos (by simp [hconf])] at hhead
          obtain ⟨rfl, -⟩ := List.cons.inj hhead
          have htail : as = bs := by
            apply ih hperm.cons_inv _ has hbs
            intro c
            have hc := hstable c
            by_cases hac : a.confidence = c
            · rw [List.filter_cons_of_pos (by simp [hac]), List.filter_cons_of_pos (by simp [hac])] at hc
              exact (List.cons.inj hc).2
            · rwa [List.filter_cons_of_neg (by simp [hac]), List.filter_cons_of_neg (by simp [hac])] at hc
          rw [htail]

theorem Ranks.rank_eq (h : Ranks gs ranked) (hk : 0 < k) : rank k gs = ranked.take k.toNat := by
  rw [h.unique (ranks_mergeSort gs), rank, if_pos hk]
  rfl

end Guess

inductive Classifier.Hears (k : Int) : Response ClassifierError (List Guess) → Option (List Guess) → Prop
  | guesses {gs ranked : List Guess} (h : Guess.Ranks gs ranked) : Hears k (.value gs) (some (ranked.take k.toNat))
  | failure (e : ClassifierError) : Hears k (.failure e) none
  | crash (message : String) : Hears k (.crash message) none
  | stall : Hears k .stall none

namespace Identification

/-- The file name's profile has support: a guess names it, or the text fits it. -/
def Supported (c : IdentifyConfig) (text : Bytes) (h : Profile) (guesses : List Guess) : Prop :=
  (∃ g ∈ guesses, g.language = h.id ∧ c.acceptance ≤ g.confidence) ∨
    c.acceptance ≤ Corroboration.score h c.sampleLines text

def isShort (c : IdentifyConfig) (text : Bytes) : Prop := (Utf8.length text.strip : Int) < c.minLength

def hintOr (hint : Option Profile) (language : String) : Profile × IdentificationSource :=
  hint.elim (.empty language, .fallback) (·, .extension)

/-- Which profile is found on which ground, given the guesses that were heard. -/
inductive Choice (c : IdentifyConfig) (text : Bytes) (hint : Option Profile) :
    Option (List Guess) → Profile × IdentificationSource → Prop
  | short {heard : Option (List Guess)} (hshort : isShort c text) :
      Choice c text hint heard (hintOr hint Profile.plainText)
  | unheard (hlong : ¬isShort c text) : Choice c text hint none (hintOr hint Profile.unknown)
  | supported {h : Profile} {guesses : List Guess} (hlong : ¬isShort c text) (hhint : hint = some h)
      (hsupport : Supported c text h guesses) : Choice c text hint (some guesses) (h, .extension)
  | guessed {before after : List Guess} {g : Guess} {p : Profile} (hlong : ¬isShort c text)
      (hhint : ∀ h ∈ hint, ¬Supported c text h (before ++ g :: after))
      (hfirst : ∀ b ∈ before, Registry.profile? b.language = none) (hp : Registry.profile? g.language = some p)
      (hfloor : c.floor ≤ g.confidence) : Choice c text hint (some (before ++ g :: after)) (p, .classifier)
  | undecided {guesses : List Guess} (hlong : ¬isShort c text)
      (hhint : ∀ h ∈ hint, ¬Supported c text h guesses)
      (hfloor : ∀ g ∈ guesses, ∀ p, Registry.profile? g.language = some p → g.confidence < c.floor) :
      Choice c text hint (some guesses) (.empty Profile.plainText, .fallback)

variable {c : IdentifyConfig} {text : Bytes} {hint : Option Profile} {heard : Option (List Guess)}
  {d d' : Profile × IdentificationSource}

theorem first_unique {before before' after after' : List Guess} {g g' : Guess} {p p' : Profile}
    (h : before ++ g :: after = before' ++ g' :: after')
    (hfirst : ∀ b ∈ before, Registry.profile? b.language = none) (hp : Registry.profile? g.language = some p)
    (hfirst' : ∀ b ∈ before', Registry.profile? b.language = none) (hp' : Registry.profile? g'.language = some p') :
    p = p' := by
  have hfind := congrArg (List.findSome? fun g : Guess => Registry.profile? g.language) h
  rw [List.findSome?_append, List.findSome?_append, List.findSome?_eq_none_iff.mpr hfirst,
    List.findSome?_eq_none_iff.mpr hfirst', List.findSome?_cons, List.findSome?_cons, hp, hp'] at hfind
  simpa using hfind

/-- The rules leave no choice. -/
theorem Choice.unique (h : Choice c text hint heard d) (h' : Choice c text hint heard d') : d = d' := by
  cases h with
  | short hshort =>
      cases h' with
      | short => rfl
      | unheard hlong | supported hlong | guessed hlong | undecided hlong => exact absurd hshort hlong
  | unheard hlong =>
      cases h' with
      | short hshort => exact absurd hshort hlong
      | unheard => rfl
  | supported hlong hhint hsupport =>
      cases h' with
      | short hshort => exact absurd hshort hlong
      | supported _ hhint' _ => rw [Option.some.inj (hhint.symm.trans hhint')]
      | guessed _ hnot | undecided _ hnot => exact absurd hsupport (hnot _ hhint)
  | @guessed before after g p hlong hnot hfirst hp hfloor =>
      generalize hguesses : some (before ++ g :: after) = heard at h'
      cases h' with
      | short hshort => exact absurd hshort hlong
      | unheard => cases hguesses
      | supported _ hhint hsupport => exact absurd (Option.some.inj hguesses ▸ hsupport) (hnot _ hhint)
      | guessed _ _ hfirst' hp' _ => rw [first_unique (Option.some.inj hguesses) hfirst hp hfirst' hp']
      | undecided _ _ hbelow =>
          have hmem : g ∈ before ++ g :: after := by simp
          exact absurd hfloor (Rat.not_le.mpr (hbelow g (Option.some.inj hguesses ▸ hmem) p hp))
  | undecided hlong hnot hbelow =>
      generalize hguesses : some _ = heard at h'
      cases h' with
      | short hshort => exact absurd hshort hlong
      | unheard => cases hguesses
      | supported _ hhint hsupport => exact absurd (Option.some.inj hguesses ▸ hsupport) (hnot _ hhint)
      | @guessed before after g p _ _ _ hp hfloor =>
          have hmem : g ∈ before ++ g :: after := by simp
          exact absurd hfloor (Rat.not_le.mpr (hbelow g (Option.some.inj hguesses ▸ hmem) p hp))
      | undecided => rfl

theorem choice_firstKnown? {guesses : List Guess} (hlong : ¬isShort c text)
    (hnot : ∀ h ∈ hint, ¬Supported c text h guesses)
    (hdesc : guesses.Pairwise fun a b => b.confidence ≤ a.confidence) :
    Choice c text hint (some guesses)
      (((firstKnown? c.floor guesses).getD (fallback Profile.plainText)).profile,
        ((firstKnown? c.floor guesses).getD (fallback Profile.plainText)).source) := by
  have hsplit : ∀ before after, guesses = before ++ after → (∀ b ∈ before, Registry.profile? b.language = none) →
      Choice c text hint (some guesses)
        (((firstKnown? c.floor after).getD (fallback Profile.plainText)).profile,
          ((firstKnown? c.floor after).getD (fallback Profile.plainText)).source) := by
    intro before after heq hbefore
    induction after generalizing before with
    | nil =>
        apply Choice.undecided hlong hnot
        intro g hg p hp
        rw [heq, List.append_nil] at hg
        rw [hbefore g hg] at hp
        cases hp
    | cons g after ih =>
        rw [firstKnown?]
        split
        · rename_i hnone
          apply ih (before ++ [g]) (by rw [heq, List.append_assoc, List.singleton_append])
          intro b hb
          rcases List.mem_append.mp hb with hb | hb
          · exact hbefore b hb
          · rw [List.mem_singleton.mp hb, hnone]
        · rename_i p hp
          split
          · rename_i hbelow
            apply Choice.undecided hlong hnot
            intro b hb q hq
            rw [heq] at hb hdesc
            rcases List.mem_append.mp hb with hb | hb
            · rw [hbefore b hb] at hq
              cases hq
            · -- Later guesses are no more confident than the first one that is registered.
              rcases List.mem_cons.mp hb with rfl | hb
              · exact hbelow
              · have hle := (List.pairwise_cons.mp (List.pairwise_append.mp hdesc).2.1).1 b hb
                exact Rat.not_le.mp fun hfloor => absurd (Rat.le_trans hfloor hle) (Rat.not_le.mpr hbelow)
          · rename_i hfloor
            subst heq
            exact Choice.guessed hlong hnot hbefore hp (Rat.not_lt.mp hfloor)
  exact hsplit [] guesses rfl (by simp)

theorem choice_merge {guesses : List Guess} (hlong : ¬isShort c text)
    (hdesc : guesses.Pairwise fun a b => b.confidence ≤ a.confidence) :
    let found := merge c hint ((hint.map fun h => Corroboration.score h c.sampleLines text).getD 0) guesses
    Choice c text hint (some guesses) (found.profile, found.source) := by
  cases hint with
  | none => exact choice_firstKnown? hlong (by simp) hdesc
  | some h =>
      dsimp only [merge, Option.bind_eq_bind, Option.bind_some, Option.map_some, Option.getD_some]
      split
      · rename_i g hg
        have hsome := List.find?_some hg
        simp only [Bool.and_eq_true, decide_eq_true_eq] at hsome
        exact Choice.supported hlong rfl (.inl ⟨g, List.mem_of_find?_eq_some hg, hsome⟩)
      · rename_i hnone
        split
        · rename_i hfits
          exact Choice.supported hlong rfl (.inr hfits)
        · rename_i hmisfit
          refine choice_firstKnown? hlong ?_ hdesc
          rintro h' ⟨⟩ (⟨g, hg, hname, haccepted⟩ | hfits)
          · have hg := List.find?_eq_none.mp hnone g hg
            simp [hname, haccepted] at hg
          · exact hmisfit hfits

theorem language_firstKnown? {floor : Rat} {guesses : List Guess} {found : Identification}
    (h : firstKnown? floor guesses = some found) : found.language = found.profile.id := by
  induction guesses with
  | nil => cases h
  | cons g gs ih =>
      rw [firstKnown?] at h
      split at h
      · exact ih h
      · split at h
        · cases h
        · cases h
          rfl

theorem language_merge (c : IdentifyConfig) (hint : Option Profile) (corroboration : Rat) (guesses : List Guess) :
    (merge c hint corroboration guesses).language = (merge c hint corroboration guesses).profile.id := by
  have hguessed : ((firstKnown? c.floor guesses).getD (fallback Profile.plainText)).language =
      ((firstKnown? c.floor guesses).getD (fallback Profile.plainText)).profile.id := by
    cases h : firstKnown? c.floor guesses with
    | none => rfl
    | some found => exact language_firstKnown? h
  cases hint with
  | none => exact hguessed
  | some h =>
      dsimp only [merge, Option.bind_eq_bind, Option.bind_some]
      split
      · rfl
      · split
        · rfl
        · exact hguessed

theorem hintOr_eq (hint : Option Profile) (confidence : Rat) (language : String) :
    let found := (hint.map (byExtension · confidence)).getD (fallback language)
    found.language = found.profile.id ∧ hintOr hint language = (found.profile, found.source) := by
  cases hint with
  | none => exact ⟨rfl, rfl⟩
  | some h => exact ⟨rfl, rfl⟩

/-- Found by a file name or a guess, a profile is that of the registry; otherwise it has no rules. -/
theorem Choice.genuine {filename : String} (h : Choice c text (hint? filename) heard d) :
    (d.2 = .fallback → ∃ language, d.1 = .empty language) ∧ (d.2 ≠ .fallback → d.1 ∈ Registry.profiles) := by
  have hhint : ∀ language, ((hintOr (hint? filename) language).2 = .fallback →
      ∃ id, (hintOr (hint? filename) language).1 = .empty id) ∧
      ((hintOr (hint? filename) language).2 ≠ .fallback → (hintOr (hint? filename) language).1 ∈ Registry.profiles) := by
    intro language
    cases h : hint? filename with
    | none => exact ⟨fun _ => ⟨language, rfl⟩, fun hne => absurd rfl hne⟩
    | some p => exact ⟨(nomatch ·), fun _ => mem_of_hint? h⟩
  cases h with
  | short | unheard => exact hhint _
  | supported _ h _ => exact ⟨(nomatch ·), fun _ => mem_of_hint? h⟩
  | guessed _ _ _ hp _ => exact ⟨(nomatch ·), fun _ => List.mem_of_find?_eq_some hp⟩
  | undecided => exact ⟨fun _ => ⟨_, rfl⟩, fun hne => absurd rfl hne⟩

theorem topK_pos (config : IdentifyConfig) : 0 < config.withDefaults.topK := by
  change 0 < Classifier.positiveOr config.topK Classifier.defaultTopK
  unfold Classifier.positiveOr
  split
  · assumption
  · decide

variable {classifier : Classifier} {config : IdentifyConfig} (filename : String)

theorem exists_choice (hheard : Classifier.Hears config.withDefaults.topK (classifier .live text) heard)
    (htext : text.strip ≠ []) :
    ∃ found, identify classifier config .live text filename = .ok found ∧ found.language = found.profile.id ∧
      Choice config.withDefaults text (hint? filename) heard (found.profile, found.source) := by
  have hblank : text.strip.isEmpty = false := by simpa using htext
  rw [identify]
  simp only [hblank, Bool.false_eq_true, if_false]
  split
  · rename_i hshort
    obtain ⟨hlanguage, hd⟩ := hintOr_eq (hint? filename)
      (((hint? filename).map fun h => Corroboration.score h config.withDefaults.sampleLines text).getD 0)
      Profile.plainText
    exact ⟨_, rfl, hlanguage, hd ▸ Choice.short hshort⟩
  · rename_i hlong
    generalize classifier .live text = response at hheard
    cases hheard with
    | guesses hranks =>
        simp only [guesses?, hranks.rank_eq (topK_pos config)]
        have hdesc := hranks.descending.sublist (List.take_sublist config.withDefaults.topK.toNat _)
        exact ⟨_, rfl, language_merge .., choice_merge hlong hdesc⟩
    | failure | crash | stall =>
        obtain ⟨hlanguage, hd⟩ := hintOr_eq (hint? filename)
          (((hint? filename).map fun h => Corroboration.score h config.withDefaults.sampleLines text).getD 0)
          Profile.unknown
        exact ⟨_, rfl, hlanguage, hd ▸ Choice.unheard hlong⟩

/-- Identification of a request that stays wanted fails on blank text only. On any other it finds what the rules
say and nothing else. -/
theorem identify_iff_choice (hheard : Classifier.Hears config.withDefaults.topK (classifier .live text) heard) :
    ((∃ e, identify classifier config .live text filename = .error e) ↔ text.strip = []) ∧
      (text.strip ≠ [] → ∃ found, identify classifier config .live text filename = .ok found ∧
        found.language = found.profile.id ∧
        (found.source = .fallback → found.profile = .empty found.language) ∧
        (found.source ≠ .fallback → found.profile ∈ Registry.profiles) ∧
        ∀ d, Choice config.withDefaults text (hint? filename) heard d ↔ d = (found.profile, found.source)) := by
  refine ⟨⟨?_, ?_⟩, ?_⟩
  · rintro ⟨e, he⟩
    by_contra htext
    obtain ⟨found, hfound, -⟩ := exists_choice filename hheard htext
    rw [he] at hfound
    cases hfound
  · intro htext
    exact ⟨.empty, by simp [identify, htext]⟩
  · intro htext
    obtain ⟨found, hfound, hlanguage, hchoice⟩ := exists_choice filename hheard htext
    refine ⟨found, hfound, hlanguage, fun hfallback => ?_, hchoice.genuine.2, fun d => ⟨?_, ?_⟩⟩
    · obtain ⟨language, hempty⟩ := hchoice.genuine.1 hfallback
      have hempty : found.profile = .empty language := hempty
      rw [hlanguage, hempty]
      rfl
    · exact fun hd => hd.unique hchoice
    · rintro rfl
      exact hchoice

/-- The first guess is of no known language, the file name's language has no support, and the second guess is found. -/
theorem identify_iff_choice_secondGuess :
    ∃ found, identify (fun _ _ => .value [⟨"Go", 1 / 2⟩, ⟨"Objective-C", 9 / 10⟩]) {} .live (utf8 "hello there world")
      "notes.py" = .ok found ∧ found.profile = .go ∧ found.source = .classifier := by
  let go : Guess := ⟨"Go", 1 / 2⟩
  let other : Guess := ⟨"Objective-C", 9 / 10⟩
  let classifier : Classifier := fun _ _ => .value [go, other]
  have hranks : Guess.Ranks [go, other] [other, go] := by
    refine ⟨List.Perm.swap _ _ _, by decide +kernel, fun c => ?_⟩
    by_cases hgo : go.confidence = c
    · subst hgo
      decide +kernel
    · rw [List.filter_cons, List.filter_cons_of_neg (by simpa using hgo), List.filter_cons_of_neg (by simpa using hgo),
        List.filter_cons]
  have hheard : Classifier.Hears (IdentifyConfig.withDefaults {}).topK (classifier .live (utf8 "hello there world"))
      (some ([other] ++ go :: [])) := .guesses hranks
  have hlong : ¬isShort (IdentifyConfig.withDefaults {}) (utf8 "hello there world") := by
    have hlength : Utf8.length (utf8 "hello there world").strip = 17 := by cbv
    rw [isShort, hlength]
    decide
  have hscore : Corroboration.score .python 200 (utf8 "hello there world") = 0 := by cbv
  have hnot : ∀ h ∈ hint? "notes.py", ¬Supported (IdentifyConfig.withDefaults {}) (utf8 "hello there world") h
      ([other] ++ go :: []) := by
    have hhint : hint? "notes.py" = some .python := by decide +kernel
    rw [hhint]
    rintro h ⟨⟩ (⟨g, hg, hname, -⟩ | hfits)
    · revert g
      decide +kernel
    · change 2 / 10 ≤ Corroboration.score .python 200 (utf8 "hello there world") at hfits
      rw [hscore] at hfits
      exact absurd hfits (by decide +kernel)
  have htext : (utf8 "hello there world").strip.isEmpty = false := by cbv
  obtain ⟨found, hfound, -, -, -, hchoice⟩ := (identify_iff_choice "notes.py" hheard).2 (by simpa using htext)
  have hgo : Registry.profile? go.language = some .go := by decide +kernel
  have hfirst : ∀ b ∈ [other], Registry.profile? b.language = none := by decide +kernel
  have hd := (hchoice (.go, .classifier)).mp (.guessed hlong hnot hfirst hgo (by decide +kernel))
  exact ⟨found, hfound, (congrArg Prod.fst hd).symm, (congrArg Prod.snd hd).symm⟩

end Identification

end SourceSurvey
