import Mathlib
import SourceSurvey.Proofs.Analysis.Steps
import SourceSurvey.Proofs.Text.Numeral

namespace SourceSurvey

namespace Numeral

theorem slash_not_mem_nat (n : Nat) : '/' ∉ (toString n).toList := fun h => by
  have hdigit := isDigit_of_mem_nat h
  simp [Char.isDigit] at hdigit

theorem not_mem_int {n : Int} {c : Char} (hsign : c ≠ '-') (hdigit : c.isDigit = false) :
    c ∉ (toString n).toList := fun h => by
  obtain h | h := of_mem_int h
  · exact hsign h
  · simp [h] at hdigit

theorem space_not_mem_rat (q : Rat) : ' ' ∉ (toString q).toList := fun h => by
  obtain h | h | h := of_mem_rat h <;> simp [Char.isDigit] at h

theorem eq_of_separated {c : Char} {a b x y : List Char} (ha : c ∉ a) (hb : c ∉ b) (h : a ++ c :: x = b ++ c :: y) :
    a = b ∧ x = y := by
  induction a generalizing b with
  | nil =>
      cases b with
      | nil => simpa using h
      | cons d b =>
          simp only [List.nil_append, List.cons_append, List.cons.injEq] at h
          simp [h.1] at hb
  | cons d a ih =>
      cases b with
      | nil =>
          simp only [List.nil_append, List.cons_append, List.cons.injEq] at h
          simp [h.1] at ha
      | cons e b =>
          simp only [List.cons_append, List.cons.injEq] at h
          obtain ⟨rfl, h⟩ := h
          obtain ⟨rfl, rfl⟩ := ih (fun hc => ha (List.mem_cons_of_mem _ hc)) (fun hc => hb (List.mem_cons_of_mem _ hc)) h
          exact ⟨rfl, rfl⟩

theorem split_inj {sep a b x y : String} {c : Char} (hsep : sep.toList = [c]) (ha : c ∉ a.toList) (hb : c ∉ b.toList)
    (h : a ++ (sep ++ x) = b ++ (sep ++ y)) : a = b ∧ x = y := by
  have hlists := congrArg String.toList h
  simp only [String.toList_append, hsep, List.singleton_append] at hlists
  obtain ⟨hfirst, hrest⟩ := eq_of_separated ha hb hlists
  exact ⟨String.toList_inj.mp hfirst, String.toList_inj.mp hrest⟩

theorem toString_nat_inj {m n : Nat} (h : toString m = toString n) : m = n := by
  rw [← value_nat m, h, value_nat]

theorem toString_int_inj {m n : Int} (h : toString m = toString n) : m = n := by
  apply Option.some.inj
  rw [← Datum.intOf?_int m, h, Datum.intOf?_int]

theorem toString_bool_inj {p q : Bool} (h : toString p = toString q) : p = q := by
  revert h
  cases p <;> cases q <;> decide

theorem toString_rat_inj {p q : Rat} (h : toString p = toString q) : p = q := by
  have hslash : ∀ n : Int, '/' ∉ (toString n).toList := fun n => not_mem_int (by decide) (by decide)
  have hwhole : ∀ (n m : Int) (d : Nat), toString n ≠ toString m ++ "/" ++ toString d := fun n m d h => by
    apply hslash n
    rw [h]
    simp
  change (if p.den = 1 then toString p.num else toString p.num ++ "/" ++ toString p.den) =
    if q.den = 1 then toString q.num else toString q.num ++ "/" ++ toString q.den at h
  by_cases hp : p.den = 1
  · by_cases hq : q.den = 1
    · rw [if_pos hp, if_pos hq] at h
      exact Rat.ext (toString_int_inj h) (hp.trans hq.symm)
    · rw [if_pos hp, if_neg hq] at h
      exact absurd h (hwhole _ _ _)
  · by_cases hq : q.den = 1
    · rw [if_neg hp, if_pos hq] at h
      exact absurd h.symm (hwhole _ _ _)
    · rw [if_neg hp, if_neg hq, String.append_assoc, String.append_assoc] at h
      obtain ⟨hnum, hden⟩ := split_inj (by decide) (hslash _) (hslash _) h
      exact Rat.ext (toString_int_inj hnum) (toString_nat_inj hden)

end Numeral

open Numeral

theorem space_not_mem_int (n : Int) : ' ' ∉ (toString n).toList := not_mem_int (by decide) (by decide)

theorem identifyConfig_eq {l m : IdentifyConfig}
    (h : s!"{l.topK} {l.acceptance} {l.floor} {l.minLength} {l.sampleLines} {l.timeout}" =
      s!"{m.topK} {m.acceptance} {m.floor} {m.minLength} {m.sampleLines} {m.timeout}") : l = m := by
  simp only [String.append_assoc] at h
  obtain ⟨htop, h⟩ := split_inj (by decide) (space_not_mem_int _) (space_not_mem_int _) h
  obtain ⟨hacceptance, h⟩ := split_inj (by decide) (space_not_mem_rat _) (space_not_mem_rat _) h
  obtain ⟨hfloor, h⟩ := split_inj (by decide) (space_not_mem_rat _) (space_not_mem_rat _) h
  obtain ⟨hlength, h⟩ := split_inj (by decide) (space_not_mem_int _) (space_not_mem_int _) h
  obtain ⟨hlines, htimeout⟩ := split_inj (by decide) (space_not_mem_int _) (space_not_mem_int _) h
  cases l
  cases m
  rw [IdentifyConfig.mk.injEq]
  exact ⟨toString_int_inj htop, toString_rat_inj hacceptance, toString_rat_inj hfloor, toString_int_inj hlength,
    toString_int_inj hlines, toString_int_inj htimeout⟩

theorem explainConfig_eq {l m : ExplainConfig}
    (h : s!"{l.excerptLimit} {l.timeout}" = s!"{m.excerptLimit} {m.timeout}") : l = m := by
  simp only [String.append_assoc] at h
  obtain ⟨hlimit, htimeout⟩ := split_inj (by decide) (space_not_mem_int _) (space_not_mem_int _) h
  cases l
  cases m
  rw [ExplainConfig.mk.injEq]
  exact ⟨toString_int_inj hlimit, toString_int_inj htimeout⟩

namespace Analyzer

variable {o₁ o₂ : AnalyzerOptions} {a₁ a₂ : Analyzer} {c₁ c₂ : Labelled Classifier}

/-- What equal settings say of the options behind them. -/
structure SameSettings (o₁ o₂ : AnalyzerOptions) (label₁ label₂ : String) : Prop where
  label : label₁ = label₂
  language : o₁.language = o₂.language
  explain : o₁.explain = o₂.explain
  limit : limitOf o₁ = limitOf o₂
  includeDetails : o₁.includeDetails = o₂.includeDetails
  defaultEncoding : o₁.defaultEncoding = o₂.defaultEncoding

theorem sameSettings {label₁ label₂ : String} (h : settings o₁ label₁ = settings o₂ label₂) :
    SameSettings o₁ o₂ label₁ label₂ := by
  rw [settings, settings] at h
  simp only [List.map_cons, List.map_nil, List.cons.injEq, and_true, utf8_injective.eq_iff] at h
  obtain ⟨hlabel, -, hlanguage, hexplain, hrest⟩ := h
  simp only [String.append_assoc] at hrest
  have hbool : ∀ b : Bool, '/' ∉ (toString b).toList := by decide
  obtain ⟨hlimit, hrest⟩ := split_inj (by decide) (slash_not_mem_nat _) (slash_not_mem_nat _) hrest
  obtain ⟨hdetails, hencoding⟩ := split_inj (by decide) (hbool _) (hbool _) hrest
  exact ⟨hlabel, identifyConfig_eq hlanguage, explainConfig_eq hexplain, toString_nat_inj hlimit,
    toString_bool_inj hdetails, hencoding⟩

structure SameCollaborators (o₁ o₂ : AnalyzerOptions) : Prop where
  classifier : match o₁.classifier, o₂.classifier with
    | .named _, .named _ => True
    | .given c, .given d => c.run = d.run
    | _, _ => False
  generator : o₁.generator.map (·.run) = o₂.generator.map (·.run)
  sniffer : o₁.sniffer = o₂.sniffer
  decoder : o₁.decoder = o₂.decoder
  cataloguer : o₁.cataloguer = o₂.cataloguer

theorem classifierOf_named {o : AnalyzerOptions} {kind : String} {c : Labelled Classifier}
    (hkind : o.classifier = .named kind) (h : classifierOf o = .ok c) :
    c = ⟨"evidence", Classifier.ofEvidence o.language.sampleLines o.language.topK⟩ ∨
      c = ⟨"heuristic", Classifier.ofHeuristic Classifier.defaultSampleLines Classifier.defaultTopK⟩ := by
  rw [classifierOf, hkind] at h
  dsimp only at h
  split at h
  · exact .inl (Except.ok.inj h).symm
  split at h
  · exact .inr (Except.ok.inj h).symm
  · cases h

theorem classifier_eq (hlabel : c₁.label = c₂.label) (hlanguage : o₁.language = o₂.language)
    (hsame : SameCollaborators o₁ o₂) (h₁ : classifierOf o₁ = .ok c₁) (h₂ : classifierOf o₂ = .ok c₂) :
    c₁.run = c₂.run := by
  have hclassifier := hsame.classifier
  cases hk₁ : o₁.classifier with
  | given c =>
      cases hk₂ : o₂.classifier with
      | given d =>
          simp only [classifierOf, hk₁, hk₂, Except.ok.injEq] at h₁ h₂ hclassifier
          rw [← h₁, ← h₂, hclassifier]
      | named => simp [hk₁, hk₂] at hclassifier
  | named =>
      cases hk₂ : o₂.classifier with
      | given => simp [hk₁, hk₂] at hclassifier
      | named =>
          obtain rfl | rfl := classifierOf_named hk₁ h₁ <;> obtain rfl | rfl := classifierOf_named hk₂ h₂
          · rw [hlanguage]
          · simp at hlabel
          · simp at hlabel
          · rfl

theorem ofOptions_ok {o : AnalyzerOptions} {a : Analyzer} (h : ofOptions o = .ok a) : ∃ c, classifierOf o = .ok c ∧ a = {
    limit := limitOf o
    includeDetails := o.includeDetails
    classifier := c.run
    language := o.language
    explain := o.explain
    generator := o.generator.map (·.run)
    sniffer := o.sniffer.getD fun content => .ok (Charset.isBinary content)
    decoder := o.decoder.getD fun content => .ok (Charset.decode o.defaultEncoding content)
    cataloguer := o.cataloguer.getD fun p text lines => .ok (Inventory.extract p text lines)
    fingerprint := Fingerprint.ofParts (settings o c.label) } := by
  rw [ofOptions] at h
  split at h
  · cases h
  split at h
  · cases h
  · rename_i c hc
    exact ⟨c, hc, (Except.ok.inj h).symm⟩

/-- Analyzers whose settings are written alike analyze alike, provided that they were handed the same
collaborators. -/
theorem analyze_eq_of_settings (h₁ : ofOptions o₁ = .ok a₁) (h₂ : ofOptions o₂ = .ok a₂)
    (hc₁ : classifierOf o₁ = .ok c₁) (hc₂ : classifierOf o₂ = .ok c₂)
    (hsettings : settings o₁ c₁.label = settings o₂ c₂.label) (hsame : SameCollaborators o₁ o₂) (context : Context)
    (code : Bytes) (filename : String) :
    a₁.analyze context code filename = a₂.analyze context code filename := by
  obtain ⟨c, hc, rfl⟩ := ofOptions_ok h₁
  obtain rfl : c = c₁ := Except.ok.inj (hc.symm.trans hc₁)
  obtain ⟨d, hd, rfl⟩ := ofOptions_ok h₂
  obtain rfl : d = c₂ := Except.ok.inj (hd.symm.trans hc₂)
  have hoptions := sameSettings hsettings
  rw [hoptions.limit, hoptions.includeDetails, hoptions.language, hoptions.explain, hoptions.defaultEncoding,
    hsame.generator, hsame.sniffer, hsame.decoder, hsame.cataloguer,
    classifier_eq hoptions.label hoptions.language hsame hc₁ hc₂, hsettings]

def spelledOut : AnalyzerOptions := { maxInputBytes := 1000000, classifier := .named "enry" }

theorem analyze_eq_of_settings_spelledOut : ∃ a₁ a₂, ofOptions {} = .ok a₁ ∧ ofOptions spelledOut = .ok a₂ ∧
    ∀ context code filename, a₁.analyze context code filename = a₂.analyze context code filename := by
  obtain ⟨a₁, h₁⟩ : ∃ a, ofOptions {} = .ok a := ⟨_, rfl⟩
  obtain ⟨a₂, h₂⟩ : ∃ a, ofOptions spelledOut = .ok a := ⟨_, rfl⟩
  exact ⟨a₁, a₂, h₁, h₂, analyze_eq_of_settings h₁ h₂ rfl rfl rfl ⟨trivial, rfl, rfl, rfl, rfl⟩⟩

def binding : Bytes := utf8 "x = 1\n"

def answering (answer : String) : AnalyzerOptions :=
  { generator := some ⟨"stub", fun _ _ _ => .value (utf8 answer)⟩ }

theorem identify_binding (classifier : Classifier) : ∃ confidence,
    identify classifier {} .live binding "a.py" = .ok (Identification.byExtension .python confidence) := by
  have hstrip : binding.strip.isEmpty = false := by cbv
  have hlength : Utf8.length binding.strip = 5 := by cbv
  have hhint : Identification.hint? "a.py" = some .python := by decide +kernel
  have hshort : ((5 : Nat) : Int) < (IdentifyConfig.withDefaults {}).minLength := by decide
  simp only [identify, hstrip, hlength, hhint, hshort, Bool.false_eq_true, if_false, if_true]
  exact ⟨_, rfl⟩

def bindingSkeleton : Bytes :=
  let lines := Line.scan .python binding
  Explanation.skeletonOf
    { language := Profile.python.id, text := binding, summary := Summary.ofLines lines,
      inventory := Inventory.extract .python binding lines }

theorem analyze_answering (answer : String) : ∃ a r, ofOptions (answering answer) = .ok a ∧
    a.analyze .live binding "a.py" = .ok r ∧
    r.explanation = (Explanation.elaborated bindingSkeleton (utf8 answer)).text := by
  have htext : Charset.isBinary binding = false := by decide +kernel
  have hblank : binding.isBlank = false := by cbv
  have hdecode : Charset.decode "" binding = ⟨binding, "utf-8", true, false⟩ := by cbv
  have hlimit : ¬defaultLimit < binding.length := by decide +kernel
  obtain ⟨a, ha, halimit, hlanguage, hgenerator, hsniffer, hdecoder, hcataloguer⟩ : ∃ a,
      ofOptions (answering answer) = .ok a ∧ a.limit = defaultLimit ∧ a.language = {} ∧
      a.generator = some (fun _ _ _ => .value (utf8 answer)) ∧
      (∀ content, a.sniffer content = .ok (Charset.isBinary content)) ∧
      (∀ content, a.decoder content = .ok (Charset.decode "" content)) ∧
      ∀ p text lines, a.cataloguer p text lines = .ok (Inventory.extract p text lines) :=
    ⟨_, rfl, rfl, rfl, rfl, fun _ => rfl, fun _ => rfl, fun _ _ _ => rfl⟩
  obtain ⟨confidence, hfound⟩ := identify_binding a.classifier
  have hanalyze := analyze_of_live hblank (halimit ▸ hlimit) ((hsniffer binding).trans (by rw [htext]))
    ((hdecoder binding).trans (by rw [hdecode])) "a.py"
  rw [analyzeText] at hanalyze
  simp only [hlanguage, hfound, Identification.byExtension, hcataloguer, hgenerator, Explanation.explain,
    Context.ended?_live] at hanalyze
  exact ⟨a, _, ha, hanalyze, rfl⟩

/-- Two generators of one label are not told apart, though each shapes the explanation. -/
theorem settings_hide_generator : ∃ o₁ o₂ a₁ a₂ c, ofOptions o₁ = .ok a₁ ∧ ofOptions o₂ = .ok a₂ ∧
    classifierOf o₁ = .ok c ∧ classifierOf o₂ = .ok c ∧ settings o₁ c.label = settings o₂ c.label ∧
    a₁.analyze .live binding "a.py" ≠ a₂.analyze .live binding "a.py" := by
  obtain ⟨a₁, r₁, ha₁, hr₁, hone⟩ := analyze_answering "one"
  obtain ⟨a₂, r₂, ha₂, hr₂, htwo⟩ := analyze_answering "two"
  refine ⟨_, _, a₁, a₂, _, ha₁, ha₂, rfl, rfl, rfl, ?_⟩
  rw [hr₁, hr₂]
  intro h
  have hexplanation := congrArg Analysis.explanation (Except.ok.inj h)
  have hstrip₁ : (utf8 "one").strip = utf8 "one" := by cbv
  have hstrip₂ : (utf8 "two").strip = utf8 "two" := by cbv
  have hne : utf8 "one" ≠ utf8 "two" := by decide
  rw [hone, htwo, Explanation.elaborated, Explanation.elaborated, hstrip₁, hstrip₂] at hexplanation
  exact hne (List.append_cancel_left hexplanation)

end Analyzer

end SourceSurvey
