import SourceSurvey.Analysis.Basic
import SourceSurvey.Proofs.Profile.Markers
import SourceSurvey.Proofs.Text.Search

namespace SourceSurvey

open Bytes

namespace Decoded

def signature (d : Decoded) : Bytes := if d.bom then Charset.bom else []

end Decoded

namespace Context

theorem endedAfter?_live {ε α : Type} {r : Response ε α} (h : r ≠ .cancels) (p : Checkpoint) :
    live.endedAfter? p r = none := by
  cases r with
  | cancels => exact absurd rfl h
  | value | failure | crash | stall => rfl

end Context

namespace Classifier

theorem ofEvidence_ne_cancels (sampleLines topK : Int) (text : Bytes) :
    ofEvidence sampleLines topK .live text ≠ .cancels := by
  change (if isBinary text then _ else _) ≠ _
  split <;> simp

end Classifier

namespace Charset

theorem decode_lossless {content : Bytes} (h : Utf8.isValid content) (defaultEncoding : String) :
    (decode defaultEncoding content).signature ++ (decode defaultEncoding content).text = content := by
  rw [decode, if_pos h, Decoded.signature]
  cases hmark : dropStart? bom content with
  | none =>
      have hstarts : startsWith content bom = false := by simp [startsWith, hmark]
      simp [hstarts, dropStart, hmark]
  | some rest =>
      have hstarts : startsWith content bom = true := by simp [startsWith, hmark]
      simp [hstarts, dropStart, hmark, ← dropStart?_eq_some.mp hmark]

end Charset

namespace Identification

def IsKnown (p : Profile) : Prop := p ∈ Registry.profiles ∨ ∃ id, p = .empty id

theorem isKnown_fallback (language : String) : IsKnown (fallback language).profile := .inr ⟨language, rfl⟩

theorem mem_of_hint? {filename : String} {p : Profile} (h : hint? filename = some p) :
    p ∈ Registry.profiles := by
  rw [hint?, Registry.profileForExtension?] at h
  split at h
  · cases h
  · exact List.mem_of_find?_eq_some h

theorem isKnown_hint (filename : String) (confidence : Rat) (language : String) :
    IsKnown (((hint? filename).map (byExtension · confidence)).getD (fallback language)).profile := by
  cases h : hint? filename with
  | none => exact isKnown_fallback language
  | some p => exact .inl (mem_of_hint? h)

theorem isKnown_firstKnown? {floor : Rat} {guesses : List Guess} {found : Identification}
    (h : firstKnown? floor guesses = some found) : IsKnown found.profile := by
  induction guesses with
  | nil => cases h
  | cons g gs ih =>
      rw [firstKnown?] at h
      split at h
      · exact ih h
      · rename_i p hp
        split at h
        · cases h
        · cases h
          exact .inl (List.mem_of_find?_eq_some hp)

theorem isKnown_merge (c : IdentifyConfig) (filename : String) (corroboration : Rat) (guesses : List Guess) :
    IsKnown (merge c (hint? filename) corroboration guesses).profile := by
  have hguessed : IsKnown ((firstKnown? c.floor guesses).getD (fallback Profile.plainText)).profile := by
    cases h : firstKnown? c.floor guesses with
    | none => exact isKnown_fallback _
    | some found => exact isKnown_firstKnown? h
  cases h : hint? filename with
  | none => exact hguessed
  | some p =>
      have hp := mem_of_hint? h
      rw [merge]
      dsimp only [Option.bind_eq_bind, Option.bind_some]
      split
      · exact .inl hp
      split
      · exact .inl hp
      · exact hguessed

end Identification

open Identification in
theorem identify_isKnown {classifier : Classifier} {config : IdentifyConfig} {context : Context} {text : Bytes}
    {filename : String} {found : Identification}
    (h : identify classifier config context text filename = .ok found) : IsKnown found.profile := by
  rw [identify] at h
  split at h
  · cases h
  split at h
  · cases h
    exact isKnown_hint ..
  split at h
  · cases h
  split at h
  · cases h
    exact isKnown_hint ..
  · cases h
    exact isKnown_merge ..

theorem identify_of_live {classifier : Classifier} (config : IdentifyConfig) {text : Bytes}
    (h : text.strip.isEmpty = false) (hclassifier : classifier .live text ≠ .cancels) (filename : String) :
    ∃ found, identify classifier config .live text filename = .ok found := by
  rw [identify]
  simp only [h, Context.endedAfter?_live hclassifier, Bool.false_eq_true, if_false]
  split
  · exact ⟨_, rfl⟩
  split
  · exact ⟨_, rfl⟩
  · exact ⟨_, rfl⟩

theorem Identification.IsKnown.annotatable {p : Profile} (h : IsKnown p) : p.Annotatable := by
  obtain hp | ⟨id, rfl⟩ := h
  · exact Profile.annotatable_of_mem hp
  · exact Profile.annotatable_empty id

namespace Analyzer

variable {a : Analyzer} {context : Context} {filename : String}

theorem of_analyzeText {decoded : Decoded} {result : Analysis} (h : a.analyzeText context filename decoded = .ok result) :
    ∃ found inventory explanation, identify a.classifier a.language context decoded.text filename = .ok found ∧
      a.cataloguer found.profile decoded.text (Line.scan found.profile decoded.text) = .ok inventory ∧
      Explanation.explain a.generator a.explain context (explained decoded found inventory) = .ok explanation ∧
      result = a.outcome decoded found inventory explanation := by
  rw [analyzeText] at h
  split at h
  · cases h
  split at h
  · cases h
  split at h
  · cases h
  split at h
  · cases h
  split at h
  · cases h
  split at h
  · cases h
  cases h
  exact ⟨_, _, _, ‹_›, ‹_›, ‹_›, rfl⟩

theorem analyzeText_ok {decoded : Decoded} {result : Analysis}
    (h : a.analyzeText context filename decoded = .ok result) :
    ∃ found, identify a.classifier a.language context decoded.text filename = .ok found ∧
      result.documented = decoded.signature ++ annotate found.profile decoded.text := by
  obtain ⟨found, inventory, explanation, hfound, -, -, rfl⟩ := of_analyzeText h
  refine ⟨found, hfound, ?_⟩
  rw [outcome, Decoded.signature, annotate]
  split <;> rfl

theorem analyzeText_of_live (hgenerator : a.generator = none)
    (hcataloguer : ∀ p text lines, ∃ inventory, a.cataloguer p text lines = .ok inventory) {decoded : Decoded}
    (h : decoded.text.strip.isEmpty = false) (hclassifier : a.classifier .live decoded.text ≠ .cancels)
    (filename : String) : ∃ result, a.analyzeText .live filename decoded = .ok result := by
  obtain ⟨found, hfound⟩ := identify_of_live a.language h hclassifier filename
  obtain ⟨inventory, hinventory⟩ := hcataloguer found.profile decoded.text (Line.scan found.profile decoded.text)
  rw [analyzeText]
  simp only [hfound, hinventory, hgenerator, Explanation.explain, Context.ended?_live]
  exact ⟨_, rfl⟩

theorem analyze_ok {code : Bytes} {result : Analysis} (h : a.analyze context code filename = .ok result) :
    (a.sniffer code = .ok true ∧ result = .ofBinary code) ∨
      (a.sniffer code = .ok false ∧
        ∃ decoded, a.decoder code = .ok decoded ∧ a.analyzeText context filename decoded = .ok result) := by
  rw [analyze] at h
  split at h
  · cases h
  split at h
  · cases h
  split at h
  · cases h
  split at h
  · cases h
  · rename_i hbinary
    cases h
    exact .inl ⟨hbinary, rfl⟩
  rename_i htext
  split at h
  · cases h
  · rename_i decoded hdecoded
    exact .inr ⟨htext, decoded, hdecoded, h⟩

theorem analyze_of_live {code : Bytes} {decoded : Decoded} (hblank : code.isBlank = false)
    (hlimit : ¬a.limit < code.length) (htext : a.sniffer code = .ok false) (h : a.decoder code = .ok decoded)
    (filename : String) : a.analyze .live code filename = a.analyzeText .live filename decoded := by
  rw [analyze]
  simp only [hblank, hlimit, htext, h, Context.ended?_live, Bool.false_eq_true, if_false]

theorem ofOptions_sniffer {o : AnalyzerOptions} (h : ofOptions o = .ok a) :
    a.sniffer = o.sniffer.getD fun content => .ok (Charset.isBinary content) := by
  rw [ofOptions] at h
  split at h
  · cases h
  split at h
  · cases h
  · cases h
    rfl

theorem ofOptions_decoder {o : AnalyzerOptions} (h : ofOptions o = .ok a) :
    a.decoder = o.decoder.getD fun content => .ok (Charset.decode o.defaultEncoding content) := by
  rw [ofOptions] at h
  split at h
  · cases h
  split at h
  · cases h
  · cases h
    rfl

end Analyzer

end SourceSurvey
