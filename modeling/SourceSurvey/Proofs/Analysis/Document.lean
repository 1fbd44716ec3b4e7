import SourceSurvey.Analysis.Document
import SourceSurvey.Proofs.Analysis.Steps
import SourceSurvey.Proofs.Datum.Json
import SourceSurvey.Proofs.Datum.Yaml.Record

namespace SourceSurvey

namespace Identification

def languages : List String := Registry.identifiers ++ [Profile.plainText, Profile.unknown]

theorem id_mem_languages {p : Profile} (h : p ∈ Registry.profiles) : p.id ∈ languages :=
  List.mem_append_left _ (List.mem_map_of_mem h)

theorem language_hint {filename language : String} (h : language ∈ languages) (confidence : Rat) :
    (((hint? filename).map (byExtension · confidence)).getD (fallback language)).language ∈ languages := by
  cases hhint : hint? filename with
  | none => exact h
  | some p => exact id_mem_languages (mem_of_hint? hhint)

theorem language_mem_of_firstKnown? {floor : Rat} {guesses : List Guess} {found : Identification}
    (h : firstKnown? floor guesses = some found) : found.language ∈ languages := by
  induction guesses with
  | nil => cases h
  | cons g gs ih =>
      rw [firstKnown?] at h
      split at h
      · exact ih h
      · rename_i p hp
        split at h
        · cases h
        · cases h
          exact id_mem_languages (List.mem_of_find?_eq_some hp)

theorem language_mem_merge (c : IdentifyConfig) (filename : String) (corroboration : Rat) (guesses : List Guess) :
    (merge c (hint? filename) corroboration guesses).language ∈ languages := by
  have hguessed : ((firstKnown? c.floor guesses).getD (fallback Profile.plainText)).language ∈ languages := by
    cases h : firstKnown? c.floor guesses with
    | none => decide
    | some found => exact language_mem_of_firstKnown? h
  cases h : hint? filename with
  | none => exact hguessed
  | some p =>
      have hp := id_mem_languages (mem_of_hint? h)
      rw [merge]
      dsimp only [Option.bind_eq_bind, Option.bind_some]
      split
      · exact hp
      split
      · exact hp
      · exact hguessed

end Identification

open Identification in
theorem identify_language {classifier : Classifier} {config : IdentifyConfig} {context : Context} {text : Bytes}
    {filename : String} {found : Identification}
    (h : identify classifier config context text filename = .ok found) : found.language ∈ languages := by
  rw [identify] at h
  split at h
  · cases h
  split at h
  · cases h
    exact language_hint (by decide) _
  split at h
  · cases h
  split at h
  · cases h
    exact language_hint (by decide) _
  · cases h
    exact language_mem_merge ..

namespace Analyzer

variable {a : Analyzer} {context : Context} {code : Bytes} {filename : String} {result : Analysis}

theorem analyze_language (h : a.analyze context code filename = .ok result) :
    result.language ∈ Identification.languages := by
  obtain ⟨-, rfl⟩ | ⟨-, decoded, -, htext⟩ := analyze_ok h
  · exact (by decide : Profile.unknown ∈ Identification.languages)
  · obtain ⟨found, inventory, explanation, hfound, -, -, rfl⟩ := of_analyzeText htext
    exact identify_language hfound

end Analyzer

theorem Summary.nested_toDatum (s : Summary) : s.toDatum.Nested 1 := by
  apply Datum.nested_ofFields
  rw [List.forall_mem_map]
  exact fun f _ => .int f.2

namespace Inventory

theorem nested_listField {depth : Nat} {name : String} {items : List Datum} (h : ∀ d ∈ items, d.Nested depth) :
    ∀ f ∈ listField name items, f.2.Nested (depth + 1) := by
  rw [listField]
  split
  · simp
  · simpa using Datum.Nested.list h

theorem nested_declarationDatum (d : Declaration) : (declarationDatum d).Nested 1 := by
  apply Datum.nested_ofFields
  simp only [List.forall_mem_cons]
  exact ⟨.text _, .text _, .int _, by simp⟩

theorem nested_learningDatum (m : Learning) : (learningDatum m).Nested 2 := by
  apply Datum.nested_ofFields
  rw [List.forall_mem_append]
  exact ⟨nested_listField (by simpa using fun s _ => .text _), nested_listField (by simpa using fun s _ => .text _)⟩

theorem nested_toDatum (r : Inventory) : r.toDatum.Nested 3 := by
  apply Datum.nested_ofFields
  simp only [List.forall_mem_append]
  refine ⟨⟨⟨⟨?_, ?_⟩, ?_⟩, ?_⟩, ?_⟩
  · exact nested_listField (by simpa using fun d _ => nested_declarationDatum d)
  · exact nested_listField (by simpa using fun d _ => nested_declarationDatum d)
  · exact nested_listField (by simpa using fun s _ => .text s)
  · split
    · simp
    · simpa using .text _
  · split
    · simp
    · rename_i m _
      simpa using nested_learningDatum m

end Inventory

namespace Analysis

variable {path : String} {a : Analysis} {more : List (String × Datum)}

def documentFields (path : String) (a : Analysis) (more : List (String × Datum)) : List (String × Datum) :=
  ("path", .ofString path) :: (a.fields ++ more)

def Follows (more : List (String × Datum)) : Prop :=
  ∀ f ∈ more, f.2.Nested 3 ∧ f.1 ≠ "path" ∧ f.1 ≠ "language"

theorem nested_fields (a : Analysis) : ∀ f ∈ a.fields, f.2.Nested 3 := by
  simp only [fields, List.cons_append, List.nil_append, List.forall_mem_cons]
  refine ⟨.text _, .text _, (Summary.nested_toDatum _).mono (by decide), .text _, ?_⟩
  cases a.inventory with
  | none => simp
  | some r => simpa using r.nested_toDatum

theorem nested_documentFields (path : String) (a : Analysis) (hmore : Follows more) :
    (Datum.ofFields (documentFields path a more)).Nested 4 := by
  apply Datum.nested_ofFields
  simp only [documentFields, List.forall_mem_cons, List.forall_mem_append]
  exact ⟨.text _, nested_fields a, fun f hf => (hmore f hf).1⟩

theorem get?_repaired (path : String) (a : Analysis) (hmore : Follows more) :
    (Datum.ofFields (documentFields path a more)).repaired.get? "path" = some (.ofString path) ∧
      (Datum.ofFields (documentFields path a more)).repaired.get? "language" = some (.ofString a.language) := by
  have hnone : ∀ name, name = "path" ∨ name = "language" → (Datum.ofFields more).get? name = none := by
    intro name hname
    rw [Datum.get?_ofFields, Option.map_eq_none_iff, List.find?_eq_none]
    simp only [List.mem_reverse, decide_eq_true_eq]
    rintro f hf rfl
    exact hname.elim (hmore f hf).2.1 (hmore f hf).2.2
  have hpath := hnone "path" (.inl rfl)
  have hlanguage := hnone "language" (.inr rfl)
  rw [Datum.get?_repaired, Datum.get?_repaired]
  cases hinventory : a.inventory <;> simp [documentFields, fields, hinventory, hpath, hlanguage]

theorem styleOf_language : ∀ language ∈ Identification.languages, Yaml.styleOf false (utf8 language) = .plain := by
  decide +kernel

theorem decode?_encode_json (path : String) (a : Analysis) (hmore : Follows more) :
    DocumentFormat.json.decode? (DocumentFormat.json.encode (documentFields path a more)) =
      some (Datum.ofFields (documentFields path a more)).repaired :=
  Json.parse?_render ((nested_documentFields path a hmore).mono (show 4 ≤ Json.Reader.maxDepth by decide)) .indented
    (show ([10] : Bytes).all Json.isBlank by decide)

theorem get?_language {format : DocumentFormat} {d : Datum} (hlanguage : a.language ∈ Identification.languages)
    (hmore : Follows more) (h : format.decode? (format.encode (documentFields path a more)) = some d) :
    d.get? "language" = some (.ofString a.language) := by
  cases format with
  | json =>
      rw [decode?_encode_json path a hmore] at h
      cases h
      exact (get?_repaired path a hmore).2
  | yaml =>
      rw [DocumentFormat.decode?, DocumentFormat.encode] at h
      exact Yaml.get?_parse?_render ⟨List.all_eq_true.mp (by decide), by decide, by decide +kernel⟩
        ⟨List.all_eq_true.mp (by decide), by decide, by decide +kernel⟩
        ⟨List.all_eq_true.mp (by decide), by decide, by decide +kernel⟩ (styleOf_language _ hlanguage) h

end Analysis

end SourceSurvey
