import SourceSurvey.Proofs.Analysis.Document
import SourceSurvey.Proofs.Text.Validity

namespace SourceSurvey

namespace Datum

variable {α β : Type} {fields : List (String × Datum)} {name : String} {d : Datum} {empty a : α} {as : List α}
  {read : Datum → Option α} {f : α → Datum}

/-- Once written and read again, the datum holds the value. -/
structure Holds (read : Datum → Option α) (d : Datum) (a : α) : Prop where
  ne_null : d.repaired ≠ .null
  read_eq : read d.repaired = some a

theorem Holds.readOr (h : Holds read d a) (empty : α) : d.repaired.readOr empty read = some a := by
  obtain ⟨hnull, hread⟩ := h
  generalize d.repaired = r at hnull hread
  cases r with
  | null => exact absurd rfl hnull
  | bool | number | text | list | record => exact hread

theorem Holds.map (h : Holds read d a) (g : α → β) : Holds (fun v => (read v).map g) d (g a) :=
  ⟨h.ne_null, by rw [h.read_eq, Option.map_some]⟩

theorem holds_text {s : Bytes} (h : Utf8.isValid s) : Holds text? (.text s) s := by
  constructor
  · simp [repaired]
  · rw [repaired, Utf8.repair_of_isValid h, text?]

theorem holds_ofString (s : String) : Holds (fun v => v.text?.map Utf8.toString) (.ofString s) s := by
  have h := (holds_text (isValid_utf8 s)).map Utf8.toString
  rwa [toString_utf8] at h

theorem holds_ofInt (n : Int) : Holds int? (.ofInt n) n := by
  constructor
  · rw [repaired_ofInt]
    exact Datum.noConfusion
  · rw [repaired_ofInt, ofInt, int?, intOf?_int]

theorem holds_ofFields (h : read (ofFields fields).repaired = some a) : Holds read (.ofFields fields) a := by
  refine ⟨?_, h⟩
  rw [repaired_ofFields]
  exact Datum.noConfusion

theorem mapM_repaired (h : ∀ a ∈ as, Holds read (f a) a) (empty : α) :
    (as.map fun a => (f a).repaired).mapM (readOr empty read) = Option.some as := by
  induction as with
  | nil => rfl
  | cons a as ih =>
      rw [List.map_cons, List.mapM_cons, (h a List.mem_cons_self).readOr, ih fun b hb => h b (List.mem_cons_of_mem a hb)]
      rfl

theorem holds_list (h : ∀ a ∈ as, Holds read (f a) a) (empty : α) :
    Holds (readItems empty read) (.list (as.map f)) as := by
  constructor
  · simp [repaired]
  · rw [repaired, List.map_map]
    exact mapM_repaired h empty

theorem readField_of_holds (hget : (ofFields fields).get? name = some d) (h : Holds read d a) (empty : α) :
    (ofFields fields).repaired.readField name empty read = some a := by
  rw [readField, get?_repaired, hget, Option.map_some]
  exact h.readOr empty

theorem readField_of_missing (hget : (ofFields fields).get? name = none) (empty : α) (read : Datum → Option α) :
    (ofFields fields).repaired.readField name empty read = some empty := by
  rw [readField, get?_repaired, hget, Option.map_none]

theorem fields?_repaired (fields : List (String × Datum)) :
    (ofFields fields).repaired.fields? = some (fields.map fun f => (utf8 f.1, f.2.repaired)) := by
  rw [repaired_ofFields, ofFields, fields?, List.map_map]
  rfl

/-- A value that is left out where it is empty is read back. -/
theorem readField_of_omitted [Decidable (a = empty)]
    (hget : (ofFields fields).get? name = if a = empty then none else some d) (h : Holds read d a) :
    (ofFields fields).repaired.readField name empty read = some a := by
  split at hget
  · rename_i hempty
    rw [readField_of_missing hget, hempty]
  · exact readField_of_holds hget h empty

theorem readField_option {o : Option α} (hget : (ofFields fields).get? name = o.map f)
    (h : ∀ a ∈ o, Holds read (f a) a) :
    (ofFields fields).repaired.readField name none (fun v => (read v).map some) = some o := by
  cases o with
  | none => exact readField_of_missing hget none _
  | some a => exact readField_of_holds hget ((h a rfl).map some) none

end Datum

open Datum

theorem Summary.holds_toDatum (s : Summary) : Holds Summary.ofDatum? s.toDatum s := by
  apply holds_ofFields
  rw [Summary.ofDatum?, fields?_repaired]
  dsimp only
  rw [readField_of_holds (by simp) (holds_ofInt s.totalLines), readField_of_holds (by simp) (holds_ofInt s.emptyLines),
    readField_of_holds (by simp) (holds_ofInt s.commentLines), readField_of_holds (by simp) (holds_ofInt s.imports),
    readField_of_holds (by simp) (holds_ofInt s.functions), readField_of_holds (by simp) (holds_ofInt s.classes),
    readField_of_holds (by simp) (holds_ofInt s.bindings), readField_of_holds (by simp) (holds_ofInt s.loops),
    readField_of_holds (by simp) (holds_ofInt s.conditionals)]
  rfl

namespace Inventory

def texts (r : Inventory) : List Bytes :=
  (r.functions ++ r.classes).flatMap (fun d => [d.name, d.kind]) ++ r.imports ++ [r.doc]

theorem get?_listField (key : String) (items : List Datum) (name : String) :
    (ofFields (listField key items)).get? name = if key = name ∧ items ≠ [] then some (.list items) else none := by
  rw [listField]
  by_cases hnone : items = []
  · simp [hnone]
  · simp [hnone]

theorem holds_declarationDatum {d : Declaration} (hname : Utf8.isValid d.name) (hkind : Utf8.isValid d.kind) :
    Holds declarationOf? (declarationDatum d) d := by
  apply holds_ofFields
  rw [declarationOf?, fields?_repaired, readField_of_holds (by simp) (holds_text hname),
    readField_of_holds (by simp) (holds_text hkind), readField_of_holds (by simp) (holds_ofInt d.line)]
  rfl

theorem holds_learningDatum (m : Learning) : Holds learningOf? (learningDatum m) m := by
  have hframeworks : (learningDatum m).get? "frameworks" =
      if m.frameworks = [] then none else some (.list (m.frameworks.map .ofString)) := by
    simp [learningDatum, get?_listField]
  have hoperations : (learningDatum m).get? "operations" =
      if m.operations = [] then none else some (.list (m.operations.map .ofString)) := by
    simp [learningDatum, get?_listField]
  apply holds_ofFields
  rw [learningOf?, fields?_repaired]
  dsimp only
  rw [readField_of_omitted hframeworks (holds_list (fun s _ => holds_ofString s) ""),
    readField_of_omitted hoperations (holds_list (fun s _ => holds_ofString s) "")]
  rfl

theorem get?_toDatum (r : Inventory) :
    r.toDatum.get? "functions" = (if r.functions = [] then none else some (.list (r.functions.map declarationDatum))) ∧
    r.toDatum.get? "classes" = (if r.classes = [] then none else some (.list (r.classes.map declarationDatum))) ∧
    r.toDatum.get? "imports" = (if r.imports = [] then none else some (.list (r.imports.map .text))) ∧
    r.toDatum.get? "doc_summary" = (if r.doc = [] then none else some (.text r.doc)) ∧
    r.toDatum.get? "machine_learning" = r.learning.map learningDatum := by
  by_cases hdoc : r.doc = [] <;> cases hlearning : r.learning <;> simp [toDatum, get?_listField, hdoc, hlearning]

theorem holds_toDatum {r : Inventory} (h : ∀ s ∈ r.texts, Utf8.isValid s) : Holds ofDatum? r.toDatum r := by
  obtain ⟨hfunctions, hclasses, himports, hdoc, hlearning⟩ := get?_toDatum r
  have hdeclaration : ∀ d ∈ r.functions ++ r.classes, Holds declarationOf? (declarationDatum d) d := by
    intro d hd
    have htexts : ∀ s ∈ [d.name, d.kind], s ∈ r.texts := by
      intro s hs
      exact List.mem_append_left _ (List.mem_append_left _ (List.mem_flatMap.mpr ⟨d, hd, hs⟩))
    exact holds_declarationDatum (h _ (htexts _ (by simp))) (h _ (htexts _ (by simp)))
  rw [List.forall_mem_append] at hdeclaration
  have himport : ∀ s ∈ r.imports, Holds text? (.text s) s := by
    intro s hs
    exact holds_text (h s (List.mem_append_left _ (List.mem_append_right _ hs)))
  apply holds_ofFields
  rw [ofDatum?, fields?_repaired]
  dsimp only
  rw [toDatum] at hfunctions hclasses himports hdoc hlearning
  rw [readField_of_omitted hfunctions (holds_list hdeclaration.1 ⟨[], [], 0⟩),
    readField_of_omitted hclasses (holds_list hdeclaration.2 ⟨[], [], 0⟩),
    readField_of_omitted himports (holds_list himport []),
    readField_of_omitted hdoc (holds_text (h _ (List.mem_append_right _ List.mem_cons_self))),
    readField_option hlearning fun m _ => holds_learningDatum m]
  rfl

end Inventory

namespace Analysis

variable {path : String} {a : Analysis} {more : List (String × Datum)}

def texts (a : Analysis) : List Bytes := [a.explanation, a.documented] ++ (a.inventory.map Inventory.texts).getD []

theorem get?_fields (a : Analysis) :
    (ofFields a.fields).get? "language" = some (.ofString a.language) ∧
    (ofFields a.fields).get? "explanation" = some (.text a.explanation) ∧
    (ofFields a.fields).get? "structure" = some a.summary.toDatum ∧
    (ofFields a.fields).get? "documented_code" = some (.text a.documented) ∧
    (ofFields a.fields).get? "details" = a.inventory.map Inventory.toDatum := by
  cases hinventory : a.inventory <;> simp [fields, hinventory]

theorem ofDatum?_repaired {fields : List (String × Datum)} (h : ∀ s ∈ a.texts, Utf8.isValid s)
    (hfields : ∀ name ∈ ["language", "explanation", "structure", "documented_code", "details"],
      (ofFields fields).get? name = (ofFields a.fields).get? name) :
    WrittenAnalysis.ofDatum? (ofFields fields).repaired = some a.written := by
  obtain ⟨hlanguage, hexplanation, hsummary, hdocumented, hinventory⟩ := get?_fields a
  simp only [List.forall_mem_cons] at hfields
  obtain ⟨hsameLanguage, hsameExplanation, hsameSummary, hsameDocumented, hsameInventory, -⟩ := hfields
  have hholds : ∀ r ∈ a.inventory, Holds Inventory.ofDatum? r.toDatum r := by
    intro r hr
    apply Inventory.holds_toDatum
    intro s hs
    apply h s
    rw [texts, hr]
    exact List.mem_append_right _ hs
  rw [WrittenAnalysis.ofDatum?, fields?_repaired,
    readField_of_holds (hsameLanguage.trans hlanguage) (holds_text (isValid_utf8 _)),
    readField_of_holds (hsameExplanation.trans hexplanation) (holds_text (h _ List.mem_cons_self)),
    readField_of_holds (hsameSummary.trans hsummary) a.summary.holds_toDatum,
    readField_of_holds (hsameDocumented.trans hdocumented) (holds_text (h _ (by simp [texts]))),
    readField_option (hsameInventory.trans hinventory) hholds]
  rfl

/-- An analysis is read back from the document that holds nothing else. -/
theorem decodeAnalysis?_encode (h : ∀ s ∈ a.texts, Utf8.isValid s) :
    DocumentFormat.json.decodeAnalysis? (DocumentFormat.json.encode a.fields) = some a.written := by
  have hread := Json.parse?_render
    ((nested_ofFields a.nested_fields).mono (show 4 ≤ Json.Reader.maxDepth by decide)) .indented
    (show ([10] : Bytes).all Json.isBlank by decide)
  rw [DocumentFormat.decodeAnalysis?, DocumentFormat.decode?, DocumentFormat.encode, hread, Option.bind_some]
  exact ofDatum?_repaired h fun _ _ => rfl

theorem readsBack_json (h : ∀ s ∈ a.texts, Utf8.isValid s) : a.readsBack .json := by
  simp [readsBack, decodeAnalysis?_encode h]

end Analysis

end SourceSurvey
