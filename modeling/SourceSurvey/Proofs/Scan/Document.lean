import SourceSurvey.Proofs.Analysis.Reading
import SourceSurvey.Proofs.Scan.Hits
import SourceSurvey.Scan.Document

namespace SourceSurvey

open Datum

/-- The facts of a file stand in a field of their own, which is left out where there are none. -/
theorem FileScan.get?_gitFields (facts : List (String × String)) : ∃ sorted, sorted.Perm facts ∧
    (ofFields (gitFields .json facts)).get? "git" = (if sorted = [] then none else
      some (ofFields (sorted.map fun f => (f.1, .ofString f.2)))) ∧
    ∀ name ≠ "git", (ofFields (gitFields .json facts)).get? name = none := by
  have hperm : (facts.mergeSort fun a b => a.1 ≤ b.1).Perm facts := List.mergeSort_perm _ _
  refine ⟨_, hperm, ?_, ?_⟩
  · by_cases hfacts : facts = []
    · simp [gitFields, hfacts]
    · have hsorted : (facts.mergeSort fun a b => a.1 ≤ b.1) ≠ [] := by
        intro h
        rw [h] at hperm
        exact hfacts (List.nil_perm.mp hperm)
      rw [if_neg hsorted]
      simp [gitFields, hfacts]
  · intro name hname
    by_cases hfacts : facts = []
    · simp [gitFields, hfacts]
    · simp [gitFields, hfacts, hname.symm]

namespace FileDocument

variable {facts : List (String × String)}

theorem holds_facts (h : (facts.map Prod.fst).Nodup) : Holds (fun v => v.fields?.bind factsOf?)
    (ofFields (facts.map fun f => (f.1, .ofString f.2))) facts := by
  apply holds_ofFields
  rw [fields?_repaired, Option.bind_some, List.map_map]
  induction facts with
  | nil => rfl
  | cons f facts ih =>
      obtain ⟨name, value⟩ := f
      rw [List.map_cons, List.nodup_cons] at h
      rw [List.map_cons, Function.comp_apply, factsOf?, (holds_ofString value).readOr, ih h.2, toString_utf8]
      have hnew : ¬facts.any (·.1 = name) := by
        simpa using h.1
      simp [hnew]

end FileDocument

namespace FileScan

variable {s : Setting} {a : Analysis} {facts : List (String × String)}

/-- What is read back, of an analysis alone and of the document of a file, is what was written. Facts are known by their
names, so they may come in another order. -/
theorem document_reads_back (hformat : s.plan.format = .json) (hvalid : ∀ t ∈ a.texts, Utf8.isValid t)
    (hfacts : (facts.map Prod.fst).Nodup) (path : String) :
    DocumentFormat.json.decodeAnalysis? (DocumentFormat.json.encode a.fields) = some a.written ∧
      ∃ back, back.Perm facts ∧
        FileDocument.decode? .json (document s path a facts) = some ⟨utf8 path, a.written, back⟩ := by
  obtain ⟨sorted, hperm, hgit, hother⟩ := get?_gitFields facts
  refine ⟨Analysis.decodeAnalysis?_encode hvalid, sorted, hperm, ?_⟩
  have hnodup : (sorted.map Prod.fst).Nodup := (hperm.map _).nodup_iff.mpr hfacts
  have hpath : (ofFields (Analysis.documentFields path a (gitFields .json facts))).get? "path" =
      some (.ofString path) := by
    cases hinventory : a.inventory <;> simp [Analysis.documentFields, Analysis.fields, hinventory, hother]
  have hsorted : (ofFields (Analysis.documentFields path a (gitFields .json facts))).get? "git" =
      if sorted = [] then none else some (ofFields (sorted.map fun f => (f.1, .ofString f.2))) := by
    cases hinventory : a.inventory <;> simp [Analysis.documentFields, Analysis.fields, hinventory, hgit]
  have hanalysis : WrittenAnalysis.ofDatum?
      (ofFields (Analysis.documentFields path a (gitFields .json facts))).repaired = some a.written := by
    apply Analysis.ofDatum?_repaired hvalid
    simp [Analysis.documentFields, hother]
  rw [document, hformat, List.singleton_append, List.cons_append, ← Analysis.documentFields, FileDocument.decode?,
    Analysis.decode?_encode_json path a (follows_gitFields .json facts), Option.bind_some, FileDocument.ofDatum?,
    hanalysis, readField_of_holds hpath (holds_text (isValid_utf8 path)),
    readField_of_omitted hsorted (FileDocument.holds_facts hnodup)]
  rfl

theorem document_reads_back_escaped : ∃ s : Setting, s.plan.format = .json ∧
    let a : Analysis := {
      language := "python", explanation := utf8 "<p> \"q\" & r\n", documented := utf8 "\u2028 𝕏\x00"
      inventory := some { functions := [⟨utf8 "f", utf8 "function", 3⟩], learning := some ⟨["torch"], []⟩ } }
    let facts := [("commit", "c0"), ("author", "é")]
    (∀ t ∈ a.texts, Utf8.isValid t) ∧ (facts.map Prod.fst).Nodup ∧
      DocumentFormat.json.decodeAnalysis? (DocumentFormat.json.encode a.fields) = some a.written ∧
        ∃ back, back.Perm facts ∧
          FileDocument.decode? .json (document s "dir/a.py" a facts) = some ⟨utf8 "dir/a.py", a.written, back⟩ := by
  obtain ⟨analyzer, -⟩ := Engine.analyze_bareFunction
  refine ⟨⟨Pass.Twice.plan, analyzer⟩, rfl, ?_⟩
  intro a facts
  have hvalid : ∀ t ∈ a.texts, Utf8.isValid t := by
    have htexts : a.texts.all Utf8.isValid = true := by
      cbv
    exact List.all_eq_true.mp htexts
  have hfacts : (facts.map Prod.fst).Nodup := by
    decide
  exact ⟨hvalid, hfacts, document_reads_back rfl hvalid hfacts "dir/a.py"⟩

end FileScan

end SourceSurvey
