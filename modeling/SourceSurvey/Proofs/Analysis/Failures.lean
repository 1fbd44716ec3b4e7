import SourceSurvey.Proofs.Analysis.Steps

namespace SourceSurvey

namespace Analyzer

variable {a : Analyzer} {context : Context} {code : Bytes} {filename : String} {decoded : Decoded} {e : AnalysisError}

/-- How the request's own context comes to its end while the analysis runs: of itself, or because a collaborator has the
request cancelled. -/
inductive ContextEnds (a : Analyzer) (context : Context) : Ending → Prop
  | itself {p : Checkpoint} {x : Ending} (h : context.ended? p = some x) : ContextEnds a context x
  | byClassifier {text : Bytes} (h : a.classifier context text = .cancels) : ContextEnds a context .cancelled
  | byGenerator {g : Generator} {e : Explained} (hg : a.generator = some g)
      (h : Explanation.ask g a.explain e = .cancels) : ContextEnds a context .cancelled

inductive TextFails (a : Analyzer) (context : Context) (text : Bytes) : AnalysisError → Prop
  | blank (h : text.strip = []) : TextFails a context text .empty
  | ended {x : Ending} (h : ContextEnds a context x) : TextFails a context text (.ended x)
  | crashed (m : String) : TextFails a context text (.failed (.crash m))

inductive Fails (a : Analyzer) (context : Context) (code : Bytes) : AnalysisError → Prop
  | blank (h : code.isBlank) : Fails a context code .empty
  | tooLarge (hblank : ¬code.isBlank) (h : a.limit < code.length) : Fails a context code (.tooLarge code.length a.limit)
  | ended {x : Ending} (h : ContextEnds a context x) : Fails a context code (.ended x)
  | sniffing (m : String) : Fails a context code (.failed (.crash m))
  | decoding {f : Fault} (h : a.decoder code = .error f) : Fails a context code (.failed f)
  | text {decoded : Decoded} {e : AnalysisError} (hsize : code.length ≤ a.limit) (hlive : context.ended? .begun = none)
      (htext : a.sniffer code = .ok false) (hdecoded : a.decoder code = .ok decoded)
      (h : TextFails a context decoded.text e) : Fails a context code e

/-- An error gives one reason. Only the error of a decoder goes along with what it wraps. -/
theorem Fails.causes (h : Fails a context code e) : ∃ c,
    (c = .emptyInput ∨ c = .inputTooLarge ∨ c = .analysisFailed ∨ ∃ x, c = .context x ∧ ContextEnds a context x) ∧
    (e.causes = [c] ∨ c = .analysisFailed ∧ ∃ f, a.decoder code = .error f ∧ f.wraps ≠ [] ∧ e.causes = c :: f.wraps) := by
  cases h with
  | blank => exact ⟨_, .inl rfl, .inl rfl⟩
  | tooLarge => exact ⟨_, .inr (.inl rfl), .inl rfl⟩
  | ended h => exact ⟨_, .inr (.inr (.inr ⟨_, rfl, h⟩)), .inl rfl⟩
  | sniffing => exact ⟨_, .inr (.inr (.inl rfl)), .inl rfl⟩
  | @decoding f h =>
      refine ⟨_, .inr (.inr (.inl rfl)), ?_⟩
      by_cases hwraps : f.wraps = []
      · exact .inl (by rw [AnalysisError.causes, hwraps])
      · exact .inr ⟨rfl, f, h, hwraps, rfl⟩
  | text _ _ _ _ h =>
      cases h with
      | blank => exact ⟨_, .inl rfl, .inl rfl⟩
      | ended h => exact ⟨_, .inr (.inr (.inr ⟨_, rfl, h⟩)), .inl rfl⟩
      | crashed => exact ⟨_, .inr (.inr (.inl rfl)), .inl rfl⟩

example :
    let decoder : Decoder := fun _ => .error (.failure "late" [.generatorTimeout])
    let b : Analyzer := { a with limit := 1, sniffer := fun _ => .ok false, decoder }
    (b.analyze .live [120] "").mapError AnalysisError.causes = .error [.analysisFailed, .generatorTimeout] := by
  cbv

end Analyzer

end SourceSurvey
