import SourceSurvey.Proofs.Analysis.Settings

namespace SourceSurvey

def Generator.LeavesAlone (g : Generator) : Prop := ∀ language prompt excerpt, g language prompt excerpt ≠ .cancels

namespace Explanation

/-- What an explanation is made of, and whether it is degraded: it is the skeleton, and below it what the generator
wrote in time, unless that is blank. -/
inductive Elaborates (skeleton : Bytes) (response : Option (Response GeneratorError Bytes)) : Bytes → Bool → Prop
  | plain (h : ∀ t, response = some (.value t) → t.strip = []) : Elaborates skeleton response skeleton true
  | written {t : Bytes} (hresponse : response = some (.value t)) (ht : t.strip ≠ []) :
      Elaborates skeleton response (skeleton ++ [10, 10] ++ t.strip) false

variable {skeleton : Bytes} {response : Response GeneratorError Bytes} {g : Option Generator}

theorem elaborates_ofResponse : Elaborates skeleton (some response) (ofResponse skeleton response).text
    (ofResponse skeleton response).degraded := by
  cases response with
  | failure | crash | stall | cancels =>
      apply Elaborates.plain
      intro t h
      cases h
  | value t =>
      rw [ofResponse, elaborated]
      split
      · rename_i hblank
        apply Elaborates.plain
        intro s hs
        obtain rfl : t = s := by simpa using hs
        simpa using hblank
      · rename_i hblank
        exact Elaborates.written rfl (by simpa using hblank)

theorem exists_explanation (hg : ∀ x ∈ g, x.LeavesAlone) (config : ExplainConfig) (e : Explained) :
    ∃ x, explain g config .live e = .ok x ∧
      Elaborates (skeletonOf e) (g.map fun g => ask g config e) x.text x.degraded := by
  cases g with
  | none => exact ⟨_, rfl, Elaborates.plain (by simp)⟩
  | some g =>
      have hleaves : ask g config e ≠ .cancels := hg g rfl _ _ _
      refine ⟨ofResponse (skeletonOf e) (ask g config e), ?_, elaborates_ofResponse⟩
      simp only [explain, Context.ended?_live, Context.endedAfter?_live hleaves]

end Explanation

def Analysis.withoutProse (r : Analysis) : Analysis := { r with explanation := [], degraded := false }

def AnalyzerOptions.withGenerator (o : AnalyzerOptions) (g : Option (Labelled Generator)) : AnalyzerOptions :=
  { o with generator := g }

namespace Analyzer

def withGenerator (a : Analyzer) (g : Option Generator) (fingerprint : String) : Analyzer :=
  { a with generator := g, fingerprint }

theorem withGenerator_limit (a : Analyzer) (g : Option Generator) (fingerprint : String) :
    (a.withGenerator g fingerprint).limit = a.limit := rfl

theorem withGenerator_sniffer (a : Analyzer) (g : Option Generator) (fingerprint : String) :
    (a.withGenerator g fingerprint).sniffer = a.sniffer := rfl

theorem withGenerator_decoder (a : Analyzer) (g : Option Generator) (fingerprint : String) :
    (a.withGenerator g fingerprint).decoder = a.decoder := rfl

structure Describes (a : Analyzer) (code : Bytes) (r : Analysis) (e : Explained) : Prop where
  language : e.language = r.language
  summary : e.summary = r.summary
  text : ∃ decoded, a.decoder code = .ok decoded ∧ e.text = decoded.text
  inventory : ∃ p, a.cataloguer p e.text (Line.scan p e.text) = .ok e.inventory

variable {a : Analyzer} {code : Bytes} {filename : String}

theorem describes_outcome {decoded : Decoded} {found : Identification} {inventory : Inventory}
    (hdecoded : a.decoder code = .ok decoded)
    (hinventory : a.cataloguer found.profile decoded.text (Line.scan found.profile decoded.text) = .ok inventory)
    (x : Explanation) : Describes a code (a.outcome decoded found inventory x) (explained decoded found inventory) :=
  ⟨rfl, rfl, ⟨decoded, hdecoded, rfl⟩, ⟨found.profile, hinventory⟩⟩

theorem analyzeText_withGenerator (a : Analyzer) (filename : String) (decoded : Decoded) :
    (∃ e, ∀ g fingerprint, (a.withGenerator g fingerprint).analyzeText .live filename decoded = .error e) ∨
      ∃ found inventory,
        a.cataloguer found.profile decoded.text (Line.scan found.profile decoded.text) = .ok inventory ∧
        ∀ g fingerprint x, Explanation.explain g a.explain .live (explained decoded found inventory) = .ok x →
          (a.withGenerator g fingerprint).analyzeText .live filename decoded =
            .ok (a.outcome decoded found inventory x) := by
  cases hfound : identify a.classifier a.language .live decoded.text filename with
  | error e => exact .inl ⟨.ofIdentify e, fun g f => by simp only [analyzeText, withGenerator, hfound]⟩
  | ok found =>
      cases hinventory : a.cataloguer found.profile decoded.text (Line.scan found.profile decoded.text) with
      | error m =>
          refine .inl ⟨.failed (.crash m), fun g f => ?_⟩
          simp only [analyzeText, withGenerator, hfound, hinventory, Context.ended?_live]
      | ok inventory =>
          refine .inr ⟨found, inventory, hinventory, fun g f x hx => ?_⟩
          simp only [analyzeText, withGenerator, hfound, hinventory, hx, Context.ended?_live]
          rfl

/-- How an analysis goes, whatever the generator: it fails, or the content is binary, or there is something to
explain. -/
theorem analyze_withGenerator (a : Analyzer) (code : Bytes) (filename : String) :
    (∃ e, ∀ g fingerprint, (a.withGenerator g fingerprint).analyze .live code filename = .error e) ∨
      (a.sniffer code = .ok true ∧
        ∀ g fingerprint, (a.withGenerator g fingerprint).analyze .live code filename = .ok (.ofBinary code)) ∨
      (a.sniffer code = .ok false ∧ ∃ r e, Describes a code r e ∧
        ∀ g fingerprint x, Explanation.explain g a.explain .live e = .ok x →
          (a.withGenerator g fingerprint).analyze .live code filename =
            .ok { r with explanation := x.text, degraded := x.degraded }) := by
  by_cases hblank : code.isBlank
  · exact .inl ⟨.empty, fun g f => by rw [analyze, if_pos hblank]⟩
  by_cases hlimit : a.limit < code.length
  · refine .inl ⟨.tooLarge code.length a.limit, fun g f => ?_⟩
    rw [analyze, if_neg hblank, if_pos (show (a.withGenerator g f).limit < code.length from hlimit)]
    rfl
  simp only [analyze, if_neg hblank, withGenerator_limit, hlimit, withGenerator_sniffer, withGenerator_decoder,
    Context.ended?_live, if_false]
  cases hsniffed : a.sniffer code with
  | error m => exact .inl ⟨.failed (.crash m), fun g f => rfl⟩
  | ok binary =>
  cases binary with
  | true => exact .inr (.inl ⟨rfl, fun g f => rfl⟩)
  | false =>
  cases hdecoded : a.decoder code with
  | error fault => exact .inl ⟨.failed fault, fun g f => rfl⟩
  | ok decoded =>
      obtain ⟨e, herror⟩ | ⟨found, inventory, hinventory, hok⟩ := analyzeText_withGenerator a filename decoded
      · exact .inl ⟨e, herror⟩
      · exact .inr (.inr ⟨rfl, a.outcome decoded found inventory (Explanation.plain []), explained decoded found inventory,
          describes_outcome hdecoded hinventory _, hok⟩)

theorem ofOptions_withGenerator {o : AnalyzerOptions} {g₁ : Option (Labelled Generator)} {a₁ : Analyzer}
    (h : ofOptions (o.withGenerator g₁) = .ok a₁) (g₂ : Option (Labelled Generator)) :
    ∃ fingerprint, ofOptions (o.withGenerator g₂) = .ok (a₁.withGenerator (g₂.map (·.run)) fingerprint) := by
  have hlimit : ¬o.maxInputBytes < 0 := by
    intro hneg
    rw [ofOptions, if_pos (show (o.withGenerator g₁).maxInputBytes < 0 from hneg)] at h
    cases h
  obtain ⟨c, hc, rfl⟩ := ofOptions_ok h
  have hc₂ : classifierOf (o.withGenerator g₂) = .ok c := hc
  refine ⟨Fingerprint.ofParts (settings (o.withGenerator g₂) c.label), ?_⟩
  rw [ofOptions, if_neg (show ¬(o.withGenerator g₂).maxInputBytes < 0 from hlimit), hc₂]
  rfl

/-- Generators decide about prose alone. With any two of them a request comes to the same error, or to the same notice
about binary content, or to results that differ in their explanations at most. -/
theorem generator_addsProse {o : AnalyzerOptions} {g₁ g₂ : Option (Labelled Generator)} {a₁ : Analyzer}
    (h₁ : ofOptions (o.withGenerator g₁) = .ok a₁) (hg₁ : ∀ g ∈ g₁, g.run.LeavesAlone)
    (hg₂ : ∀ g ∈ g₂, g.run.LeavesAlone) (code : Bytes) (filename : String) :
    ∃ a₂, ofOptions (o.withGenerator g₂) = .ok a₂ ∧
      ((∃ e, a₁.analyze .live code filename = .error e ∧ a₂.analyze .live code filename = .error e) ∨
        (a₁.sniffer code = .ok true ∧ a₁.analyze .live code filename = .ok (.ofBinary code) ∧
          a₂.analyze .live code filename = .ok (.ofBinary code)) ∨
        (a₁.sniffer code = .ok false ∧ ∃ r₁ r₂ e, a₁.analyze .live code filename = .ok r₁ ∧
          a₂.analyze .live code filename = .ok r₂ ∧ r₁.withoutProse = r₂.withoutProse ∧ Describes a₁ code r₁ e ∧
          Explanation.Elaborates (Explanation.skeletonOf e) (g₁.map fun g => Explanation.ask g.run o.explain e)
            r₁.explanation r₁.degraded ∧
          Explanation.Elaborates (Explanation.skeletonOf e) (g₂.map fun g => Explanation.ask g.run o.explain e)
            r₂.explanation r₂.degraded)) := by
  obtain ⟨f, hf⟩ := ofOptions_withGenerator h₁ g₂
  obtain ⟨hsame, hexplain⟩ : a₁.withGenerator (g₁.map (·.run)) a₁.fingerprint = a₁ ∧ a₁.explain = o.explain := by
    obtain ⟨c, -, rfl⟩ := ofOptions_ok h₁
    exact ⟨rfl, rfl⟩
  have hleaves : ∀ {g : Option (Labelled Generator)}, (∀ x ∈ g, x.run.LeavesAlone) →
      ∀ x ∈ g.map (·.run), x.LeavesAlone := by
    intro g hg x hx
    obtain ⟨y, hy, rfl⟩ := Option.map_eq_some_iff.mp hx
    exact hg y hy
  refine ⟨_, hf, ?_⟩
  obtain ⟨e, herror⟩ | ⟨hbinary, hnotice⟩ | ⟨htext, r, e, hdescribes, hok⟩ := analyze_withGenerator a₁ code filename
  · exact .inl ⟨e, hsame ▸ herror (g₁.map (·.run)) a₁.fingerprint, herror _ _⟩
  · exact .inr (.inl ⟨hbinary, hsame ▸ hnotice (g₁.map (·.run)) a₁.fingerprint, hnotice _ _⟩)
  · obtain ⟨x₁, hx₁, helaborates₁⟩ := Explanation.exists_explanation (hleaves hg₁) a₁.explain e
    obtain ⟨x₂, hx₂, helaborates₂⟩ := Explanation.exists_explanation (hleaves hg₂) a₁.explain e
    have hr₁ := hok _ a₁.fingerprint x₁ hx₁
    rw [hsame] at hr₁
    rw [hexplain, Option.map_map] at helaborates₁ helaborates₂
    have hdescribes₁ : Describes a₁ code { r with explanation := x₁.text, degraded := x₁.degraded } e :=
      ⟨hdescribes.language, hdescribes.summary, hdescribes.text, hdescribes.inventory⟩
    exact .inr (.inr ⟨htext, _, _, e, hr₁, hok _ _ x₂ hx₂, rfl, hdescribes₁, helaborates₁, helaborates₂⟩)

theorem generator_addsProse_stub : ∃ a₁ a₂ r₁ r₂, ofOptions {} = .ok a₁ ∧ ofOptions (answering "one") = .ok a₂ ∧
    a₁.analyze .live binding "a.py" = .ok r₁ ∧ a₂.analyze .live binding "a.py" = .ok r₂ ∧
    r₁.withoutProse = r₂.withoutProse ∧ r₁.degraded ∧ ¬r₂.degraded ∧
    r₂.explanation = r₁.explanation ++ utf8 "\n\none" := by
  have htext : Charset.isBinary binding = false := by decide +kernel
  have hstrip : (utf8 "one").strip = utf8 "one" := by cbv
  have hleaves : ∀ g ∈ (answering "one").generator, g.run.LeavesAlone := by
    rintro g ⟨⟩ language prompt excerpt h
    cases h
  obtain ⟨a₁, ha₁⟩ : ∃ a, ofOptions {} = .ok a := ⟨_, rfl⟩
  obtain ⟨b, s, hb, hs, -⟩ := analyze_answering "one"
  obtain ⟨a₂, ha₂, ⟨e, -, herror⟩ | ⟨hbinary, -⟩ | ⟨-, r₁, r₂, e, hr₁, hr₂, hsame, -, helaborates₁, helaborates₂⟩⟩ :=
    generator_addsProse (show ofOptions (AnalyzerOptions.withGenerator {} none) = .ok a₁ from ha₁) (by simp) hleaves
      binding "a.py"
  · obtain rfl := Except.ok.inj (ha₂.symm.trans hb)
    rw [hs] at herror
    cases herror
  · rw [ofOptions_sniffer ha₁] at hbinary
    exact absurd (htext.symm.trans (Except.ok.inj hbinary)) (by decide)
  · refine ⟨a₁, a₂, r₁, r₂, ha₁, ha₂, hr₁, hr₂, hsame, ?_⟩
    generalize r₁.explanation = x₁, r₁.degraded = d₁ at helaborates₁
    generalize r₂.explanation = x₂, r₂.degraded = d₂ at helaborates₂
    cases helaborates₁ with
    | written hresponse => cases hresponse
    | plain =>
        cases helaborates₂ with
        | plain h => exact absurd (h (utf8 "one") rfl) (by rw [hstrip]; decide)
        | written hresponse ht =>
            cases hresponse
            exact ⟨rfl, by simp, by rw [hstrip, List.append_assoc]; rfl⟩

/-- Binary content has no skeleton, and its notice does not count as degraded, though no generator has written
anything. -/
theorem binary_unelaborated : ∃ a r, ofOptions {} = .ok a ∧ a.analyze .live [0] "" = .ok r ∧
    ∀ e, ¬Explanation.Elaborates (Explanation.skeletonOf e) none r.explanation r.degraded := by
  have hbinary : Charset.isBinary [0] = true := by decide +kernel
  have hblank : Bytes.isBlank [0] = false := by cbv
  obtain ⟨a, ha, hlimit, hsniffer⟩ : ∃ a, ofOptions {} = .ok a ∧ a.limit = defaultLimit ∧
      ∀ content, a.sniffer content = .ok (Charset.isBinary content) := ⟨_, rfl, rfl, fun _ => rfl⟩
  refine ⟨a, .ofBinary [0], ha, ?_, ?_⟩
  · rw [analyze, hlimit]
    simp only [hblank, hsniffer, hbinary, Context.ended?_live, Bool.false_eq_true, if_false]
    rfl
  · intro e h
    generalize hx : (Analysis.ofBinary [0]).explanation = x, hd : (Analysis.ofBinary [0]).degraded = d at h
    cases h with
    | plain => cases hd
    | written hresponse => cases hresponse

end Analyzer

end SourceSurvey
