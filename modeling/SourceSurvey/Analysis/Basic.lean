import SourceSurvey.Annotation
import SourceSurvey.Charset.Decode
import SourceSurvey.Explanation.Basic
import SourceSurvey.Fingerprint
import SourceSurvey.Language.Identification
import SourceSurvey.Text.Quoted

namespace SourceSurvey

structure Labelled (α : Type) where
  label : String
  run : α

inductive Cause
  | emptyInput
  | inputTooLarge
  | analysisFailed
  | context (e : Ending)
  | classifierUnavailable
  | generatorUnavailable
  | generatorTimeout
  deriving Repr, DecidableEq

/-- Why a step of an analysis did not come to its end. The error of a collaborator may itself wrap any
of those that are told apart. -/
inductive Fault
  | failure (message : String) (wraps : List Cause := [])
  | crash (message : String)
  deriving Repr, DecidableEq

def Fault.wraps : Fault → List Cause
  | failure _ wraps => wraps
  | crash _ => []

abbrev Sniffer := Bytes → Except String Bool

abbrev Decoder := Bytes → Except Fault Decoded

abbrev Cataloguer := Profile → Bytes → List Line → Except String Inventory

inductive ClassifierChoice
  | named (kind : String)
  | given (c : Labelled Classifier)

structure AnalyzerOptions where
  maxInputBytes : Int := 0
  defaultEncoding : String := ""
  classifier : ClassifierChoice := .named ""
  language : IdentifyConfig := {}
  explain : ExplainConfig := {}
  includeDetails : Bool := false
  generator : Option (Labelled Generator) := none
  sniffer : Option Sniffer := none
  decoder : Option Decoder := none
  cataloguer : Option Cataloguer := none

inductive AnalyzerError
  | negativeLimit
  | unknownClassifier (kind : String)
  deriving Repr, DecidableEq

def invalidOptions : String := "invalid configuration options provided: "

def AnalyzerError.message : AnalyzerError → String
  | negativeLimit => invalidOptions ++ "maxInputBytes cannot be negative"
  | unknownClassifier kind => invalidOptions ++ "unknown classifier " ++ quoted kind

inductive AnalysisError
  | empty
  | tooLarge (size limit : Nat)
  | ended (e : Ending)
  | failed (f : Fault)
  deriving Repr, DecidableEq

def AnalysisError.message : AnalysisError → String
  | empty => IdentifyError.empty.message
  | tooLarge size limit => s!"input exceeds size limit: {size} bytes, limit is {limit}"
  | ended e => e.message
  | failed (.failure m _) => "analysis failed: decode input: " ++ m
  | failed (.crash m) => "analysis failed: panic: " ++ m

def AnalysisError.causes : AnalysisError → List Cause
  | empty => [.emptyInput]
  | tooLarge .. => [.inputTooLarge]
  | ended e => [.context e]
  | failed f => .analysisFailed :: f.wraps

def AnalysisError.ofIdentify : IdentifyError → AnalysisError
  | .empty => empty
  | .ended e => ended e

structure Analysis where
  language : String
  explanation : Bytes
  summary : Summary := {}
  documented : Bytes
  inventory : Option Inventory := none
  confidence : Rat := 0
  source : IdentificationSource := .fallback
  encoding : String := ""
  degraded : Bool := false
  unsupported : Bool := false
  deriving Repr, DecidableEq

namespace Analysis

def unsupportedNotice : String :=
  "The input appears to be binary or otherwise unsupported content and was not analyzed."

def ofBinary (content : Bytes) : Analysis :=
  { language := Profile.unknown, explanation := utf8 unsupportedNotice, documented := content, unsupported := true }

end Analysis

structure Analyzer where
  limit : Nat
  includeDetails : Bool
  classifier : Classifier
  language : IdentifyConfig
  explain : ExplainConfig
  generator : Option Generator
  sniffer : Sniffer
  decoder : Decoder
  cataloguer : Cataloguer
  /-- Stands for every option that can change a result. -/
  fingerprint : String

namespace Analyzer

def defaultLimit : Nat := 1000000

def classifierOf (o : AnalyzerOptions) : Except AnalyzerError (Labelled Classifier) :=
  match o.classifier with
  | .given c => .ok c
  | .named kind =>
    if kind = "" || kind = "enry" then
      .ok ⟨"evidence", Classifier.ofEvidence o.language.sampleLines o.language.topK⟩
    else if kind = "heuristic" then
      .ok ⟨"heuristic", Classifier.ofHeuristic Classifier.defaultSampleLines Classifier.defaultTopK⟩
    else .error (.unknownClassifier kind)

def limitOf (o : AnalyzerOptions) : Nat := if o.maxInputBytes = 0 then defaultLimit else o.maxInputBytes.toNat

/-- The options that can change a result, one part for each group. -/
def settings (o : AnalyzerOptions) (classifier : String) : List Bytes :=
  let l := o.language
  [classifier, (o.generator.map (·.label)).getD "",
    s!"{l.topK} {l.acceptance} {l.floor} {l.minLength} {l.sampleLines} {l.timeout}",
    s!"{o.explain.excerptLimit} {o.explain.timeout}",
    s!"{limitOf o}/{o.includeDetails}/{o.defaultEncoding}"].map utf8

def ofOptions (o : AnalyzerOptions) : Except AnalyzerError Analyzer :=
  if o.maxInputBytes < 0 then .error .negativeLimit
  else
    match classifierOf o with
    | .error e => .error e
    | .ok c => .ok {
        limit := limitOf o
        includeDetails := o.includeDetails
        classifier := c.run
        language := o.language
        explain := o.explain
        generator := o.generator.map (·.run)
        sniffer := o.sniffer.getD fun content => .ok (Charset.isBinary content)
        decoder := o.decoder.getD fun content => .ok (Charset.decode o.defaultEncoding content)
        cataloguer := o.cataloguer.getD fun p text lines => .ok (Inventory.extract p text lines)
        fingerprint := Fingerprint.ofParts (settings o c.label) }

variable (a : Analyzer)

def explained (decoded : Decoded) (found : Identification) (inventory : Inventory) : Explained :=
  { language := found.language, text := decoded.text
    summary := Summary.ofLines (Line.scan found.profile decoded.text), inventory }

def outcome (decoded : Decoded) (found : Identification) (inventory : Inventory) (explanation : Explanation) :
    Analysis :=
  let lines := Line.scan found.profile decoded.text
  let documented := Annotation.ofLines found.profile decoded.text lines
  { language := found.language
    explanation := explanation.text
    summary := Summary.ofLines lines
    documented := if decoded.bom then Charset.bom ++ documented else documented
    inventory := if a.includeDetails && inventory ≠ {} then some inventory else none
    confidence := found.confidence
    source := found.source
    encoding := decoded.encoding
    degraded := explanation.degraded }

def analyzeText (context : Context) (filename : String) (decoded : Decoded) : Except AnalysisError Analysis :=
  match identify a.classifier a.language context decoded.text filename with
  | .error e => .error (.ofIdentify e)
  | .ok found =>
    match context.ended? .identified with
    | some e => .error (.ended e)
    | none =>
      match a.cataloguer found.profile decoded.text (Line.scan found.profile decoded.text) with
      | .error m => .error (.failed (.crash m))
      | .ok inventory =>
        match context.ended? .catalogued with
        | some e => .error (.ended e)
        | none =>
          match Explanation.explain a.generator a.explain context (explained decoded found inventory) with
          | .error e => .error (.ended e)
          | .ok explanation =>
            match context.ended? .explained with
            | some e => .error (.ended e)
            | none => .ok (a.outcome decoded found inventory explanation)

def analyze (context : Context) (code : Bytes) (filename : String) : Except AnalysisError Analysis :=
  if code.isBlank then .error .empty
  else if a.limit < code.length then .error (.tooLarge code.length a.limit)
  else
    match context.ended? .begun with
    | some e => .error (.ended e)
    | none =>
      match a.sniffer code with
      | .error m => .error (.failed (.crash m))
      | .ok true => .ok (.ofBinary code)
      | .ok false =>
        match a.decoder code with
        | .error f => .error (.failed f)
        | .ok decoded => a.analyzeText context filename decoded

end Analyzer

end SourceSurvey
