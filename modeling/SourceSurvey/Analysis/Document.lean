import SourceSurvey.Analysis.Basic
import SourceSurvey.Datum.Json
import SourceSurvey.Datum.Yaml.Parser

namespace SourceSurvey

inductive DocumentFormat
  | json
  | yaml
  deriving Repr, DecidableEq

namespace DocumentFormat

def name : DocumentFormat → String
  | json => "json"
  | yaml => "yaml"

def ofName? (s : String) : Option DocumentFormat :=
  if s = "json" || s = "" then some json else if s = "yaml" then some yaml else none

def unsupportedMessage (s : String) : String := invalidOptions ++ "unsupported output format " ++ quoted s

end DocumentFormat

namespace Datum

variable {α : Type}

def readOr (empty : α) (read : Datum → Option α) : Datum → Option α
  | .null => some empty
  | d => read d

def readField (d : Datum) (name : String) (empty : α) (read : Datum → Option α) : Option α :=
  match d.get? name with
  | none => some empty
  | some v => v.readOr empty read

def readItems (empty : α) (read : Datum → Option α) (d : Datum) : Option (List α) :=
  d.list?.bind (·.mapM (readOr empty read))

end Datum

namespace Summary

def toDatum (s : Summary) : Datum :=
  .ofFields ([("total_lines", s.totalLines), ("empty_lines", s.emptyLines), ("comment_lines", s.commentLines),
    ("import_statements", s.imports), ("function_definitions", s.functions), ("class_definitions", s.classes),
    ("variable_declarations", s.bindings), ("loops", s.loops), ("conditionals", s.conditionals)].map
      fun (k, n) => (k, .ofInt n))

def ofDatum? (d : Datum) : Option Summary := do
  let _ ← d.fields?
  let count (name : String) : Option Int := d.readField name 0 Datum.int?
  return ⟨← count "total_lines", ← count "empty_lines", ← count "comment_lines", ← count "import_statements",
    ← count "function_definitions", ← count "class_definitions", ← count "variable_declarations",
    ← count "loops", ← count "conditionals"⟩

end Summary

namespace Inventory

def declarationDatum (d : Declaration) : Datum :=
  .ofFields [("name", .text d.name), ("kind", .text d.kind), ("line", .ofInt d.line)]

def listField (name : String) (items : List Datum) : List (String × Datum) :=
  if items.isEmpty then [] else [(name, .list items)]

def learningDatum (m : Learning) : Datum :=
  .ofFields (listField "frameworks" (m.frameworks.map .ofString) ++ listField "operations" (m.operations.map .ofString))

def toDatum (r : Inventory) : Datum :=
  .ofFields (listField "functions" (r.functions.map declarationDatum) ++
    listField "classes" (r.classes.map declarationDatum) ++ listField "imports" (r.imports.map .text) ++
    (if r.doc.isEmpty then [] else [("doc_summary", .text r.doc)]) ++
    match r.learning with
    | none => []
    | some m => [("machine_learning", learningDatum m)])

def declarationOf? (d : Datum) : Option Declaration := do
  let _ ← d.fields?
  return ⟨← d.readField "name" [] Datum.text?, ← d.readField "kind" [] Datum.text?,
    ← d.readField "line" 0 Datum.int?⟩

def learningOf? (d : Datum) : Option Learning := do
  let _ ← d.fields?
  let names := Datum.readItems "" fun v => v.text?.map Utf8.toString
  return ⟨← d.readField "frameworks" [] names, ← d.readField "operations" [] names⟩

def ofDatum? (d : Datum) : Option Inventory := do
  let _ ← d.fields?
  let declarations := Datum.readItems ⟨[], [], 0⟩ declarationOf?
  return ⟨← d.readField "functions" [] declarations, ← d.readField "classes" [] declarations,
    ← d.readField "imports" [] (Datum.readItems [] Datum.text?), ← d.readField "doc_summary" [] Datum.text?,
    ← d.readField "machine_learning" none fun v => (learningOf? v).map some⟩

end Inventory

namespace Analysis

def fields (a : Analysis) : List (String × Datum) :=
  [("language", .ofString a.language), ("explanation", .text a.explanation), ("structure", a.summary.toDatum),
    ("documented_code", .text a.documented)] ++
    match a.inventory with
    | some r => [("details", r.toDatum)]
    | none => []

end Analysis

def DocumentFormat.encode (format : DocumentFormat) (fields : List (String × Datum)) : Bytes :=
  match format with
  | .json => Json.render .indented (.ofFields fields) ++ [10]
  | .yaml => Yaml.render (fields.map fun (k, v) => (utf8 k, v))

def DocumentFormat.decode? (format : DocumentFormat) (s : Bytes) : Option Datum :=
  match format with
  | .json => Json.parse? s
  | .yaml => Yaml.parse? s

structure WrittenAnalysis where
  language : Bytes
  explanation : Bytes
  summary : Summary
  documented : Bytes
  inventory : Option Inventory
  deriving Repr, DecidableEq

def WrittenAnalysis.ofDatum? (d : Datum) : Option WrittenAnalysis := do
  let _ ← d.fields?
  return ⟨← d.readField "language" [] Datum.text?, ← d.readField "explanation" [] Datum.text?,
    ← d.readField "structure" {} Summary.ofDatum?, ← d.readField "documented_code" [] Datum.text?,
    ← d.readField "details" none fun v => (Inventory.ofDatum? v).map some⟩

def DocumentFormat.decodeAnalysis? (format : DocumentFormat) (s : Bytes) : Option WrittenAnalysis :=
  (format.decode? s).bind WrittenAnalysis.ofDatum?

def Analysis.written (a : Analysis) : WrittenAnalysis :=
  ⟨utf8 a.language, a.explanation, a.summary, a.documented, a.inventory⟩

/-- Whether a document, read back, gives the analysis it was written from, its inventory apart. -/
def Analysis.readsBack (a : Analysis) (format : DocumentFormat) : Bool :=
  (format.decodeAnalysis? (format.encode a.fields)).map ({ · with inventory := none }) =
    some { a.written with inventory := none }

end SourceSurvey
