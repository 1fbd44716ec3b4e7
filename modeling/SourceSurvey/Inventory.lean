import SourceSurvey.Summary
import SourceSurvey.Golang.Outline

namespace SourceSurvey

structure Declaration where
  name : Bytes
  kind : Bytes
  line : Int
  deriving Repr, DecidableEq

namespace Declaration

def ofFunc (f : Golang.Func) : Declaration := ⟨utf8 f.name, utf8 (if f.isMethod then "method" else "function"), f.line⟩

def ofType (t : Golang.TypeDecl) : Declaration := ⟨utf8 t.name, utf8 (kindName t.kind), t.line⟩
where
  kindName : Golang.TypeKind → String
    | .struct => "struct"
    | .interface => "interface"
    | .other => "type"

end Declaration

structure Learning where
  frameworks : List String := []
  operations : List String := []
  deriving Repr, DecidableEq

structure Inventory where
  functions : List Declaration := []
  classes : List Declaration := []
  imports : List Bytes := []
  doc : Bytes := []
  learning : Option Learning := none
  deriving Repr, DecidableEq

namespace Learning

open Pattern

def between (p : Pattern) : Pattern := edge ++ p ++ edge

def frameworkSigns : List (String × Pattern) := [
  ("tensorflow", between (oneOf ["tensorflow", "tf", "keras"])),
  ("pytorch", between (oneOf ["torch", "nn.Module"])),
  ("scikit-learn",
    between (anyOf [lit "sklearn", lit "LinearRegression", lit "RandomForest" ++ many .word])),
  ("xgboost", between (oneOf ["xgboost", "XGBClassifier", "XGBRegressor"])),
  ("pandas", between (oneOf ["pandas", "pd.DataFrame"])),
  ("numpy", between (oneOf ["numpy", "np.array"]))]

def operationSigns : List (String × Pattern) := [
  ("training", between (oneOf ["fit", "train", "optimizer", "loss", "train_test_split"])),
  ("prediction", between (oneOf ["predict", "inference", "evaluate", "score"])),
  ("preprocessing", between (oneOf ["preprocessing", "standardization", "normalize", "fit_transform"])),
  ("evaluation",
    between (oneOf ["accuracy", "precision", "recall", "f1", "roc_auc", "confusion_matrix"]))]

def found (signs : List (String × Pattern)) (text : Bytes) : List String :=
  (signs.filter fun (_, p) => p.occursIn text).map (·.1)

/-- A framework, or operations of at least two families, show machine learning. -/
def detect? (text : Bytes) : Option Learning :=
  let frameworks := found frameworkSigns text
  let operations := found operationSigns text
  if frameworks.isEmpty && operations.length < 2 then none else some ⟨frameworks, operations⟩

end Learning

namespace Inventory

def firstSentence (s : Bytes) : Bytes :=
  let flat := Bytes.join [32] s.words
  match flat.cut? (utf8 ". ") with
  | some (before, _) => before ++ utf8 "."
  | none => flat

def fences : List Bytes := ["\"\"\"", "'''"].map utf8

def beforeFence? : (seen : Bytes) → Bytes → Option Bytes
  | _, [] => none
  | seen, b :: s =>
    if fences.any fun f => Bytes.startsWith (b :: s) f then some seen.reverse else beforeFence? (b :: seen) s

def moduleDoc (text : Bytes) : Bytes :=
  let blank (b : UInt8) := b = 32 || b = 9 || b = 10 || b = 12 || b = 13
  let body := (text.dropWhile blank)
  match (fences.findSome? fun f => Bytes.dropStart? f body).bind (beforeFence? []) with
  | some doc => firstSentence doc
  | none => []

def functionsOf (lines : List Line) : List Declaration :=
  ((Line.declarations lines).filter (·.constructs.isFunction)).map fun l =>
    ⟨l.constructs.name, utf8 "function", l.number⟩

def classesOf (lines : List Line) : List Declaration :=
  ((Line.declarations lines).filter (·.constructs.isClass)).map fun l =>
    ⟨l.constructs.name, if l.constructs.keyword.isEmpty then utf8 "class" else l.constructs.keyword, l.number⟩

def importsOf (lines : List Line) : List Bytes :=
  (lines.filter (·.constructs.isImport)).map (·.text.strip)

/-- An inventory in the making, in which a list may not have been begun yet. -/
structure Draft where
  functions : Option (List Declaration) := none
  classes : Option (List Declaration) := none
  imports : Option (List Bytes) := none
  doc : Bytes := []

namespace Draft

def push {α : Type} (begun : Option (List α)) (a : α) : Option (List α) := some (begun.getD [] ++ [a])

def declare (d : Draft) : Golang.Decl → Draft
  | .function f => { d with functions := push d.functions (.ofFunc f) }
  | .types specs => { d with classes := specs.foldl (fun classes t => push classes (.ofType t)) d.classes }
  | .imports _ | .values => d

def ofOutline (o : Golang.Outline) : Draft :=
  let d := o.decls.foldl declare { functions := some [], classes := some [] }
  { d with
    imports := o.imports.foldl (fun imports path => push imports (Golang.unquote path)) d.imports
    doc := firstSentence o.doc }

end Draft

/-- The inventory of a text and its scanned lines, which supply every list not begun before. -/
def extract (p : Profile) (text : Bytes) (lines : List Line) : Inventory :=
  if !p.hasConstructs then {}
  else
    let outline := if p.id = "Go" then Golang.outline? text else none
    let draft := (outline.map Draft.ofOutline).getD {}
    let isBare := draft.functions.isNone && draft.classes.isNone
    { functions := if isBare then functionsOf lines else draft.functions.getD []
      classes := if isBare then classesOf lines else draft.classes.getD []
      imports := draft.imports.getD (importsOf lines)
      doc := if draft.doc.isEmpty && p.id = "Python" then moduleDoc text else draft.doc
      learning := Learning.detect? text }

def names (ds : List Declaration) : List Bytes := (ds.map (·.name)).filter (!·.isEmpty)

end Inventory

end SourceSurvey
