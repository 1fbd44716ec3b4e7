import SourceSurvey.Proofs.Inventory.Scanned

namespace SourceSurvey.Golang.Outline

def functions (o : Outline) : List Func :=
  o.decls.filterMap fun
    | .function f => some f
    | _ => none

def types (o : Outline) : List TypeDecl :=
  o.decls.flatMap fun
    | .types specs => specs
    | _ => []

end SourceSurvey.Golang.Outline

namespace SourceSurvey.Inventory

open Golang

namespace Draft

variable {α β : Type}

theorem foldl_push (f : α → β) (as : List α) (bs : List β) :
    as.foldl (fun begun a => push begun (f a)) (some bs) = some (bs ++ as.map f) := by
  induction as generalizing bs with
  | nil => simp
  | cons a as ih => rw [List.foldl_cons, push, Option.getD_some, ih, List.map_cons, List.append_assoc, List.singleton_append]

/-- A list that is not begun stays so if there is nothing to list. -/
theorem foldl_push_none (f : α → β) (as : List α) :
    as.foldl (fun begun a => push begun (f a)) none = if as = [] then none else some (as.map f) := by
  cases as with
  | nil => rfl
  | cons a as =>
      rw [List.foldl_cons, push, foldl_push, if_neg (List.cons_ne_nil a as)]
      rfl

theorem foldl_declare (decls : List Decl) (functions classes : List Declaration) (rest : Draft) :
    decls.foldl declare { rest with functions := some functions, classes := some classes } =
      { rest with
        functions := some (functions ++ (Outline.functions { decls }).map .ofFunc)
        classes := some (classes ++ (Outline.types { decls }).map .ofType) } := by
  induction decls generalizing functions classes with
  | nil => simp [Outline.functions, Outline.types]
  | cons d decls ih =>
      rw [List.foldl_cons]
      cases d with
      | imports paths | values => exact ih functions classes
      | function f =>
          refine (ih (functions ++ [.ofFunc f]) classes).trans ?_
          simp [Outline.functions, Outline.types]
      | types specs =>
          have hclasses := foldl_push Declaration.ofType specs classes
          rw [declare, hclasses]
          refine (ih functions (classes ++ specs.map .ofType)).trans ?_
          simp [Outline.functions, Outline.types]

theorem ofOutline_eq (o : Outline) : ofOutline o =
    { functions := some (o.functions.map .ofFunc)
      classes := some (o.types.map .ofType)
      imports := if o.imports = [] then none else some (o.imports.map unquote)
      doc := firstSentence o.doc } := by
  have hdecls := foldl_declare o.decls [] [] {}
  simp only [ofOutline, hdecls, foldl_push_none]
  rfl

end Draft

variable {text : Bytes} {o : Outline}

theorem importsOf_eq_nil {lines : List Line} : importsOf lines = [] ↔ ∀ l ∈ lines, ¬l.constructs.isImport := by
  rw [importsOf, List.map_eq_nil_iff, List.filter_eq_nil_iff]

theorem extract_of_outline (h : outline? text = some o) (lines : List Line) :
    (extract .go text lines).functions = o.functions.map .ofFunc ∧
      (extract .go text lines).classes = o.types.map .ofType ∧
      (extract .go text lines).imports = if o.imports = [] then importsOf lines else o.imports.map unquote := by
  have hgo : Profile.go.hasConstructs = true := by decide
  have hid : Profile.go.id = "Go" := rfl
  simp only [extract, hgo, hid, h, Draft.ofOutline_eq, Bool.not_true, Bool.false_eq_true, if_true, if_false,
    Option.map_some, Option.getD_some, Option.isNone_some, Bool.and_self]
  refine ⟨trivial, trivial, ?_⟩
  split <;> rfl

/-- The functions and classes of a source file are exactly those of its outline, in their order and with
no regard to the scanned lines. So are its imports, unless there are none and some line looks like one. -/
theorem extract_outlined (h : outline? text = some o) (lines : List Line) :
    (extract .go text lines).functions = o.functions.map .ofFunc ∧
      (extract .go text lines).classes = o.types.map .ofType ∧
      ((extract .go text lines).imports = o.imports.map unquote ↔
        (o.imports = [] → ∀ l ∈ lines, ¬l.constructs.isImport)) := by
  obtain ⟨hfunctions, hclasses, himports⟩ := extract_of_outline h lines
  refine ⟨hfunctions, hclasses, ?_⟩
  rw [himports]
  split
  · rename_i hnone
    simp only [hnone, List.map_nil, importsOf_eq_nil, true_implies]
  · rename_i hsome
    simp [hsome]

def methodFile : Bytes := utf8 "package p\nimport \"a\"\nfunc (T) m()\ntype T int\n"

def methodOutline : Outline :=
  { decls := [.imports ["\"a\""], .function ⟨"m", true, 3⟩, .types [⟨"T", .other, 4⟩]] }

theorem extract_outlined_methodFile :
    outline? methodFile = some methodOutline ∧
      ∀ lines : List Line, (extract .go methodFile lines).functions = [⟨utf8 "m", utf8 "method", 3⟩] ∧
        (extract .go methodFile lines).classes = [⟨utf8 "T", utf8 "type", 4⟩] ∧
        (extract .go methodFile lines).imports = [utf8 "a"] := by
  have houtline : outline? methodFile = some methodOutline := by decide +kernel
  refine ⟨houtline, fun lines => ?_⟩
  obtain ⟨hfunctions, hclasses, himports⟩ := extract_outlined houtline lines
  have hsome : methodOutline.imports ≠ [] := by decide
  have hpath : methodOutline.imports.map unquote = [utf8 "a"] := by decide
  exact ⟨hfunctions, hclasses, (himports.mpr fun h => absurd h hsome).trans hpath⟩

def emptyGroup : Bytes := utf8 "package p\nimport ()\n"

/-- A file that imports nothing may still be said to import its own line. -/
theorem extract_emptyGroup : ∃ o, outline? emptyGroup = some o ∧ o.imports = [] ∧
    (extract .go emptyGroup (Line.scan .go emptyGroup)).imports = [utf8 "import ()"] := by
  have houtline : outline? emptyGroup = some { decls := [.imports []] } := by decide +kernel
  have hscan : Line.scan .go emptyGroup =
      [⟨1, utf8 "package p", false, .code, .clean, utf8 "package p", {}⟩,
        ⟨2, utf8 "import ()", false, .code, .clean, utf8 "import ()", { isImport := true }⟩] := by cbv
  have hstrip : (utf8 "import ()").strip = utf8 "import ()" := by cbv
  have hnone : Outline.imports { decls := [.imports []] } = [] := rfl
  refine ⟨_, houtline, hnone, ?_⟩
  rw [(extract_of_outline houtline _).2.2, if_pos hnone, hscan]
  simp [importsOf, hstrip]

end SourceSurvey.Inventory
