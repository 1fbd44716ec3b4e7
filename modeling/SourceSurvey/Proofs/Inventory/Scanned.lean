import Mathlib
import SourceSurvey.Inventory
import SourceSurvey.Proofs.Line.Partition

namespace SourceSurvey.Line

variable {p : Profile} {text : Bytes}

theorem numbers_readAll (number : Nat) (state : ScanState) (raws : List Bytes) :
    (readAll p number state raws).map (·.number) = List.range' number raws.length := by
  induction raws generalizing number state with
  | nil => rfl
  | cons raw raws ih =>
      rw [readAll_cons, List.map_cons, ih, List.length_cons, List.range'_succ]
      rfl

theorem numbers_scan (p : Profile) (text : Bytes) :
    (scan p text).map (·.number) = List.range' 1 (scan p text).length := by
  rw [scan, numbers_readAll, length_readAll]

theorem number_bounds {l : Line} (hl : l ∈ scan p text) : 1 ≤ l.number ∧ l.number ≤ (scan p text).length := by
  have hnumber := List.mem_map_of_mem (f := (·.number)) hl
  rw [numbers_scan, List.mem_range'_1] at hnumber
  omega

theorem numbers_ascend (p : Profile) (text : Bytes) : (scan p text).Pairwise (·.number < ·.number) := by
  have hrange := List.pairwise_lt_range' (s := 1) (n := (scan p text).length)
  rwa [← numbers_scan, List.pairwise_map] at hrange

end SourceSurvey.Line

namespace SourceSurvey.Inventory

open Line

variable {p : Profile} {text : Bytes} {lines : List Line}

def numbersOf (flag : Constructs → Bool) (lines : List Line) : List Int :=
  (lines.filter fun l => flag l.constructs).map fun l => (l.number : Int)

theorem length_numbersOf (flag : Constructs → Bool) (lines : List Line) :
    (numbersOf flag lines).length = lines.countP fun l => flag l.constructs := by
  rw [numbersOf, List.length_map, List.countP_eq_length_filter]

theorem numbersOf_scan (flag : Constructs → Bool) (p : Profile) (text : Bytes) :
    (numbersOf flag (scan p text)).Pairwise (· < ·) ∧
      ∀ n ∈ numbersOf flag (scan p text), 1 ≤ n ∧ n ≤ (Summary.ofText p text).totalLines := by
  constructor
  · rw [numbersOf, List.pairwise_map]
    exact ((numbers_ascend p text).filter _).imp fun h => Int.ofNat_lt.mpr h
  · intro n hn
    obtain ⟨l, hl, rfl⟩ := List.mem_map.mp hn
    obtain ⟨hlow, hhigh⟩ := number_bounds (List.mem_of_mem_filter hl)
    exact ⟨Int.ofNat_le.mpr hlow, Int.ofNat_le.mpr hhigh⟩

theorem filter_declarations (h : ∀ l ∈ lines, l.Classified) {flag : Constructs → Bool}
    (hflag : ∀ l : Line, flag l.constructs → l.isDeclaration) :
    (declarations lines).filter (fun l => flag l.constructs) = lines.filter fun l => flag l.constructs := by
  rw [declarations_eq_filter h, List.filter_filter]
  refine List.filter_congr fun l _ => ?_
  by_cases hset : flag l.constructs
  · simp [hset, hflag l hset]
  · simp [hset]

theorem lines_functionsOf (h : ∀ l ∈ lines, l.Classified) :
    (functionsOf lines).map (·.line) = numbersOf (·.isFunction) lines := by
  rw [functionsOf, List.map_map, numbersOf]
  exact congrArg _ (filter_declarations h fun l hset => by simp [isDeclaration, hset])

theorem lines_classesOf (h : ∀ l ∈ lines, l.Classified) :
    (classesOf lines).map (·.line) = numbersOf (·.isClass) lines := by
  rw [classesOf, List.map_map, numbersOf]
  exact congrArg _ (filter_declarations h fun l hset => by simp [isDeclaration, hset])

theorem extract_of_no_outline (hp : p.hasConstructs) (h : p.id = "Go" → Golang.outline? text = none) (lines : List Line) :
    (extract p text lines).functions = functionsOf lines ∧ (extract p text lines).classes = classesOf lines ∧
      (extract p text lines).imports = importsOf lines := by
  have houtline : (if p.id = "Go" then Golang.outline? text else none) = none := by
    split
    · exact h ‹_›
    · rfl
  simp [extract, hp, houtline]

theorem filter_of_not_hasConstructs (hp : ¬p.hasConstructs) (text : Bytes) {flag : Constructs → Bool}
    (hflag : flag ∈ Constructs.flags) : (scan p text).filter (fun l => flag l.constructs) = [] := by
  rw [← List.length_eq_zero_iff, ← List.countP_eq_length_filter, countP_flag_of_not_hasConstructs hp text hflag]

/-- Where there is no outline, the inventory lists the lines that have the flags. -/
theorem extract_lines (h : p.id = "Go" → Golang.outline? text = none) :
    (extract p text (scan p text)).functions.map (·.line) = numbersOf (·.isFunction) (scan p text) ∧
      (extract p text (scan p text)).classes.map (·.line) = numbersOf (·.isClass) (scan p text) ∧
      (extract p text (scan p text)).imports =
        ((scan p text).filter (·.constructs.isImport)).map fun l => l.text.strip := by
  by_cases hp : p.hasConstructs
  · have hlines : ∀ l ∈ scan p text, l.Classified := fun l hl => classified_of_mem_scan hl
    obtain ⟨hfunctions, hclasses, himports⟩ := extract_of_no_outline hp h (scan p text)
    rw [hfunctions, hclasses, himports, lines_functionsOf hlines, lines_classesOf hlines]
    exact ⟨rfl, rfl, rfl⟩
  · have hfunctions := filter_of_not_hasConstructs hp text Constructs.isFunction_mem
    have hclasses := filter_of_not_hasConstructs hp text Constructs.isClass_mem
    have himports := filter_of_not_hasConstructs hp text Constructs.isImport_mem
    simp [extract, hp, numbersOf, hfunctions, hclasses, himports]

/-- Where there is no outline, an inventory and the summary of the text agree: they count the same, and
every function, class and import that is listed is on a line of its own that has the flag. -/
theorem extract_agrees (p : Profile) (text : Bytes) (h : p.id = "Go" → Golang.outline? text = none) :
    let lines := scan p text
    let found := extract p text lines
    let s := Summary.ofText p text
    (found.functions.length = s.functions ∧ found.classes.length = s.classes ∧ found.imports.length = s.imports) ∧
      found.functions.map (·.line) = (lines.filter (·.constructs.isFunction)).map (fun l => (l.number : Int)) ∧
      found.classes.map (·.line) = (lines.filter (·.constructs.isClass)).map (fun l => (l.number : Int)) ∧
      found.imports = (lines.filter (·.constructs.isImport)).map (·.text.strip) ∧
      ∀ numbers ∈ [found.functions.map (·.line), found.classes.map (·.line)],
        numbers.Pairwise (· < ·) ∧ ∀ n ∈ numbers, 1 ≤ n ∧ n ≤ s.totalLines := by
  intro lines found s
  obtain ⟨hfunctions, hclasses, himports⟩ := extract_lines h
  refine ⟨⟨?_, ?_, ?_⟩, hfunctions, hclasses, himports, ?_⟩
  · rw [← List.length_map (·.line), hfunctions, length_numbersOf]
    rfl
  · rw [← List.length_map (·.line), hclasses, length_numbersOf]
    rfl
  · rw [himports, List.length_map, ← List.countP_eq_length_filter]
    rfl
  · intro numbers hnumbers
    rw [hfunctions, hclasses] at hnumbers
    obtain rfl | rfl : numbers = numbersOf (·.isFunction) lines ∨ numbers = numbersOf (·.isClass) lines := by
      simpa using hnumbers
    · exact numbersOf_scan _ p text
    · exact numbersOf_scan _ p text

def unfinished : Bytes := utf8 "func f() \x7b\nimport \"x\"\n"

theorem extract_agrees_unfinished :
    (Profile.go.id = "Go" → Golang.outline? unfinished = none) ∧
      let found := extract .go unfinished (scan .go unfinished)
      found.functions.map (·.line) = [1] ∧ found.classes = [] ∧ found.imports = [utf8 "import \"x\""] := by
  have houtline : Golang.outline? unfinished = none := by decide +kernel
  obtain ⟨-, hfunctions, hclasses, himports, -⟩ := extract_agrees .go unfinished fun _ => houtline
  have hscan : scan .go unfinished =
      [⟨1, utf8 "func f() \x7b", false, .code, .clean, utf8 "func f() \x7b", { isFunction := true, name := utf8 "f" }⟩,
        ⟨2, utf8 "import \"x\"", false, .code, .clean, utf8 "import \"\"", { isImport := true }⟩] := by cbv
  have hstrip : (utf8 "import \"x\"").strip = utf8 "import \"x\"" := by cbv
  rw [hscan] at hfunctions hclasses himports ⊢
  refine ⟨fun _ => houtline, hfunctions, List.map_eq_nil_iff.mp hclasses, himports.trans ?_⟩
  simp [hstrip]

end SourceSurvey.Inventory
