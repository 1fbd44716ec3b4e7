import Mathlib
import SourceSurvey.Proofs.Annotation.Slots
import SourceSurvey.Profile.Registry

namespace SourceSurvey.Line

open Bytes

variable {p : Profile}

theorem readAll_take (number : Nat) (state : ScanState) (raws : List Bytes) (n : Nat) :
    (readAll p number state raws).take n = readAll p number state (raws.take n) := by
  induction raws generalizing number state n with
  | nil => simp [readAll]
  | cons raw raws ih =>
      cases n with
      | zero => rfl
      | succ n => rw [List.take_succ_cons, readAll_cons, readAll_cons, List.take_succ_cons, ih]

/-- Lines read the same whatever follows them. -/
theorem scan_take {text text' : Bytes} {n : Nat} (h : (split text').take n = (split text).take n) :
    (scan p text').take n = (scan p text).take n := by
  rw [scan, scan, readAll_take, readAll_take, h]

end SourceSurvey.Line

namespace SourceSurvey.Annotation

open Bytes Line

variable {p : Profile} {depth : Int} {opened : Bool} {l decl : Line} {body lines : List Line}

def braceDepth : List Line → Int
  | [] => 0
  | l :: lines => braceBalance l.code + braceDepth lines

@[simp] theorem braceDepth_nil : braceDepth [] = 0 := rfl

@[simp] theorem braceDepth_cons (l : Line) (lines : List Line) :
    braceDepth (l :: lines) = braceBalance l.code + braceDepth lines := rfl

/-- At the end of some lines, below which braces are open to a depth, all that were ever open are closed. -/
structure Closes (depth : Int) (opened : Bool) (lines : List Line) : Prop where
  opens : opened ∨ ∃ first, first <+: lines ∧ first ≠ [] ∧ 0 < depth + braceDepth first
  ends : depth + braceDepth lines ≤ 0

theorem Closes.tail (h : Closes depth opened (l :: lines)) :
    Closes (depth + braceBalance l.code) (opened || 0 < depth + braceBalance l.code) lines := by
  constructor
  · obtain hopened | ⟨first, hfirst, hne, hpositive⟩ := h.opens
    · exact .inl (by simp [hopened])
    obtain ⟨k, first, rfl⟩ := List.exists_cons_of_ne_nil hne
    obtain ⟨rfl, htail⟩ := List.cons_prefix_cons.mp hfirst
    rw [braceDepth_cons, ← Int.add_assoc] at hpositive
    by_cases hempty : first = []
    · exact .inl (by simp_all)
    · exact .inr ⟨first, htail, hempty, hpositive⟩
  · rw [Int.add_assoc, ← braceDepth_cons]
    exact h.ends

theorem bracedBody_append (h : Closes depth opened body) (rest : List Line) :
    bracedBody depth opened (body ++ rest) = bracedBody depth opened body := by
  induction body generalizing depth opened with
  | nil =>
      obtain hopened | ⟨first, hfirst, hne, -⟩ := h.opens
      · have hends : depth ≤ 0 := by simpa using h.ends
        cases rest with
        | nil => rfl
        | cons l rest => rw [List.nil_append, bracedBody, bracedBody, if_pos (by simp [hopened, hends])]
      · exact absurd (List.prefix_nil.mp hfirst) hne
  | cons l body ih =>
      rw [List.cons_append, bracedBody, bracedBody]
      split
      · rfl
      · exact congrArg (l.code :: ·) (ih h.tail)

/-- A function whose braces close is described from the lines up to where they do. -/
theorem describe_append (hblocks : p.indentBlocks = false) (hbrace : decl.code.contains 123)
    (hshort : body.length < maxBodyLines)
    (h : Closes (braceBalance decl.code) (0 < braceBalance decl.code) body) (rest : List Line) :
    describe p decl (body ++ rest) = describe p decl body := by
  have hnear : (body ++ rest).take (maxBodyLines - 1) = body ++ rest.take (maxBodyLines - 1 - body.length) := by
    rw [List.take_append, List.take_of_length_le (by omega)]
  have hall : body.take (maxBodyLines - 1) = body := List.take_of_length_le (by omega)
  rw [describe, describe, Annotation.body, Annotation.body, hnear, hall, bracedBody_append h]
  simp only [hblocks, hbrace, Bool.not_false, Bool.true_or, Bool.and_self, if_true]

def kindAbove (above : Option LineKind) (lines : List Line) : Option LineKind :=
  (lines.getLast?.map (·.kind)).or above

theorem insertions_getElem? (m : CommentMarker) (above : Option LineKind) (before rest : List Line) :
    (insertions p m above (before ++ rest))[before.length]? = (insertions p m (kindAbove above before) rest)[0]? := by
  induction before generalizing above with
  | nil => rfl
  | cons l before ih =>
      rw [List.cons_append, insertions, List.length_cons, List.getElem?_cons_succ, ih]
      congr 2
      cases before with
      | nil => rfl
      | cons k before => rw [kindAbove, kindAbove, List.getLast?_cons_cons, List.getLast?_cons]; rfl

theorem insertions_append (hblocks : p.indentBlocks = false) (hbrace : decl.code.contains 123)
    (hshort : body.length < maxBodyLines) (h : Closes (braceBalance decl.code) (0 < braceBalance decl.code) body)
    (m : CommentMarker) (above : Option LineKind) (before rest : List Line) :
    (insertions p m above (before ++ decl :: (body ++ rest)))[before.length]? =
      (insertions p m above (before ++ decl :: body))[before.length]? := by
  rw [insertions_getElem?, insertions_getElem?, insertions, insertions, describe_append hblocks hbrace hshort h]
  rfl

def linesBetween (lines : List Line) (i j : Nat) : List Line := (lines.take (j + 1)).drop i

theorem take_eq_append_cons {i j : Nat} (hdecl : lines[i]? = some decl) (hij : i ≤ j) :
    lines.take (j + 1) = lines.take i ++ decl :: linesBetween lines (i + 1) j := by
  obtain ⟨hi, rfl⟩ := List.getElem?_eq_some_iff.mp hdecl
  have hi' : i < (lines.take (j + 1)).length := by
    rw [List.length_take]
    omega
  calc
    lines.take (j + 1) = (lines.take (j + 1)).take i ++ (lines.take (j + 1)).drop i := (List.take_append_drop ..).symm
    _ = lines.take i ++ lines[i] :: linesBetween lines (i + 1) j := by
      rw [List.drop_eq_getElem_cons hi', List.take_take, Nat.min_eq_left (by omega), List.getElem_take, linesBetween]

theorem linesBetween_eq_cons {i j : Nat} (hdecl : lines[i]? = some decl) (hij : i ≤ j) :
    linesBetween lines i j = decl :: linesBetween lines (i + 1) j := by
  have hi : i < lines.length := (List.getElem?_eq_some_iff.mp hdecl).1
  rw [linesBetween, take_eq_append_cons hdecl hij, List.drop_left' (List.length_take_of_le (by omega))]

theorem linesBetween_prefix {i j k : Nat} (h : k ≤ j) : linesBetween lines i k <+: linesBetween lines i j :=
  (List.take_prefix_take_left (by omega)).drop i

theorem closes_linesBetween {i j : Nat} (hdecl : lines[i]? = some decl) (hij : i ≤ j)
    (hcloses : braceDepth (linesBetween lines i j) = 0)
    (hopened : ∃ k, i ≤ k ∧ k < j ∧ 0 < braceDepth (linesBetween lines i k)) :
    Closes (braceBalance decl.code) (0 < braceBalance decl.code) (linesBetween lines (i + 1) j) := by
  rw [linesBetween_eq_cons hdecl hij, braceDepth_cons] at hcloses
  obtain ⟨k, hik, hkj, hpositive⟩ := hopened
  rw [linesBetween_eq_cons hdecl hik, braceDepth_cons] at hpositive
  refine ⟨?_, by omega⟩
  -- A brace was open at the end of the declaration already, or at that of a later line.
  by_cases hempty : linesBetween lines (i + 1) k = []
  · exact .inl (by simpa [hempty] using hpositive)
  · exact .inr ⟨_, linesBetween_prefix (Nat.le_of_lt hkj), hempty, hpositive⟩

theorem insertions_take {i j : Nat} (hblocks : p.indentBlocks = false) (hdecl : lines[i]? = some decl)
    (hbrace : decl.code.contains 123) (hij : i ≤ j) (hwindow : j < i + maxBodyLines)
    (h : Closes (braceBalance decl.code) (0 < braceBalance decl.code) (linesBetween lines (i + 1) j))
    (m : CommentMarker) (above : Option LineKind) :
    (insertions p m above (lines.take (j + 1)))[i]? = (insertions p m above lines)[i]? := by
  have hlength : (lines.take i).length = i :=
    List.length_take_of_le (Nat.le_of_lt (List.getElem?_eq_some_iff.mp hdecl).1)
  have hshort : (linesBetween lines (i + 1) j).length < maxBodyLines := by
    rw [linesBetween, List.length_drop, List.length_take]
    omega
  have hlines : lines = lines.take i ++ decl :: (linesBetween lines (i + 1) j ++ lines.drop (j + 1)) := by
    rw [← List.cons_append, ← List.append_assoc, ← take_eq_append_cons hdecl hij, List.take_append_drop]
  have hslot := insertions_append hblocks hbrace hshort h m above (lines.take i) (lines.drop (j + 1))
  rw [hlength, ← hlines, ← take_eq_append_cons hdecl hij] at hslot
  exact hslot.symm

/-- The comment above a braced function does not depend on the lines after the one on which its braces are closed again. -/
theorem slots_getElem?_of_closed {text text' : Bytes} {i j : Nat} (hblocks : p.indentBlocks = false)
    (hdecl : (scan p text)[i]? = some decl) (hbrace : decl.code.contains 123) (hwindow : j < i + maxBodyLines)
    (hclosed : braceDepth (linesBetween (scan p text) i j) = 0)
    (hopened : ∃ k, i ≤ k ∧ k < j ∧ 0 < braceDepth (linesBetween (scan p text) i k))
    (hsame : (split text').take (j + 1) = (split text).take (j + 1)) :
    annotate p text = weave (slots p text) (pieces text) ∧ annotate p text' = weave (slots p text') (pieces text') ∧
      (slots p text')[i]? = (slots p text)[i]? := by
  refine ⟨annotate_eq_weave p text, annotate_eq_weave p text', ?_⟩
  have hij : i ≤ j := by
    obtain ⟨k, hik, hkj, -⟩ := hopened
    omega
  have hscan : (scan p text').take (j + 1) = (scan p text).take (j + 1) := scan_take hsame
  have hdecl' : (scan p text')[i]? = some decl := by
    rw [← List.getElem?_take_of_lt (show i < j + 1 by omega), hscan, List.getElem?_take_of_lt (by omega), hdecl]
  have hbody : linesBetween (scan p text') (i + 1) j = linesBetween (scan p text) (i + 1) j := by
    rw [linesBetween, hscan, linesBetween]
  have h : Closes (braceBalance decl.code) (0 < braceBalance decl.code) (linesBetween (scan p text) (i + 1) j) :=
    closes_linesBetween hdecl hij hclosed hopened
  rw [slots, slots]
  cases p.commentMarker? with
  | none => simp only [List.getElem?_map, hdecl, hdecl']
  | some m =>
      calc
        (insertions p m none (scan p text'))[i]? = (insertions p m none ((scan p text').take (j + 1)))[i]? :=
          (insertions_take hblocks hdecl' hbrace hij hwindow (hbody ▸ h) m none).symm
        _ = (insertions p m none ((scan p text).take (j + 1)))[i]? := by rw [hscan]
        _ = (insertions p m none (scan p text))[i]? := insertions_take hblocks hdecl hbrace hij hwindow h m none

def codeLine (number : Nat) (code : Bytes) (constructs : Constructs) : Line where
  number
  text := code
  cr := false
  kind := .code
  start := .clean
  code
  constructs

theorem slots_getElem?_of_closed_javaScript :
    braceDepth (linesBetween (scan .javaScript (utf8 "function a() \x7b\n  f()\n\x7d\nreturn true")) 0 2) = 0 ∧
      (slots .javaScript (utf8 "function a() \x7b\n  f()\n\x7d"))[0]? =
        (slots .javaScript (utf8 "function a() \x7b\n  f()\n\x7d\nreturn true"))[0]? := by
  have hscan : scan .javaScript (utf8 "function a() \x7b\n  f()\n\x7d\nreturn true") =
      [codeLine 1 (utf8 "function a() \x7b") { isFunction := true, name := utf8 "a" }, codeLine 2 (utf8 "  f()") {},
        codeLine 3 (utf8 "\x7d") {}, codeLine 4 (utf8 "return true") {}] := by cbv
  have hclosed : braceDepth (linesBetween
      (scan .javaScript (utf8 "function a() \x7b\n  f()\n\x7d\nreturn true")) 0 2) = 0 := by
    rw [hscan]
    decide +kernel
  have hopened : 0 < braceDepth (linesBetween
      (scan .javaScript (utf8 "function a() \x7b\n  f()\n\x7d\nreturn true")) 0 0) := by
    rw [hscan]
    decide +kernel
  have hdecl : (scan .javaScript (utf8 "function a() \x7b\n  f()\n\x7d\nreturn true"))[0]? =
      some (codeLine 1 (utf8 "function a() \x7b") { isFunction := true, name := utf8 "a" }) := by
    rw [hscan]
    rfl
  exact ⟨hclosed, (slots_getElem?_of_closed rfl hdecl (by decide +kernel) (by decide) hclosed
    ⟨0, Nat.le_refl 0, by decide, hopened⟩ (by decide +kernel)).2.2⟩

/-- No brace is ever open at the end of a line that closes the function it opens: the comment is drawn from the line
below it too. -/
theorem slots_of_closed_on_declaration :
    scan .javaScript (utf8 "function a() \x7b\x7d") =
        [codeLine 1 (utf8 "function a() \x7b\x7d") { isFunction := true, name := utf8 "a" }] ∧
      (codeLine 1 (utf8 "function a() \x7b\x7d") { isFunction := true, name := utf8 "a" }).code.contains 123 ∧
      braceDepth (linesBetween (scan .javaScript (utf8 "function a() \x7b\x7d")) 0 0) = 0 ∧
      (split (utf8 "function a() \x7b\x7d\nreturn true")).take 1 = (split (utf8 "function a() \x7b\x7d")).take 1 ∧
      (slots .javaScript (utf8 "function a() \x7b\x7d"))[0]? = some (some (utf8 "// Handles a functionality.\n")) ∧
      (slots .javaScript (utf8 "function a() \x7b\x7d\nreturn true"))[0]? =
        some (some (utf8 "// Handles a functionality and returns boolean.\n")) := by
  have hscan' : scan .javaScript (utf8 "function a() \x7b\x7d\nreturn true") =
      [codeLine 1 (utf8 "function a() \x7b\x7d") { isFunction := true, name := utf8 "a" },
        codeLine 2 (utf8 "return true") {}] := by cbv
  have hsame : (split (utf8 "function a() \x7b\x7d")).take 1 =
      (split (utf8 "function a() \x7b\x7d\nreturn true")).take 1 := by decide +kernel
  have hlength : (scan .javaScript (utf8 "function a() \x7b\x7d")).length = 1 := by
    rw [scan, length_readAll]
    decide +kernel
  have hscan : scan .javaScript (utf8 "function a() \x7b\x7d") =
      [codeLine 1 (utf8 "function a() \x7b\x7d") { isFunction := true, name := utf8 "a" }] := by
    rw [← List.take_of_length_le (Nat.le_of_eq hlength), scan_take hsame, hscan']
    rfl
  rw [slots_of_marker rfl, slots_of_marker rfl, hscan, hscan']
  refine ⟨rfl, ?_, ?_, hsame.symm, ?_, ?_⟩ <;> decide +kernel

end SourceSurvey.Annotation
