import SourceSurvey.Proofs.Annotation.Comment
import SourceSurvey.Proofs.Text.Lines
import Mathlib.Data.List.Forall2

namespace SourceSurvey.Annotation

open Bytes Line

variable {p : Profile}

def IsCommentFor (p : Profile) (l : Line) (c : Bytes) : Prop :=
  l.isDeclaration ∧ l.start = .clean ∧ ∃ m s, p.commentMarker? = some ⟨m, []⟩ ∧ p.IsLineMarker m ∧
    newline ∉ s ++ [46] ∧ c = comment ⟨m, []⟩ l (s ++ [46])

theorem exists_isCommentFor {slots : List (Option Bytes)} {lines : List Line}
    (h : List.Forall₂ (fun slot l => ∀ c ∈ slot, IsCommentFor p l c) slots lines) {slot : Option Bytes}
    (hslot : slot ∈ slots) {c : Bytes} (hc : c ∈ slot) : ∃ l ∈ lines, IsCommentFor p l c := by
  induction h with
  | nil => simp at hslot
  | @cons s l slots lines hhead htail ih =>
      obtain rfl | hslot := List.mem_cons.mp hslot
      · exact ⟨l, List.mem_cons_self, hhead c hc⟩
      · obtain ⟨k, hk, hcomment⟩ := ih hslot
        exact ⟨k, List.mem_cons_of_mem l hk, hcomment⟩

theorem insertions_forall₂ {m : Bytes} (hmarker : p.commentMarker? = some ⟨m, []⟩) (hm : p.IsLineMarker m)
    (above : Option LineKind) {lines : List Line} (h : ∀ l ∈ lines, NamedOnLine l) :
    List.Forall₂ (fun slot l => ∀ c ∈ slot, IsCommentFor p l c) (insertions p ⟨m, []⟩ above lines) lines := by
  induction lines generalizing above with
  | nil => exact List.Forall₂.nil
  | cons l rest ih =>
      refine List.Forall₂.cons ?_ (ih _ fun k hk => h k (List.mem_cons_of_mem l hk))
      intro c hc
      split at hc
      · rename_i hwanted
        simp only [Bool.and_eq_true] at hwanted
        obtain ⟨s, hs⟩ := describe_ends (p := p) l rest
        have hline := newline_notMem_describe (p := p) (h l List.mem_cons_self) rest
        rw [hs] at hc hline
        have hclean : l.start = .clean := by
          have := hwanted.1.2
          cases hstart : l.start <;> simp_all [ScanState.isClean]
        exact ⟨hwanted.1.1, hclean, m, s, hmarker, hm, hline, (Option.mem_some_iff.mp hc).symm⟩
      · simp at hc

/-- A change to lines in which annotation sees the same declarations and the same bodies. -/
structure KeepsReading (f : Line → Line) : Prop where
  kind : ∀ l, (f l).kind = l.kind
  start : ∀ l, (f l).start = l.start
  code : ∀ l, (f l).code = l.code
  constructs : ∀ l, (f l).constructs = l.constructs
  indent : ∀ l, (f l).indent = l.indent

namespace KeepsReading

variable {f : Line → Line} (hf : KeepsReading f)

include hf

theorem bracedBody_map (depth : Int) (opened : Bool) (lines : List Line) :
    bracedBody depth opened (lines.map f) = bracedBody depth opened lines := by
  induction lines generalizing depth opened with
  | nil => rfl
  | cons l lines ih => simp only [List.map_cons, bracedBody, ih, hf.code]

theorem indentedBody_map (indent : Nat) (lines : List Line) :
    indentedBody indent (lines.map f) = indentedBody indent lines := by
  rw [indentedBody, indentedBody, List.takeWhile_map, List.map_map]
  simp only [Function.comp_def, hf.kind, hf.indent, hf.code]

theorem body_map (decl : Line) (rest : List Line) : body p (f decl) (rest.map f) = body p decl rest := by
  rw [body, body, ← List.map_take, hf.bracedBody_map, hf.indentedBody_map, hf.indent, hf.code, List.head?_map,
    Option.map_map]
  simp only [Function.comp_def, hf.code]

theorem describe_map (decl : Line) (rest : List Line) : describe p (f decl) (rest.map f) = describe p decl rest := by
  rw [describe, describe, hf.body_map, hf.constructs]

theorem isDeclaration (l : Line) : (f l).isDeclaration = l.isDeclaration := by
  rw [Line.isDeclaration, Line.isDeclaration, hf.constructs]

theorem insertions_map {m : CommentMarker} {g : Bytes → Bytes} (above : Option LineKind) {lines : List Line}
    (hcomment : ∀ l ∈ lines, ∀ rest,
      comment m (f l) (describe p l rest) = g (comment m l (describe p l rest))) :
    insertions p m above (lines.map f) = (insertions p m above lines).map (Option.map g) := by
  induction lines generalizing above with
  | nil => rfl
  | cons l lines ih =>
      have htail := ih (some l.kind) fun k hk => hcomment k (List.mem_cons_of_mem l hk)
      rw [List.map_cons, insertions, insertions, hf.kind, htail, hf.describe_map, hf.isDeclaration, hf.start,
        hcomment l List.mem_cons_self, List.map_cons]
      split <;> rfl

end KeepsReading

def slots (p : Profile) (text : Bytes) : List (Option Bytes) :=
  match p.commentMarker? with
  | some m => insertions p m none (scan p text)
  | none => (scan p text).map fun _ => none

/-- For each line, whether it is a declaration right below no comment, `above` being the kind of
the line before the first. -/
def bare (above : Option LineKind) : List Line → List Bool
  | [] => []
  | l :: rest => (l.isDeclaration && above != some .comment) :: bare (some l.kind) rest

theorem scan_declaration {text : Bytes} {l : Line} (hl : l ∈ scan p text) (h : l.isDeclaration) :
    l.start = .clean ∧ p.hasConstructs := by
  obtain ⟨number, state, raw, -, rfl⟩ := exists_read_of_mem hl
  exact read_declaration h

theorem scan_namedOnLine (hp : p.Annotatable) {text : Bytes} {l : Line} (hl : l ∈ scan p text) :
    NamedOnLine l := by
  obtain ⟨number, state, raw, hraw, rfl⟩ := exists_read_of_mem hl
  exact read_declared hp.2 number state (newline_notMem_of_mem_split text raw hraw)

theorem insertions_isSome (m : CommentMarker) (above : Option LineKind) {lines : List Line}
    (h : ∀ l ∈ lines, l.isDeclaration → l.start = .clean) :
    (insertions p m above lines).map Option.isSome = bare above lines := by
  induction lines generalizing above with
  | nil => rfl
  | cons l rest ih =>
      rw [insertions, List.map_cons, ih _ fun k hk => h k (List.mem_cons_of_mem l hk), bare]
      have hclean : l.isDeclaration → l.start.isClean := by
        intro hdecl
        rw [h l List.mem_cons_self hdecl]
        rfl
      congr 1
      cases hdecl : l.isDeclaration <;> simp_all
      split <;> simp_all

theorem insertions_of_not_bare (m : CommentMarker) {above : Option LineKind} {lines : List Line}
    (h : true ∉ bare above lines) : insertions p m above lines = lines.map fun _ => none := by
  induction lines generalizing above with
  | nil => rfl
  | cons l rest ih =>
      rw [bare, List.mem_cons, not_or] at h
      rw [insertions, ih h.2, List.map_cons]
      congr 1
      cases hdecl : l.isDeclaration <;> simp_all

theorem slots_of_not_bare {text : Bytes} (h : true ∉ bare none (scan p text)) :
    slots p text = (scan p text).map fun _ => none := by
  rw [slots]
  split
  · exact insertions_of_not_bare _ h
  · rfl

theorem bare_of_not_hasConstructs (hp : ¬p.hasConstructs) {above : Option LineKind} {lines : List Line}
    (h : ∀ l ∈ lines, l.isDeclaration → p.hasConstructs) : true ∉ bare above lines := by
  induction lines generalizing above with
  | nil => simp [bare]
  | cons l rest ih =>
      have hl : l.isDeclaration = false := by
        by_contra hdecl
        exact hp (h l List.mem_cons_self (by simpa using hdecl))
      rw [bare, hl, Bool.false_and, List.mem_cons, not_or]
      exact ⟨by simp, ih fun k hk => h k (List.mem_cons_of_mem l hk)⟩

theorem slots_of_not_hasConstructs (hp : ¬p.hasConstructs) (text : Bytes) :
    slots p text = (scan p text).map fun _ => none :=
  slots_of_not_bare (bare_of_not_hasConstructs hp fun _ hl h => (scan_declaration hl h).2)

theorem slots_of_marker {m : CommentMarker} (h : p.commentMarker? = some m) (text : Bytes) :
    slots p text = insertions p m none (scan p text) := by
  rw [slots, h]

theorem slots_isSome (hp : p.Annotatable) (text : Bytes) :
    (slots p text).map Option.isSome = bare none (scan p text) := by
  have hclean : ∀ l ∈ scan p text, l.isDeclaration → l.start = .clean := fun _ hl h => (scan_declaration hl h).1
  by_cases hc : p.hasConstructs
  · obtain ⟨m, hm, -⟩ := hp.1 hc
    rw [slots_of_marker hm]
    exact insertions_isSome _ none hclean
  · have hbare : true ∉ bare none (scan p text) :=
      bare_of_not_hasConstructs hc fun l hl h => (scan_declaration hl h).2
    rw [slots_of_not_bare hbare, ← insertions_of_not_bare (p := p) ⟨[], []⟩ hbare]
    exact insertions_isSome _ none hclean

theorem slots_forall₂ (hp : p.Annotatable) (text : Bytes) :
    List.Forall₂ (fun slot l => ∀ c ∈ slot, IsCommentFor p l c) (slots p text) (scan p text) := by
  by_cases hc : p.hasConstructs
  · obtain ⟨m, hm, hmarker⟩ := hp.1 hc
    rw [slots_of_marker hm]
    exact insertions_forall₂ hm hmarker none fun l hl => scan_namedOnLine hp hl
  · rw [slots_of_not_hasConstructs hc, List.forall₂_map_left_iff, List.forall₂_same]
    simp

/-- Annotation is the text with its slots woven in. -/
theorem annotate_eq_weave (p : Profile) (text : Bytes) :
    annotate p text = weave (slots p text) (pieces text) := by
  have hnone : weave ((scan p text).map fun _ => none) (pieces text) = text := weave_none _ (by simp) text
  rw [annotate, ofLines]
  split
  · rename_i hm
    rw [slots, hm, hnone]
  · rename_i m hm
    by_cases hc : p.hasConstructs
    · rw [if_neg (by simp [hc]), slots_of_marker hm]
    · rw [if_pos (by simp [hc]), slots_of_not_hasConstructs hc, hnone]

end SourceSurvey.Annotation
