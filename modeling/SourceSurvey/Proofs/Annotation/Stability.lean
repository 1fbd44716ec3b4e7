import Mathlib
import SourceSurvey.Proofs.Annotation.Rescan
import SourceSurvey.Proofs.Summary

namespace SourceSurvey.Annotation

open Bytes Line

variable {p : Profile}

theorem bare_unnumbered (above : Option LineKind) (lines : List Line) :
    bare above (lines.map unnumbered) = bare above lines := by
  induction lines generalizing above with
  | nil => rfl
  | cons l rest ih => exact congrArg (_ :: ·) (ih (some l.kind))

theorem bare_interleave {comments : List (Option Line)} {lines : List Line} {above : Option LineKind}
    (hfilled : comments.map Option.isSome = bare above lines)
    (hcomment : ∀ slot ∈ comments, ∀ c ∈ slot, c.kind = .comment ∧ c.isDeclaration = false) :
    true ∉ bare above (interleave comments lines) := by
  induction lines generalizing comments above with
  | nil => simp [interleave, bare]
  | cons l rest ih =>
      cases comments with
      | nil => simp [bare] at hfilled
      | cons slot comments =>
          rw [bare, List.map_cons, List.cons.injEq] at hfilled
          have hrest := ih hfilled.2 fun s hs => hcomment s (List.mem_cons_of_mem slot hs)
          cases slot with
          | none => simpa [interleave, bare, hrest] using hfilled.1
          | some c =>
              obtain ⟨hkind, hdecl⟩ := hcomment (some c) List.mem_cons_self c rfl
              simp [interleave, bare, hkind, hdecl, hrest]

theorem scan_annotate (hp : p.Annotatable) (text : Bytes) :
    (scan p (annotate p text)).map unnumbered =
      interleave ((slots p text).map (Option.map (inserted p))) ((scan p text).map unnumbered) := by
  rw [annotate_eq_weave, scan_weave (slots_forall₂ hp text)]

theorem inserted_of_mem_slots (hp : p.Annotatable) {text : Bytes} {slot : Option Bytes}
    (hslot : slot ∈ slots p text) {c : Bytes} (hc : c ∈ slot) :
    (inserted p c).kind = .comment ∧ (inserted p c).constructs = {} := by
  obtain ⟨l, -, hl⟩ := exists_isCommentFor (slots_forall₂ hp text) hslot hc
  exact ⟨hl.read.1, hl.read.2.1⟩

theorem bare_annotate (hp : p.Annotatable) (text : Bytes) : true ∉ bare none (scan p (annotate p text)) := by
  rw [← bare_unnumbered, scan_annotate hp]
  apply bare_interleave
  · rw [bare_unnumbered, ← slots_isSome hp, List.map_map]
    congr 1
    funext slot
    cases slot <;> rfl
  · intro slot hslot c hc
    obtain ⟨s, hs, rfl⟩ := List.mem_map.mp hslot
    obtain ⟨d, hd, rfl⟩ := Option.map_eq_some_iff.mp hc
    obtain ⟨hkind, hconstructs⟩ := inserted_of_mem_slots hp hs hd
    exact ⟨hkind, by simp [isDeclaration, hconstructs]⟩

/-- A list of lines in which every declaration stands right below a comment. -/
def AllCommented (lines : List Line) : Prop :=
  ∀ above l below, lines = above ++ l :: below → l.isDeclaration →
    ∃ c, above.getLast? = some c ∧ c.kind = .comment

theorem bare_declaration {lines above below : List Line} {l : Line} (hlines : lines = above ++ l :: below)
    (hdecl : l.isDeclaration) {start : Option LineKind} (h : true ∉ bare start lines) :
    (above.getLast?.map Line.kind).or start = some .comment := by
  induction above generalizing lines start with
  | nil =>
      rw [hlines, List.nil_append, bare, List.mem_cons, not_or] at h
      simpa [hdecl] using h.1
  | cons k above ih =>
      rw [hlines, List.cons_append, bare, List.mem_cons, not_or] at h
      have hlast := ih rfl h.2
      cases above with
      | nil => simpa using hlast
      | cons k' above =>
          rw [List.getLast?_eq_some_getLast (List.cons_ne_nil k' above)] at hlast
          rw [List.getLast?_cons_cons, List.getLast?_eq_some_getLast (List.cons_ne_nil k' above)]
          exact hlast

theorem allCommented_of_not_bare {lines : List Line} (h : true ∉ bare none lines) : AllCommented lines := by
  intro above l below hlines hdecl
  have hlast := bare_declaration hlines hdecl h
  rw [Option.or_none, Option.map_eq_some_iff] at hlast
  exact hlast

/-- One annotation is enough. -/
theorem annotate_fixedPoint {p : Profile} (hp : p ∈ Registry.profiles) (text : Bytes) :
    AllCommented (scan p (annotate p text)) ∧ annotate p (annotate p text) = annotate p text := by
  have hbare := bare_annotate (Profile.annotatable_of_mem hp) text
  refine ⟨allCommented_of_not_bare hbare, ?_⟩
  rw [annotate_eq_weave p (annotate p text), slots_of_not_bare hbare]
  exact weave_none _ (by simp) _

theorem annotate_fixedPoint_go :
    AllCommented (scan .go (annotate .go (utf8 "func main()"))) ∧
      annotate .go (annotate .go (utf8 "func main()")) = annotate .go (utf8 "func main()") :=
  annotate_fixedPoint (by simp [Registry.profiles]) _

section Kept

variable {α β γ : Type}

def kept : List (Option α) → List β → List β
  | [], bs => bs
  | none :: slots, b :: bs => b :: kept slots bs
  | some _ :: slots, _ :: bs => bs.take 1 ++ kept slots (bs.drop 1)
  | _ :: _, [] => []

theorem kept_interleave (slots : List (Option α)) (g : α → β) {as : List β} (h : slots.length = as.length) :
    kept slots (interleave (slots.map (Option.map g)) as) = as := by
  induction slots generalizing as with
  | nil => rw [List.map_nil, interleave_nil, kept]
  | cons slot slots ih =>
      cases as with
      | nil => simp at h
      | cons a as =>
          have htail := ih (Nat.succ.inj h)
          cases slot <;> simp [interleave, kept, htail]

theorem kept_map (slots : List (Option α)) (f : β → γ) (bs : List β) :
    kept slots (bs.map f) = (kept slots bs).map f := by
  fun_induction kept slots bs with
  | case1 bs => rfl
  | case2 slots b bs ih => simp [kept, ih]
  | case3 a slots c bs ih => rw [List.map_cons, kept, ← List.map_take, ← List.map_drop, ih, List.map_append]
  | case4 => simp [kept]

end Kept

theorem length_reduceOption_slots (hp : p.Annotatable) (text : Bytes) :
    (slots p text).reduceOption.length = (bare none (scan p text)).count true := by
  rw [← slots_isSome hp, List.reduceOption_length_eq, List.count_eq_countP, List.countP_map,
    List.countP_eq_length_filter]
  congr 2
  funext slot
  cases slot <;> rfl

theorem ofLines_scan_annotate (hp : p.Annotatable) (text : Bytes) :
    Summary.ofLines (scan p (annotate p text)) =
      (Summary.ofLines (scan p text)).addComments ((bare none (scan p text)).count true) := by
  have hlen : (slots p text).length = (scan p text).length := (slots_forall₂ hp text).length_eq
  have hunnumbered (lines : List Line) : Summary.ofLines (lines.map unnumbered) = Summary.ofLines lines :=
    Summary.ofLines_map (f := unnumbered) (fun _ => rfl) (fun _ => rfl) lines
  rw [← hunnumbered, scan_annotate hp, Summary.ofLines_perm (interleave_perm (by simpa using hlen)),
    List.reduceOption_map, Summary.ofLines_comments_append, List.length_map, length_reduceOption_slots hp,
    hunnumbered]
  intro c hc
  obtain ⟨d, hd, rfl⟩ := List.mem_map.mp hc
  exact inserted_of_mem_slots hp (List.reduceOption_mem_iff.mp hd) rfl

/-- Annotation adds its comment lines to the counts and leaves all other lines as they were. -/
theorem annotate_structure {p : Profile} (hp : p ∈ Registry.profiles) (text : Bytes) :
    Summary.ofText p (annotate p text) =
        (Summary.ofText p text).addComments ((bare none (scan p text)).count true) ∧
      ∃ slots, annotate p text = weave slots (pieces text) ∧
        slots.map Option.isSome = bare none (scan p text) ∧ (∀ slot ∈ slots, HoldsLine slot) ∧
        (kept slots (scan p (annotate p text))).map unnumbered = (scan p text).map unnumbered := by
  have hp := Profile.annotatable_of_mem hp
  have hlen : (slots p text).length = (scan p text).length := (slots_forall₂ hp text).length_eq
  refine ⟨ofLines_scan_annotate hp text, slots p text, annotate_eq_weave p text, slots_isSome hp text,
    holdsLine_of_isCommentFor (slots_forall₂ hp text), ?_⟩
  rw [← kept_map, scan_annotate hp, kept_interleave _ _ (by simpa using hlen)]

theorem annotate_structure_go :
    (bare none (scan .go (utf8 "func main()"))).count true = 1 ∧
      Summary.ofText .go (annotate .go (utf8 "func main()")) =
        (Summary.ofText .go (utf8 "func main()")).addComments 1 := by
  have hcount : (bare none (scan .go (utf8 "func main()"))).count true = 1 := by cbv
  have hgo : Profile.go ∈ Registry.profiles := by simp [Registry.profiles]
  have hsummary := (annotate_structure hgo (utf8 "func main()")).1
  rw [hcount] at hsummary
  exact ⟨hcount, hsummary⟩

end SourceSurvey.Annotation
