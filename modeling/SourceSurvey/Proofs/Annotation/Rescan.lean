import SourceSurvey.Proofs.Annotation.Slots

namespace SourceSurvey.Annotation

open Bytes Line

variable {p : Profile}

def HoldsLine (slot : Option Bytes) : Prop := ∀ c ∈ slot, newline ∉ c.dropLast ∧ c = c.dropLast ++ [newline]

theorem split_slot {slot : Option Bytes} (h : HoldsLine slot) (text : Bytes) :
    split (slot.getD [] ++ text) = (slot.map List.dropLast).toList ++ split text := by
  cases slot with
  | none => rfl
  | some c =>
      obtain ⟨hline, hc⟩ := h c rfl
      have hsplit := split_line hline text
      rw [← List.singleton_append, ← List.append_assoc, ← hc] at hsplit
      exact hsplit

theorem split_weave {slots : List (Option Bytes)} {text : Bytes} (hslots : ∀ slot ∈ slots, HoldsLine slot)
    (hlen : slots.length ≤ (split text).length) :
    split (weave slots (pieces text)) = interleave (slots.map (Option.map List.dropLast)) (split text) := by
  induction text using text_induction generalizing slots with
  | last last hlast =>
      rw [pieces_last hlast]
      cases slots with
      | nil => simp [weave, interleave_nil]
      | cons slot slots =>
          rw [split_last hlast] at hlen
          have hne : last ≠ [] := by rintro rfl; simp at hlen
          rw [weave, weave, List.append_nil, split_slot (hslots slot List.mem_cons_self), split_last hlast,
            if_neg hne]
          simp [interleave]
  | line raw rest hraw ih =>
      rw [pieces_line hraw, split_line hraw] at *
      cases slots with
      | nil =>
          have hrest : split (weave [] (pieces rest)) = interleave [] (split rest) := ih (by simp) (by simp)
          rw [weave, List.append_assoc, List.singleton_append, split_line hraw, hrest, List.map_nil,
            interleave_nil, interleave_nil]
      | cons slot slots =>
          have hrest := ih (fun s hs => hslots s (List.mem_cons_of_mem slot hs)) (Nat.le_of_succ_le_succ hlen)
          rw [weave, List.append_assoc, split_slot (hslots slot List.mem_cons_self), List.append_assoc,
            List.singleton_append, split_line hraw, hrest]
          rfl

/-- Lines that leave the state clean may be put in wherever a line starts clean: all other lines
read as before. -/
theorem readAll_interleave {slots : List (Option Bytes)} {raws : List Bytes} {number : Nat} {state : ScanState}
    (h : List.Forall₂ (fun slot l => ∀ c ∈ slot, l.start = .clean ∧ (read p 0 .clean c).2 = .clean) slots
      (readAll p number state raws)) (first : Nat) :
    (readAll p first state (interleave slots raws)).map unnumbered =
      interleave (slots.map (Option.map fun c => (read p 0 .clean c).1))
        ((readAll p number state raws).map unnumbered) := by
  induction raws generalizing slots number state first with
  | nil =>
      cases slots <;> rfl
  | cons raw raws ih =>
      rw [readAll_cons] at h
      obtain ⟨slot, tail, hslot, htail, rfl⟩ := List.forall₂_cons_right_iff.mp h
      cases slot with
      | none =>
          simp only [interleave, readAll_cons, List.map_cons, Option.map_none, Option.toList_none,
            List.nil_append, read_unnumbered, ih htail]
      | some c =>
          obtain ⟨hstart, hafter⟩ := hslot c rfl
          -- The comment is read in the state in which the line would have been, and leaves that state as it is.
          obtain rfl : state = .clean := hstart
          simp only [interleave, readAll_cons, List.map_cons, Option.map_some, Option.toList_some,
            List.singleton_append, read_unnumbered, hafter, ih htail]

theorem IsCommentFor.holdsLine {l : Line} {c : Bytes} (h : IsCommentFor p l c) : HoldsLine (some c) := by
  obtain ⟨-, -, m, s, -, hm, hs, rfl⟩ := h
  rintro c ⟨⟩
  rw [comment_eq, List.dropLast_concat]
  exact ⟨newline_notMem_commentLine hm.2.2.1 hs, rfl⟩

theorem holdsLine_of_isCommentFor {slots : List (Option Bytes)} {lines : List Line}
    (h : List.Forall₂ (fun slot l => ∀ c ∈ slot, IsCommentFor p l c) slots lines) :
    ∀ slot ∈ slots, HoldsLine slot := by
  intro slot hslot c hc
  obtain ⟨l, -, hl⟩ := exists_isCommentFor h hslot hc
  exact hl.holdsLine c rfl

def inserted (p : Profile) (c : Bytes) : Line := (read p 0 .clean c.dropLast).1

theorem IsCommentFor.read {l : Line} {c : Bytes} (h : IsCommentFor p l c) :
    (inserted p c).kind = .comment ∧ (inserted p c).constructs = {} ∧
      (Line.read p 0 .clean c.dropLast).2 = .clean := by
  obtain ⟨-, -, m, s, -, hm, hs, rfl⟩ := h
  rw [inserted, comment_eq, List.dropLast_concat, read_commentLine hm l rfl]
  exact ⟨rfl, rfl, rfl⟩

/-- Scanning a text with comments put in above declarations gives the lines of the text, numbers
apart, with the comments in between. -/
theorem scan_weave {slots : List (Option Bytes)} {text : Bytes}
    (h : List.Forall₂ (fun slot l => ∀ c ∈ slot, IsCommentFor p l c) slots (scan p text)) :
    (scan p (weave slots (pieces text))).map unnumbered =
      interleave (slots.map (Option.map (inserted p))) ((scan p text).map unnumbered) := by
  have hlen : slots.length ≤ (split text).length := by
    rw [h.length_eq, scan, length_readAll]
  have hread : List.Forall₂ (fun slot l => ∀ c ∈ slot, l.start = .clean ∧ (Line.read p 0 .clean c).2 = .clean)
      (slots.map (Option.map List.dropLast)) (scan p text) := by
    rw [List.forall₂_map_left_iff]
    refine h.imp fun slot l hslot c hc => ?_
    obtain ⟨d, hd, rfl⟩ := Option.map_eq_some_iff.mp hc
    exact ⟨(hslot d hd).2.1, (hslot d hd).read.2.2⟩
  rw [scan, split_weave (holdsLine_of_isCommentFor h) hlen, readAll_interleave hread, List.map_map]
  congr 2
  funext slot
  cases slot <;> rfl

end SourceSurvey.Annotation
