import SourceSurvey.Annotation
import Mathlib.Data.List.Perm.Basic
import Mathlib.Data.List.ReduceOption

namespace SourceSurvey.Line

open Bytes

theorem splitByteFrom_eq (b : UInt8) (piece s : Bytes) :
    splitByteFrom b piece s = s.splitOnPPrepend (· == b) piece := by
  induction s generalizing piece with
  | nil => rfl
  | cons c s ih =>
      by_cases h : c = b <;> simp [splitByteFrom, List.splitOnPPrepend_cons_eq_if, h, ih]

theorem splitByte_eq_splitOn (s : Bytes) (b : UInt8) : s.splitByte b = List.splitOn b s :=
  splitByteFrom_eq b [] s

theorem splitByte_last {last : Bytes} (h : newline ∉ last) : last.splitByte newline = [last] := by
  rw [splitByte_eq_splitOn, List.splitOn_eq_singleton h]

theorem splitByte_line {raw : Bytes} (h : newline ∉ raw) (rest : Bytes) :
    (raw ++ newline :: rest).splitByte newline = raw :: rest.splitByte newline := by
  rw [splitByte_eq_splitOn, splitByte_eq_splitOn, List.splitOn_append_cons_self_of_not_mem h]

theorem splitByte_ne_nil (s : Bytes) (b : UInt8) : s.splitByte b ≠ [] := by
  rw [splitByte_eq_splitOn]
  exact List.splitOn_ne_nil b s

theorem exists_line (text : Bytes) :
    newline ∉ text ∨ ∃ raw rest, newline ∉ raw ∧ text = raw ++ newline :: rest := by
  by_cases h : newline ∈ text
  · obtain ⟨raw, rest, he, hraw⟩ := List.eq_append_cons_of_mem h
    exact Or.inr ⟨raw, rest, hraw, he⟩
  · exact Or.inl h

/-- Induction over the lines of a text. -/
@[elab_as_elim]
theorem text_induction {motive : Bytes → Prop} (last : ∀ last, newline ∉ last → motive last)
    (line : ∀ raw rest, newline ∉ raw → motive rest → motive (raw ++ newline :: rest))
    (text : Bytes) : motive text := by
  obtain h | ⟨raw, rest, hraw, rfl⟩ := exists_line text
  · exact last text h
  · exact line raw rest hraw (text_induction last line rest)
termination_by text.length

theorem split_last {last : Bytes} (h : newline ∉ last) :
    split last = if last = [] then [] else [last] := by
  rw [split, splitByte_last h]
  by_cases he : last = [] <;> simp [he]

theorem split_line {raw : Bytes} (h : newline ∉ raw) (rest : Bytes) :
    split (raw ++ newline :: rest) = raw :: split rest := by
  obtain ⟨x, xs, hx⟩ := List.exists_cons_of_ne_nil (splitByte_ne_nil rest newline)
  simp only [split, splitByte_line h, hx, List.getLast?_cons_cons, List.dropLast_cons_cons]
  split <;> rfl

theorem split_lines {above : List Bytes} (h : ∀ raw ∈ above, newline ∉ raw) (text : Bytes) :
    split (above.flatMap (· ++ [newline]) ++ text) = above ++ split text := by
  induction above with
  | nil => rfl
  | cons raw above ih =>
      have hrest := ih fun r hr => h r (List.mem_cons_of_mem raw hr)
      rw [List.flatMap_cons, List.append_assoc, List.append_assoc, List.singleton_append,
        split_line (h raw List.mem_cons_self), hrest, List.cons_append]

theorem exists_lines (text : Bytes) : ∃ (above : List Bytes) (last : Bytes),
    (∀ raw ∈ above, newline ∉ raw) ∧ newline ∉ last ∧ text = above.flatMap (· ++ [newline]) ++ last := by
  induction text using text_induction with
  | last last h => exact ⟨[], last, by simp, h, rfl⟩
  | line raw rest h ih =>
      obtain ⟨above, last, habove, hlast, rfl⟩ := ih
      exact ⟨raw :: above, last, by simpa [h] using habove, hlast, by simp⟩

def EndsLine (text : Bytes) : Prop := ∀ b ∈ text.getLast?, b = newline

theorem EndsLine.exists_lines {text : Bytes} (h : EndsLine text) : ∃ above : List Bytes,
    (∀ raw ∈ above, newline ∉ raw) ∧ text = above.flatMap (· ++ [newline]) := by
  obtain ⟨above, last, habove, hlast, rfl⟩ := Line.exists_lines text
  obtain rfl | ⟨start, b, rfl⟩ := List.eq_nil_or_concat last
  · exact ⟨above, habove, List.append_nil _⟩
  · have hb : b = newline := h b (by simp [← List.append_assoc])
    exact absurd (by simp [hb]) hlast

theorem split_append {above : Bytes} (h : EndsLine above) (text : Bytes) :
    split (above ++ text) = split above ++ split text := by
  obtain ⟨raws, hraws, rfl⟩ := h.exists_lines
  have hall : split (raws.flatMap (· ++ [newline])) = raws := by
    simpa [split_last] using split_lines hraws []
  rw [split_lines hraws, hall]

theorem newline_notMem_of_mem_split (text raw : Bytes) (h : raw ∈ split text) : newline ∉ raw := by
  induction text using text_induction with
  | last last hlast =>
      rw [split_last hlast] at h
      split at h
      · simp at h
      · rw [List.mem_singleton] at h
        exact h ▸ hlast
  | line head rest hhead ih =>
      rw [split_line hhead, List.mem_cons] at h
      rcases h with rfl | h
      · exact hhead
      · exact ih h

end SourceSurvey.Line

namespace SourceSurvey.Annotation

open Bytes Line

variable {α : Type}

theorem pieces_last {last : Bytes} (h : newline ∉ last) : pieces last = [last] := by
  simp [pieces, splitByte_last h]

theorem pieces_line {raw : Bytes} (h : newline ∉ raw) (rest : Bytes) :
    pieces (raw ++ newline :: rest) = (raw ++ [newline]) :: pieces rest := by
  obtain hnil | ⟨xs, x, hx⟩ := List.eq_nil_or_concat (rest.splitByte newline)
  · exact absurd hnil (splitByte_ne_nil rest newline)
  · simp [pieces, splitByte_line h, hx]

theorem flatten_pieces (text : Bytes) : (pieces text).flatten = text := by
  induction text using text_induction with
  | last last h => simp [pieces_last h]
  | line raw rest h ih => simp [pieces_line h, ih]

/-- Puts every filled slot in front of its element. -/
def interleave : List (Option α) → List α → List α
  | _, [] => []
  | [], a :: as => a :: interleave [] as
  | slot :: slots, a :: as => slot.toList ++ a :: interleave slots as

theorem weave_eq_flatten (slots : List (Option Bytes)) (ps : List Bytes) :
    weave slots ps = (interleave slots ps).flatten := by
  fun_induction weave slots ps with
  | case1 => rfl
  | case2 r rs ih => simp [interleave, ih]
  | case3 slot slots r rs ih => cases slot <;> simp [interleave, ih]

theorem interleave_nil (as : List α) : interleave [] as = as := by
  induction as with
  | nil => rfl
  | cons a as ih => rw [interleave, ih]

theorem interleave_none (slots : List (Option α)) (h : ∀ slot ∈ slots, slot = none) (as : List α) :
    interleave slots as = as := by
  induction slots generalizing as with
  | nil => exact interleave_nil as
  | cons slot slots ih =>
      cases as with
      | nil => rfl
      | cons a as =>
          rw [interleave, h slot (by simp), ih (fun s hs => h s (by simp [hs]))]
          rfl

theorem weave_none (slots : List (Option Bytes)) (h : ∀ slot ∈ slots, slot = none) (text : Bytes) :
    weave slots (pieces text) = text := by
  rw [weave_eq_flatten, interleave_none slots h, flatten_pieces]

theorem interleave_perm {slots : List (Option α)} {as : List α} (h : slots.length = as.length) :
    (interleave slots as).Perm (slots.reduceOption ++ as) := by
  induction slots generalizing as with
  | nil => simp [interleave_nil]
  | cons slot slots ih =>
      cases as with
      | nil => simp at h
      | cons a as =>
          have htail := (ih (Nat.succ.inj h)).cons a
          rw [interleave]
          cases slot with
          | none => simpa using htail.trans List.perm_middle.symm
          | some b => simpa using htail.trans List.perm_middle.symm

end SourceSurvey.Annotation
