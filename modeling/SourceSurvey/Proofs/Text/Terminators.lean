import SourceSurvey.Proofs.Text.Lines

namespace SourceSurvey.Bytes

def crlf (text : Bytes) : Bytes := text.flatMap fun b => if b = newline then [carriageReturn, newline] else [b]

@[simp] theorem crlf_nil : crlf [] = [] := rfl

@[simp] theorem crlf_newline : crlf [newline] = [carriageReturn, newline] := rfl

@[simp] theorem crlf_append (s t : Bytes) : crlf (s ++ t) = crlf s ++ crlf t := List.flatMap_append

theorem crlf_of_notMem {s : Bytes} (h : newline ∉ s) : crlf s = s := by
  induction s with
  | nil => rfl
  | cons b s ih =>
      rw [List.mem_cons, not_or] at h
      rw [← List.singleton_append, crlf_append, ih h.2, crlf, List.flatMap_singleton, if_neg (Ne.symm h.1)]

theorem crlf_line {raw : Bytes} (h : newline ∉ raw) (rest : Bytes) :
    crlf (raw ++ newline :: rest) = (raw ++ [carriageReturn]) ++ newline :: crlf rest := by
  rw [← List.singleton_append, crlf_append, crlf_append, crlf_newline, crlf_of_notMem h]
  simp

end SourceSurvey.Bytes

namespace SourceSurvey.Line

open Bytes

theorem newline_notMem_return {raw : Bytes} (h : newline ∉ raw) : newline ∉ raw ++ [carriageReturn] := by
  simpa [h] using show newline ≠ carriageReturn by decide

theorem split_crlf {above : List Bytes} (habove : ∀ raw ∈ above, newline ∉ raw) {last : Bytes}
    (hlast : newline ∉ last) :
    split (crlf (above.flatMap (· ++ [newline]) ++ last)) = above.map (· ++ [carriageReturn]) ++ split last := by
  induction above with
  | nil => rw [List.flatMap_nil, List.nil_append, crlf_of_notMem hlast]; rfl
  | cons raw above ih =>
      have hraw := habove raw List.mem_cons_self
      rw [List.flatMap_cons, List.append_assoc, List.append_assoc, List.singleton_append, crlf_line hraw,
        split_line (newline_notMem_return hraw), ih fun r hr => habove r (List.mem_cons_of_mem raw hr)]
      rfl

end SourceSurvey.Line

namespace SourceSurvey.Annotation

open Bytes Line

theorem pieces_crlf (text : Bytes) : pieces (crlf text) = (pieces text).map crlf := by
  induction text using text_induction with
  | last last h => rw [crlf_of_notMem h, pieces_last h, List.map_singleton, crlf_of_notMem h]
  | line raw rest h ih =>
      rw [crlf_line h, pieces_line (newline_notMem_return h), ih, pieces_line h, List.map_cons, crlf_append,
        crlf_newline, crlf_of_notMem h, List.append_assoc]
      rfl

theorem crlf_weave (slots : List (Option Bytes)) (ps : List Bytes) :
    crlf (weave slots ps) = weave (slots.map (Option.map crlf)) (ps.map crlf) := by
  fun_induction weave slots ps with
  | case1 => simp [weave]
  | case2 r rs ih => simpa [weave] using ih
  | case3 slot slots r rs ih => cases slot <;> simp [weave, ih]

end SourceSurvey.Annotation
