import SourceSurvey.Proofs.Annotation.Slots
import SourceSurvey.Proofs.Text.Terminators
import SourceSurvey.Proofs.Summary

namespace SourceSurvey.Line

open Bytes

variable {p : Profile}

def withReturn (l : Line) : Line := { l with cr := true }

def withoutReturn (l : Line) : Line := { l with cr := false }

theorem chomp_of_notMem {raw : Bytes} (h : carriageReturn ∉ raw) : chomp raw = raw := by
  rw [chomp, if_neg fun hlast => h (List.mem_of_getLast? hlast)]

theorem chomp_return (raw : Bytes) : chomp (raw ++ [carriageReturn]) = raw := by
  simp [chomp]

/-- The carriage return at the end of a line is noted, and has no other part in how the line reads. -/
theorem read_return {raw : Bytes} (h : carriageReturn ∉ raw) (number : Nat) (state : ScanState) :
    read p number state (raw ++ [carriageReturn]) =
      ((read p number state raw).1.withReturn, (read p number state raw).2) := by
  rw [read_of_classify rfl, read_of_classify rfl, chomp_return, chomp_of_notMem h]
  simp [withReturn]

theorem readAll_return {raws : List Bytes} (h : ∀ raw ∈ raws, carriageReturn ∉ raw) (number : Nat)
    (state : ScanState) :
    readAll p number state (raws.map (· ++ [carriageReturn])) = (readAll p number state raws).map withReturn ∧
      stateAfter p state (raws.map (· ++ [carriageReturn])) = stateAfter p state raws := by
  induction raws generalizing number state with
  | nil => exact ⟨rfl, rfl⟩
  | cons raw raws ih =>
      have hraw := h raw List.mem_cons_self
      obtain ⟨hlines, hafter⟩ := ih (fun r hr => h r (List.mem_cons_of_mem raw hr)) (number + 1)
        (read p 0 state raw).2
      rw [List.map_cons, readAll_cons, readAll_cons, stateAfter, stateAfter, read_return hraw, read_return hraw,
        hlines, hafter]
      exact ⟨rfl, rfl⟩

theorem cr_of_mem_readAll {raws : List Bytes} (h : ∀ raw ∈ raws, carriageReturn ∉ raw) {number : Nat}
    {state : ScanState} {l : Line} (hl : l ∈ readAll p number state raws) : l.cr = false := by
  obtain ⟨n, start, raw, hraw, rfl⟩ := exists_read_of_mem hl
  rw [read_of_classify rfl]
  exact decide_eq_false fun hlast => h raw hraw (List.mem_of_getLast? hlast)

theorem return_notMem_of_mem_split {text : Bytes} (h : carriageReturn ∉ text) :
    ∀ raw ∈ split text, carriageReturn ∉ raw := by
  obtain ⟨above, last, habove, hlast, rfl⟩ := exists_lines text
  rw [split_lines habove, split_last hlast]
  intro raw hraw hmem
  apply h
  rw [List.mem_append, List.mem_flatMap]
  rcases List.mem_append.mp hraw with hraw | hraw
  · exact .inl ⟨raw, hraw, List.mem_append_left _ hmem⟩
  · split at hraw
    · simp at hraw
    · exact .inr (List.mem_singleton.mp hraw ▸ hmem)

theorem map_withoutReturn {lines : List Line} (h : ∀ l ∈ lines, l.cr = false) :
    lines.map withoutReturn = lines := by
  refine (List.map_congr_left fun l hl => ?_).trans (List.map_id lines)
  rw [withoutReturn, ← h l hl]
  rfl

theorem scan_crlf {text : Bytes} (h : carriageReturn ∉ text) :
    (scan p (crlf text)).map withoutReturn = scan p text := by
  have hlines := return_notMem_of_mem_split h
  have hcr : ∀ l ∈ scan p text, l.cr = false := fun l hl => cr_of_mem_readAll hlines hl
  obtain ⟨above, last, habove, hlast, rfl⟩ := exists_lines text
  rw [split_lines habove] at hlines
  obtain ⟨hread, hafter⟩ :=
    readAll_return (p := p) (fun raw hraw => hlines raw (List.mem_append_left _ hraw)) 1 .clean
  have hwithout : (scan p (crlf (above.flatMap (· ++ [newline]) ++ last))).map withoutReturn =
      (scan p (above.flatMap (· ++ [newline]) ++ last)).map withoutReturn := by
    rw [scan, scan, split_crlf habove hlast, split_lines habove, readAll_append, readAll_append, hread, hafter,
      List.length_map, List.map_append, List.map_append, List.map_map]
    rfl
  rw [hwithout, map_withoutReturn hcr]

theorem scan_crlf_of_endsLine {text : Bytes} (h : carriageReturn ∉ text) (hends : EndsLine text) :
    scan p (crlf text) = (scan p text).map withReturn := by
  have hlines := return_notMem_of_mem_split h
  obtain ⟨above, habove, rfl⟩ := hends.exists_lines
  have hsplit : split (above.flatMap (· ++ [newline])) = above := by
    simpa [split_last] using split_lines habove []
  have hcrlf : split (crlf (above.flatMap (· ++ [newline]))) = above.map (· ++ [carriageReturn]) := by
    simpa [split_last] using @split_crlf above habove [] (by simp)
  rw [hsplit] at hlines
  rw [scan, scan, hsplit, hcrlf, (readAll_return hlines 1 .clean).1]

end SourceSurvey.Line

namespace SourceSurvey.Annotation

open Bytes Line

variable {p : Profile}

theorem keepsReading_withReturn : KeepsReading withReturn where
  kind _ := rfl
  start _ := rfl
  code _ := rfl
  constructs _ := rfl
  indent _ := rfl

theorem crlf_comment {m purpose : Bytes} {l : Line} (hm : newline ∉ m) (hpurpose : newline ∉ purpose)
    (hcr : l.cr = false) : comment ⟨m, []⟩ l.withReturn purpose = crlf (comment ⟨m, []⟩ l purpose) := by
  have htext : newline ∉ commentLine m l purpose := newline_notMem_commentLine hm hpurpose
  rw [comment_eq, comment_eq, crlf_append, crlf_newline, crlf_of_notMem htext]
  simp [commentLine, commentText, withReturn, hcr, indent]

theorem slots_crlf (hp : p.Annotatable) {text : Bytes} (h : carriageReturn ∉ text) (hends : EndsLine text) :
    slots p (crlf text) = (slots p text).map (Option.map crlf) := by
  by_cases hc : p.hasConstructs
  · obtain ⟨m, hmarker, hm⟩ := hp.1 hc
    rw [slots_of_marker hmarker, slots_of_marker hmarker, scan_crlf_of_endsLine h hends]
    apply keepsReading_withReturn.insertions_map
    intro l hl rest
    have hcr : l.cr = false := cr_of_mem_readAll (return_notMem_of_mem_split h) hl
    exact crlf_comment hm.2.2.1 (newline_notMem_describe (scan_namedOnLine hp hl) rest) hcr
  · rw [slots_of_not_hasConstructs hc, slots_of_not_hasConstructs hc, scan_crlf_of_endsLine h hends, List.map_map,
      List.map_map]
    rfl

/-- How the lines of a text end has no part in how they read, and the comments put in end as they do. -/
theorem crlf_irrelevant (hp : p ∈ Registry.profiles) {text : Bytes} (h : carriageReturn ∉ text) :
    (scan p (crlf text)).map withoutReturn = scan p text ∧
      Summary.ofText p (crlf text) = Summary.ofText p text ∧
      (EndsLine text → annotate p (crlf text) = crlf (annotate p text)) := by
  have hscan := scan_crlf (p := p) h
  refine ⟨hscan, ?_, fun hends => ?_⟩
  · have hwithout (lines : List Line) : Summary.ofLines (lines.map withoutReturn) = Summary.ofLines lines :=
      Summary.ofLines_map (f := withoutReturn) (fun _ => rfl) (fun _ => rfl) lines
    rw [Summary.ofText, Summary.ofText, ← hwithout, hscan]
  · have hslots := slots_crlf (Profile.annotatable_of_mem hp) h hends
    rw [annotate_eq_weave, annotate_eq_weave, hslots, pieces_crlf, crlf_weave]

def indentedFunction : Bytes := utf8 "\n  def f():\n"

theorem crlf_irrelevant_function :
    carriageReturn ∉ indentedFunction ∧ EndsLine indentedFunction ∧
      (scan .python (crlf indentedFunction)).map withoutReturn = scan .python indentedFunction ∧
      Summary.ofText .python (crlf indentedFunction) = Summary.ofText .python indentedFunction ∧
      annotate .python (crlf indentedFunction) = crlf (annotate .python indentedFunction) := by
  have hreturn : carriageReturn ∉ indentedFunction := by decide
  have hends : EndsLine indentedFunction := fun b hb => (Option.mem_some_iff.mp hb).symm
  have hpython : Profile.python ∈ Registry.profiles := by simp [Registry.profiles]
  obtain ⟨hscan, hsummary, hannotate⟩ := crlf_irrelevant hpython hreturn
  exact ⟨hreturn, hends, hscan, hsummary, hannotate hends⟩

end SourceSurvey.Annotation
