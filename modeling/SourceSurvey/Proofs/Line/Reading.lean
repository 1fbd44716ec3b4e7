import SourceSurvey.Line.Scan
import SourceSurvey.Proofs.Line.Walk
import SourceSurvey.Proofs.Profile.Markers
import SourceSurvey.Proofs.Text.Captures

namespace SourceSurvey.Lexer

open Bytes

theorem newline_notMem_fenceCloser {f : Bytes} (h : newline ∉ f) : newline ∉ fenceCloser f := by
  rw [fenceCloser]
  split
  · decide
  · exact h

def OneLine (w : Walk) : Prop :=
  newline ∉ w.written ∧ newline ∉ w.rest ∧ ∀ closer, w.state = .string closer → newline ∉ closer

theorem OneLine.next? {p : Profile} (hp : ∀ f ∈ p.fences, newline ∉ f) {w x : Walk} (hw : OneLine w)
    (h : next? p w = some x) : OneLine x := by
  have hrest : newline ∉ x.rest := fun hmem => hw.2.1 ((next?_suffix h).subset hmem)
  obtain ⟨before, state, written, rest⟩ := w
  obtain ⟨hwritten, hline, hcloser⟩ := hw
  cases rest with
  | nil => simp [Lexer.next?] at h
  | cons b r =>
      cases state with
      | comment closer =>
          obtain ⟨⟨passed, rest⟩, hcut, rfl⟩ := Option.map_eq_some_iff.mp h
          exact ⟨by simp_all [space, newline], hrest, by simp⟩
      | string closer =>
          obtain ⟨⟨passed, rest⟩, hcut, rfl⟩ := Option.map_eq_some_iff.mp h
          exact ⟨by simp_all, hrest, by simp⟩
      | clean =>
          have hb : newline ≠ b := fun he => hline (he ▸ List.mem_cons_self)
          simp only [Lexer.next?] at h
          split at h
          · cases h
            exact ⟨hwritten, hrest, by simp⟩
          split at h
          · rename_i f hfence
            have hf : newline ∉ f := by
              have hfound := Option.eq_some_of_filter_eq_some hfence
              exact hp f (List.mem_of_find?_eq_some hfound)
            cases h
            refine ⟨by simp_all, hrest, ?_⟩
            rintro closer ⟨⟩
            exact newline_notMem_fenceCloser hf
          split at h
          · cases h
          split at h
          · cases h
            exact ⟨by simp_all, hrest, by simp⟩
          · cases h
            exact ⟨by simp_all, hrest, by simp⟩

theorem newline_notMem_line {p : Profile} (hp : ∀ f ∈ p.fences, newline ∉ f) {text : Bytes}
    (ht : newline ∉ text) : newline ∉ (line p .clean text).1 := by
  have hstart : OneLine ⟨none, .clean, [], text⟩ := ⟨by simp, ht, by simp⟩
  obtain ⟨x, hx, hrun⟩ := run_invariant (fun w x hw h => hw.next? hp h) _ hstart
  have hcode : line p .clean text = (x.written.reverse, x.state) := hrun
  rw [hcode]
  simpa using hx.1

end SourceSurvey.Lexer

namespace SourceSurvey.Line

open Bytes

variable {p : Profile}

def chomp (raw : Bytes) : Bytes := if raw.getLast? = some carriageReturn then raw.dropLast else raw

theorem chomp_subset (raw : Bytes) : chomp raw ⊆ raw := by
  rw [chomp]
  split
  · exact List.dropLast_subset raw
  · exact List.Subset.refl raw

def unnumbered (l : Line) : Line := { l with number := 0 }

theorem read_unnumbered (number : Nat) (state : ScanState) (raw : Bytes) :
    (read p number state raw).1.unnumbered = (read p 0 state raw).1 := rfl

theorem readAll_cons (number : Nat) (state : ScanState) (raw : Bytes) (raws : List Bytes) :
    readAll p number state (raw :: raws) =
      (read p number state raw).1 :: readAll p (number + 1) (read p 0 state raw).2 raws := rfl

theorem readAll_append (number : Nat) (state : ScanState) (raws more : List Bytes) :
    readAll p number state (raws ++ more) =
      readAll p number state raws ++ readAll p (number + raws.length) (stateAfter p state raws) more := by
  induction raws generalizing number state with
  | nil => rfl
  | cons raw raws ih =>
      rw [List.cons_append, readAll_cons, readAll_cons, ih, List.cons_append, List.length_cons, stateAfter,
        Nat.add_right_comm, Nat.add_assoc]

theorem length_readAll (number : Nat) (state : ScanState) (raws : List Bytes) :
    (readAll p number state raws).length = raws.length := by
  induction raws generalizing number state with
  | nil => rfl
  | cons raw raws ih => rw [readAll_cons, List.length_cons, ih, List.length_cons]

theorem exists_read_of_mem {number : Nat} {state : ScanState} {raws : List Bytes} {l : Line}
    (h : l ∈ readAll p number state raws) : ∃ n start, ∃ raw ∈ raws, l = (read p n start raw).1 := by
  induction raws generalizing number state with
  | nil => simp [readAll] at h
  | cons raw raws ih =>
      rw [readAll_cons, List.mem_cons] at h
      rcases h with rfl | h
      · exact ⟨number, state, raw, List.mem_cons_self, rfl⟩
      · obtain ⟨n, start, r, hr, hl⟩ := ih h
        exact ⟨n, start, r, List.mem_cons_of_mem raw hr, hl⟩

theorem classify_code {state : ScanState} {text : Bytes} (h : (classify p state text).1 = .code) :
    state = .clean ∧ (classify p state text).2 = Lexer.line p .clean text := by
  unfold classify at h ⊢
  cases state <;> grind

theorem read_of_classify {state after : ScanState} {raw code : Bytes} {kind : LineKind}
    (h : classify p state (chomp raw) = (kind, code, after)) (number : Nat) :
    read p number state raw =
      (⟨number, chomp raw, raw.getLast? = some carriageReturn, kind, state, code,
        if kind = .code then Constructs.ofCode p code else {}⟩, after) := by
  rw [chomp] at h
  rw [read, h, chomp]

theorem read_constructs (number : Nat) (state : ScanState) (raw : Bytes) :
    (read p number state raw).1.constructs =
      if (classify p state (chomp raw)).1 = .code then Constructs.ofCode p (classify p state (chomp raw)).2.1
      else {} := rfl

theorem read_declaration {number : Nat} {state : ScanState} {raw : Bytes}
    (h : (read p number state raw).1.isDeclaration) : state = .clean ∧ p.hasConstructs := by
  rw [isDeclaration, read_constructs] at h
  split at h
  · rename_i hcode
    refine ⟨(classify_code hcode).1, ?_⟩
    by_contra hnone
    rw [Constructs.ofCode, if_pos (by simp [hnone])] at h
    simp at h
  · simp at h

theorem read_declared (hp : ∀ f ∈ p.fences, newline ∉ f) (number : Nat) (state : ScanState) {raw : Bytes}
    (hraw : newline ∉ raw) :
    newline ∉ (read p number state raw).1.constructs.name ∧
      newline ∉ (read p number state raw).1.constructs.keyword := by
  rw [read_constructs]
  split
  · rename_i hcode
    have htext : newline ∉ chomp raw := fun hmem => hraw (chomp_subset raw hmem)
    have hline := Lexer.newline_notMem_line hp htext
    rw [← (classify_code hcode).2] at hline
    obtain ⟨hname, hkeyword⟩ := Constructs.ofCode_subset p (classify p state (chomp raw)).2.1
    exact ⟨fun hmem => hline (hname hmem), fun hmem => hline (hkeyword hmem)⟩
  · simp

end SourceSurvey.Line
