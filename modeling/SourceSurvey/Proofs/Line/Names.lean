import Mathlib
import SourceSurvey.Profile.Registry
import SourceSurvey.Proofs.Line.Reading

namespace SourceSurvey.Lexer

open Bytes Relation

def fillers (p : Profile) : List UInt8 := space :: (p.quotes ++ p.fences.flatten ++ (p.fences.map fenceCloser).flatten)

variable {p : Profile} {text : Bytes} {w x : Walk}

def Copies (p : Profile) (w x : Walk) : Prop :=
  next? p w = some x ∧ w.state = .clean ∧ ∃ b, w.rest = b :: x.rest ∧ x.written = b :: w.written

def start (text : Bytes) : Walk := ⟨none, .clean, [], text⟩

def CopiesAfter (p : Profile) (text before part : Bytes) (w : Walk) : Prop :=
  ∃ v, Reaches p (start text) v ∧ v.written = before.reverse ∧ ReflTransGen (Copies p) v w ∧ v.rest = part ++ w.rest

/-- An open string ends with fillers, and with one at least. -/
def EndsInFillers (p : Profile) (w : Walk) : Prop :=
  ∀ closer, w.state = .string closer → closer ≠ [] ∧ ∀ b ∈ closer, b ∈ fillers p

theorem fence_subset_fillers {f : Bytes} (hf : f ∈ p.fences) :
    (∀ b ∈ f, b ∈ fillers p) ∧ ∀ b ∈ fenceCloser f, b ∈ fillers p := by
  constructor
  · intro b hb
    have hmem := List.mem_flatten_of_mem hf hb
    simp [fillers, hmem]
  · intro b hb
    have hmem := List.mem_flatten_of_mem (List.mem_map_of_mem hf) hb
    simp [fillers, hmem]

theorem fenceCloser_ne_nil {f : Bytes} (hf : f ≠ []) : fenceCloser f ≠ [] := by
  rw [fenceCloser]
  split
  · decide
  · exact hf

theorem next?_writes (hw : EndsInFillers p w) (h : next? p w = some x) :
    EndsInFillers p x ∧ (Copies p w x ∨
      ∃ added, x.written = added ++ w.written ∧ (∀ b ∈ added, b ∈ fillers p) ∧ (added = [] → x.state ≠ .clean)) := by
  -- A step closes what is open, opens a comment or a fence, passes a literal, or copies one byte.
  have hstep := h
  obtain ⟨before, state, written, rest⟩ := w
  cases rest with
  | nil => simp [next?] at h
  | cons b r =>
      cases state with
      | comment closer =>
          obtain ⟨⟨passed, rest⟩, hcut, rfl⟩ := Option.map_eq_some_iff.mp h
          exact ⟨fun _ hstate => by simp at hstate, .inr ⟨[space], rfl, by simp [fillers], by simp⟩⟩
      | string closer =>
          obtain ⟨⟨passed, rest⟩, hcut, rfl⟩ := Option.map_eq_some_iff.mp h
          obtain ⟨hne, hcloser⟩ := hw closer rfl
          exact ⟨fun _ hstate => by simp at hstate, .inr ⟨closer.reverse, rfl, by simpa using hcloser, by simp [hne]⟩⟩
      | clean =>
          simp only [next?] at h
          split at h
          · cases h
            exact ⟨fun _ hstate => by simp at hstate, .inr ⟨[], rfl, by simp, by simp⟩⟩
          split at h
          · rename_i f hfence
            obtain ⟨hfound, hne⟩ := Option.filter_eq_some_iff.mp hfence
            have hf := List.mem_of_find?_eq_some hfound
            have hne : f ≠ [] := by simpa using hne
            cases h
            refine ⟨?_, .inr ⟨f.reverse, rfl, by simpa using (fence_subset_fillers hf).1, by simp [hne]⟩⟩
            rintro closer ⟨⟩
            exact ⟨fenceCloser_ne_nil hne, (fence_subset_fillers hf).2⟩
          split at h
          · cases h
          split at h
          · rename_i hquote
            have hb : b ∈ fillers p := by simp [fillers, List.contains_iff_mem.mp hquote]
            cases h
            exact ⟨fun _ hstate => by simp at hstate, .inr ⟨[b, b], rfl, by simp [hb], by simp⟩⟩
          · cases h
            exact ⟨fun _ hstate => by simp at hstate, .inl ⟨hstep, rfl, b, rfl, rfl⟩⟩

/-- Every part of the code so far that holds no filler was copied, and where the walk stands right behind such a part,
it has done nothing since. -/
def Copied (p : Profile) (text : Bytes) (w : Walk) : Prop :=
  ∀ before part after, w.written.reverse = before ++ part ++ after → part ≠ [] → (∀ b ∈ part, b ∉ fillers p) →
    ∃ v, CopiesAfter p text before part v ∧ (after = [] → w.state = .clean → v = w)

structure Faithful (p : Profile) (text : Bytes) (w : Walk) : Prop where
  reached : Reaches p (start text) w
  endsInFillers : EndsInFillers p w
  copied : Copied p text w

theorem faithful_start : Faithful p text (start text) where
  reached := .refl
  endsInFillers := fun _ hstate => by simp [start] at hstate
  copied := fun before part after h hne => by simp_all [start]

theorem split_written {before part after written added : Bytes} (h : written ++ added = before ++ part ++ after)
    (hne : part ≠ []) :
    (∃ gap, written = before ++ part ++ gap ∧ after = gap ++ added) ∨
      ∃ head b more, part = head ++ [b] ∧ written ++ more = before ++ head ∧ added = more ++ b :: after := by
  obtain ⟨gap, hgap, hafter⟩ | ⟨beyond, hover, hadded⟩ := List.append_eq_append_iff.mp h.symm
  · exact .inl ⟨gap, hgap, hafter⟩
  · rcases List.eq_nil_or_concat beyond with rfl | ⟨more, b, rfl⟩
    · exact .inl ⟨[], by simpa using hover.symm, by simpa using hadded.symm⟩
    · obtain ⟨head, c, rfl⟩ := (List.eq_nil_or_concat part).resolve_left hne
      rw [List.concat_eq_append, List.concat_eq_append, ← List.append_assoc, ← List.append_assoc] at hover
      obtain ⟨hhead, hb⟩ := List.append_inj' hover rfl
      obtain rfl : c = b := by simpa using hb
      exact .inr ⟨head, c, more, by simp, hhead.symm, by simpa using hadded⟩

theorem Faithful.copied_of_copies (hw : Faithful p text w) (h : Copies p w x) : Copied p text x := by
  intro before part after hwritten hne hpart
  obtain ⟨-, hclean, b, hrest, hb⟩ := id h
  rw [hb, List.reverse_cons] at hwritten
  obtain ⟨gap, hgap, rfl⟩ | ⟨head, c, more, rfl, hmore, hadded⟩ := split_written hwritten hne
  · obtain ⟨v, hv, -⟩ := hw.copied before part gap hgap hne hpart
    exact ⟨v, hv, by simp⟩
  · obtain ⟨rfl, rfl, rfl⟩ : more = [] ∧ c = b ∧ after = [] := by
      cases more <;> simp_all
    rw [List.append_nil] at hmore
    refine ⟨x, ?_, fun _ _ => rfl⟩
    by_cases hhead : head = []
    · subst hhead
      refine ⟨w, hw.reached, ?_, .single h, by simpa using hrest⟩
      rw [← List.reverse_eq_iff, hmore, List.append_nil]
    · obtain ⟨v, ⟨u, hu, hbefore, hpath, hprest⟩, hend⟩ :=
        hw.copied before head [] (by simpa using hmore) hhead fun d hd => hpart d (List.mem_append_left _ hd)
      obtain rfl := hend rfl hclean
      refine ⟨u, hu, hbefore, hpath.tail h, ?_⟩
      rw [hprest, hrest, List.append_assoc, List.singleton_append]

theorem Copied.of_fillers {added : Bytes} (hw : Copied p text w) (hadded : x.written = added ++ w.written)
    (hfillers : ∀ b ∈ added, b ∈ fillers p) (hopened : added = [] → x.state ≠ .clean) : Copied p text x := by
  intro before part after hwritten hne hpart
  rw [hadded, List.reverse_append] at hwritten
  obtain ⟨gap, hgap, rfl⟩ | ⟨head, c, more, rfl, -, hover⟩ := split_written hwritten hne
  · obtain ⟨v, hv, -⟩ := hw before part gap hgap hne hpart
    refine ⟨v, hv, fun hafter hclean => absurd hclean (hopened ?_)⟩
    simpa using (List.append_eq_nil_iff.mp hafter).2
  · have hc : c ∈ added := List.mem_reverse.mp (by rw [hover]; simp)
    exact absurd (hfillers c hc) (hpart c (by simp))

theorem Faithful.next? (hw : Faithful p text w) (h : next? p w = some x) : Faithful p text x := by
  obtain ⟨hends, hwrites⟩ := next?_writes hw.endsInFillers h
  refine ⟨hw.reached.tail h, hends, ?_⟩
  obtain hcopies | ⟨added, hadded, hfillers, hopened⟩ := hwrites
  · exact hw.copied_of_copies hcopies
  · exact hw.copied.of_fillers hadded hfillers hopened

theorem line_copied {before part after : Bytes} (h : (line p .clean text).1 = before ++ part ++ after) (hne : part ≠ [])
    (hpart : ∀ b ∈ part, b ∉ fillers p) : ∃ v, CopiesAfter p text before part v := by
  obtain ⟨x, hx, hrun⟩ := run_invariant (fun w x hw h => Faithful.next? hw h) (start text) faithful_start
  have hcode : line p .clean text = (x.written.reverse, x.state) := hrun
  rw [hcode] at h
  obtain ⟨v, hv, -⟩ := hx.copied before part after h hne hpart
  exact ⟨v, hv⟩

theorem CopiesAfter.infix {before part : Bytes} {v : Walk} (h : CopiesAfter p text before part v) : part <:+: text := by
  obtain ⟨u, hu, -, -, hrest⟩ := h
  exact List.infix_iff_prefix_suffix.mpr ⟨u.rest, ⟨v.rest, hrest.symm⟩, suffix_of_reaches hu⟩

end SourceSurvey.Lexer

namespace SourceSurvey.Profile

/-- In every registered profile, each pattern for declarations captures a name, and no character that stands in
place of a comment or a literal. -/
theorem names_of_mem : ∀ p ∈ Registry.profiles, ∀ q ∈ p.functions ++ p.classes,
    q.names ∧ q.namesAvoid (Lexer.fillers p) := by
  decide +kernel

end SourceSurvey.Profile

namespace SourceSurvey.Line

open Lexer

variable {p : Profile}

/-- A line that declares something has a name for it: one that is not reserved in any letter case and that was copied
from the line in one piece, with no comment or literal in between. -/
theorem scan_names (hp : p ∈ Registry.profiles) (text : Bytes) :
    ∀ l ∈ scan p text, l.isDeclaration →
      l.constructs.name ≠ [] ∧ l.constructs.name.lower ∉ Constructs.reservedNames ∧
        l.constructs.name <:+: l.text ∧ l.constructs.name <:+: l.code ∧
        ∀ before after, l.code = before ++ l.constructs.name ++ after →
          ∃ v, CopiesAfter p l.text before l.constructs.name v := by
  intro l hl hdeclares
  obtain ⟨number, state, raw, -, rfl⟩ := exists_read_of_mem hl
  rcases hclass : classify p state (chomp raw) with ⟨kind, code, after⟩
  rw [read_of_classify hclass] at hdeclares ⊢
  by_cases hkind : kind = .code
  · subst hkind
    have hline : code = (Lexer.line p .clean (chomp raw)).1 := by
      have hkind : (classify p state (chomp raw)).1 = .code := by rw [hclass]
      rw [← (classify_code hkind).2, hclass]
    rw [isDeclaration, Bool.or_eq_true] at hdeclares
    obtain ⟨hne, hreserved, hinfix, hfillers⟩ := Constructs.ofCode_named (Profile.names_of_mem p hp) hdeclares
    have hcopied (before rest : Bytes) (h : code = before ++ (Constructs.ofCode p code).name ++ rest) :
        ∃ v, CopiesAfter p (chomp raw) before (Constructs.ofCode p code).name v :=
      line_copied (hline.symm.trans h) hne hfillers
    obtain ⟨before, rest, hstands⟩ := hinfix
    obtain ⟨v, hv⟩ := hcopied before rest hstands.symm
    exact ⟨hne, hreserved, hv.infix, ⟨before, rest, hstands⟩, hcopied⟩
  · simp [isDeclaration, hkind] at hdeclares

def annotatedFunction : Bytes := utf8 "func /* all */ total() \x7b"

theorem scan_names_total : Profile.go ∈ Registry.profiles ∧ ∃ l ∈ scan .go annotatedFunction, l.isDeclaration ∧
    l.constructs.name = utf8 "total" ∧ l.constructs.name <:+: annotatedFunction ∧
      ∃ v, CopiesAfter .go annotatedFunction (utf8 "func   ") (utf8 "total") v := by
  have hgo : Profile.go ∈ Registry.profiles := by simp [Registry.profiles]
  have hscan : scan .go annotatedFunction = [⟨1, annotatedFunction, false, .code, .clean, utf8 "func   total() \x7b",
      { isFunction := true, name := utf8 "total" }⟩] := by cbv
  have hl := hscan ▸ List.mem_cons_self
  obtain ⟨-, -, htext, -, hcopied⟩ := scan_names hgo annotatedFunction _ hl rfl
  exact ⟨hgo, _, hl, rfl, rfl, htext, hcopied (utf8 "func   ") (utf8 "() \x7b") (by decide)⟩

end SourceSurvey.Line
