import Mathlib
import SourceSurvey.Language.Corroboration
import SourceSurvey.Proofs.Line.Keywords
import SourceSurvey.Proofs.Text.LineEnd
import SourceSurvey.Proofs.Text.Terminators

namespace SourceSurvey.Bytes

open Utf8

theorem glyphs_return (s : Bytes) : glyphs (s ++ [carriageReturn]) = glyphs s ++ [ascii carriageReturn] := by
  rw [glyphs_append_ascii (by decide), glyphs_nil]

theorem isSpace_return : Letter.isSpace (ascii carriageReturn).char := by decide

theorem isBlank_return (s : Bytes) : (s ++ [carriageReturn]).isBlank = s.isBlank := by
  rw [isBlank, isBlank, glyphs_return, List.all_append]
  simp [isSpace_return]

theorem strip_return (s : Bytes) : (s ++ [carriageReturn]).strip = s.strip := by
  simp only [strip, glyphs_return, List.dropWhile_append]
  split
  · rename_i hempty
    rw [List.isEmpty_iff] at hempty
    simp [hempty, isSpace_return]
  · simp [isSpace_return]

def UpToReturn (s t : Bytes) : Prop := t = s ∨ t = s ++ [carriageReturn]

theorem UpToReturn.isBlank {s t : Bytes} (h : UpToReturn s t) : t.isBlank = s.isBlank := by
  obtain rfl | rfl := h
  · rfl
  · exact isBlank_return s

end SourceSurvey.Bytes

namespace SourceSurvey.Line

open Bytes

theorem forall₂_split_crlf (text : Bytes) : List.Forall₂ UpToReturn (split text) (split (crlf text)) := by
  induction text using text_induction with
  | last last h =>
      rw [crlf_of_notMem h]
      exact List.forall₂_same.mpr fun line _ => .inl rfl
  | line raw rest h ih =>
      rw [crlf_line h, split_line h, split_line (newline_notMem_return h)]
      exact .cons (.inr rfl) ih

end SourceSurvey.Line

namespace SourceSurvey.Profile

open Bytes

/-- The rules that a line is scored by. -/
def ruleGroups (p : Profile) : List (List Pattern) := [p.signatures, p.imports, p.functions, p.classes, p.bindings]

/-- The ends of a line behind which a carriage return changes what some rule finds. -/
def brinks (p : Profile) : List Pattern :=
  (p.ruleGroups.flatten.filter fun rule => !rule.isSteady).filterMap Pattern.brink?

/-- A line that does not end where one of these rules can tell. -/
def AvoidsBrinks (p : Profile) (line : Bytes) : Prop :=
  ∀ brink ∈ p.brinks, ¬(brink ++ Pattern.stop).occursIn line

theorem isSteady_or_brink_of_mem : ∀ p ∈ Registry.profiles,
    ∀ rule ∈ p.ruleGroups.flatten, rule.isSteady ∨ rule.brink?.isSome := by
  decide +kernel

end SourceSurvey.Profile

namespace SourceSurvey.Corroboration

open Bytes Line

variable {p : Profile}

theorem occursIn_rule_return (hp : p ∈ Registry.profiles) {line : Bytes} (h : p.AvoidsBrinks line)
    {rule : Pattern} (hrule : rule ∈ p.ruleGroups.flatten) :
    rule.occursIn (line ++ [carriageReturn]) = rule.occursIn line := by
  by_cases hsteady : rule.isSteady
  · exact Pattern.occursIn_return_of_isSteady hsteady line
  · have hsome := (Profile.isSteady_or_brink_of_mem p hp rule hrule).resolve_left hsteady
    obtain ⟨brink, hbrink⟩ := Option.isSome_iff_exists.mp hsome
    have hmem : brink ∈ p.brinks :=
      List.mem_filterMap.mpr ⟨rule, List.mem_filter.mpr ⟨hrule, by simpa using hsteady⟩, hbrink⟩
    exact Pattern.occursIn_return_of_brink hbrink (h brink hmem)

theorem any_rule_return (hp : p ∈ Registry.profiles) {line : Bytes} (h : p.AvoidsBrinks line)
    {rules : List Pattern} (hrules : rules ∈ p.ruleGroups) :
    (rules.any fun rule => rule.occursIn (line ++ [carriageReturn])) =
      rules.any fun rule => rule.occursIn line := by
  rw [Bool.eq_iff_iff, List.any_eq_true, List.any_eq_true]
  refine exists_congr fun rule => and_congr_right fun hrule => ?_
  rw [occursIn_rule_return hp h (List.mem_flatten_of_mem hrules hrule)]

theorem lineWeight_return (hp : p ∈ Registry.profiles) {line : Bytes} (h : p.AvoidsBrinks line) :
    lineWeight p (line ++ [carriageReturn]) = lineWeight p line := by
  have hkeywords : Constructs.keywords (line ++ [carriageReturn]) = Constructs.keywords line := by
    rw [Constructs.keywords_append (by decide), Constructs.keywords_nil, List.append_nil]
  have hany {rules : List Pattern} (hrules : rules ∈ p.ruleGroups) := any_rule_return hp h hrules
  rw [Profile.ruleGroups] at hany
  simp only [lineWeight, strip_return, hkeywords, List.any_cons, List.any_nil, @hany p.signatures (by simp),
    @hany p.imports (by simp), @hany p.functions (by simp), @hany p.classes (by simp), @hany p.bindings (by simp)]

theorem forall₂_sample_crlf (limit : Int) (text : Bytes) :
    List.Forall₂ UpToReturn (sample limit text) (sample limit (crlf text)) := by
  have hfilter {s t : Bytes} (h : UpToReturn s t) : (!s.isBlank) = true ↔ (!t.isBlank) = true := by
    rw [h.isBlank]
  have hlines := List.rel_filter @hfilter (forall₂_split_crlf text)
  rw [sample, sample]
  split
  · exact List.forall₂_take _ hlines
  · exact hlines

theorem weights_crlf (hp : p ∈ Registry.profiles) {limit : Int} {text : Bytes}
    (h : ∀ line ∈ sample limit text, p.AvoidsBrinks line) :
    weights p limit (crlf text) = weights p limit text := by
  have hsample := forall₂_sample_crlf limit text
  rw [weights, weights]
  generalize sample limit text = lines, sample limit (crlf text) = returned at h hsample ⊢
  induction hsample with
  | nil => rfl
  | @cons line returned lines rest hline _ ih =>
      have hweight : lineWeight p returned = lineWeight p line := by
        rcases hline with rfl | rfl
        · rfl
        · exact lineWeight_return hp (h line List.mem_cons_self)
      rw [List.map_cons, List.map_cons, hweight, ih fun l hl => h l (List.mem_cons_of_mem line hl)]

/-- A text scores the same with carriage returns and without, and counts as signed or not, if no sampled
line ends where a rule of its language insists on a blank or on the end of the line. -/
theorem score_crlf (hp : p ∈ Registry.profiles) {limit : Int} {text : Bytes}
    (h : ∀ line ∈ sample limit text, p.AvoidsBrinks line) :
    score p limit (crlf text) = score p limit text ∧ isSigned p limit (crlf text) = isSigned p limit text := by
  have hweights := weights_crlf hp h
  rw [score, score, isSigned, isSigned, hweights]
  exact ⟨rfl, rfl⟩

def greeting : Bytes := utf8 "for i\n  echo $i\n"

theorem score_crlf_shell : Profile.shell ∈ Registry.profiles ∧
    (∀ line ∈ sample 0 greeting, Profile.shell.AvoidsBrinks line) ∧
    score .shell 0 (crlf greeting) = score .shell 0 greeting ∧
    isSigned .shell 0 (crlf greeting) = isSigned .shell 0 greeting := by
  have hshell : Profile.shell ∈ Registry.profiles := by simp [Registry.profiles]
  have hends : ∀ line ∈ sample 0 greeting, Profile.shell.AvoidsBrinks line := by
    have hsample : sample 0 greeting = [utf8 "for i", utf8 "  echo $i"] := by cbv
    have hbrinks : Profile.shell.brinks = [.start ++ .gap ++ .lit "echo"] := by decide +kernel
    have hfirst : (Pattern.start ++ .gap ++ .lit "echo" ++ .stop).occursIn (utf8 "for i") = false := by cbv
    have hsecond : (Pattern.start ++ .gap ++ .lit "echo" ++ .stop).occursIn (utf8 "  echo $i") = false := by cbv
    simp [Profile.AvoidsBrinks, hsample, hbrinks, hfirst, hsecond]
  exact ⟨hshell, hends, score_crlf hshell hends⟩

def classHeader : Bytes := utf8 "class Foo\n"

theorem score_crlf_classHeader : carriageReturn ∉ classHeader ∧ score .cpp 0 classHeader = 1 / 2 ∧
    score .cpp 0 (crlf classHeader) = 0 := by
  have hreturn : weights .cpp 0 (crlf classHeader) = [0] := by cbv
  have hplain : weights .cpp 0 classHeader = [2] := by cbv
  have hcpp : Profile.cpp.hasConstructs = true := rfl
  refine ⟨by decide +kernel, ?_, ?_⟩
  · rw [score, hplain, hcpp]
    decide +kernel
  · rw [score, hreturn, hcpp]
    decide +kernel

end SourceSurvey.Corroboration
