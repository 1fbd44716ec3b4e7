import SourceSurvey.Proofs.Line.Reading
import SourceSurvey.Proofs.Text.Lines
import SourceSurvey.Summary

namespace SourceSurvey.Constructs

def flags : List (Constructs → Bool) :=
  [(·.isImport), (·.isFunction), (·.isClass), (·.isVariable), (·.isLoop), (·.isConditional)]

theorem flag_empty : ∀ flag ∈ flags, flag {} = false := by decide

theorem isImport_mem : (·.isImport) ∈ flags := by simp [flags]

theorem isFunction_mem : (·.isFunction) ∈ flags := by simp [flags]

theorem isClass_mem : (·.isClass) ∈ flags := by simp [flags]

theorem ofCode_of_not_hasConstructs {p : Profile} (h : ¬p.hasConstructs) (code : Bytes) : ofCode p code = {} := by
  rw [ofCode, if_pos (by simp [h])]

end SourceSurvey.Constructs

namespace SourceSurvey.Line

open Bytes

variable {p : Profile} {l : Line} {lines : List Line}

theorem classify_code_eq_nil {state : ScanState} {text : Bytes} (h : (classify p state text).1 ≠ .code) :
    (classify p state text).2.1 = [] := by
  unfold classify at h ⊢
  cases state <;> grind

/-- What the kind of a line says of its start and of what it holds. -/
structure Classified (l : Line) : Prop where
  clean : l.kind = .code → l.start = .clean
  bare : l.kind ≠ .code → l.code = [] ∧ l.constructs = {}

theorem classified_read (number : Nat) (state : ScanState) (raw : Bytes) :
    (read p number state raw).1.Classified where
  clean h := (classify_code h).1
  bare h := ⟨classify_code_eq_nil h, if_neg h⟩

theorem classified_of_mem_scan {text : Bytes} (hl : l ∈ scan p text) : l.Classified := by
  obtain ⟨number, state, raw, -, rfl⟩ := exists_read_of_mem hl
  exact classified_read number state raw

theorem Classified.isCode (h : l.Classified) {flag : Constructs → Bool} (hflag : flag ∈ Constructs.flags)
    (hset : flag l.constructs) : l.kind = .code := by
  by_contra hkind
  rw [(h.bare hkind).2, Constructs.flag_empty flag hflag] at hset
  cases hset

/-- No declaration is lost for where it starts. -/
theorem declarations_eq_filter (h : ∀ l ∈ lines, l.Classified) : declarations lines = lines.filter (·.isDeclaration) := by
  refine List.filter_congr fun l hl => ?_
  by_cases hdeclares : l.isDeclaration
  · have hcode : l.kind = .code := by
      rw [isDeclaration, Bool.or_eq_true] at hdeclares
      rcases hdeclares with hfunction | hclass
      · exact (h l hl).isCode Constructs.isFunction_mem hfunction
      · exact (h l hl).isCode Constructs.isClass_mem hclass
    rw [(h l hl).clean hcode]
    simp [hdeclares, ScanState.isClean]
  · simp [hdeclares]

theorem countP_kinds (lines : List Line) :
    lines.countP (·.kind = .blank) + lines.countP (·.kind = .comment) + lines.countP (·.kind = .code) +
      lines.countP (·.kind = .string) = lines.length := by
  induction lines with
  | nil => rfl
  | cons l lines ih =>
      simp only [List.countP_cons, List.length_cons, ← ih]
      cases l.kind <;> simp <;> omega

theorem countP_flag_le (h : ∀ l ∈ lines, l.Classified) {flag : Constructs → Bool} (hflag : flag ∈ Constructs.flags) :
    lines.countP (fun l => flag l.constructs) ≤ lines.countP (·.kind = .code) :=
  List.countP_mono_left fun l hl hset => decide_eq_true ((h l hl).isCode hflag hset)

theorem countP_flag_of_not_hasConstructs (hp : ¬p.hasConstructs) (text : Bytes) {flag : Constructs → Bool}
    (hflag : flag ∈ Constructs.flags) : (scan p text).countP (fun l => flag l.constructs) = 0 := by
  rw [List.countP_eq_zero]
  intro l hl
  obtain ⟨number, state, raw, -, rfl⟩ := exists_read_of_mem hl
  have hnone : (read p number state raw).1.constructs = {} := by
    rw [read_constructs, Constructs.ofCode_of_not_hasConstructs hp, ite_self]
  rw [hnone, Constructs.flag_empty flag hflag]
  exact Bool.false_ne_true

theorem length_scan (p : Profile) (text : Bytes) :
    (scan p text).length + (if (List.splitOn newline text).getLast? = some [] then 1 else 0) =
      (List.splitOn newline text).length := by
  have hpieces : 0 < (List.splitOn newline text).length := List.length_pos_iff.mpr (List.splitOn_ne_nil newline text)
  rw [scan, length_readAll, split, splitByte_eq_splitOn]
  split
  · rw [List.length_dropLast, Nat.sub_add_cancel hpieces]
  · rfl

end SourceSurvey.Line

namespace SourceSurvey.Summary

def constructCounts (s : Summary) : List Int :=
  [s.imports, s.functions, s.classes, s.bindings, s.loops, s.conditionals]

theorem constructCounts_ofLines (lines : List Line) : (ofLines lines).constructCounts =
    Constructs.flags.map fun flag => (lines.countP fun l => flag l.constructs : Int) := rfl

end SourceSurvey.Summary

namespace SourceSurvey.Line

open Bytes

/-- The kinds divide up the lines of a text: constructs are only found on lines of code, which are those
that are neither blank nor comments nor begun inside of a string. -/
theorem scan_partition (p : Profile) (text : Bytes) :
    (∀ l ∈ scan p text, (l.kind = .code → l.start = .clean) ∧ (l.kind ≠ .code → l.code = [] ∧ l.constructs = {})) ∧
      declarations (scan p text) = (scan p text).filter (fun l => l.constructs.isFunction || l.constructs.isClass) ∧
      let s := Summary.ofText p text
      let ofKind (kind : LineKind) : Int := (scan p text).countP (·.kind = kind)
      s.emptyLines = ofKind .blank ∧ s.commentLines = ofKind .comment ∧
      s.emptyLines + s.commentLines + ofKind .code + ofKind .string = s.totalLines ∧
      s.totalLines = (List.splitOn newline text).length -
        (if (List.splitOn newline text).getLast? = some [] then 1 else 0) ∧
      ∀ count ∈ s.constructCounts,
        count ≤ s.totalLines - s.emptyLines - s.commentLines ∧ (¬p.hasConstructs → count = 0) := by
  have hlines : ∀ l ∈ scan p text, l.Classified := fun l hl => classified_of_mem_scan hl
  have hkinds := countP_kinds (scan p text)
  refine ⟨fun l hl => ⟨(hlines l hl).clean, (hlines l hl).bare⟩, declarations_eq_filter hlines, rfl, rfl, ?_, ?_, ?_⟩
  · simp only [Summary.ofText, Summary.ofLines]
    omega
  · rw [← length_scan p text]
    split <;> simp [Summary.ofText, Summary.ofLines]
  · intro count hcount
    rw [Summary.ofText, Summary.constructCounts_ofLines] at hcount
    obtain ⟨flag, hflag, rfl⟩ := List.mem_map.mp hcount
    have hle := countP_flag_le hlines hflag
    refine ⟨?_, fun hp => ?_⟩
    · simp only [Summary.ofText, Summary.ofLines]
      omega
    · rw [countP_flag_of_not_hasConstructs hp text hflag, Int.natCast_zero]

end SourceSurvey.Line
