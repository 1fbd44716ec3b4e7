import Mathlib
import SourceSurvey.Proofs.Line.Reading

namespace SourceSurvey.Constructs

open Bytes

section Words

def isName : Bytes → Bool
  | [] => false
  | b :: r => isWordStart b && r.all isWord

theorem isWord_of_isWordStart {b : UInt8} (h : isWordStart b) : isWord b := by
  grind [isWordStart, isWord]

theorem isDigit_of_isWord {b : UInt8} (h : isWord b) (hstart : ¬isWordStart b) : isDigit b := by
  grind [isWordStart, isWord]

theorem not_isWordStart_of_isDigit {b : UInt8} (h : isDigit b) : ¬isWordStart b := by
  grind [isWordStart, isDigit, isAlpha, isUpper, isLower]

theorem lt_of_isWord {b : UInt8} (h : isWord b) : b < 0x80 := by
  grind [isWord, isDigit, isAlpha, isUpper, isLower]

theorem isVisible_of_isWord {b : UInt8} (h : isWord b) : isVisible b := by
  grind [isVisible, isWord, isDigit, isAlpha, isUpper, isLower]

theorem isWordStart_lowerByte (b : UInt8) : isWordStart (lowerByte b) = isWordStart b := by
  grind [isWordStart, lowerByte, isAlpha, isUpper, isLower]

theorem isWord_lowerByte (b : UInt8) : isWord (lowerByte b) = isWord b := by
  grind [isWord, lowerByte, isDigit, isAlpha, isUpper, isLower]

theorem isWord_of_isName {word : Bytes} (h : isName word) : ∀ b ∈ word, isWord b := by
  cases word with
  | nil => simp
  | cons b r =>
      rw [isName, Bool.and_eq_true, List.all_eq_true] at h
      simpa using ⟨isWord_of_isWordStart h.1, h.2⟩

theorem isName_lowerAscii (word : Bytes) : isName word.lowerAscii = isName word := by
  cases word with
  | nil => rfl
  | cons b r => simp [isName, lowerAscii, isWordStart_lowerByte, isWord_lowerByte, Function.comp_def]

theorem lower_of_isName {word : Bytes} (h : isName word) : word.lower = word.lowerAscii := by
  rw [lower, if_pos]
  rw [List.all_eq_true]
  exact fun b hb => decide_eq_true (lt_of_isWord (isWord_of_isName h b hb))

end Words

variable {word code : Bytes}

@[simp] theorem keywords_nil : keywords [] = [] := by
  simp [keywords, tokens]

theorem keywords_append {b : UInt8} (hb : ¬isWord b) (u v : Bytes) :
    keywords (u ++ b :: v) = keywords u ++ keywords v := by
  have hstart : ¬isWordStart b := fun h => hb (isWord_of_isWordStart h)
  unfold keywords
  fun_induction tokens isWordStart isWord u with
  | case1 => rw [List.nil_append, tokens, if_neg hstart, List.nil_append]
  | case2 c r hc ih =>
      have htake : (r ++ b :: v).takeWhile isWord = r.takeWhile isWord := by
        rw [List.takeWhile_append]
        split
        · rename_i hall
          simp [hb, (List.takeWhile_prefix isWord).eq_of_length hall]
        · rfl
      have hdrop : (r ++ b :: v).dropWhile isWord = r.dropWhile isWord ++ b :: v := by
        rw [List.dropWhile_append]
        split <;> simp_all
      rw [List.cons_append, tokens, if_pos hc, htake, hdrop, ih, List.cons_append]
  | case3 c r hc ih => rw [List.cons_append, tokens, if_neg hc, ih]

theorem keywords_digits {digits : Bytes} (h : digits.all isDigit) (s : Bytes) :
    keywords (digits ++ s) = keywords s := by
  induction digits with
  | nil => rfl
  | cons d digits ih =>
      rw [List.all_cons, Bool.and_eq_true] at h
      rw [← ih h.2, List.cons_append, keywords, tokens, if_neg (not_isWordStart_of_isDigit h.1)]
      rfl

theorem keywords_name (h : isName word) {after : Bytes} (hafter : ∀ b ∈ after.head?, ¬isWord b) :
    keywords (word ++ after) = word :: keywords after := by
  cases word with
  | nil => cases h
  | cons b r =>
      rw [isName, Bool.and_eq_true, List.all_eq_true] at h
      have hstop : after.takeWhile isWord = [] ∧ after.dropWhile isWord = after := by
        cases after with
        | nil => exact ⟨rfl, rfl⟩
        | cons a after => simpa using hafter a rfl
      rw [List.cons_append, keywords, tokens, if_pos h.1, List.takeWhile_append_of_pos h.2,
        List.dropWhile_append_of_pos h.2, hstop.1, hstop.2, List.append_nil]
      rfl

def StandsBehind (front word code : Bytes) : Prop :=
  ∃ before after, code = before ++ (front ++ word) ++ after ∧
    (∀ b ∈ before.getLast?, ¬isWord b) ∧ ∀ b ∈ after.head?, ¬isWord b

/-- The word stands in the code, behind digits or behind none, and next to no other word byte. -/
def Stands (word code : Bytes) : Prop := ∃ digits : Bytes, digits.all isDigit ∧ StandsBehind digits word code

theorem standsBehind_iff {front : Bytes} : StandsBehind front word code ↔ ∃ n < code.length + 1,
    (front ++ word) <+: code.drop n ∧ (∀ b ∈ (code.take n).getLast?, ¬isWord b) ∧
      ∀ b ∈ (code.drop (n + (front ++ word).length)).head?, ¬isWord b := by
  constructor
  · rintro ⟨before, after, rfl, hbefore, hafter⟩
    have hlength : before.length < (before ++ (front ++ word) ++ after).length + 1 := by
      rw [List.append_assoc, List.length_append]
      omega
    refine ⟨before.length, hlength, by simp, by simpa using hbefore, ?_⟩
    rw [← List.length_append, List.drop_left]
    exact hafter
  · rintro ⟨n, -, ⟨after, hcode⟩, hbefore, hafter⟩
    refine ⟨code.take n, after, by rw [List.append_assoc, hcode, List.take_append_drop], hbefore, ?_⟩
    rwa [← List.drop_drop, ← hcode, List.drop_left] at hafter

theorem stands_of_mem_run {run : Bytes} (hrun : ∀ b ∈ run, isWord b) (h : word ∈ keywords run) :
    isName word ∧ Stands word run := by
  have hdigits : (run.takeWhile isDigit).all isDigit := List.all_takeWhile
  have hsplit : run.takeWhile isDigit ++ run.dropWhile isDigit = run := List.takeWhile_append_dropWhile
  rw [← hsplit, keywords_digits hdigits] at h
  cases hrest : run.dropWhile isDigit with
  | nil =>
      rw [hrest] at h
      simp [keywords, tokens] at h
  | cons b r =>
      have hb : isDigit b = false := by simpa [hrest] using List.head?_dropWhile_not isDigit run
      have hall : ∀ c ∈ b :: r, isWord c := fun c hc => hrun c (List.dropWhile_subset isDigit (hrest ▸ hc))
      have hstart : isWordStart b := by
        by_contra hnot
        simp [isDigit_of_isWord (hall b List.mem_cons_self) hnot] at hb
      have hname : isName (b :: r) := by
        rw [isName, hstart, Bool.true_and, List.all_eq_true]
        exact fun c hc => hall c (List.mem_cons_of_mem b hc)
      have hwords := @keywords_name (b :: r) hname [] (by simp)
      rw [List.append_nil] at hwords
      rw [hrest, hwords, keywords_nil, List.mem_singleton] at h
      exact ⟨h ▸ hname, _, hdigits, [], [], by simp [h, ← hrest], by simp, by simp⟩

theorem Stands.append_left {u : Bytes} {b : UInt8} (hb : ¬isWord b) (h : Stands word u) (v : Bytes) :
    Stands word (u ++ b :: v) := by
  obtain ⟨digits, hdigits, before, after, rfl, hbefore, hafter⟩ := h
  refine ⟨digits, hdigits, before, after ++ b :: v, by simp, hbefore, ?_⟩
  cases after with
  | nil => simpa using hb
  | cons a after => exact hafter

theorem Stands.append_right {v : Bytes} {b : UInt8} (hb : ¬isWord b) (h : Stands word v) (u : Bytes) :
    Stands word (u ++ b :: v) := by
  obtain ⟨digits, hdigits, before, after, rfl, hbefore, hafter⟩ := h
  refine ⟨digits, hdigits, u ++ b :: before, after, by simp, ?_, hafter⟩
  cases before with
  | nil => simpa using hb
  | cons a before => simpa using hbefore

theorem stands_of_mem_keywords {code : Bytes} (h : word ∈ keywords code) :
    isName word ∧ Stands word code := by
  -- The code is a run of word bytes, which a byte that no word holds and further code may follow.
  have hsplit : code.takeWhile isWord ++ code.dropWhile isWord = code := List.takeWhile_append_dropWhile
  have hrun : ∀ b ∈ code.takeWhile isWord, isWord b := fun b hb => List.mem_takeWhile_imp hb
  cases hrest : code.dropWhile isWord with
  | nil =>
      rw [hrest, List.append_nil] at hsplit
      rw [hsplit] at hrun
      exact stands_of_mem_run hrun h
  | cons b rest =>
      have hb : ¬isWord b := by simpa [hrest] using List.head?_dropWhile_not isWord code
      rw [hrest] at hsplit
      have hshorter : rest.length < code.length := by
        rw [← hsplit, List.length_append, List.length_cons]
        omega
      rw [← hsplit, keywords_append hb, List.mem_append] at h
      rw [← hsplit]
      rcases h with h | h
      · obtain ⟨hname, hstands⟩ := stands_of_mem_run hrun h
        exact ⟨hname, hstands.append_left hb rest⟩
      · obtain ⟨hname, hstands⟩ := stands_of_mem_keywords h
        exact ⟨hname, hstands.append_right hb _⟩
termination_by code.length

theorem mem_keywords_iff : word ∈ keywords code ↔ isName word ∧ Stands word code := by
  constructor
  · exact stands_of_mem_keywords
  · rintro ⟨hword, digits, hdigits, before, after, rfl, hbefore, hafter⟩
    have hhere : word ∈ keywords ((digits ++ word) ++ after) := by
      rw [List.append_assoc, keywords_digits hdigits, keywords_name hword hafter]
      exact List.mem_cons_self
    obtain rfl | ⟨before, b, rfl⟩ := List.eq_nil_or_concat before
    · exact hhere
    · have hb : ¬isWord b := hbefore b (by simp)
      rw [List.concat_eq_append, List.append_assoc, List.append_assoc, List.singleton_append, keywords_append hb]
      exact List.mem_append_right _ hhere

theorem keywords_of_isBlank (h : code.isBlank) : keywords code = [] := by
  rw [List.eq_nil_iff_forall_not_mem]
  intro word hword
  obtain ⟨hname, digits, -, before, after, hcode, -⟩ := mem_keywords_iff.mp hword
  obtain ⟨b, r, rfl⟩ := List.exists_cons_of_ne_nil (show word ≠ [] by rintro rfl; cases hname)
  have hb : isVisible b := isVisible_of_isWord (isWord_of_isName hname b List.mem_cons_self)
  rw [isBlank_of_visible (show b ∈ code by simp [hcode]) hb] at h
  simp at h

end SourceSurvey.Constructs

namespace SourceSurvey.Profile

open Bytes Constructs

variable {p : Profile}

/-- Whether the profile takes the two for one word: where it ignores case, letters of either case will do. -/
def Equates (p : Profile) (s t : Bytes) : Prop := if p.ignoresCase then s.lowerAscii = t.lowerAscii else s = t

theorem fold_eq_iff {s t : Bytes} (hs : isName s) (ht : isName t) : p.fold s = p.fold t ↔ p.Equates s t := by
  rw [fold, fold, Equates, lower_of_isName hs, lower_of_isName ht]
  split <;> rfl

theorem Equates.isName {s t : Bytes} (h : p.Equates s t) (ht : isName t) : isName s := by
  rw [Equates] at h
  split at h
  · rw [← isName_lowerAscii, h, isName_lowerAscii]
    exact ht
  · exact h ▸ ht

theorem isName_of_mem : ∀ p ∈ Registry.profiles,
    ∀ keyword ∈ p.loops ++ p.conditionals, Constructs.isName keyword := by
  decide +kernel

theorem keywords_of_not_hasConstructs (h : ¬p.hasConstructs) : p.loops = [] ∧ p.conditionals = [] := by
  simp_all [hasConstructs]

end SourceSurvey.Profile

namespace SourceSurvey.Constructs

open Bytes

variable {p : Profile} {code : Bytes}

def Counts (p : Profile) (keyword code : Bytes) : Prop := ∃ word, p.Equates word keyword ∧ Stands word code

theorem any_keywords_iff {keywordList : List Bytes} (h : ∀ keyword ∈ keywordList, isName keyword) :
    ((keywords code).map p.fold).any (keywordList.map p.fold).contains ↔
      ∃ keyword ∈ keywordList, Counts p keyword code := by
  simp only [List.any_map, List.any_eq_true, Function.comp_apply, List.contains_iff_mem, List.mem_map]
  constructor
  · rintro ⟨word, hword, keyword, hkeyword, hfold⟩
    obtain ⟨hname, hstands⟩ := mem_keywords_iff.mp hword
    have hequates := (Profile.fold_eq_iff hname (h keyword hkeyword)).mp hfold.symm
    exact ⟨keyword, hkeyword, word, hequates, hstands⟩
  · rintro ⟨keyword, hkeyword, word, hequates, hstands⟩
    have hname := hequates.isName (h keyword hkeyword)
    have hfold := (Profile.fold_eq_iff hname (h keyword hkeyword)).mpr hequates
    exact ⟨word, mem_keywords_iff.mpr ⟨hname, hstands⟩, keyword, hkeyword, hfold.symm⟩

theorem ofCode_flags (p : Profile) (code : Bytes) :
    (ofCode p code).isLoop = ((keywords code).map p.fold).any (p.loops.map p.fold).contains ∧
      (ofCode p code).isConditional = ((keywords code).map p.fold).any (p.conditionals.map p.fold).contains := by
  rw [ofCode]
  split
  · rename_i hnothing
    rw [Bool.or_eq_true, Bool.not_eq_true'] at hnothing
    rcases hnothing with hnone | hblank
    · obtain ⟨hloops, hconditionals⟩ := Profile.keywords_of_not_hasConstructs (Bool.eq_false_iff.mp hnone)
      simp [hloops, hconditionals]
    · simp [keywords_of_isBlank hblank]
  · exact ⟨rfl, rfl⟩

end SourceSurvey.Constructs

namespace SourceSurvey.Line

open Bytes Constructs

variable {p : Profile}

/-- A line of code is a loop or a conditional if one of the keywords stands in it as a word, and no other
line is. -/
theorem scan_keywords (hp : p ∈ Registry.profiles) {text : Bytes} {l : Line} (hl : l ∈ scan p text) :
    (l.constructs.isLoop ↔ l.kind = .code ∧ ∃ keyword ∈ p.loops, Counts p keyword l.code) ∧
      (l.constructs.isConditional ↔
        l.kind = .code ∧ ∃ keyword ∈ p.conditionals, Counts p keyword l.code) := by
  have hnames := Profile.isName_of_mem p hp
  obtain ⟨number, start, raw, -, rfl⟩ := exists_read_of_mem hl
  have hread : (read p number start raw).1.kind = (classify p start (chomp raw)).1 ∧
      (read p number start raw).1.code = (classify p start (chomp raw)).2.1 := ⟨rfl, rfl⟩
  rw [read_constructs, hread.1, hread.2]
  split
  · rename_i hcode
    obtain ⟨hloop, hconditional⟩ := ofCode_flags p (classify p start (chomp raw)).2.1
    rw [hloop, hconditional, any_keywords_iff fun k hk => hnames k (List.mem_append_left _ hk),
      any_keywords_iff fun k hk => hnames k (List.mem_append_right _ hk)]
    simp [hcode]
  · rename_i hcode
    simp [hcode]

def loopHeader : Bytes := utf8 "WHILE n < 2Loop"

theorem scan_keywords_sql : Profile.sql ∈ Registry.profiles ∧ ∃ l ∈ scan .sql loopHeader,
    l.constructs.isLoop ∧ l.kind = .code ∧ ∃ keyword ∈ Profile.sql.loops, Counts .sql keyword l.code := by
  have hsql : Profile.sql ∈ Registry.profiles := by simp [Registry.profiles]
  have hscan : scan .sql loopHeader =
      [⟨1, loopHeader, false, .code, .clean, loopHeader, { isLoop := true }⟩] := by cbv
  have hl := hscan ▸ List.mem_cons_self
  exact ⟨hsql, _, hl, rfl, (scan_keywords hsql hl).1.mp rfl⟩

def unspacedCondition : Bytes := utf8 "x = 1if y else 2"

theorem scan_unspacedCondition : scan .python unspacedCondition =
    [⟨1, unspacedCondition, false, .code, .clean, unspacedCondition,
      { isVariable := true, isConditional := true }⟩] := by
  cbv

/-- Digits in front of a keyword are word bytes, and do not keep it from counting. -/
theorem conditional_behind_digit : ¬∀ l ∈ scan .python unspacedCondition,
    (l.constructs.isConditional ↔ l.kind = .code ∧ ∃ keyword ∈ Profile.python.conditionals, ∃ word,
      Profile.python.Equates word keyword ∧ StandsBehind [] word l.code) := by
  intro h
  have hnone : ∀ keyword ∈ Profile.python.conditionals, ¬StandsBehind [] keyword unspacedCondition := by
    simp only [standsBehind_iff]
    decide +kernel
  rw [scan_unspacedCondition] at h
  obtain ⟨-, keyword, hkeyword, word, rfl, hstands⟩ := (h _ List.mem_cons_self).mp rfl
  exact hnone word hkeyword hstands

end SourceSurvey.Line
