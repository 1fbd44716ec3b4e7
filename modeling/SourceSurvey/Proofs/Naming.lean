import Mathlib.Data.List.Basic
import SourceSurvey.Proofs.Annotation.Comment
import SourceSurvey.Proofs.Text.Encoding

namespace SourceSurvey

namespace Utf8

theorem isAscii_of_all {c : Char} (h : (encodeChar c).all (· < 0x80)) : c.toNat < 0x80 := by
  have hmax := toNat_lt c
  have hhigh (n : Nat) (hn : 0x80 ≤ n ∧ n < 256) : ¬n.toUInt8 < 0x80 := by
    rw [UInt8.lt_iff_toNat_lt, toNat_toUInt8 hn.2]
    exact Nat.not_lt.mpr hn.1
  by_contra hc
  rw [encodeChar, if_neg hc] at h
  split at h
  · exact hhigh (0xC0 + c.toNat / 0x40) (by omega) (by simpa using (List.all_eq_true.mp h) _ List.mem_cons_self)
  split at h
  · exact hhigh (0xE0 + c.toNat / 0x1000) (by omega) (by simpa using (List.all_eq_true.mp h) _ List.mem_cons_self)
  · exact hhigh (0xF0 + c.toNat / 0x40000) (by omega) (by simpa using (List.all_eq_true.mp h) _ List.mem_cons_self)

theorem encodeChar_toLower_ascii :
    ∀ n < 0x80, encodeChar (Letter.toLower (Char.ofNat n)) = [Bytes.lowerByte n.toUInt8] := by decide

theorem lowerAscii_encode {cs : List Char} (h : (encode cs).all (· < 0x80)) :
    (encode cs).lowerAscii = encode (cs.map Letter.toLower) := by
  induction cs with
  | nil => rfl
  | cons c cs ih =>
      rw [encode_cons, List.all_append, Bool.and_eq_true] at h
      have hc := isAscii_of_all h.1
      have hchar : encodeChar c = [c.toNat.toUInt8] := by rw [encodeChar, if_pos hc]
      have hlower := encodeChar_toLower_ascii c.toNat hc
      rw [Char.ofNat_toNat] at hlower
      rw [List.map_cons, encode_cons, encode_cons, ← ih h.2, hlower, hchar]
      rfl

theorem encode_ne_nil {cs : List Char} (h : cs ≠ []) : encode cs ≠ [] := by
  intro hnil
  rw [← chars_encode cs, hnil, chars, glyphs_nil] at h
  exact h rfl

theorem encode_flatten (words : List (List Char)) : encode words.flatten = (words.map encode).flatten := by
  induction words with
  | nil => rfl
  | cons w words ih => rw [List.flatten_cons, encode_append, ih, List.map_cons, List.flatten_cons]

theorem lower_encode (cs : List Char) : (encode cs).lower = encode (cs.map Letter.toLower) := by
  rw [Bytes.lower]
  split
  · rename_i hascii
    exact lowerAscii_encode hascii
  · rw [chars_encode]

end Utf8

namespace Naming

def isWordChar (c : Char) : Bool := Letter.isLetter c || Letter.isDigit c

def InWord (cs : List Char) (i : Nat) : Prop := ∃ c ∈ cs[i]?, isWordChar c

/-- Behind the character at `i` the case changes: an upper-case letter follows a lower-case letter or a digit, or it
follows an upper-case letter and has a lower-case one behind it. -/
def CaseChange (cs : List Char) (i : Nat) : Prop :=
  ∃ prev c, cs[i]? = some prev ∧ cs[i + 1]? = some c ∧ Letter.isUpper c ∧
    (Letter.isLower prev ∨ Letter.isDigit prev ∨
      Letter.isUpper prev ∧ ∃ next, cs[i + 2]? = some next ∧ Letter.isLower next)

def Boundary (cs : List Char) (i : Nat) : Prop := ¬InWord cs i ∨ ¬InWord cs (i + 1) ∨ CaseChange cs i

structure Span where
  first : Nat
  stop : Nat

namespace Span

def Holds (s : Span) (i : Nat) : Prop := s.first ≤ i ∧ i < s.stop

def shift (n : Nat) (s : Span) : Span := ⟨n + s.first, n + s.stop⟩

def of (cs : List Char) (s : Span) : List Char := (cs.drop s.first).take (s.stop - s.first)

variable {s : Span} {n i : Nat}

theorem holds_shift : (s.shift n).Holds (n + i) ↔ s.Holds i := by simp [Holds, shift]

theorem not_holds_shift (h : i < n) : ¬(s.shift n).Holds i := by
  simp only [Holds, shift]
  omega

theorem of_shift (w cs : List Char) (s : Span) : (s.shift w.length).of (w ++ cs) = s.of cs := by
  rw [of, of, shift, ← List.drop_drop, List.drop_left, Nat.add_sub_add_left]

theorem of_first (w cs : List Char) : (Span.mk 0 w.length).of (w ++ cs) = w := by simp [of]

end Span

/-- Where the words of a name stand. Every letter and every digit is in a word and nothing else is, and two characters
side by side are in one word exactly if there is no boundary between them. -/
structure Divides (cs : List Char) (spans : List Span) : Prop where
  nonempty : ∀ s ∈ spans, s.first < s.stop
  ordered : spans.Pairwise fun s t => s.stop ≤ t.first
  held : ∀ i, (∃ s ∈ spans, s.Holds i) ↔ InWord cs i
  joined : ∀ i, (∃ s ∈ spans, s.Holds i ∧ s.Holds (i + 1)) ↔ ¬Boundary cs i

variable {word w cs : List Char} {c : Char} {spans : List Span} {i : Nat}

theorem divider_eq (c : Char) : (!Letter.isLetter c && !Letter.isDigit c) = !isWordChar c := by
  rw [isWordChar, Bool.not_or]

theorem inWord_append : InWord (w ++ cs) (w.length + i) ↔ InWord cs i := by
  rw [InWord, InWord, List.getElem?_append_right (Nat.le_add_right _ _), Nat.add_sub_cancel_left]

theorem caseChange_append : CaseChange (w ++ cs) (w.length + i) ↔ CaseChange cs i := by
  simp only [CaseChange, Nat.add_assoc, List.getElem?_append_right (Nat.le_add_right _ _), Nat.add_sub_cancel_left]

theorem boundary_append : Boundary (w ++ cs) (w.length + i) ↔ Boundary cs i := by
  rw [Boundary, Boundary, inWord_append, Nat.add_assoc, inWord_append, caseChange_append]

namespace Divides

theorem nil : Divides [] [] where
  nonempty := by simp
  ordered := .nil
  held := by simp [InWord]
  joined := by simp [Boundary, InWord]

theorem prepend {front : List Span} (hfront : ∀ s ∈ front, s.first < s.stop ∧ s.stop ≤ w.length)
    (hordered : front.Pairwise fun s t => s.stop ≤ t.first)
    (hheld : ∀ i < w.length, (∃ s ∈ front, s.Holds i) ↔ InWord (w ++ cs) i)
    (hjoined : ∀ i < w.length, (∃ s ∈ front, s.Holds i ∧ s.Holds (i + 1)) ↔ ¬Boundary (w ++ cs) i)
    (h : Divides cs spans) : Divides (w ++ cs) (front ++ spans.map (Span.shift w.length)) := by
  -- No part in front reaches into the divided text, and none of that text begins before it.
  have hbefore (i : Nat) : ¬∃ s ∈ front, s.Holds (w.length + i) := by
    rintro ⟨s, hs, hi⟩
    have hstop := (hfront s hs).2
    have hlast := hi.2
    omega
  have hbehind {i : Nat} (hi : i < w.length) : ¬∃ s ∈ spans, (s.shift w.length).Holds i := by
    rintro ⟨s, -, hs⟩
    exact Span.not_holds_shift hi hs
  constructor
  · intro s hs
    rcases List.mem_append.mp hs with hs | hs
    · exact (hfront s hs).1
    · obtain ⟨t, ht, rfl⟩ := List.mem_map.mp hs
      exact Nat.add_lt_add_left (h.nonempty t ht) w.length
  · rw [List.pairwise_append, List.pairwise_map]
    refine ⟨hordered, h.ordered.imp fun hst => Nat.add_le_add_left hst w.length, fun s hs t ht => ?_⟩
    obtain ⟨t, -, rfl⟩ := List.mem_map.mp ht
    exact (hfront s hs).2.trans (Nat.le_add_right _ _)
  · intro i
    simp only [List.mem_append, or_and_right, exists_or, List.mem_map, exists_exists_and_eq_and]
    rcases Nat.lt_or_ge i w.length with hi | hi
    · rw [hheld i hi, or_iff_left (hbehind hi)]
    · obtain ⟨j, rfl⟩ := Nat.exists_eq_add_of_le hi
      simp only [or_iff_right (hbefore j), Span.holds_shift, inWord_append]
      exact h.held j
  · intro i
    simp only [List.mem_append, or_and_right, exists_or, List.mem_map, exists_exists_and_eq_and]
    rcases Nat.lt_or_ge i w.length with hi | hi
    · rw [hjoined i hi, or_iff_left]
      rintro ⟨s, hs, hfirst, -⟩
      exact hbehind hi ⟨s, hs, hfirst⟩
    · obtain ⟨j, rfl⟩ := Nat.exists_eq_add_of_le hi
      rw [or_iff_right]
      · simp only [Nat.add_assoc, Span.holds_shift, boundary_append]
        exact h.joined j
      · rintro ⟨s, hs, hfirst, -⟩
        exact hbefore j ⟨s, hs, hfirst⟩

theorem cons (hc : ¬isWordChar c) (h : Divides cs spans) : Divides (c :: cs) (spans.map (Span.shift 1)) := by
  have houtside (i : Nat) (hi : i < [c].length) : ¬InWord ([c] ++ cs) i := by
    obtain rfl : i = 0 := by simpa using hi
    simpa [InWord] using hc
  exact prepend (by simp) .nil (fun i hi => iff_of_false (by simp) (houtside i hi))
    (fun i hi => iff_of_false (by simp) (not_not_intro (.inl (houtside i hi)))) h

theorem append (hne : w ≠ []) (hword : ∀ c ∈ w, isWordChar c)
    (hrun : ∀ i, i + 1 < w.length → ¬CaseChange (w ++ cs) i) (hend : Boundary (w ++ cs) (w.length - 1))
    (h : Divides cs spans) : Divides (w ++ cs) (⟨0, w.length⟩ :: spans.map (Span.shift w.length)) := by
  have hlength := List.length_pos_of_ne_nil hne
  have hinside (i : Nat) (hi : i < w.length) : InWord (w ++ cs) i := by
    refine ⟨w[i], ?_, hword _ (List.getElem_mem hi)⟩
    rw [List.getElem?_append_left hi, List.getElem?_eq_getElem hi, Option.mem_some]
  apply prepend _ (List.pairwise_singleton _ _) _ _ h
  · simpa using hlength
  · intro i hi
    simp [Span.Holds, hi, hinside i hi]
  · intro i hi
    by_cases hnext : i + 1 < w.length
    · simp [Span.Holds, Boundary, hi, hnext, hinside, hrun]
    · obtain rfl : i = w.length - 1 := by omega
      simp [Span.Holds, hnext, hend]

end Divides

def AreWords (cs : List Char) (words : List (List Char)) : Prop :=
  ∃ spans, Divides cs spans ∧ words = spans.map (Span.of cs)

namespace AreWords

variable {words : List (List Char)}

theorem nil : AreWords [] [] := ⟨[], .nil, rfl⟩

theorem cons (hc : ¬isWordChar c) (h : AreWords cs words) : AreWords (c :: cs) words := by
  obtain ⟨spans, hdivides, rfl⟩ := h
  refine ⟨_, hdivides.cons hc, ?_⟩
  rw [List.map_map]
  exact List.map_congr_left fun s _ => (Span.of_shift [c] cs s).symm

theorem append (hne : w ≠ []) (hword : ∀ c ∈ w, isWordChar c)
    (hrun : ∀ i, i + 1 < w.length → ¬CaseChange (w ++ cs) i) (hend : Boundary (w ++ cs) (w.length - 1))
    (h : AreWords cs words) : AreWords (w ++ cs) (w :: words) := by
  obtain ⟨spans, hdivides, rfl⟩ := h
  refine ⟨_, hdivides.append hne hword hrun hend, ?_⟩
  rw [List.map_cons, List.map_map, Span.of_first]
  exact congrArg _ (List.map_congr_left fun s _ => (Span.of_shift w cs s).symm)

end AreWords

theorem caseChange_last (prev : Char) (ps : List Char) (c : Char) (cs : List Char) :
    CaseChange ((prev :: ps).reverse ++ c :: cs) ps.length ↔ Letter.isUpper c && startsWord prev cs.head? := by
  have hzero : CaseChange (prev :: c :: cs) 0 ↔ Letter.isUpper c && startsWord prev cs.head? := by
    cases cs <;> simp [CaseChange, startsWord, or_assoc]
  have hlast : CaseChange (ps.reverse ++ prev :: c :: cs) (ps.reverse.length + 0) ↔ CaseChange (prev :: c :: cs) 0 :=
    caseChange_append
  rw [List.length_reverse, Nat.add_zero] at hlast
  rw [List.reverse_cons, List.append_assoc, List.singleton_append, hlast, hzero]

theorem boundary_of_not_inWord (hne : word ≠ []) (h : ¬InWord cs 0) :
    Boundary (word.reverse ++ cs) (word.reverse.length - 1) := by
  refine .inr (.inl ?_)
  have hlength := List.length_pos_of_ne_nil (List.reverse_ne_nil_iff.mpr hne)
  rwa [Nat.sub_add_cancel hlength, ← Nat.add_zero word.reverse.length, inWord_append]

/-- What is found from somewhere on are the words of the word begun and what is to come, if the case does not change
within the word begun. -/
theorem areWords_wordsFrom (hword : ∀ c ∈ word, isWordChar c)
    (hrun : ∀ i, i + 1 < word.length → ¬CaseChange (word.reverse ++ cs) i) :
    AreWords (word.reverse ++ cs) (wordsFrom word cs) := by
  fun_induction wordsFrom word cs with
  | case1 => exact .nil
  | case2 word hne =>
      exact AreWords.nil.append (by simpa using hne) (by simpa using hword) (by simpa using hrun)
        (boundary_of_not_inWord hne (by simp [InWord]))
  | case3 c cs hc ih =>
      exact (ih (by simp) (by simp)).cons (by simpa [divider_eq] using hc)
  | case4 c cs hc word hne ih =>
      have hout : ¬isWordChar c := by simpa [divider_eq] using hc
      have hrest := (ih (by simp) (by simp)).cons hout
      exact hrest.append (by simpa using hne) (by simpa using hword) (by simpa using hrun)
        (boundary_of_not_inWord hne (by simpa [InWord] using hout))
  | case5 c cs hc ih =>
      have hin : isWordChar c := by simpa [divider_eq] using hc
      exact ih (by simpa using hin) (by simp)
  | case6 c cs hc prev ps hstarts ih =>
      have hin : isWordChar c := by simpa [divider_eq] using hc
      have hrest := ih (by simpa using hin) (by simp)
      have hpassed : ∀ d ∈ (prev :: ps).reverse, isWordChar d := fun d hd => hword d (List.mem_reverse.mp hd)
      refine hrest.append (by simp) hpassed (by simpa using hrun) (.inr (.inr ?_))
      simpa using (caseChange_last prev ps c cs).mpr hstarts
  | case7 c cs hc prev ps hstarts ih =>
      have hin : isWordChar c := by simpa [divider_eq] using hc
      have hsame : (c :: prev :: ps).reverse ++ cs = (prev :: ps).reverse ++ c :: cs := by simp
      rw [hsame] at ih
      refine ih (List.forall_mem_cons.mpr ⟨hin, hword⟩) fun i hi => ?_
      rcases Nat.lt_or_ge (i + 1) (prev :: ps).length with hbefore | hlast
      · exact hrun i hbefore
      · obtain rfl : i = ps.length := by simp at hi hlast; omega
        exact fun h => hstarts ((caseChange_last prev ps c cs).mp h)

theorem ne_nil_of_mem_wordsFrom : ∀ w ∈ wordsFrom word cs, w ≠ [] := by
  fun_induction wordsFrom word cs <;> simp_all

theorem flatten_wordsFrom (word cs : List Char) :
    (wordsFrom word cs).flatten = word.reverse ++ cs.filter isWordChar := by
  fun_induction wordsFrom word cs <;> simp_all [divider_eq]

theorem splitWords_eq (name : Bytes) :
    splitWords name = (wordsFrom [] (Utf8.chars name)).map fun w => Utf8.encode (w.map Letter.toLower) := by
  rw [splitWords]
  exact List.map_congr_left fun w _ => Utf8.lower_encode w

/-- The words of an identifier are its letters and digits, none left out and none added, in lower case. They are divided
exactly at all other characters and where the case changes, and no word is empty. -/
theorem splitWords_divides (name : Bytes) :
    (∀ w ∈ splitWords name, w ≠ []) ∧
      (splitWords name).flatten = Utf8.encode (((Utf8.chars name).filter isWordChar).map Letter.toLower) ∧
      ∃ words, AreWords (Utf8.chars name) words ∧
        splitWords name = words.map fun w => Utf8.encode (w.map Letter.toLower) := by
  refine ⟨?_, ?_, _, ?_, splitWords_eq name⟩
  · intro w hw
    rw [splitWords_eq] at hw
    obtain ⟨cs, hcs, rfl⟩ := List.mem_map.mp hw
    exact Utf8.encode_ne_nil (List.map_eq_nil_iff.not.mpr (ne_nil_of_mem_wordsFrom cs hcs))
  · have hletters := flatten_wordsFrom [] (Utf8.chars name)
    rw [List.reverse_nil, List.nil_append] at hletters
    rw [splitWords_eq, ← hletters, List.map_flatten, Utf8.encode_flatten, List.map_map]
    rfl
  · have hwords : AreWords ([].reverse ++ Utf8.chars name) (wordsFrom [] (Utf8.chars name)) :=
      areWords_wordsFrom (by simp) (by simp)
    simpa using hwords

end Naming

end SourceSurvey
