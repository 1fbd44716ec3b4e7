import SourceSurvey.Annotation
import SourceSurvey.Proofs.Line.Reading

namespace SourceSurvey.Naming

open Bytes

theorem newline_notMem_join {sep : Bytes} (hsep : newline ∉ sep) {parts : List Bytes}
    (h : ∀ s ∈ parts, newline ∉ s) : newline ∉ Bytes.join sep parts := by
  induction parts with
  | nil => simp [Bytes.join]
  | cons s parts ih =>
      cases parts with
      | nil => simpa [Bytes.join] using h
      | cons t parts =>
          have htail := ih fun s hs => h s (List.mem_cons_of_mem _ hs)
          have hhead := h s List.mem_cons_self
          simp_all [Bytes.join]

theorem newline_notMem_wordsFrom {word cs : List Char} (hword : '\n' ∉ word) :
    ∀ w ∈ wordsFrom word cs, '\n' ∉ w := by
  have hletter (c : Char) (h : ¬(!Letter.isLetter c && !Letter.isDigit c) = true) : '\n' ≠ c := by
    rintro rfl
    exact h (by decide)
  fun_induction wordsFrom word cs <;> simp_all

theorem newline_notMem_splitWords (name : Bytes) : ∀ w ∈ splitWords name, newline ∉ w := by
  intro w hw
  obtain ⟨cs, hcs, rfl⟩ := List.mem_map.mp hw
  exact newline_notMem_lower (newline_notMem_encode (newline_notMem_wordsFrom (by simp) cs hcs))

theorem newline_notMem_verbs : ∀ e ∈ verbs, newline ∉ utf8 e.2 := by decide +kernel

theorem newline_notMem_returnKinds : ∀ e ∈ returnKinds, newline ∉ utf8 ("returns " ++ e.1) := by
  decide +kernel

theorem newline_notMem_areas : ∀ e ∈ areas, newline ∉ utf8 e.1 := by decide +kernel

theorem newline_notMem_purpose (name : Bytes) (body : List Bytes) : newline ∉ purpose name body := by
  have hfixed : newline ∉ utf8 "Performs an operation." ∧ newline ∉ utf8 "data" ∧ newline ∉ utf8 "Handles " ∧
      newline ∉ utf8 " functionality" ∧ newline ∉ utf8 " and " ∧ newline ∉ utf8 "." := by decide
  have hspace : newline ∉ [32] := by decide
  rw [purpose]
  split
  · exact hfixed.1
  · rename_i verb object hwords
    have hword := newline_notMem_splitWords name
    rw [hwords] at hword
    have hobject : newline ∉ Bytes.join [32] object :=
      newline_notMem_join hspace fun w hw => hword w (List.mem_cons_of_mem _ hw)
    rw [List.mem_append, not_or]
    refine ⟨newline_notMem_join hfixed.2.2.2.2.1 ?_, hfixed.2.2.2.2.2⟩
    intro part hpart
    rw [List.cons_append, List.mem_cons, List.mem_append] at hpart
    rcases hpart with rfl | hreturned | harea
    · split
      · rename_i w phrase hverb
        have hphrase := newline_notMem_verbs _ (List.mem_of_find?_eq_some hverb)
        by_cases hempty : object.isEmpty <;> simp_all [newline]
      · have hall := newline_notMem_join hspace hword
        simp_all
    · obtain ⟨k, hk, rfl⟩ := List.mem_map.mp hreturned
      obtain ⟨e, he, rfl⟩ := Option.map_eq_some_iff.mp (Option.mem_toList.mp hk)
      exact newline_notMem_returnKinds e (List.mem_of_find?_eq_some he)
    · obtain ⟨k, hk, rfl⟩ := List.mem_map.mp harea
      obtain ⟨e, he, rfl⟩ := Option.map_eq_some_iff.mp (Option.mem_toList.mp hk)
      exact newline_notMem_areas e (List.mem_of_find?_eq_some he)

theorem purpose_ends (name : Bytes) (body : List Bytes) : ∃ s, purpose name body = s ++ [46] := by
  rw [purpose]
  split
  · exact ⟨utf8 "Performs an operation", by decide⟩
  · exact ⟨_, rfl⟩

theorem newline_notMem_classKind {keyword : Bytes} (h : newline ∉ keyword) : newline ∉ classKind keyword := by
  rw [classKind]
  split
  · decide
  · split
    · decide
    · split
      · decide
      · exact newline_notMem_lower fun hmem => h (mem_of_mem_strip hmem)

theorem newline_notMem_classPurpose {name keyword : Bytes} (hname : newline ∉ name)
    (hkeyword : newline ∉ keyword) : newline ∉ classPurpose name keyword := by
  have hkind := newline_notMem_classKind hkeyword
  have hdefines : newline ∉ utf8 "Defines a " ∧ newline ∉ utf8 "Defines the " ∧ newline ∉ utf8 "." := by decide
  rw [classPurpose]
  split <;> simp_all [newline]

theorem classPurpose_ends (name keyword : Bytes) : ∃ s, classPurpose name keyword = s ++ [46] := by
  rw [classPurpose]
  split
  · exact ⟨_, rfl⟩
  · exact ⟨_, rfl⟩

end SourceSurvey.Naming

namespace SourceSurvey.Annotation

open Bytes Line

variable {p : Profile}

def NamedOnLine (l : Line) : Prop := newline ∉ l.constructs.name ∧ newline ∉ l.constructs.keyword

theorem newline_notMem_describe {l : Line} (h : NamedOnLine l) (rest : List Line) :
    newline ∉ describe p l rest := by
  rw [describe]
  split
  · exact Naming.newline_notMem_purpose _ _
  · exact Naming.newline_notMem_classPurpose h.1 h.2

theorem describe_ends (l : Line) (rest : List Line) : ∃ s, describe p l rest = s ++ [46] := by
  rw [describe]
  split
  · exact Naming.purpose_ends _ _
  · exact Naming.classPurpose_ends _ _

def commentText (m : Bytes) (decl : Line) (purpose : Bytes) : Bytes := decl.indent ++ m ++ space :: purpose

def commentLine (m : Bytes) (decl : Line) (purpose : Bytes) : Bytes :=
  commentText m decl purpose ++ if decl.cr then [carriageReturn] else []

theorem comment_eq (m : Bytes) (decl : Line) (purpose : Bytes) :
    comment ⟨m, []⟩ decl purpose = commentLine m decl purpose ++ [newline] := by
  cases h : decl.cr <;> simp [comment, commentLine, commentText, h, newline, carriageReturn, space]

theorem isIndent_of_mem_indent {l : Line} : ∀ b ∈ l.indent, isIndent b := by
  intro b hb
  exact List.mem_takeWhile_imp hb

theorem newline_notMem_commentLine {m purpose : Bytes} {decl : Line} (hm : newline ∉ m)
    (hpurpose : newline ∉ purpose) : newline ∉ commentLine m decl purpose := by
  have hindent : newline ∉ decl.indent := fun hmem => absurd (isIndent_of_mem_indent _ hmem) (by decide)
  cases h : decl.cr <;> simp_all [commentLine, commentText, newline, carriageReturn, space]

theorem getLast?_commentLine {m purpose s : Bytes} {decl : Line} (hpurpose : purpose = s ++ [46]) :
    (commentLine m decl purpose).getLast? = some (if decl.cr then carriageReturn else 46) := by
  cases h : decl.cr <;> simp [commentLine, commentText, h, hpurpose, List.getLast?_cons]

theorem chomp_commentLine {m purpose s : Bytes} {decl : Line} (hpurpose : purpose = s ++ [46]) :
    chomp (commentLine m decl purpose) = commentText m decl purpose := by
  rw [chomp, getLast?_commentLine hpurpose]
  cases h : decl.cr <;> simp [commentLine, h, carriageReturn]

theorem strip_commentText {m purpose s : Bytes} {decl : Line} (hm : m.head?.any isVisible)
    (hpurpose : purpose = s ++ [46]) : (commentText m decl purpose).strip = m ++ space :: purpose := by
  cases m with
  | nil => simp at hm
  | cons b r =>
      have hdot : isVisible 46 := by decide
      have hstrip := strip_between (by simpa using hm) hdot decl.indent (r ++ space :: s) []
      rw [stripLeft_indent isIndent_of_mem_indent] at hstrip
      simpa [commentText, hpurpose, stripRight, Utf8.join] using hstrip

theorem opensBlock_marker {m : Bytes} (hm : p.IsLineMarker m) (s : Bytes) :
    opensBlock p (m ++ space :: s) = false := by
  rw [opensBlock, List.any_eq_false]
  intro b hb hstarts
  obtain ⟨hshort, hlong⟩ := hm.2.2.2 b hb
  obtain ⟨r, hr⟩ := startsWith_iff.mp hstarts
  have hsplit : b.opener ++ r = (m ++ [space]) ++ s := by simp [← hr]
  rcases List.append_eq_append_iff.mp hsplit with ⟨t, ht, -⟩ | ⟨t, ht, -⟩
  · exact absurd (startsWith_iff.mpr ⟨t, ht⟩) (by simp [hshort])
  · exact absurd (startsWith_iff.mpr ⟨t, ht⟩) (by simp [hlong])

theorem startsComment_marker {m : Bytes} (hm : p.IsLineMarker m) (s : Bytes) :
    startsComment p (m ++ space :: s) = true :=
  List.any_eq_true.mpr ⟨m, hm.1, startsWith_iff.mpr ⟨space :: s, rfl⟩⟩

theorem read_commentLine {m purpose s : Bytes} (hm : p.IsLineMarker m) (decl : Line)
    (hpurpose : purpose = s ++ [46]) (number : Nat) :
    read p number .clean (commentLine m decl purpose) =
      (⟨number, commentText m decl purpose, decl.cr, .comment, .clean, [], {}⟩, .clean) := by
  have hclassify : classify p .clean (commentText m decl purpose) = (.comment, [], .clean) := by
    simp [classify, strip_commentText hm.2.1 hpurpose, opensBlock_marker hm, startsComment_marker hm]
  rw [← chomp_commentLine hpurpose] at hclassify
  rw [read_of_classify hclassify, chomp_commentLine hpurpose, getLast?_commentLine hpurpose]
  cases h : decl.cr <;> simp [carriageReturn]

end SourceSurvey.Annotation
