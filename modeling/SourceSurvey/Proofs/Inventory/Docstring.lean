import Mathlib
import SourceSurvey.Inventory
import SourceSurvey.Profile.Registry
import SourceSurvey.Proofs.Text.Search

namespace SourceSurvey.Inventory

variable {blanks quote body doc s rest : Bytes} {b : UInt8}

def flat (s : Bytes) : Bytes := Bytes.join [32] s.words

/-- The first sentence of a text, on one line: all of it, or what ends in the first full stop before a space. -/
inductive FirstSentence (s : Bytes) : Bytes → Prop
  | whole (h : ¬utf8 ". " <:+: flat s) : FirstSentence s (flat s)
  | stopped {before after : Bytes} (h : flat s = before ++ utf8 ". " ++ after) (hfirst : ¬utf8 ". " <:+: before) :
    FirstSentence s (before ++ utf8 ".")

theorem firstSentence_spec (s : Bytes) : FirstSentence s (firstSentence s) := by
  rw [firstSentence, ← flat]
  cases h : (flat s).cut? (utf8 ". ") with
  | none => exact .whole (Bytes.cutFrom_eq_none.mp h)
  | some found =>
      obtain ⟨before, after⟩ := found
      have hflat := Bytes.cut?_spec h
      apply FirstSentence.stopped hflat
      rintro ⟨a, r, rfl⟩
      have hle := Bytes.cut?_le h (a := a) (r := r ++ utf8 ". " ++ after) (by rw [hflat]; simp only [List.append_assoc])
      have hstop : (utf8 ". ").length = 2 := by decide
      simp only [List.length_append, hstop] at hle
      omega

def StartsFence (s : Bytes) : Prop := ∃ fence ∈ fences, fence <+: s

structure BeforeFence (doc s : Bytes) : Prop where
  fenced : ∃ rest, s = doc ++ rest ∧ StartsFence rest
  first : ∀ before rest, s = before ++ rest → StartsFence rest → doc.length ≤ before.length

theorem length_of_mem_fences : ∀ fence ∈ fences, fence.length = 3 := by decide

theorem StartsFence.length_le (h : StartsFence s) : 3 ≤ s.length := by
  obtain ⟨fence, hfence, hs⟩ := h
  rw [← length_of_mem_fences fence hfence]
  exact hs.length_le

theorem StartsFence.append (h : StartsFence s) (rest : Bytes) : StartsFence (s ++ rest) := by
  obtain ⟨fence, hfence, hs⟩ := h
  exact ⟨fence, hfence, hs.trans (List.prefix_append s rest)⟩

theorem StartsFence.of_append (h : StartsFence (s ++ rest)) (hs : 3 ≤ s.length) : StartsFence s := by
  obtain ⟨fence, hfence, hstarts⟩ := h
  rw [← length_of_mem_fences fence hfence] at hs
  exact ⟨fence, hfence, List.prefix_of_prefix_length_le hstarts (List.prefix_append s rest) hs⟩

theorem startsFence_iff : StartsFence s ↔ (fences.any fun fence => Bytes.startsWith s fence) = true := by
  rw [List.any_eq_true]
  refine exists_congr fun fence => and_congr_right fun _ => ?_
  rw [Bytes.startsWith_iff]
  exact ⟨fun ⟨r, hr⟩ => ⟨r, hr.symm⟩, fun ⟨r, hr⟩ => ⟨r, hr.symm⟩⟩

namespace BeforeFence

theorem nil (h : StartsFence s) : BeforeFence [] s := ⟨⟨s, rfl, h⟩, fun _ _ _ _ => Nat.zero_le _⟩

theorem cons (h : BeforeFence doc s) (hb : ¬StartsFence (b :: s)) : BeforeFence (b :: doc) (b :: s) := by
  obtain ⟨⟨rest, hs, hrest⟩, hfirst⟩ := h
  refine ⟨⟨rest, by rw [hs, List.cons_append], hrest⟩, ?_⟩
  intro before r hr hfence
  cases before with
  | nil => exact absurd (hr ▸ hfence) hb
  | cons c before =>
      rw [List.cons_append, List.cons.injEq] at hr
      exact Nat.succ_le_succ (hfirst before r hr.2 hfence)

theorem tail (h : BeforeFence (b :: doc) s) : ∃ t, s = b :: t ∧ ¬StartsFence s ∧ BeforeFence doc t := by
  obtain ⟨⟨rest, hs, hrest⟩, hfirst⟩ := h
  refine ⟨doc ++ rest, hs, fun hfence => ?_, ⟨rest, rfl, hrest⟩, fun before r hr hfence => ?_⟩
  · exact absurd (hfirst [] s rfl hfence) (by simp)
  · exact Nat.le_of_succ_le_succ (hfirst (b :: before) r (by rw [hs, List.cons_append, hr]; rfl) hfence)

theorem exists_of_fence (before : Bytes) (h : StartsFence rest) : ∃ doc, BeforeFence doc (before ++ rest) := by
  induction before with
  | nil => exact ⟨[], nil h⟩
  | cons b before ih =>
      by_cases hfence : StartsFence (b :: before ++ rest)
      · exact ⟨[], nil hfence⟩
      · obtain ⟨doc, hdoc⟩ := ih
        exact ⟨b :: doc, hdoc.cons hfence⟩

theorem append (h : BeforeFence doc s) (rest : Bytes) : BeforeFence doc (s ++ rest) := by
  obtain ⟨⟨fenced, hs, hfenced⟩, hfirst⟩ := h
  refine ⟨⟨fenced ++ rest, by rw [hs, List.append_assoc], hfenced.append rest⟩, ?_⟩
  intro before r hr hfence
  by_contra hshort
  -- A fence in front of the known one ends within the text, so it would have been the first there already.
  have hlength := hfenced.length_le
  have hsum := congrArg List.length hs
  rw [List.length_append] at hsum
  have hstarts : before <+: s :=
    List.prefix_of_prefix_length_le ⟨r, hr.symm⟩ (List.prefix_append s rest) (by omega)
  obtain ⟨t, rfl⟩ := hstarts
  rw [List.append_assoc, List.append_cancel_left_eq] at hr
  rw [List.length_append] at hsum
  rw [← hr] at hfence
  have ht : StartsFence t := hfence.of_append (by omega)
  exact hshort (hfirst before t rfl ht)

end BeforeFence

theorem beforeFence?_of (h : BeforeFence doc s) (seen : Bytes) : beforeFence? seen s = some (seen.reverse ++ doc) := by
  induction doc generalizing seen s with
  | nil =>
      obtain ⟨rest, hs, hrest⟩ := h.fenced
      rw [List.nil_append] at hs
      subst hs
      cases s with
      | nil => exact absurd hrest.length_le (by simp)
      | cons b s => rw [beforeFence?, if_pos (startsFence_iff.mp hrest), List.append_nil]
  | cons b doc ih =>
      obtain ⟨t, rfl, hfence, ht⟩ := h.tail
      rw [startsFence_iff] at hfence
      rw [beforeFence?, if_neg hfence, ih ht, List.reverse_cons, List.append_assoc]
      rfl

theorem of_beforeFence? {seen found : Bytes} (h : beforeFence? seen s = some found) :
    ∃ doc, found = seen.reverse ++ doc ∧ BeforeFence doc s := by
  induction s generalizing seen with
  | nil => cases h
  | cons b s ih =>
      rw [beforeFence?] at h
      split at h
      · rename_i hfence
        cases h
        exact ⟨[], (List.append_nil _).symm, .nil (startsFence_iff.mpr hfence)⟩
      · rename_i hfence
        obtain ⟨doc, rfl, hdoc⟩ := ih h
        refine ⟨b :: doc, by simp, hdoc.cons ?_⟩
        rwa [startsFence_iff]

theorem beforeFence?_eq_some : beforeFence? [] s = some doc ↔ BeforeFence doc s := by
  constructor
  · intro h
    obtain ⟨doc', rfl, hdoc⟩ := of_beforeFence? h
    exact hdoc
  · intro h
    exact beforeFence?_of h []

instance (doc s : Bytes) : Decidable (BeforeFence doc s) := decidable_of_iff _ beforeFence?_eq_some

def whiteSpace : Bytes := [32, 9, 10, 12, 13]

theorem moduleDoc_eq (hblanks : ∀ b ∈ blanks, b ∈ whiteSpace) (hquote : quote ∈ fences) (h : BeforeFence doc s) :
    moduleDoc (blanks ++ (quote ++ s)) = firstSentence doc := by
  have hfences : fences = [[34, 34, 34], [39, 39, 39]] := by decide
  have hdrop : (blanks ++ (quote ++ s)).dropWhile (fun b => b = 32 || b = 9 || b = 10 || b = 12 || b = 13) =
      quote ++ s := by
    rw [List.dropWhile_append_of_pos (by simpa [whiteSpace, or_assoc] using hblanks)]
    rw [hfences, List.mem_pair] at hquote
    rcases hquote with rfl | rfl
    · rfl
    · rfl
  have hopen : (fences.findSome? fun fence => Bytes.dropStart? fence (quote ++ s)) = some s := by
    rw [hfences, List.mem_pair] at hquote
    rw [hfences]
    rcases hquote with rfl | rfl
    · rfl
    · rfl
  rw [moduleDoc, hdrop, hopen, Option.bind_some, beforeFence?_eq_some.mpr h]

theorem extract_doc_python (text : Bytes) (lines : List Line) : (extract .python text lines).doc = moduleDoc text := by
  have hpython : Profile.python.hasConstructs = true := by decide
  have hid : Profile.python.id = "Python" := rfl
  simp [extract, hpython, hid]

/-- A module that begins with a string is documented by the first sentence of the string, if no fence of either kind
begins within it. In any case it is by the first sentence of what stands before the first fence. -/
theorem extract_docstring (hblanks : ∀ b ∈ blanks, b ∈ whiteSpace) (hquote : quote ∈ fences) (body rest : Bytes)
    (lines : List Line) :
    let found := (extract .python (blanks ++ quote ++ body ++ quote ++ rest) lines).doc
    (BeforeFence body (body ++ quote) → found = firstSentence body) ∧
      ∃ doc, doc <+: body ∧ BeforeFence doc (body ++ quote) ∧ found = firstSentence doc ∧ FirstSentence doc found := by
  intro found
  have hfound : ∀ doc, BeforeFence doc (body ++ quote) → found = firstSentence doc := by
    intro doc hdoc
    have htext : blanks ++ quote ++ body ++ quote ++ rest = blanks ++ (quote ++ (body ++ quote ++ rest)) := by
      simp only [List.append_assoc]
    rw [← moduleDoc_eq hblanks hquote (hdoc.append rest), ← htext]
    exact extract_doc_python _ lines
  have hclosed : StartsFence quote := ⟨quote, hquote, List.prefix_rfl⟩
  obtain ⟨doc, hdoc⟩ := BeforeFence.exists_of_fence body hclosed
  refine ⟨hfound body, doc, ?_, hdoc, hfound doc hdoc, ?_⟩
  · obtain ⟨after, hafter, -⟩ := hdoc.fenced
    have hle := hdoc.first body quote rfl hclosed
    exact List.prefix_of_prefix_length_le ⟨after, hafter.symm⟩ (List.prefix_append body quote) hle
  · rw [hfound doc hdoc]
    exact firstSentence_spec doc

def speech : Bytes := utf8 "It's a\n \"test\". And more."

theorem extract_docstring_speech : (∀ b ∈ utf8 " \n", b ∈ whiteSpace) ∧ utf8 "'''" ∈ fences ∧
    BeforeFence speech (speech ++ utf8 "'''") ∧
    (extract .python (utf8 " \n" ++ utf8 "'''" ++ speech ++ utf8 "'''" ++ utf8 "\nx = 1\n") []).doc =
      utf8 "It's a \"test\"." := by
  have hblanks : ∀ b ∈ utf8 " \n", b ∈ whiteSpace := by decide +kernel
  have hquote : utf8 "'''" ∈ fences := by decide
  have hbefore : BeforeFence speech (speech ++ utf8 "'''") := by decide +kernel
  have hsentence : firstSentence speech = utf8 "It's a \"test\"." := by cbv
  have hfound := (extract_docstring hblanks hquote speech (utf8 "\nx = 1\n") []).1 hbefore
  exact ⟨hblanks, hquote, hbefore, hfound.trans hsentence⟩

def quotation : Bytes := utf8 "a ''' b"

/-- The other kind of fence cuts the string short. -/
theorem extract_doc_quotation : ¬utf8 "\"\"\"" <:+: quotation ∧ firstSentence quotation = utf8 "a ''' b" ∧
    ∀ lines, (extract .python (utf8 "\"\"\"" ++ quotation ++ utf8 "\"\"\"\n") lines).doc = utf8 "a" := by
  have hdoc : moduleDoc (utf8 "\"\"\"" ++ quotation ++ utf8 "\"\"\"\n") = utf8 "a" := by cbv
  refine ⟨by decide +kernel, by cbv, fun lines => ?_⟩
  rw [extract_doc_python, hdoc]

end SourceSurvey.Inventory
