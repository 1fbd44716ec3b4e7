import Mathlib
import SourceSurvey.Proofs.Analysis.Steps
import SourceSurvey.Proofs.Annotation.Slots

namespace SourceSurvey.Annotation

open Bytes Line

variable {p : Profile}

/-- A line of a text and what was put in above it. -/
structure Row where
  added : Option Bytes
  raw : Bytes
  terminated : Bool

namespace Row

def source (r : Row) : Bytes := r.raw ++ if r.terminated then [newline] else []

def documented (r : Row) : Bytes := r.added.getD [] ++ r.source

def Fits (p : Profile) (r : Row) (l : Line) : Prop :=
  ∀ c ∈ r.added, l.isDeclaration ∧ ∃ m line, p.commentMarker? = some m ∧ c = line ++ [newline] ∧
    newline ∉ line ∧ l.indent ++ m.opener <+: line ∧
    (line.getLast? = some carriageReturn ↔ r.raw.getLast? = some carriageReturn)

end Row

/-- One text is another with comment lines put in, row by row, above just those of its declarations
that have none. -/
structure AddsComments (p : Profile) (text documented : Bytes) (rows : List Row) : Prop where
  lines : rows.map Row.raw = split text
  terminated : ∀ r ∈ rows.dropLast, r.terminated
  source : rows.flatMap Row.source = text
  documented : rows.flatMap Row.documented = documented
  fits : List.Forall₂ (Row.Fits p) rows (scan p text)
  filled : (rows.map fun r => r.added.isSome) = bare none (scan p text)

theorem exists_rows {slots : List (Option Bytes)} {text : Bytes} (h : slots.length = (split text).length) :
    ∃ rows : List Row, rows.map Row.added = slots ∧ rows.map Row.raw = split text ∧
      (∀ r ∈ rows.dropLast, r.terminated) ∧ rows.flatMap Row.source = text ∧
      rows.flatMap Row.documented = weave slots (pieces text) := by
  induction text using text_induction generalizing slots with
  | last last hlast =>
      rw [split_last hlast] at h ⊢
      rw [pieces_last hlast]
      by_cases hne : last = []
      · subst hne
        obtain rfl : slots = [] := by simpa using h
        exact ⟨[], by simp [weave]⟩
      · rw [if_neg hne] at h ⊢
        obtain ⟨slot, rfl⟩ := List.length_eq_one_iff.mp h
        exact ⟨[⟨slot, last, false⟩], by simp [weave, Row.source, Row.documented]⟩
  | line raw rest hraw ih =>
      rw [split_line hraw] at h ⊢
      rw [pieces_line hraw]
      cases slots with
      | nil => simp at h
      | cons slot slots =>
          obtain ⟨rows, hadded, hlines, hterminated, hsource, hdocumented⟩ := ih (Nat.succ.inj h)
          refine ⟨⟨slot, raw, true⟩ :: rows, by simp [hadded], by simp [hlines], ?_, ?_, ?_⟩
          · cases rows with
            | nil => simp
            | cons r rows => simpa using hterminated
          · simp [Row.source, hsource]
          · simp [Row.documented, Row.source, weave, hdocumented]

theorem readAll_cr (number : Nat) (state : ScanState) (raws : List Bytes) :
    (readAll p number state raws).map Line.cr =
      raws.map fun raw => decide (raw.getLast? = some carriageReturn) := by
  induction raws generalizing number state with
  | nil => rfl
  | cons raw raws ih =>
      rw [readAll_cons, List.map_cons, List.map_cons, ih]
      rfl

theorem Row.fits_of_isCommentFor {r : Row} {l : Line} (h : ∀ c ∈ r.added, IsCommentFor p l c)
    (hcr : l.cr = decide (r.raw.getLast? = some carriageReturn)) : r.Fits p l := by
  intro c hc
  obtain ⟨hdecl, -, m, s, hmarker, hm, hs, rfl⟩ := h c hc
  refine ⟨hdecl, ⟨m, []⟩, commentLine m l (s ++ [46]), hmarker, comment_eq m l _,
    newline_notMem_commentLine hm.2.2.1 hs, ?_, ?_⟩
  · rw [commentLine, commentText, List.append_assoc]
    exact List.prefix_append _ _
  · rw [getLast?_commentLine rfl, hcr]
    have hdot : (46 : UInt8) ≠ carriageReturn := by decide
    by_cases hraw : r.raw.getLast? = some carriageReturn
    · simp [hraw]
    · simp [hraw, hdot]

theorem forall₂_fits {rows : List Row} {lines : List Line}
    (h : List.Forall₂ (fun r l => ∀ c ∈ r.added, IsCommentFor p l c) rows lines)
    (hcr : lines.map Line.cr = rows.map fun r => decide (r.raw.getLast? = some carriageReturn)) :
    List.Forall₂ (Row.Fits p) rows lines := by
  induction h with
  | nil => exact List.Forall₂.nil
  | cons hslot _ ih =>
      rw [List.map_cons, List.map_cons, List.cons.injEq] at hcr
      exact List.Forall₂.cons (Row.fits_of_isCommentFor hslot hcr.1) (ih hcr.2)

theorem annotate_addsComments (hp : p.Annotatable) (text : Bytes) :
    ∃ rows, AddsComments p text (annotate p text) rows := by
  have hslots := slots_forall₂ hp text
  have hlen : (slots p text).length = (split text).length := by
    rw [hslots.length_eq, scan, length_readAll]
  obtain ⟨rows, hadded, hlines, hterminated, hsource, hdocumented⟩ := exists_rows hlen
  refine ⟨rows, hlines, hterminated, hsource, by rw [hdocumented, annotate_eq_weave], ?_, ?_⟩
  · rw [← hadded, List.forall₂_map_left_iff] at hslots
    apply forall₂_fits hslots
    rw [scan, readAll_cr, ← hlines, List.map_map]
    rfl
  · rw [← slots_isSome hp, ← hadded, List.map_map]
    rfl

theorem annotate_of_not_hasConstructs (hp : ¬p.hasConstructs) (text : Bytes) : annotate p text = text := by
  rw [annotate_eq_weave, slots_of_not_hasConstructs hp]
  exact weave_none _ (by simp) _

theorem length_source_le (rows : List Row) :
    (rows.flatMap Row.source).length ≤ (rows.flatMap Row.documented).length := by
  induction rows with
  | nil => simp
  | cons r rows ih =>
      simp only [List.flatMap_cons, List.length_append, Row.documented]
      omega

theorem length_source_lt {rows : List Row} {lines : List Line} (h : List.Forall₂ (Row.Fits p) rows lines)
    (hadded : true ∈ rows.map fun r => r.added.isSome) :
    (rows.flatMap Row.source).length < (rows.flatMap Row.documented).length := by
  induction h with
  | nil => simp at hadded
  | @cons r l rows lines hfits _ ih =>
      simp only [List.flatMap_cons, List.length_append, Row.documented]
      cases hr : r.added with
      | none =>
          have hlt := ih (by simpa [hr] using hadded)
          omega
      | some c =>
          obtain ⟨-, _, line, -, rfl, -⟩ := hfits c hr
          have hle := length_source_le rows
          simp only [Option.getD_some, List.length_append, List.length_singleton]
          omega

theorem annotate_ne_of_bare (hp : p.Annotatable) {text : Bytes} (h : true ∈ bare none (Line.scan p text)) :
    annotate p text ≠ text := by
  obtain ⟨rows, hrows⟩ := annotate_addsComments hp text
  have hlength := length_source_lt hrows.fits (hrows.filled ▸ h)
  rw [hrows.source, hrows.documented] at hlength
  exact fun heq => absurd (congrArg List.length heq) (by omega)

end SourceSurvey.Annotation

namespace SourceSurvey.Analyzer

open Bytes Annotation

/-- A decoder that keeps valid text: what it gives, with the mark it took off, is what it read. -/
def IsLossless (decoder : Decoder) : Prop :=
  ∀ content decoded, Utf8.isValid content → decoder content = .ok decoded →
    decoded.signature ++ decoded.text = content

theorem isLossless_decoder {o : AnalyzerOptions} {a : Analyzer} (ha : ofOptions o = .ok a)
    (h : ∀ decoder ∈ o.decoder, IsLossless decoder) : IsLossless a.decoder := by
  rw [ofOptions_decoder ha]
  cases hdecoder : o.decoder with
  | some decoder => exact h decoder hdecoder
  | none =>
      rintro content decoded hvalid ⟨⟩
      exact Charset.decode_lossless hvalid o.defaultEncoding

/-- The annotated copy of valid text is the text with comment lines added. -/
theorem documented_addsComments {o : AnalyzerOptions} {a : Analyzer} (ha : ofOptions o = .ok a)
    (hdecoder : ∀ decoder ∈ o.decoder, IsLossless decoder) {context : Context} {code : Bytes}
    {filename : String} {result : Analysis} (hvalid : Utf8.isValid code)
    (h : a.analyze context code filename = .ok result) :
    (a.sniffer code = .ok true → result.documented = code) ∧
      (a.sniffer code = .ok false → ∃ decoded found, a.decoder code = .ok decoded ∧
        code = decoded.signature ++ decoded.text ∧
        identify a.classifier a.language context decoded.text filename = .ok found ∧
        (¬found.profile.hasConstructs → result.documented = code) ∧
        ∃ documented rows, result.documented = decoded.signature ++ documented ∧
          AddsComments found.profile decoded.text documented rows) := by
  obtain ⟨hbinary, rfl⟩ | ⟨hbinary, decoded, hdecoded, htext⟩ := analyze_ok h
  · exact ⟨fun _ => rfl, fun htext => by simp [hbinary] at htext⟩
  · refine ⟨fun hyes => by simp [hbinary] at hyes, fun _ => ?_⟩
    obtain ⟨found, hfound, hdocumented⟩ := analyzeText_ok htext
    have hcode := isLossless_decoder ha hdecoder code decoded hvalid hdecoded
    obtain ⟨rows, hrows⟩ := annotate_addsComments (identify_isKnown hfound).annotatable decoded.text
    refine ⟨decoded, found, hdecoded, hcode.symm, hfound, ?_, _, rows, hdocumented, hrows⟩
    intro hconstructs
    rw [hdocumented, annotate_of_not_hasConstructs hconstructs, hcode]

theorem documented_addsComments_python :
    ∃ a result, ofOptions {} = .ok a ∧ a.analyze .live (utf8 "def f()") "a.py" = .ok result ∧
      ∃ (decoded : Decoded) (found : Identification) (documented : Bytes) (rows : List Row),
        identify a.classifier a.language .live decoded.text "a.py" = .ok found ∧
        result.documented = decoded.signature ++ documented ∧
        AddsComments found.profile decoded.text documented rows := by
  have hvalid : Utf8.isValid (utf8 "def f()") := by cbv
  have htext : Charset.isBinary (utf8 "def f()") = false := by decide +kernel
  have hblank : (utf8 "def f()").isBlank = false := by cbv
  have hstrip : (utf8 "def f()").strip.isEmpty = false := by cbv
  have hdecode : Charset.decode "" (utf8 "def f()") = ⟨utf8 "def f()", "utf-8", true, false⟩ := by cbv
  have hclassifier := Classifier.ofEvidence_ne_cancels 0 0 (utf8 "def f()")
  obtain ⟨a, ha⟩ : ∃ a, ofOptions {} = .ok a := ⟨_, rfl⟩
  obtain ⟨result, h⟩ : ∃ result, a.analyze .live (utf8 "def f()") "a.py" = .ok result := by
    cases ha
    rw [analyze_of_live hblank (by decide +kernel) (congrArg Except.ok htext) rfl, hdecode]
    exact analyzeText_of_live rfl (fun _ _ _ => ⟨_, rfl⟩) hstrip hclassifier "a.py"
  obtain ⟨decoded, found, -, -, hfound, -, documented, rows, hdocumented, hrows⟩ :=
    (documented_addsComments ha (by simp) hvalid h).2 (by rw [ofOptions_sniffer ha]; exact congrArg Except.ok htext)
  exact ⟨a, result, ha, h, decoded, found, documented, rows, hfound, hdocumented, hrows⟩

end SourceSurvey.Analyzer
