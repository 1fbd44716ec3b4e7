import SourceSurvey.Explanation.Excerpt
import SourceSurvey.Proofs.Text.Pieces

namespace SourceSurvey

open Bytes

namespace Excerpt

/-- The chunk stands at the beginning of the text, after white space alone. -/
def Opens (text chunk : Bytes) : Prop :=
  ∃ w rest, text = w ++ chunk ++ rest ∧ Blank w ∧ Utf8.isValid chunk ∧ Utf8.isValid rest

/-- The first chunk stands at the beginning of the text, and is white space only where it is too long to be stripped; a
text without chunks is white space. -/
inductive Leads (limit : Nat) (text : Bytes) : List Bytes → Prop
  | none (h : Blank text) : Leads limit text []
  | some {chunk : Bytes} {more : List Bytes} (hopens : Opens text chunk)
      (hlong : chunk.isBlank → limit ≤ Utf8.length chunk) : Leads limit text (chunk :: more)

variable {text text' rest w sep chunk : Bytes} {limit : Nat} {cs cs' ps : List Bytes}

theorem Opens.isValid (h : Opens text chunk) : Utf8.isValid text := by
  obtain ⟨w, rest, rfl, hw, hchunk, hrest⟩ := h
  rw [List.append_assoc, Utf8.isValid_append hw.isValid, Utf8.isValid_append hchunk, hrest]

theorem Opens.after_blank (hw : Blank w) (h : Opens text chunk) : Opens (w ++ text) chunk := by
  obtain ⟨w', rest, rfl, hw', hchunk, hrest⟩ := h
  exact ⟨w ++ w', rest, by simp, hw.append hw', hchunk, hrest⟩

theorem Opens.append (h : Opens text chunk) (hrest : Utf8.isValid rest) : Opens (text ++ rest) chunk := by
  obtain ⟨w, rest', rfl, hw, hchunk, hrest'⟩ := h
  exact ⟨w, rest' ++ rest, by simp, hw, hchunk, by rw [Utf8.isValid_append hrest', hrest]⟩

theorem opens_self (h : Utf8.isValid text) : Opens text text := ⟨[], [], by simp, blank_nil, h, blank_nil.isValid⟩

theorem Leads.isValid (h : Leads limit text cs) : Utf8.isValid text := by
  cases h with
  | none h => exact h.isValid
  | some hopens => exact hopens.isValid

theorem Leads.append (h : Leads limit text cs) (hw : Blank w)
    (h' : Leads limit text' cs') : Leads limit (text ++ w ++ text') (cs ++ cs') := by
  cases h with
  | none h =>
      cases h' with
      | none h' => exact .none ((h.append hw).append h')
      | some hopens hlong => exact .some (hopens.after_blank (h.append hw)) hlong
  | some hopens hlong =>
      rw [List.append_assoc]
      refine .some (hopens.append ?_) hlong
      rw [Utf8.isValid_append hw.isValid, h'.isValid]

theorem exists_gap (hsep : Blank sep) (ps qs : List Bytes) :
    ∃ w, Blank w ∧ Bytes.join sep (ps ++ qs) = Bytes.join sep ps ++ w ++ Bytes.join sep qs := by
  by_cases hps : ps = []
  · exact ⟨[], blank_nil, by simp [hps]⟩
  by_cases hqs : qs = []
  · exact ⟨[], blank_nil, by simp [hqs]⟩
  · exact ⟨sep, hsep, join_append sep hps hqs⟩

theorem isValid_join (hsep : Blank sep) (hps : ∀ p ∈ ps, Utf8.isValid p) : Utf8.isValid (Bytes.join sep ps) := by
  induction ps with
  | nil => exact blank_nil.isValid
  | cons p ps ih =>
      rw [List.forall_mem_cons] at hps
      obtain ⟨w, hw, hjoin⟩ := exists_gap hsep [p] ps
      rw [← List.singleton_append, hjoin, join_singleton, List.append_assoc, Utf8.isValid_append hps.1,
        Utf8.isValid_append hw.isValid, ih hps.2]

theorem blank_join (hsep : Blank sep) (hps : ∀ p ∈ ps, Utf8.isValid p) :
    (Bytes.join sep ps).isBlank ↔ ∀ p ∈ ps, p.isBlank := by
  induction ps with
  | nil => simp [isBlank]
  | cons p ps ih =>
      rw [List.forall_mem_cons] at hps
      obtain ⟨w, hw, hjoin⟩ := exists_gap hsep [p] ps
      rw [← List.singleton_append, hjoin, join_singleton, List.append_assoc, isBlank_append hps.1,
        isBlank_append hw.isValid, hw.isBlank, Bool.true_and, Bool.and_eq_true, ih hps.2]
      simp

theorem opens_strip (h : Utf8.isValid text) : Opens text text.strip := by
  obtain ⟨u, v, htext, hu, hv, hmiddle, -⟩ := exists_strip h
  exact ⟨u, v, htext, hu, hmiddle, hv.isValid⟩

theorem isBlank_of_strip (h : Utf8.isValid text) (hnil : text.strip = []) : text.isBlank := by
  obtain ⟨u, v, htext, hu, hv, -⟩ := exists_strip h
  rw [hnil, List.append_nil] at htext
  rw [htext, (hu.append hv).isBlank]

/-- What is known of the pieces that merging has passed: those before the current ones are white space, or else the
first finished chunk stands at the beginning of what they are joined to. -/
inductive Merge.Stands (sep : Bytes) (passed : List Bytes) (m : Merge) : Prop
  | blank (dropped : List Bytes) (hchunks : m.chunks = []) (hpassed : passed = dropped ++ m.current.reverse)
      (hdropped : ∀ p ∈ dropped, p.isBlank)
  | found (chunk : Bytes) (hchunks : m.chunks.getLast? = some chunk) (hopens : Opens (Bytes.join sep passed) chunk)
      (hvisible : ¬chunk.isBlank)

theorem dropPieces_suffix (sep : Bytes) (ps : List Bytes) (total : Nat) : (dropPieces sep ps total).1 <:+ ps := by
  fun_induction dropPieces sep ps total with
  | case1 total => exact List.suffix_rfl
  | case2 p ps total htotal ih => exact ih.trans (List.suffix_cons p ps)
  | case3 p ps total htotal => exact List.suffix_rfl

namespace Merge

variable {m : Merge} {passed kept : List Bytes} {piece : Bytes}

theorem Stands.close (hsep : Blank sep) (hvalid : ∀ p ∈ passed, Utf8.isValid p) (h : Stands sep passed m)
    (hkept : kept <:+ m.current.reverse) (total : Nat) :
    Stands sep passed { m.finish sep with current := kept.reverse, total } := by
  rw [finish]
  cases h with
  | blank dropped hchunks hpassed hdropped =>
      rw [hpassed, List.forall_mem_append] at hvalid
      have hjoin := isValid_join hsep hvalid.2
      split
      · rename_i hnil
        have hblank := (blank_join hsep hvalid.2).mp (isBlank_of_strip hjoin (List.isEmpty_iff.mp hnil))
        obtain ⟨taken, htaken⟩ := hkept
        rw [← htaken, List.forall_mem_append] at hblank
        refine .blank (dropped ++ taken) hchunks ?_ (List.forall_mem_append.mpr ⟨hdropped, hblank.1⟩)
        rw [hpassed, ← htaken]
        simp
      · rename_i hne
        obtain ⟨w, hw, hgap⟩ := exists_gap hsep dropped m.current.reverse
        refine .found _ (by rw [hchunks]; rfl) ?_ ?_
        · have hdropped : Blank (Bytes.join sep dropped) :=
            ⟨isValid_join hsep hvalid.1, (blank_join hsep hvalid.1).mpr hdropped⟩
          rw [hpassed, hgap]
          exact (opens_strip hjoin).after_blank (hdropped.append hw)
        · obtain ⟨u, v, -, -, -, -, hvisible⟩ := exists_strip hjoin
          exact fun hblank => hne (by rw [hvisible hblank]; rfl)
  | found chunk hchunks hopens hvisible =>
      refine .found chunk ?_ hopens hvisible
      split
      · exact hchunks
      · rw [List.getLast?_cons, hchunks]
        rfl

theorem Stands.push (hsep : Blank sep) (hpiece : Utf8.isValid piece) (h : Stands sep passed m) (total : Nat) :
    Stands sep (passed ++ [piece]) { m with current := piece :: m.current, total } := by
  cases h with
  | blank dropped hchunks hpassed hdropped =>
      refine .blank dropped hchunks ?_ hdropped
      rw [hpassed]
      simp
  | found chunk hchunks hopens hvisible =>
      refine .found chunk hchunks ?_ hvisible
      obtain ⟨w, hw, hgap⟩ := exists_gap hsep passed [piece]
      rw [hgap, join_singleton, List.append_assoc]
      exact hopens.append (by rw [Utf8.isValid_append hw.isValid, hpiece])

theorem Stands.add (hsep : Blank sep) (hvalid : ∀ p ∈ passed ++ [piece], Utf8.isValid p) (h : Stands sep passed m) :
    Stands sep (passed ++ [piece]) (m.add limit sep piece) := by
  rw [List.forall_mem_append] at hvalid
  rw [Merge.add]
  apply Stands.push hsep (hvalid.2 _ List.mem_cons_self)
  apply iteInduction
  · intro hfull
    exact h.close hsep hvalid.1 (dropPieces_suffix ..) _
  · intro hfits
    exact h

theorem Stands.foldl (hsep : Blank sep) (hvalid : ∀ p ∈ passed ++ ps, Utf8.isValid p) (h : Stands sep passed m) :
    Stands sep (passed ++ ps) (ps.foldl (Merge.add limit sep) m) := by
  induction ps generalizing passed m with
  | nil => simpa using h
  | cons p ps ih =>
      rw [← List.singleton_append, ← List.append_assoc] at hvalid ⊢
      rw [List.forall_mem_append] at hvalid
      exact ih (List.forall_mem_append.mpr hvalid) (h.add hsep hvalid.1)

theorem Stands.leads (hsep : Blank sep) (hvalid : ∀ p ∈ passed, Utf8.isValid p) (h : Stands sep passed m) :
    Leads limit (Bytes.join sep passed) (m.finish sep).chunks.reverse := by
  have hclosed := h.close hsep hvalid List.nil_suffix 0
  cases hclosed with
  | blank dropped hchunks hpassed hdropped =>
      obtain rfl : passed = dropped := by simpa using hpassed
      have hnil : (m.finish sep).chunks = [] := hchunks
      rw [hnil, List.reverse_nil]
      exact .none ⟨isValid_join hsep hvalid, (blank_join hsep hvalid).mpr hdropped⟩
  | found chunk hchunks hopens hvisible =>
      obtain ⟨later, hlater⟩ := List.getLast?_eq_some_iff.mp hchunks
      have hfirst : (m.finish sep).chunks = later ++ [chunk] := hlater
      rw [hfirst, List.reverse_append, List.reverse_singleton, List.singleton_append]
      exact .some hopens fun hblank => absurd hblank hvisible

end Merge

theorem merge_leads (limit : Nat) (hsep : Blank sep) (hps : ∀ p ∈ ps, Utf8.isValid p) :
    Leads limit (Bytes.join sep ps) (merge limit sep ps) := by
  have hstart : Merge.Stands sep [] {} := .blank [] rfl rfl (by simp)
  exact (hstart.foldl hsep hps).leads hsep hps

variable {seps : List Bytes} {deeper : Bytes → List Bytes}

theorem merge_unless_empty (limit : Nat) (sep : Bytes) (short : List Bytes) :
    (if short.isEmpty then [] else merge limit sep short.reverse) = merge limit sep short.reverse := by
  cases short with
  | nil => simp [merge, Merge.finish, strip, Utf8.join]
  | cons p short => rfl

theorem arrange_leads (short ps : List Bytes) (hsep : Blank sep)
    (hdeeper : ∀ p, Utf8.isValid p → limit ≤ Utf8.length p → Leads limit p (deeper p))
    (hvalid : ∀ p ∈ short.reverse ++ ps, Utf8.isValid p) :
    Leads limit (Bytes.join sep (short.reverse ++ ps)) (arrange limit sep deeper short ps) := by
  induction ps generalizing short with
  | nil =>
      rw [arrange, merge_unless_empty]
      rw [List.append_nil] at hvalid ⊢
      exact merge_leads limit hsep hvalid
  | cons p ps ih =>
      rw [arrange]
      split
      · rw [← List.singleton_append, ← List.append_assoc, ← List.reverse_cons] at hvalid ⊢
        exact ih (p :: short) hvalid
      · rename_i hlong
        obtain ⟨w, hw, hbefore⟩ := exists_gap hsep short.reverse (p :: ps)
        obtain ⟨w', hw', hafter⟩ := exists_gap hsep [p] ps
        rw [List.forall_mem_append, List.forall_mem_cons] at hvalid
        have hrest : Leads limit (Bytes.join sep ps) (arrange limit sep deeper [] ps) := ih [] hvalid.2.2
        have hpiece := (hdeeper p hvalid.2.1 (Nat.not_lt.mp hlong)).append hw' hrest
        rw [hbefore, ← List.singleton_append, hafter, join_singleton, merge_unless_empty,
          List.append_assoc (merge limit sep short.reverse)]
        exact (merge_leads limit hsep hvalid.1).append hw hpiece

theorem join_divide (sep text : Bytes) : Bytes.join sep (divide sep text) = text := by
  rw [divide]
  split
  · rename_i hsep
    rw [List.isEmpty_iff.mp hsep, join_empty, ← List.flatMap_def]
    exact Utf8.join_glyphs text
  · rename_i hsep
    exact join_splitOn (by simpa using hsep) text

theorem isValid_of_mem_divide (hascii : ∀ b ∈ sep, b < 0x80) (hvalid : Utf8.isValid text) :
    ∀ p ∈ divide sep text, Utf8.isValid p := by
  by_cases hsep : sep = []
  · obtain ⟨cs, rfl⟩ := Utf8.isValid_iff.mp hvalid
    rw [hsep, divide, List.isEmpty_nil, if_pos rfl, Utf8.glyphs_encode, List.map_map, List.forall_mem_map]
    intro c hc
    exact Utf8.isValid_iff.mpr ⟨[c], by simp [Utf8.encode]⟩
  · exact isValid_of_join hascii hsep (by rwa [join_divide])

theorem chunks_leads (hseps : ∀ s ∈ seps, Blank s ∧ ∀ b ∈ s, b < 0x80) (hvalid : Utf8.isValid text)
    (hlong : limit ≤ Utf8.length text) : Leads limit text (chunks limit seps text) := by
  induction seps generalizing text with
  | nil => exact .some (opens_self hvalid) fun _ => hlong
  | cons s finer ih =>
      rw [List.forall_mem_cons] at hseps
      have hdeeper : ∀ p, Utf8.isValid p → limit ≤ Utf8.length p →
          Leads limit p ((if finer.isEmpty then fun p => [p] else chunks limit finer) p) := by
        intro p hp hlength
        split
        · exact .some (opens_self hp) fun _ => hlength
        · exact ih hseps.2 hp hlength
      rw [chunks]
      split
      · have harranged := arrange_leads [] (divide s text) hseps.1.1 hdeeper
          (isValid_of_mem_divide hseps.1.2 hvalid)
        rwa [List.reverse_nil, List.nil_append, join_divide] at harranged
      · exact ih hseps.2 hvalid hlong

def head (limit : Nat) (text : Bytes) : Bytes :=
  let first := (chunks limit separators text).headD []
  if first.isEmpty || limit < Utf8.length first then Utf8.encode ((Utf8.chars text).take limit) else first

theorem separators_blank : ∀ s ∈ separators, Blank s ∧ ∀ b ∈ s, b < 0x80 := by
  have hspace : ["\n\n", "\n", " ", ""].all (fun s => s.toList.all Letter.isSpace) = true := by
    decide
  have hascii : ∀ s ∈ separators, ∀ b ∈ s, b < 0x80 := by
    decide +kernel
  intro s hs
  refine ⟨?_, hascii s hs⟩
  obtain ⟨t, ht, rfl⟩ := List.mem_map.mp hs
  rw [utf8_eq]
  exact blank_encode (List.all_eq_true.mp (List.all_eq_true.mp hspace t ht))

theorem opens_head (hvalid : Utf8.isValid text) (hlong : limit ≤ Utf8.length text) :
    Opens text (head limit text) ∧ Utf8.length (head limit text) ≤ limit ∧
      ((head limit text).isBlank → ∀ c ∈ (Utf8.chars text).take limit, Letter.isSpace c) := by
  have hleads : Leads limit text (chunks limit separators text) := chunks_leads separators_blank hvalid hlong
  rw [head]
  split
  · obtain ⟨cs, rfl⟩ := Utf8.isValid_iff.mp hvalid
    rw [Utf8.chars_encode]
    refine ⟨⟨[], Utf8.encode (cs.drop limit), ?_, blank_nil, Utf8.isValid_encode _, Utf8.isValid_encode _⟩, ?_, ?_⟩
    · rw [List.nil_append, ← Utf8.encode_append, List.take_append_drop]
    · rw [Utf8.length_encode]
      exact List.length_take_le ..
    · rw [isBlank_encode]
      exact List.all_eq_true.mp
  · rename_i hfits
    rw [Bool.or_eq_true, not_or, decide_eq_true_eq, Nat.not_lt] at hfits
    generalize chunks limit separators text = cs at hleads hfits
    cases hleads with
    | none h => exact absurd rfl hfits.1
    | @some chunk more hopens hrun =>
        refine ⟨hopens, hfits.2, fun hblank => ?_⟩
        obtain ⟨w, rest, rfl, hw, hchunk, -⟩ := hopens
        have hbefore : Blank (w ++ chunk) := hw.append ⟨hchunk, hblank⟩
        have hlength : limit ≤ (Utf8.chars (w ++ chunk)).length := by
          rw [Utf8.length_chars, Utf8.length_append hw.isValid]
          exact Nat.le_add_left_of_le (hrun hblank)
        rw [Utf8.chars_append hbefore.isValid, List.take_append_of_le_length hlength]
        exact fun c hc => isBlank_iff.mp hbefore.isBlank c (List.mem_of_mem_take hc)

def isTrailing (b : UInt8) : Bool := b = 32 || b = 9 || b = 13 || b = 10

theorem isTrailing_ascii : ∀ b, isTrailing b → b < 0x80 ∧ Letter.isSpace (Utf8.ascii b).char := by
  intro b hb
  simp only [isTrailing, Bool.or_eq_true, decide_eq_true_eq] at hb
  rcases hb with ((rfl | rfl) | rfl) | rfl
  all_goals decide

theorem isBlank_of_isTrailing (h : ∀ b ∈ text, isTrailing b) : text.isBlank := by
  rw [isBlank, Utf8.glyphs_ascii fun b hb => (isTrailing_ascii b (h b hb)).1, List.all_map, List.all_eq_true]
  exact fun b hb => (isTrailing_ascii b (h b hb)).2

theorem excerpt_of_short {limit : Int} (h : limit ≤ 0 ∨ (Utf8.length text : Int) ≤ limit) : excerpt limit text = text := by
  rw [excerpt, if_pos (by simpa using h)]

theorem excerpt_of_long {limit : Nat} (hpos : 0 < limit) (hlong : limit < Utf8.length text) :
    excerpt limit text = (head limit text).dropRight isTrailing ++ [10] ++ truncationMarker := by
  rw [excerpt, if_neg (by simp; omega)]
  rfl

end Excerpt

open Excerpt in
/-- An excerpt is the whole text if that is short enough, and else a beginning of it, with the mark on a line of its
own. It shows nothing only of a text that begins with nothing but white space. -/
theorem excerpt_beginning {text : Bytes} (hvalid : Utf8.isValid text) (limit : Int) :
    (limit ≤ 0 ∨ (Utf8.length text : Int) ≤ limit → excerpt limit text = text) ∧
    (0 < limit → limit < Utf8.length text → ∃ h, excerpt limit text = h ++ [10] ++ truncationMarker ∧
      Utf8.isValid h ∧ Utf8.length h ≤ limit ∧ (∀ b ∈ h.getLast?, b ∉ [32, 9, 13, 10]) ∧
      h.stripLeft <+: text.stripLeft ∧ (h = [] → ∀ c ∈ (Utf8.chars text).take limit.toNat, Letter.isSpace c)) := by
  refine ⟨excerpt_of_short, fun hpos hlong => ?_⟩
  obtain ⟨n, rfl⟩ := Int.eq_ofNat_of_zero_le (Int.le_of_lt hpos)
  rw [Int.natCast_pos] at hpos
  rw [Int.ofNat_lt] at hlong
  obtain ⟨⟨w, rest, htext, hw, hhead, hrest⟩, hlength, hblank⟩ := opens_head hvalid hlong.le
  have hexcerpt := excerpt_of_long hpos hlong
  generalize head n text = shown at hexcerpt htext hhead hlength hblank
  -- What is cut off the end of the head is white space, so a head that shows something still does.
  obtain ⟨tail, htail, hcut, hkept⟩ := exists_dropRight (fun b hb => (isTrailing_ascii b hb).1) hhead
  refine ⟨shown.dropRight isTrailing, hexcerpt, hkept, ?_, ?_, ?_, ?_⟩
  · rw [htail, Utf8.length_append hkept] at hlength
    exact Int.ofNat_le.mpr (Nat.le_of_add_right_le hlength)
  · intro b hb
    obtain ⟨hne, rfl⟩ := List.mem_getLast?_eq_getLast hb
    have hvisible : ¬isTrailing ((shown.dropRight isTrailing).getLast hne) :=
      List.rdropWhile_last_not _ _ hne
    simpa [isTrailing, and_assoc] using hvisible
  · have hbegins : text.stripLeft = (shown.dropRight isTrailing ++ (tail ++ rest)).stripLeft := by
      rw [← List.append_assoc, ← htail, htext, List.append_assoc, stripLeft_blank hw]
    rw [hbegins]
    exact stripLeft_prefix hkept _
  · intro hnone
    rw [hnone, List.nil_append] at htail
    rw [Int.toNat_natCast]
    exact hblank (isBlank_of_isTrailing (htail ▸ hcut))

theorem excerpt_beginning_words : let text := utf8 "\n one two three"
    Utf8.isValid text ∧ (0 : Int) < 9 ∧ (9 : Int) < Utf8.length text ∧
    (∃ h, excerpt 9 text = h ++ [10] ++ Excerpt.truncationMarker ∧ Utf8.isValid h ∧ (Utf8.length h : Int) ≤ 9 ∧
      (∀ b ∈ h.getLast?, b ∉ [32, 9, 13, 10]) ∧ h.stripLeft <+: text.stripLeft ∧
      (h = [] → ∀ c ∈ (Utf8.chars text).take 9, Letter.isSpace c)) ∧ excerpt 20 text = text := by
  intro text
  have hvalid : Utf8.isValid text := isValid_utf8 _
  have hlength : Utf8.length text = 15 := by
    exact (congrArg Utf8.length (utf8_eq _)).trans (Utf8.length_encode _)
  have hbeginning := excerpt_beginning hvalid
  rw [hlength] at hbeginning ⊢
  exact ⟨hvalid, by decide, by decide, (hbeginning 9).2 (by decide) (by decide), (hbeginning 20).1 (by decide)⟩

end SourceSurvey
