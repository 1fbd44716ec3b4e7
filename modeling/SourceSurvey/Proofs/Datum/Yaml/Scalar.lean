import Mathlib.Tactic.SplitIfs
import SourceSurvey.Datum.Yaml.Parser
import SourceSurvey.Proofs.Text.Encoding

namespace SourceSurvey

namespace Yaml

theorem rowsFrom_cons {line cs : List Char} {c : Char} (hc : c ≠ '\r') : rowsFrom line (c :: cs) =
    if isBreak c then
      rowsFrom.make line (some (if c.toNat = 0x2028 || c.toNat = 0x2029 then c else '\n')) :: rowsFrom [] cs
    else rowsFrom (c :: line) cs := by
  rw [rowsFrom]
  intro cs' hcr
  exact absurd hcr hc

theorem ne_return_of_not_isBreak {c : Char} (h : isBreak c = false) : c ≠ '\r' := by
  rintro rfl
  simp [isBreak] at h

theorem rowsFrom_append {u : List Char} (hu : ∀ c ∈ u, isBreak c = false) (line cs : List Char) :
    rowsFrom line (u ++ cs) = rowsFrom (u.reverse ++ line) cs := by
  induction u generalizing line with
  | nil => rfl
  | cons c u ih =>
      have hc := hu c List.mem_cons_self
      rw [List.cons_append, rowsFrom_cons (ne_return_of_not_isBreak hc), hc, if_neg (by simp),
        ih fun c hc => hu c (List.mem_cons_of_mem _ hc)]
      simp

theorem rowsFrom_newline (line cs : List Char) :
    rowsFrom line ('\n' :: cs) = rowsFrom.make line (some '\n') :: rowsFrom [] cs := by
  rw [rowsFrom_cons (by decide)]
  rfl

theorem rowsFrom_begun {line : List Char} (hline : line ≠ []) (cs : List Char) :
    ∃ u stop rows, rowsFrom line cs = rowsFrom.make (u ++ line) stop :: rows := by
  fun_induction rowsFrom line cs with
  | case1 =>
      rename_i hempty
      exact absurd (List.isEmpty_iff.mp hempty) hline
  | case2 => exact ⟨[], _, _, rfl⟩
  | case3 => exact ⟨[], _, _, rfl⟩
  | case4 => exact ⟨[], _, _, rfl⟩
  | case5 =>
      rename_i line c cs _ _ ih
      obtain ⟨u, stop, rows, hrows⟩ := ih (by simp)
      exact ⟨u ++ [c], stop, rows, by simpa using hrows⟩

theorem make_visible {line cs : List Char} {c : Char} (hline : line.reverse = c :: cs) (hc : c ≠ ' ')
    (stop : Option Char) : rowsFrom.make line stop = ⟨0, c :: cs, stop⟩ := by
  rw [rowsFrom.make, hline]
  simp [hc]

/-- A row that no collection at the margin takes for a member. -/
def Row.IsDeep (r : Row) : Prop := r.text = [] ∨ 0 < r.indent

theorem isDeep_make {line : List Char} (h : line = [] ∨ ∃ cs, line.reverse = ' ' :: cs) (stop : Option Char) :
    (rowsFrom.make line stop).IsDeep := by
  obtain rfl | ⟨cs, hcs⟩ := h
  · exact .inl rfl
  · right
    have hle : (cs.dropWhile (· = ' ')).length ≤ cs.length := (List.dropWhile_sublist _).length_le
    simp only [rowsFrom.make, hcs, List.dropWhile_cons, List.length_cons, decide_true, if_true]
    omega

theorem length_hex (w n : Nat) : (hex w n).length = w := by
  induction w generalizing n with
  | zero => rfl
  | succ w ih => rw [hex, List.length_append, ih, List.length_singleton]

theorem unescape?_coded {c : Char} {w n : Nat} {rest : List Char} {x : Char × List Char}
    (hc : (c, w) ∈ [('x', 2), ('u', 4), ('U', 8)]) (h : unescape? (c :: (hex w n ++ rest)) = some x) : x.2 = rest := by
  have hdrop : (hex w n ++ rest).drop w = rest := by
    rw [List.drop_append_of_le_length (by rw [length_hex]), List.drop_of_length_le (by rw [length_hex]), List.nil_append]
  simp only [List.mem_cons, Prod.mk.injEq, List.not_mem_nil, or_false] at hc
  obtain ⟨rfl, rfl⟩ | ⟨rfl, rfl⟩ | ⟨rfl, rfl⟩ := hc
  all_goals
    simp only [unescape?, Char.reduceEq, if_true, if_false] at h
    split at h
    · cases h
    obtain ⟨m, -, h⟩ := Option.bind_eq_some_iff.mp h
    split at h
    · cases h
    · cases h
      exact hdrop

theorem unescape?_short {k : Nat} {e : Char} (h : (k, e) ∈ shortEscapes) (rest : List Char) :
    ∃ c, unescape? (e :: rest) = some (c, rest) := by
  simp only [shortEscapes, List.mem_cons, Prod.mk.injEq, List.not_mem_nil, or_false] at h
  obtain ⟨rfl, rfl⟩ | ⟨rfl, rfl⟩ | ⟨rfl, rfl⟩ | ⟨rfl, rfl⟩ | ⟨rfl, rfl⟩ | ⟨rfl, rfl⟩ | ⟨rfl, rfl⟩ | ⟨rfl, rfl⟩ | ⟨rfl, rfl⟩ |
    ⟨rfl, rfl⟩ | ⟨rfl, rfl⟩ | ⟨rfl, rfl⟩ | ⟨rfl, rfl⟩ | ⟨rfl, rfl⟩ | ⟨rfl, rfl⟩ := h
  all_goals exact ⟨_, rfl⟩

inductive Escaped (c : Char) : List Char → Prop
  | plain (hbreak : isBreak c = false) (hquote : c ≠ '"') (hslash : c ≠ '\\') : Escaped c [c]
  | short {k : Nat} {e : Char} (h : (k, e) ∈ shortEscapes) : Escaped c ['\\', e]
  | coded {k : Char} {w n : Nat} (h : (k, w) ∈ [('x', 2), ('u', 4), ('U', 8)]) : Escaped c ('\\' :: k :: hex w n)

theorem escaped_escapeChar (c : Char) : Escaped c (escapeChar c) := by
  rw [escapeChar]
  split
  · rename_i h
    simp only [Bool.and_eq_true, Bool.not_eq_true', decide_eq_true_eq, ne_eq] at h
    exact .plain h.1.1.2 h.1.2 h.2
  split
  · rename_i e he
    obtain ⟨before, after, hmem, -⟩ := List.lookup_eq_some_iff.mp he
    exact .short (k := c.toNat) (by simp [hmem])
  split
  · exact .coded (w := 2) (by simp)
  split
  · exact .coded (w := 4) (by simp)
  · exact .coded (w := 8) (by simp)

theorem isBreak_hex (w n : Nat) : ∀ c ∈ hex w n, isBreak c = false := by
  have hdigit : ∀ k < 16, isBreak (hexDigit k) = false := by decide
  induction w generalizing n with
  | zero => simp [hex]
  | succ w ih =>
      rw [hex]
      intro c hc
      obtain hc | hc := List.mem_append.mp hc
      · exact ih _ c hc
      · rw [List.mem_singleton.mp hc]
        exact hdigit _ (Nat.mod_lt n (by decide))

theorem Escaped.isBreak {c : Char} {cs : List Char} (h : Escaped c cs) : ∀ d ∈ cs, Yaml.isBreak d = false := by
  cases h with
  | plain hbreak => simpa using hbreak
  | short he =>
      have hall : ∀ x ∈ shortEscapes, Yaml.isBreak x.2 = false := by decide
      simpa using ⟨by decide, hall _ he⟩
  | coded hk =>
      have hall : ∀ x ∈ [('x', 2), ('u', 4), ('U', 8)], Yaml.isBreak x.1 = false := by decide
      simpa using ⟨by decide, hall _ hk, isBreak_hex _ _⟩

theorem readDouble_char {fuel blanks : Nat} {seen cs : List Char} {c : Char} {stop : Option Char} {rows : List Row}
    (hquote : c ≠ '"') (hslash : c ≠ '\\') : readDouble (fuel + 1) seen blanks ⟨c :: cs, stop, rows⟩ =
      readDouble fuel (c :: seen) (if isBlank c then blanks + 1 else 0) ⟨cs, stop, rows⟩ := by
  rw [readDouble]
  split <;> simp_all

theorem readDouble_escape (fuel blanks : Nat) (seen cs : List Char) (e : Char) (stop : Option Char) (rows : List Row) :
    readDouble (fuel + 1) seen blanks ⟨'\\' :: e :: cs, stop, rows⟩ =
      (unescape? (e :: cs)).bind fun x => readDouble fuel (x.1 :: seen) 0 ⟨x.2, stop, rows⟩ := by
  rw [readDouble]
  rfl

theorem readDouble_escaped {fuel blanks : Nat} {seen cs rest : List Char} {stop : Option Char} {rows : List Row}
    {y : List Char × Cursor}
    (h : readDouble fuel seen blanks ⟨cs.flatMap escapeChar ++ '"' :: rest, stop, rows⟩ = some y) :
    y.2 = ⟨rest, stop, rows⟩ := by
  induction fuel generalizing seen blanks cs with
  | zero => cases h
  | succ fuel ih =>
      cases cs with
      | nil =>
          cases h
          rfl
      | cons c cs =>
          rw [List.flatMap_cons, List.append_assoc] at h
          have hc := escaped_escapeChar c
          generalize escapeChar c = written at h hc
          -- In whichever form a character is written, reading takes that form and nothing behind it.
          cases hc with
          | plain _ hquote hslash =>
              rw [List.singleton_append, readDouble_char hquote hslash] at h
              exact ih h
          | short he =>
              rw [List.cons_append, List.singleton_append, readDouble_escape] at h
              obtain ⟨x, hx, h⟩ := Option.bind_eq_some_iff.mp h
              obtain ⟨d, hd⟩ := unescape?_short he (cs.flatMap escapeChar ++ '"' :: rest)
              rw [hd] at hx
              cases hx
              exact ih h
          | coded hk =>
              rw [List.cons_append, List.cons_append, readDouble_escape] at h
              obtain ⟨x, hx, h⟩ := Option.bind_eq_some_iff.mp h
              rw [unescape?_coded hk hx] at h
              exact ih h

def doubled (c : Char) : List Char := if c = '\'' then [c, c] else [c]

/-- The rest of a text in single quotes: the rest of a row, and rows after it of which the last ends with the closing
quote. -/
inductive Closes : List Char → List Row → Prop
  | last (v : List Char) : Closes (v.flatMap doubled ++ ['\'']) []
  | next (v : List Char) {r : Row} {rows : List Row} (h : Closes r.text rows) : Closes (v.flatMap doubled) (r :: rows)

namespace Closes

variable {text : List Char} {rows : List Row}

theorem cons (h : Closes text rows) (c : Char) : Closes (doubled c ++ text) rows := by
  cases h with
  | last v =>
      rw [← List.append_assoc]
      exact .last (c :: v)
  | next v h => exact .next (c :: v) h

theorem dropWhile_doubled {p : Char → Bool} (hp : p '\'' = false) {rest : List Char} (hrest : rest.dropWhile p = rest)
    (v : List Char) : (v.flatMap doubled ++ rest).dropWhile p = (v.dropWhile p).flatMap doubled ++ rest := by
  induction v with
  | nil => exact hrest
  | cons c v ih =>
      by_cases hc : p c
      · have hquote : c ≠ '\'' := by
          rintro rfl
          simp [hp] at hc
        simpa [doubled, hquote, hc] using ih
      · by_cases hquote : c = '\'' <;> simp [doubled, hquote, hc, hp]

theorem dropWhile {p : Char → Bool} (hp : p '\'' = false) (h : Closes text rows) :
    Closes (text.dropWhile p) rows := by
  cases h with
  | last v =>
      rw [dropWhile_doubled hp (by simp [hp])]
      exact .last _
  | next v h =>
      have hdrop := dropWhile_doubled hp (List.dropWhile_nil (p := p)) v
      rw [List.append_nil, List.append_nil] at hdrop
      rw [hdrop]
      exact .next _ h

theorem nextRow {r : Row} (h : Closes r.text rows) (after : List Row) : ∃ r' rows',
    (r :: rows ++ after).dropWhile Row.isEmpty = r' :: (rows' ++ after) ∧ Closes (r'.text.dropWhile isBlank) rows' := by
  induction rows generalizing r with
  | nil =>
      have hempty : r.isEmpty = false := by
        rw [Row.isEmpty]
        generalize r.text = text at h
        cases h with
        | last v => simp [isBlank]
      exact ⟨r, [], by simp [hempty], h.dropWhile (by decide)⟩
  | cons s rows ih =>
      by_cases hempty : r.isEmpty
      · have hs : Closes s.text rows := by
          generalize r.text = text at h
          cases h with
          | next v h => exact h
        obtain ⟨r', rows', hrow, hcloses⟩ := ih hs
        exact ⟨r', rows', by rw [List.cons_append, List.dropWhile_cons_of_pos hempty, hrow], hcloses⟩
      · exact ⟨r, s :: rows, by simp [hempty], h.dropWhile (by decide)⟩

end Closes

theorem readSingle_char {fuel blanks : Nat} {seen cs : List Char} {c : Char} {stop : Option Char} {rows : List Row}
    (hquote : c ≠ '\'') : readSingle (fuel + 1) seen blanks ⟨c :: cs, stop, rows⟩ =
      readSingle fuel (c :: seen) (if isBlank c then blanks + 1 else 0) ⟨cs, stop, rows⟩ := by
  rw [readSingle]
  split <;> simp_all

theorem readSingle_end {rows rows' : List Row} {r : Row} (h : rows.dropWhile Row.isEmpty = r :: rows')
    (fuel blanks : Nat) (seen : List Char) (stop : Option Char) : ∃ seen', readSingle (fuel + 1) seen blanks ⟨[], stop, rows⟩ =
      readSingle fuel seen' 0 ⟨r.text.dropWhile isBlank, r.stop, rows'⟩ := by
  rw [readSingle, Cursor.nextLine?]
  simp only [h]
  exact ⟨_, rfl⟩

theorem readSingle_closes {fuel blanks : Nat} {seen text : List Char} {stop : Option Char} {rows after : List Row}
    {y : List Char × Cursor} (hcloses : Closes text rows)
    (h : readSingle fuel seen blanks ⟨text, stop, rows ++ after⟩ = some y) : y.2.rows = after := by
  induction fuel generalizing seen blanks text stop rows with
  | zero => cases h
  | succ fuel ih =>
      have hchar : ∀ (c : Char) (more : List Char), Closes more rows →
          readSingle (fuel + 1) seen blanks ⟨doubled c ++ more, stop, rows ++ after⟩ = some y → y.2.rows = after := by
        intro c more hmore hread
        by_cases hquote : c = '\''
        · subst hquote
          exact ih hmore hread
        · rw [doubled, if_neg hquote, List.singleton_append, readSingle_char hquote] at hread
          exact ih hmore hread
      cases hcloses with
      | last v =>
          cases v with
          | nil =>
              cases h
              rfl
          | cons c v =>
              rw [List.flatMap_cons, List.append_assoc] at h
              exact hchar c _ (.last v) h
      | next v hnext =>
          cases v with
          | nil =>
              obtain ⟨r', rows', hrow, hcloses⟩ := hnext.nextRow after
              obtain ⟨seen', hread⟩ := readSingle_end hrow fuel blanks seen stop
              rw [List.flatMap_nil, hread] at h
              exact ih hcloses h
          | cons c v => exact hchar c _ (.next v hnext) h

theorem rowsFrom_doubled {v : List Char} (hv : '\r' ∉ v) (fresh : Bool) (line cs : List Char) :
    ∃ pad text stop rows, rowsFrom line (indentLines 4 fresh (v.flatMap doubled) ++ '\'' :: '\n' :: cs) =
        rowsFrom.make ((List.replicate pad ' ' ++ text).reverse ++ line) stop :: (rows ++ rowsFrom [] cs) ∧
      Closes text rows ∧ (fresh = false → pad = 0) := by
  induction v generalizing fresh line with
  | nil =>
      refine ⟨0, ['\''], some '\n', [], ?_, .last [], fun _ => rfl⟩
      rw [List.flatMap_nil, indentLines, List.nil_append, rowsFrom_cons (by decide), if_neg (by decide), rowsFrom_newline]
      rfl
  | cons c v ih =>
      have hc : c ≠ '\r' := fun h => hv (h ▸ List.mem_cons_self)
      have hv : '\r' ∉ v := fun h => hv (List.mem_cons_of_mem _ h)
      by_cases hbreak : isBreak c
      · have hquote : c ≠ '\'' := by
          rintro rfl
          exact absurd hbreak (by decide)
        obtain ⟨pad, text, stop, rows, hrows, hcloses, -⟩ := ih hv true []
        rw [List.flatMap_cons, doubled, if_neg hquote, List.singleton_append, indentLines, if_pos hbreak,
          List.cons_append, rowsFrom_cons hc, if_pos hbreak, hrows]
        refine ⟨0, [], _, _ :: rows, rfl, .next [] ?_, fun _ => rfl⟩
        have htext : (rowsFrom.make ((List.replicate pad ' ' ++ text).reverse ++ []) stop).text =
            text.dropWhile (· = ' ') := by
          simp [rowsFrom.make]
        rw [htext]
        exact hcloses.dropWhile (by decide)
      · obtain ⟨pad, text, stop, rows, hrows, hcloses, hpad⟩ := ih hv false
          ((doubled c).reverse ++ (List.replicate (if fresh then 4 else 0) ' ' ++ line))
        have hpad := hpad rfl
        subst hpad
        have hwritten : indentLines 4 fresh ((c :: v).flatMap doubled) =
            List.replicate (if fresh then 4 else 0) ' ' ++ (doubled c ++ indentLines 4 false (v.flatMap doubled)) := by
          have hfalse : isBreak c = false := by simpa using hbreak
          by_cases hquote : c = '\'' <;> cases fresh <;> simp [doubled, hquote, indentLines, hfalse]
          all_goals simp [isBreak]
        refine ⟨if fresh then 4 else 0, doubled c ++ text, stop, rows, ?_, hcloses.cons c, fun h => by simp [h]⟩
        have hdoubled : ∀ d ∈ doubled c, isBreak d = false := by
          intro d hd
          have hdc : d = c := by
            unfold doubled at hd
            split at hd <;> simpa using hd
          simpa [hdc] using hbreak
        have hspaces : ∀ d ∈ List.replicate (if fresh then 4 else 0) ' ', isBreak d = false := by
          intro d hd
          rw [List.eq_of_mem_replicate hd]
          decide
        rw [hwritten, List.append_assoc, List.append_assoc, rowsFrom_append hspaces, rowsFrom_append hdoubled,
          List.reverse_replicate, hrows]
        simp

/-- What is written after the lines of a block, so that a line begins. -/
def closing (fresh : Bool) (cs : List Char) : List Char :=
  if (cs.getLast?.map isBreak).getD fresh then [] else ['\n']

theorem closing_cons (fresh : Bool) (c : Char) (cs : List Char) : closing fresh (c :: cs) = closing (isBreak c) cs := by
  rw [closing, closing, List.getLast?_cons]
  cases cs.getLast? <;> rfl

theorem rowsFrom_indentLines {cs : List Char} (hcs : '\r' ∉ cs) {fresh : Bool} {line : List Char}
    (hline : fresh = true ∧ line = [] ∨ fresh = false ∧ ∃ u, line.reverse = ' ' :: u) (rest : List Char) :
    ∃ rows, rowsFrom line (indentLines 4 fresh cs ++ (closing fresh cs ++ rest)) = rows ++ rowsFrom [] rest ∧
      ∀ r ∈ rows, r.IsDeep := by
  have hmargin : line = [] ∨ ∃ u, line.reverse = ' ' :: u := hline.imp And.right And.right
  induction cs generalizing fresh line with
  | nil =>
      obtain ⟨rfl, rfl⟩ | ⟨rfl, -⟩ := hline
      · exact ⟨[], rfl, by simp⟩
      · refine ⟨[_], rowsFrom_newline line rest, ?_⟩
        simpa using isDeep_make hmargin _
  | cons c cs ih =>
      have hc : c ≠ '\r' := fun h => hcs (h ▸ List.mem_cons_self)
      have hcs : '\r' ∉ cs := fun h => hcs (List.mem_cons_of_mem _ h)
      rw [closing_cons, indentLines]
      by_cases hbreak : isBreak c
      · obtain ⟨rows, hrows, hdeep⟩ := ih hcs (.inl ⟨rfl, (rfl : [] = [])⟩) (.inl rfl)
        rw [if_pos hbreak, List.cons_append, rowsFrom_cons hc, if_pos hbreak, hbreak, hrows]
        refine ⟨_ :: rows, rfl, ?_⟩
        simpa using ⟨isDeep_make hmargin _, hdeep⟩
      · have hfalse : isBreak c = false := by simpa using hbreak
        have hindented : ∃ u, (c :: ((if fresh then List.replicate 4 ' ' else []).reverse ++ line)).reverse = ' ' :: u := by
          obtain ⟨rfl, rfl⟩ | ⟨rfl, u, hu⟩ := hline
          · exact ⟨_, rfl⟩
          · exact ⟨u ++ [c], by simp [hu]⟩
        obtain ⟨rows, hrows, hdeep⟩ := ih hcs (.inr ⟨rfl, hindented⟩) (.inr hindented)
        have hspaces : ∀ d ∈ (if fresh then List.replicate 4 ' ' else []), isBreak d = false := by
          intro d hd
          obtain rfl : d = ' ' := by
            cases fresh <;> simp_all
          rfl
        refine ⟨rows, ?_, hdeep⟩
        rw [if_neg hbreak, List.append_assoc, rowsFrom_append hspaces, List.cons_append, rowsFrom_cons hc,
          if_neg hbreak, hfalse, hrows]

def Row.IsBegun (r : Row) : Prop := r.indent = 0 ∧ r.isEmpty = false

variable {fuel : Nat} {d : Datum} {first : List Char} {stop : Option Char} {l : Row} {rows rows' rest : List Row}

theorem Row.IsBegun.text_ne_nil (hl : l.IsBegun) : l.text ≠ [] := by
  intro h
  simpa [Row.isEmpty, h] using hl.2

theorem blockRows_begun (hl : l.IsBegun) (hrows : ∀ r ∈ rows, r.IsDeep) {depth : Option Nat} (hdepth : depth ≠ some 0)
    (rest : List Row) :
    ∃ rows', (blockRows 1 depth (rows ++ l :: rest)).2 = rows' ++ l :: rest ∧ ∀ r ∈ rows', r.IsDeep := by
  have hdrop : ∀ inside : Row → Bool, inside l = false → ∃ rows',
      (rows ++ l :: rest).drop ((rows ++ l :: rest).takeWhile inside).length = rows' ++ l :: rest ∧
        ∀ r ∈ rows', r.IsDeep := by
    intro inside hinside
    have hle : ((rows ++ l :: rest).takeWhile inside).length ≤ rows.length := by
      rw [List.takeWhile_append]
      split
      · simp [hinside]
      · exact (List.takeWhile_sublist _).length_le
    exact ⟨_, List.drop_append_of_le_length hle, fun r hr => hrows r (List.mem_of_mem_drop hr)⟩
  have htext : l.text.isEmpty = false := by simpa using hl.text_ne_nil
  apply hdrop
  rw [htext, hl.1]
  cases depth with
  | none => simp
  | some k =>
      have hk : k ≠ 0 := fun h => hdepth (h ▸ rfl)
      simp [hk]

theorem depth_ne_zero {cs : List Char} {depth : Option Nat} {chomp : Chomp}
    (h : blockHeader? cs = some (depth, chomp)) : depth ≠ some 0 := by
  intro hzero
  simp only [blockHeader?] at h
  split at h
  · cases h
  · rename_i hnot
    cases h
    simp [hzero] at hnot

theorem readPlain_begun (hl : l.IsBegun) {seen : List Char} {y : List Char × List Row}
    (h : readPlain 1 fuel seen ⟨first, stop, l :: rest⟩ = some y) : y.2 = l :: rest := by
  cases fuel with
  | zero => cases h
  | succ fuel =>
      simp only [readPlain, List.dropWhile_cons, hl.2, hl.1, Bool.false_eq_true, if_false] at h
      split at h
      · cases h
      split at h
      · cases h
        rfl
      · simp only [Nat.lt_one_iff, decide_true, Bool.true_or, if_true] at h
        cases h
        rfl

/-- What is written in `first` and `rows` is read as one value: its first row begins it, and it reaches no row that
begins at the margin. -/
structure IsValue (first : List Char) (stop : Option Char) (rows : List Row) : Prop where
  begins : ∃ c ∈ first.head?, isBlank c = false ∧ c ≠ '#'
  ends : ∀ {fuel : Nat} {l : Row} {rest : List Row} {y : Datum × List Row}, l.IsBegun →
    inlineValue fuel 1 ⟨first, stop, rows ++ l :: rest⟩ = some y →
      ∃ rows', y.2 = rows' ++ l :: rest ∧ ∀ r ∈ rows', r.IsDeep

theorem inlineValue_plain {c : Char} {cs : List Char} (hblank : isBlank c = false)
    (hmark : !"#,[]\x7b\x7d&*!|>'\"%@`".toList.contains c) (least : Nat) :
    inlineValue (fuel + 1) least ⟨c :: cs, stop, rows⟩ =
      if startsPlain c cs.head? then
        (readPlain least fuel [] ⟨c :: cs, stop, rows⟩).map fun (s, rows) => (ofPlain s, rows)
      else none := by
  rw [inlineValue]
  simp only [List.dropWhile_cons, hblank, Bool.false_eq_true, if_false]
  have hcomment : c ≠ '#' := by
    rintro rfl
    simp at hmark
  split
  case h_10 =>
    rename_i heq
    obtain ⟨rfl, rfl⟩ := List.cons.inj heq
    cases hstarts : startsPlain c cs.head? with
    | false => simp [hcomment]
    | true =>
        simp only [hcomment, Bool.not_true, Bool.false_eq_true, if_false, if_true]
        cases readPlain least fuel [] ⟨c :: cs, stop, rows⟩ <;> rfl
  case h_9 =>
    rename_i heq
    cases heq
  all_goals
    rename_i heq
    obtain ⟨rfl, -⟩ := List.cons.inj heq
    simp at hmark

theorem isValue_plain {c : Char} (cs : List Char) (hblank : isBlank c = false)
    (hmark : !"#,[]\x7b\x7d&*!|>'\"%@`".toList.contains c) (stop : Option Char) : IsValue (c :: cs) stop [] where
  begins := ⟨c, rfl, hblank, by rintro rfl; simp at hmark⟩
  ends {fuel l rest y} hl h := by
    cases fuel with
    | zero => simp [inlineValue] at h
    | succ fuel =>
        rw [inlineValue_plain hblank hmark] at h
        split at h
        · obtain ⟨x, hx, rfl⟩ := Option.map_eq_some_iff.mp h
          exact ⟨[], readPlain_begun hl hx, by simp⟩
        · cases h

theorem finish?_rows {c : Cursor} {y : Datum × List Row} (h : finish? d c = some y) : y.2 = c.rows := by
  rw [finish?] at h
  split at h
  · cases h
    rfl
  · cases h

theorem isValue_double (cs : List Char) (stop : Option Char) :
    IsValue ('"' :: (cs.flatMap escapeChar ++ ['"'])) stop [] where
  begins := ⟨'"', rfl, by decide, by decide⟩
  ends {fuel l rest y} hl h := by
    cases fuel with
    | zero => simp [inlineValue] at h
    | succ fuel =>
        rw [inlineValue] at h
        simp only [List.dropWhile_cons, show isBlank '"' = false by decide, Bool.false_eq_true, if_false] at h
        obtain ⟨x, hx, h⟩ := Option.bind_eq_some_iff.mp h
        refine ⟨[], ?_, by simp⟩
        rw [finish?_rows h, readDouble_escaped hx]

theorem isValue_single {text : List Char} (hcloses : Closes text rows) (stop : Option Char) :
    IsValue ('\'' :: text) stop rows where
  begins := ⟨'\'', rfl, by decide, by decide⟩
  ends {fuel l rest y} hl h := by
    cases fuel with
    | zero => simp [inlineValue] at h
    | succ fuel =>
        rw [inlineValue] at h
        simp only [List.dropWhile_cons, show isBlank '\'' = false by decide, Bool.false_eq_true, if_false] at h
        obtain ⟨x, hx, h⟩ := Option.bind_eq_some_iff.mp h
        refine ⟨[], ?_, by simp⟩
        rw [finish?_rows h, readSingle_closes hcloses hx]
        rfl

theorem isValue_literal (hrows : ∀ r ∈ rows, r.IsDeep) (header : List Char) (stop : Option Char) :
    IsValue ('|' :: header) stop rows where
  begins := ⟨'|', rfl, by decide, by decide⟩
  ends {fuel l rest y} hl h := by
    cases fuel with
    | zero => simp [inlineValue] at h
    | succ fuel =>
        rw [inlineValue] at h
        simp only [List.dropWhile_cons, show isBlank '|' = false by decide, Bool.false_eq_true, if_false] at h
        obtain ⟨⟨depth, chomp⟩, hheader, h⟩ := Option.bind_eq_some_iff.mp h
        cases h
        exact blockRows_begun hl hrows (depth_ne_zero hheader) rest

def Holds (v : List Char) : Prop :=
  ∀ line cs, ∃ first stop rows, rowsFrom line (v ++ cs) =
    rowsFrom.make (first.reverse ++ line) stop :: (rows ++ rowsFrom [] cs) ∧ IsValue first stop rows

theorem holds_line {first : List Char} (hbreak : ∀ c ∈ first, isBreak c = false)
    (hvalue : IsValue first (some '\n') []) : Holds (first ++ ['\n']) := by
  intro line cs
  refine ⟨first, some '\n', [], ?_, hvalue⟩
  rw [List.append_assoc, rowsFrom_append hbreak, List.singleton_append, rowsFrom_newline]
  rfl

theorem holds_doubleQuoted (cs : List Char) : Holds ('"' :: (cs.flatMap escapeChar ++ ['"']) ++ ['\n']) := by
  refine holds_line ?_ (isValue_double cs _)
  intro c hc
  obtain rfl | hc := List.mem_cons.mp hc
  · decide
  obtain hc | hc := List.mem_append.mp hc
  · obtain ⟨d, -, hd⟩ := List.mem_flatMap.mp hc
    exact (escaped_escapeChar d).isBreak c hd
  · rw [List.mem_singleton.mp hc]
    decide

theorem holds_singleQuoted {v : List Char} (hv : '\r' ∉ v) :
    Holds ('\'' :: (indentLines 4 false (v.flatMap doubled) ++ ['\'']) ++ ['\n']) := by
  intro line cs
  obtain ⟨pad, text, stop, rows, hrows, hcloses, hpad⟩ := rowsFrom_doubled hv false ('\'' :: line) cs
  have hpad := hpad rfl
  subst hpad
  refine ⟨'\'' :: text, stop, rows, ?_, isValue_single hcloses stop⟩
  have hwritten : '\'' :: (indentLines 4 false (v.flatMap doubled) ++ ['\'']) ++ ['\n'] ++ cs =
      '\'' :: (indentLines 4 false (v.flatMap doubled) ++ '\'' :: '\n' :: cs) := by simp
  rw [hwritten, rowsFrom_cons (by decide), if_neg (by decide), hrows]
  simp

theorem holds_literal {header v : List Char} (hheader : ∀ c ∈ header, isBreak c = false) (hv : '\r' ∉ v)
    {c : Char} (hc : isBreak c) (hreturn : c ≠ '\r') :
    Holds ('|' :: header ++ c :: (indentLines 4 true v ++ closing true v)) := by
  intro line cs
  obtain ⟨rows, hrows, hdeep⟩ := rowsFrom_indentLines hv (.inl ⟨rfl, rfl⟩) cs
  refine ⟨'|' :: header, some (if c.toNat = 0x2028 || c.toNat = 0x2029 then c else '\n'), rows, ?_,
    isValue_literal hdeep header _⟩
  have hbar : ∀ d ∈ '|' :: header, isBreak d = false := by
    simpa using ⟨by decide, hheader⟩
  rw [List.append_assoc, rowsFrom_append hbar, List.cons_append, rowsFrom_cons hreturn, if_pos hc, List.append_assoc,
    hrows]

theorem not_mem_return {cs : List Char} (h : (cs.any fun c => c ≠ '\t' && !isPrintable c) = false) : '\r' ∉ cs := by
  intro hmem
  exact absurd (List.any_eq_false.mp h '\r' hmem) (by decide)

/-- What makes a text readable without quotes. -/
structure IsPlain (s : String) : Prop where
  breaks : ∀ c ∈ s.toList, isBreak c = false
  begins : ∃ c cs, s.toList = c :: cs ∧ isBlank c = false ∧ !"#,[]\x7b\x7d&*!|>'\"%@`".toList.contains c
  ends : ∀ c ∈ s.toList.getLast?, isBlank c = false
  uncut : isCut s.toList = false
  meaning : meaning (utf8 s) = .text

theorem styleOf_cases (s : String) :
    match styleOf false (utf8 s) with
    | .plain => IsPlain s
    | .single => '\r' ∉ s.toList
    | .literal => '\r' ∉ s.toList ∧ s.toList ≠ []
    | .double => True := by
  rw [styleOf, chars_utf8]
  dsimp only
  split_ifs with h1 h2 h3 h4 h5
  · simp only [Bool.and_eq_true, Bool.not_eq_true'] at h2
    exact ⟨not_mem_return h2.1.2, List.ne_nil_of_mem (List.contains_iff_mem.mp h1)⟩
  · trivial
  · trivial
  · simp only [Bool.and_eq_true, Bool.not_eq_true'] at h4
    obtain ⟨⟨⟨⟨⟨⟨⟨-, htab⟩, -⟩, hbreaks⟩, hspace⟩, hlast⟩, hmarked⟩, hcut⟩ := h4
    have hblank : ∀ c ∈ s.toList, c ≠ ' ' → isBlank c = false := by
      intro c hc hspace
      have htab : c ≠ '\t' := by
        rintro rfl
        simp [hc] at htab
      simp [isBlank, hspace, htab]
    refine ⟨fun c hc => by simpa using List.any_eq_false.mp hbreaks c hc, ?_, ?_, hcut, ?_⟩
    · cases hs : s.toList with
      | nil =>
          rw [utf8_eq, hs] at h3
          exact absurd rfl h3
      | cons c cs =>
          rw [hs] at hspace hmarked
          simp only [startsMarked, Bool.or_eq_false_iff] at hmarked
          simp only [List.head?_cons, Option.map_some, Option.getD_some, decide_eq_false_iff_not] at hspace
          exact ⟨c, cs, rfl, hblank c (by simp [hs]) hspace, by simpa using hmarked.1.1.1⟩
    · intro c hc
      rw [Option.mem_def.mp hc] at hlast
      exact hblank c (List.mem_of_getLast? hc) (by simpa using hlast)
    · simp only [readsAsText, Bool.false_and, Bool.or_false, Bool.not_eq_true', Bool.not_eq_false, Bool.and_eq_true,
        decide_eq_true_eq] at h3
      exact h3.1.1
  · simp only [Bool.and_eq_true, Bool.not_eq_true'] at h5
    exact not_mem_return h5.2
  · trivial

theorem encode_newline (p : Prop) [Decidable p] :
    Utf8.encode (if p then [] else ['\n']) = if p then [] else [10] := by
  split <;> rfl

theorem not_isBreak_of_all {s : String} (h : s.toList.all (!isBreak ·)) : ∀ d ∈ s.toList, isBreak d = false := by
  simpa using h

theorem not_isBreak_chomp (cs : List Char) : ∀ d ∈ (match cs.reverse with
    | [] => "-"
    | [c] => if isBreak c then "+" else "-"
    | c :: d :: _ => if !isBreak c then "-" else if isBreak d then "+" else "").toList, isBreak d = false := by
  split
  · exact not_isBreak_of_all (by decide)
  all_goals split_ifs <;> exact not_isBreak_of_all (by decide)

theorem exists_header (cs : List Char) : ∃ header, (∀ d ∈ header, isBreak d = false) ∧
    literal 4 (Utf8.encode cs) = Utf8.encode ('|' :: header ++
      ((if (cs.head?.map isBreak).getD false then [] else ['\n']) ++ (indentLines 4 true cs ++ closing false cs))) := by
  rw [literal, Utf8.chars_encode]
  have hdepth : ∀ (p : Prop) [Decidable p], ∀ d ∈ (if p then "4" else "").toList, isBreak d = false := by
    intro p _
    split <;> exact not_isBreak_of_all (by decide)
  have hwritten : ∀ depth chomp : String, utf8 ("|" ++ depth ++ chomp) ++
      (if (cs.head?.map isBreak).getD false then [] else [10]) ++ Utf8.encode (indentLines 4 true cs) ++
      (if (cs.getLast?.map isBreak).getD false then [] else [10]) =
        Utf8.encode ('|' :: (depth.toList ++ chomp.toList) ++
          ((if (cs.head?.map isBreak).getD false then [] else ['\n']) ++
            (indentLines 4 true cs ++ closing false cs))) := by
    intro depth chomp
    rw [closing, Utf8.encode_append, Utf8.encode_append, Utf8.encode_append, encode_newline, encode_newline, utf8_eq,
      String.toList_append, String.toList_append]
    simp only [List.append_assoc]
    rfl
  refine ⟨_, ?_, hwritten _ _⟩
  intro d hd
  exact (List.mem_append.mp hd).elim (hdepth _ d) (not_isBreak_chomp cs d)

theorem holds_block {c : Char} {cs : List Char} (hreturn : '\r' ∉ c :: cs) :
    ∃ v, literal 4 (Utf8.encode (c :: cs)) = Utf8.encode v ∧ Holds v := by
  obtain ⟨header, hheader, hliteral⟩ := exists_header (c :: cs)
  refine ⟨_, hliteral, ?_⟩
  rw [closing_cons, ← closing_cons true]
  by_cases hbreak : isBreak c
  · have hcs : '\r' ∉ cs := fun h => hreturn (List.mem_cons_of_mem _ h)
    have hc : c ≠ '\r' := fun h => hreturn (h ▸ List.mem_cons_self)
    simpa [hbreak, indentLines, closing_cons] using holds_literal hheader hcs hbreak hc
  · simpa [hbreak] using holds_literal hheader hreturn (c := '\n') (by decide) (by decide)

theorem textValue_of_style {s : String} {style : Style} (h : styleOf false (utf8 s) = style) :
    textValue 4 (utf8 s) = 32 :: match style with
      | .plain => utf8 s ++ [10]
      | .single => singleQuoted 4 (utf8 s) ++ [10]
      | .double => doubleQuoted (utf8 s) ++ [10]
      | .literal => literal 4 (utf8 s) := by
  rw [textValue, isValid_utf8, h]
  cases style <;> rfl

theorem textValue_plain {s : String} (h : styleOf false (utf8 s) = .plain) :
    textValue 4 (utf8 s) = Utf8.encode (' ' :: (s.toList ++ ['\n'])) := by
  rw [textValue_of_style h, Utf8.encode_cons, Utf8.encode_append, utf8_eq]
  rfl

/-- Every text is written after its key as one value. -/
theorem exists_holds (s : String) : ∃ v, textValue 4 (utf8 s) = Utf8.encode (' ' :: v) ∧ Holds v := by
  have hstyle := styleOf_cases s
  cases h : styleOf false (utf8 s) with
  | plain =>
      rw [h] at hstyle
      obtain ⟨c, cs, hs, hblank, hmark⟩ := hstyle.begins
      exact ⟨_, textValue_plain h, holds_line hstyle.breaks (hs ▸ isValue_plain cs hblank hmark _)⟩
  | single =>
      rw [h] at hstyle
      refine ⟨_, ?_, holds_singleQuoted hstyle⟩
      rw [textValue_of_style h, singleQuoted, chars_utf8, Utf8.encode_cons, Utf8.encode_append, Utf8.encode_cons, Utf8.encode_append]
      rfl
  | double =>
      refine ⟨_, ?_, holds_doubleQuoted s.toList⟩
      rw [textValue_of_style h, doubleQuoted, chars_utf8, Utf8.encode_cons, Utf8.encode_append, Utf8.encode_cons, Utf8.encode_append]
      rfl
  | literal =>
      rw [h] at hstyle
      obtain ⟨hreturn, hne⟩ := hstyle
      obtain ⟨c, cs, hs⟩ := List.exists_cons_of_ne_nil hne
      obtain ⟨v, hv, hholds⟩ := holds_block (hs ▸ hreturn)
      refine ⟨v, ?_, hholds⟩
      rw [textValue_of_style h, Utf8.encode_cons, ← hv, ← hs, ← utf8_eq]
      rfl

end Yaml

end SourceSurvey
