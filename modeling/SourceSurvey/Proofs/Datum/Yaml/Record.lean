import Mathlib.Data.List.DropRight
import SourceSurvey.Proofs.Datum.Yaml.Scalar

namespace SourceSurvey

namespace Yaml

variable {fuel : Nat} {d : Datum} {first : List Char} {stop : Option Char} {l : Row} {rows rest : List Row}

theorem plainPart_of_not_isCut {cs : List Char} (hcut : isCut cs = false) {seen : List Char}
    (hseen : seen.head?.any isBlank → cs.head? ≠ some '#') : plainPart false seen cs = (seen.reverse ++ cs, []) := by
  induction cs generalizing seen with
  | nil => simp [plainPart]
  | cons c cs ih =>
      have hcomment : (c = '#' && seen.head?.any isBlank) = false := by
        by_cases hc : c = '#'
        · subst hc
          simpa using fun h => hseen h rfl
        · simp [hc]
      have hcolon : (c = ':' && cs.head?.all isBlank) = false := by
        cases cs with
        | nil => simpa [isCut] using hcut
        | cons d cs =>
            simp only [isCut, Bool.or_eq_false_iff] at hcut
            simpa using hcut.1.1
      have hrest : isCut cs = false := by
        cases cs with
        | nil => rfl
        | cons d cs =>
            simp only [isCut, Bool.or_eq_false_iff] at hcut
            exact hcut.2
      have hnext : (c :: seen).head?.any isBlank → cs.head? ≠ some '#' := by
        intro hblank hhash
        cases cs with
        | nil => cases hhash
        | cons d cs =>
            cases hhash
            simp only [isCut, Bool.or_eq_false_iff] at hcut
            simp_all
      rw [plainPart]
      simp only [Bool.false_and, Bool.or_false, hcolon, hcomment, Bool.or_self, Bool.false_eq_true, if_false]
      rw [ih hrest hnext, List.reverse_cons, List.append_assoc, List.singleton_append]

theorem trimRight_eq {cs : List Char} (h : ∀ c ∈ cs.getLast?, isBlank c = false) : trimRight cs = cs := by
  rw [trimRight]
  rcases List.eq_nil_or_concat cs with rfl | ⟨cs, c, rfl⟩
  · rfl
  · simp [h c (by simp)]

theorem inlineValue_text {s : String} (h : IsPlain s) (hl : l.IsBegun) {y : Datum × List Row}
    (hread : inlineValue fuel 1 ⟨s.toList, stop, l :: rest⟩ = some y) : y = (.ofString s, l :: rest) := by
  obtain ⟨c, cs, hs, hblank, hmark⟩ := h.begins
  have hpart : plainPart false [] s.toList = (s.toList, []) := plainPart_of_not_isCut h.uncut (by simp)
  have htext : ofPlain s.toList = .ofString s := by
    rw [ofPlain, ← utf8_eq, h.meaning]
    rfl
  cases fuel with
  | zero => simp [inlineValue] at hread
  | succ fuel =>
      rw [hs, inlineValue_plain hblank hmark, ← hs] at hread
      split at hread
      · obtain ⟨x, hx, rfl⟩ := Option.map_eq_some_iff.mp hread
        cases fuel with
        | zero => cases hx
        | succ fuel =>
            have hx : some (s.toList, l :: rest) = some x := by
              rw [← hx, readPlain]
              simp [hpart, trimRight_eq h.ends, isDone, hl.1, hl.2]
            cases hx
            exact congrArg (·, l :: rest) htext
      · cases hread

structure IsName (k : String) : Prop where
  letters : ∀ c ∈ k.toList, c.isAlpha
  ne_nil : k.toList ≠ []
  written : keyText (utf8 k) = utf8 k

theorem ne_of_isAlpha {c d : Char} (hc : c.isAlpha) (hd : d.isAlpha = false) : c ≠ d := by
  rintro rfl
  simp [hc] at hd

theorem isBlank_of_isAlpha {c : Char} (hc : c.isAlpha) : isBlank c = false := by
  simp [isBlank, ne_of_isAlpha hc (d := ' ') rfl, ne_of_isAlpha hc (d := '\t') rfl]

theorem plainPart_letters {cs : List Char} (hcs : ∀ c ∈ cs, c.isAlpha) (seen after : List Char) :
    plainPart false seen (cs ++ ':' :: ' ' :: after) = (seen.reverse ++ cs, ':' :: ' ' :: after) := by
  induction cs generalizing seen with
  | nil => simp [plainPart, isBlank]
  | cons c cs ih =>
      have hc := hcs c List.mem_cons_self
      have hcolon := ne_of_isAlpha hc (d := ':') rfl
      have hcomment := ne_of_isAlpha hc (d := '#') rfl
      rw [List.cons_append, plainPart]
      simp only [hcolon, hcomment, decide_false, Bool.false_and, Bool.or_self, Bool.false_eq_true, if_false]
      rw [ih fun c hc => hcs c (List.mem_cons_of_mem _ hc), List.reverse_cons, List.append_assoc,
        List.singleton_append]

theorem contains_of_isAlpha {c : Char} (hc : c.isAlpha) {marks : List Char} (hmarks : marks.all (!·.isAlpha)) :
    marks.contains c = false := by
  rw [Bool.eq_false_iff, ne_eq, List.contains_iff_mem]
  intro hmem
  have hmark : c.isAlpha = false := by simpa using List.all_eq_true.mp hmarks c hmem
  exact ne_of_isAlpha hc hmark rfl

theorem startsPlain_of_isAlpha {c : Char} (hc : c.isAlpha) (next : Option Char) : startsPlain c next := by
  rw [startsPlain, contains_of_isAlpha hc (by decide), contains_of_isAlpha hc (by decide)]
  rfl

theorem splitKey?_name {k : String} (hk : IsName k) (after : List Char) :
    splitKey? (k.toList ++ ':' :: ' ' :: after) = some (k.toList, ' ' :: after) := by
  obtain ⟨c, cs, hcs⟩ := List.exists_cons_of_ne_nil hk.ne_nil
  have hletters := hk.letters
  have hlast : trimRight k.toList = k.toList :=
    trimRight_eq fun d hd => isBlank_of_isAlpha (hletters d (List.mem_of_getLast? hd))
  rw [hcs] at hletters hlast ⊢
  have hc := hletters c List.mem_cons_self
  have hpart := plainPart_letters hletters [] after
  unfold splitKey?
  split
  · rename_i heq
    exact absurd (List.cons.inj heq).1 (ne_of_isAlpha hc rfl)
  · rename_i heq
    exact absurd (List.cons.inj heq).1 (ne_of_isAlpha hc rfl)
  · rename_i heq
    obtain ⟨rfl, rfl⟩ := List.cons.inj heq
    rw [List.cons_append] at hpart
    simp [startsPlain_of_isAlpha hc, hpart, hlast, isBlank]
  · rename_i heq
    cases heq

theorem keyRows_dropWhile (indent : Nat) (done : List (Bytes × Datum)) (rows : List Row) :
    keyRows fuel indent done (rows.dropWhile Row.isVoid) = keyRows fuel indent done rows := by
  cases fuel with
  | zero => simp [keyRows]
  | succ fuel => rw [keyRows, keyRows, List.dropWhile_idempotent]

theorem keyRows_deep {done : List (Bytes × Datum)} {y : Datum × List Row} (hrows : ∀ r ∈ rows, r.IsDeep)
    (h : keyRows fuel 0 done (rows ++ rest) = some y) : keyRows fuel 0 done rest = some y := by
  induction rows with
  | nil => exact h
  | cons r rows ih =>
      by_cases hvoid : r.isVoid
      · apply ih fun r hr => hrows r (List.mem_cons_of_mem _ hr)
        rw [← keyRows_dropWhile, List.cons_append, List.dropWhile_cons_of_pos hvoid, keyRows_dropWhile] at h
        exact h
      · have hindent : 0 < r.indent := by
          obtain htext | hindent := hrows r List.mem_cons_self
          · exact absurd (by simp [Row.isVoid, htext]) hvoid
          · exact hindent
        cases fuel with
        | zero => simp [keyRows] at h
        | succ fuel =>
            rw [keyRows, List.cons_append, List.dropWhile_cons_of_neg hvoid] at h
            simp [hindent] at h

theorem keyRows_done {indent : Nat} {done : List (Bytes × Datum)} {y : Datum × List Row}
    (h : keyRows fuel indent done rows = some y) :
    ∃ more, y.1 = .record (more ++ done).reverse ∧ ∀ f ∈ more, ∀ g ∈ done, g.1 ≠ f.1 := by
  induction fuel generalizing done rows with
  | zero => simp [keyRows] at h
  | succ fuel ih =>
      rw [keyRows] at h
      split at h
      · cases h
        exact ⟨[], rfl, by simp⟩
      split at h
      · cases h
      split at h
      · cases h
        exact ⟨[], rfl, by simp⟩
      split at h
      · cases h
        exact ⟨[], rfl, by simp⟩
      obtain ⟨⟨key, after⟩, -, h⟩ := Option.bind_eq_some_iff.mp h
      have hstep : ∀ x : Datum × List Row,
          ((addField? done key x.1).bind fun done => keyRows fuel indent done x.2) = some y →
            ∃ more, y.1 = .record (more ++ done).reverse ∧ ∀ f ∈ more, ∀ g ∈ done, g.1 ≠ f.1 := by
        intro x hx
        obtain ⟨done', hadd, hx⟩ := Option.bind_eq_some_iff.mp hx
        obtain ⟨more, hy, hmore⟩ := ih hx
        rw [addField?] at hadd
        split at hadd
        · cases hadd
        · rename_i hfree
          cases hadd
          refine ⟨more ++ [(Utf8.encode key, x.1)], by simpa using hy, ?_⟩
          intro f hf g hg
          obtain hf | hf := List.mem_append.mp hf
          · exact hmore f hf g (List.mem_cons_of_mem _ hg)
          · rw [List.mem_singleton.mp hf]
            intro hname
            exact hfree (List.any_eq_true.mpr ⟨g, hg, by simpa using hname⟩)
      dsimp only at h
      split at h
      · obtain ⟨x, -, h⟩ := Option.bind_eq_some_iff.mp h
        exact hstep x h
      · obtain ⟨x, -, h⟩ := Option.bind_eq_some_iff.mp h
        exact hstep x h

theorem isVoid_name {k : String} (hk : IsName k) (indent : Nat) (after : List Char) (stop : Option Char) :
    Row.isVoid ⟨indent, k.toList ++ after, stop⟩ = false := by
  obtain ⟨c, cs, hcs⟩ := List.exists_cons_of_ne_nil hk.ne_nil
  have hc := hk.letters c (by simp [hcs])
  simp [Row.isVoid, hcs, isBlank_of_isAlpha hc, ne_of_isAlpha hc (d := '#') rfl]

theorem isMark_name {k : String} (hk : IsName k) (mark : String) (hmark : ∃ c ∈ mark.toList.head?, c.isAlpha = false)
    (after : List Char) (stop : Option Char) : Row.isMark mark ⟨0, k.toList ++ after, stop⟩ = false := by
  obtain ⟨c, cs, hcs⟩ := List.exists_cons_of_ne_nil hk.ne_nil
  obtain ⟨m, hm, hmark⟩ := hmark
  obtain ⟨ms, hms⟩ := List.head?_eq_some_iff.mp (Option.mem_def.mp hm)
  have hne := ne_of_isAlpha (hk.letters c (by simp [hcs])) hmark
  simp [Row.isMark, hcs, hms, hne]

theorem keyRows_name {k : String} (hk : IsName k) (done : List (Bytes × Datum)) (rows : List Row)
    (hvalue : ∃ c ∈ first.head?, isBlank c = false ∧ c ≠ '#') :
    keyRows (fuel + 1) 0 done (⟨0, k.toList ++ ':' :: ' ' :: first, stop⟩ :: rows) =
      (inlineValue fuel 1 ⟨first, stop, rows⟩).bind fun x =>
        (addField? done k.toList x.1).bind fun done => keyRows fuel 0 done x.2 := by
  obtain ⟨c, hc, hblank, hcomment⟩ := hvalue
  obtain ⟨cs, hcs⟩ := List.head?_eq_some_iff.mp (Option.mem_def.mp hc)
  rw [keyRows, List.dropWhile_cons_of_neg (by simp [isVoid_name hk])]
  have hdots := isMark_name hk "..." ⟨'.', rfl, rfl⟩ (':' :: ' ' :: first) stop
  have hdashes := isMark_name hk "---" ⟨'-', rfl, rfl⟩ (':' :: ' ' :: first) stop
  have hdrop : (' ' :: first).dropWhile isBlank = first := by
    rw [List.dropWhile_cons_of_pos (by decide), hcs, List.dropWhile_cons_of_neg (by simp [hblank])]
  have hbegun : (first.isEmpty || first.head? = some '#') = false := by
    simp [hcs, hcomment]
  simp only [hdots, hdashes, splitKey?_name hk, Option.bind_eq_bind, Option.bind_some, hdrop, hbegun, Nat.lt_irrefl,
    if_false, Bool.or_self, Bool.false_and, Bool.false_eq_true]

theorem isPlain_of_styleOf {s : String} (h : styleOf false (utf8 s) = .plain) : IsPlain s := by
  have hcases := styleOf_cases s
  rwa [h] at hcases

theorem keyed_text {k s : String} (hk : IsName k) {v : List Char} (hv : textValue 4 (utf8 s) = Utf8.encode (' ' :: v))
    (fields : List (Bytes × Datum)) : keyed 0 false ((utf8 k, .ofString s) :: fields) =
      Utf8.encode (k.toList ++ ':' :: ' ' :: v) ++ keyed 0 false fields := by
  have hafter : afterKey 0 (.ofString s) = Utf8.encode (' ' :: v) := hv
  rw [keyed, hk.written, hafter, Utf8.encode_append, Utf8.encode_cons, utf8_eq]
  rfl

theorem keyed_name {k : String} (hk : IsName k) (d : Datum) (fields : List (Bytes × Datum)) :
    keyed 0 false ((utf8 k, d) :: fields) =
      Utf8.encode k.toList ++ (58 :: (afterKey 0 d ++ keyed 0 false fields)) := by
  rw [keyed, hk.written, utf8_eq]
  simp

theorem isBreak_of_isAlpha {c : Char} (hc : c.isAlpha) : isBreak c = false := by
  have hcode : ∀ n, (Char.ofNat n).isAlpha = false → c.toNat ≠ n := by
    rintro n hn rfl
    rw [Char.ofNat_toNat, hc] at hn
    cases hn
  simp [isBreak, ne_of_isAlpha hc (d := '\n') rfl, ne_of_isAlpha hc (d := '\r') rfl, hcode 0x85 rfl, hcode 0x2028 rfl,
    hcode 0x2029 rfl]

theorem isBreak_name {k : String} (hk : IsName k) : ∀ c ∈ k.toList, isBreak c = false := fun c hc =>
  isBreak_of_isAlpha (hk.letters c hc)

theorem make_name {k : String} (hk : IsName k) (u : List Char) (stop : Option Char) :
    rowsFrom.make (u ++ k.toList.reverse) stop = ⟨0, k.toList ++ u.reverse, stop⟩ := by
  obtain ⟨c, cs, hcs⟩ := List.exists_cons_of_ne_nil hk.ne_nil
  have hc := hk.letters c (by simp [hcs])
  have hline : (u ++ k.toList.reverse).reverse = c :: (cs ++ u.reverse) := by simp [hcs]
  rw [make_visible hline (ne_of_isAlpha hc rfl), hcs]
  rfl

theorem rowsFrom_name {k : String} (hk : IsName k) (cs : List Char) :
    rowsFrom [] (k.toList ++ ':' :: ' ' :: cs) = rowsFrom (' ' :: ':' :: k.toList.reverse) cs := by
  rw [rowsFrom_append (isBreak_name hk), List.append_nil, rowsFrom_cons (by decide), if_neg (by decide),
    rowsFrom_cons (by decide), if_neg (by decide)]

/-- A field fills whole rows. -/
theorem rowsFrom_field {k : String} (hk : IsName k) {v : List Char} (hv : Holds v) (cs : List Char) :
    ∃ first stop rows, rowsFrom [] (k.toList ++ ':' :: ' ' :: v ++ cs) =
      ⟨0, k.toList ++ ':' :: ' ' :: first, stop⟩ :: (rows ++ rowsFrom [] cs) ∧ IsValue first stop rows := by
  obtain ⟨first, stop, rows, hrows, hvalue⟩ := hv (' ' :: ':' :: k.toList.reverse) cs
  refine ⟨first, stop, rows, ?_, hvalue⟩
  rw [List.append_assoc, List.cons_append, List.cons_append, rowsFrom_name hk, hrows]
  have hmake := make_name hk (first.reverse ++ [' ', ':']) stop
  simp only [List.append_assoc, List.cons_append, List.nil_append, List.reverse_append, List.reverse_reverse,
    List.reverse_cons, List.reverse_nil] at hmake
  rw [hmake]

theorem isBegun_name {k : String} (hk : IsName k) (cs : List Char) (stop : Option Char) :
    Row.IsBegun ⟨0, k.toList ++ cs, stop⟩ := by
  obtain ⟨c, name, hname⟩ := List.exists_cons_of_ne_nil hk.ne_nil
  have hc := hk.letters c (by simp [hname])
  exact ⟨rfl, by simp [Row.isEmpty, hname, isBlank_of_isAlpha hc]⟩

theorem begun_name {k : String} (hk : IsName k) (cs : List Char) :
    ∃ l rows, rowsFrom [] (k.toList ++ cs) = l :: rows ∧ l.IsBegun := by
  rw [rowsFrom_append (isBreak_name hk), List.append_nil]
  obtain ⟨u, stop, rows, hrows⟩ := rowsFrom_begun (mt List.reverse_eq_nil_iff.mp hk.ne_nil) cs
  rw [hrows, make_name hk]
  exact ⟨_, _, rfl, isBegun_name hk _ _⟩

theorem keyRows_field {k : String} (hk : IsName k) {done : List (Bytes × Datum)} {y : Datum × List Row}
    (hvalue : ∃ c ∈ first.head?, isBlank c = false ∧ c ≠ '#')
    (h : keyRows fuel 0 done (⟨0, k.toList ++ ':' :: ' ' :: first, stop⟩ :: rows) = some y) :
    ∃ fuel x, inlineValue fuel 1 ⟨first, stop, rows⟩ = some x ∧ keyRows fuel 0 ((utf8 k, x.1) :: done) x.2 = some y := by
  cases fuel with
  | zero => simp [keyRows] at h
  | succ fuel =>
      rw [keyRows_name hk done rows hvalue] at h
      obtain ⟨x, hx, h⟩ := Option.bind_eq_some_iff.mp h
      obtain ⟨done', hadd, h⟩ := Option.bind_eq_some_iff.mp h
      rw [addField?] at hadd
      split at hadd
      · cases hadd
      · cases hadd
        rw [← utf8_eq] at h
        exact ⟨fuel, x, hx, h⟩

theorem parse?_name {k : String} (hk : IsName k) {s : Bytes} {cs first : List Char} (hs : Utf8.chars s = k.toList ++ cs)
    (hrows : rowsFrom [] (k.toList ++ cs) = ⟨0, k.toList ++ ':' :: ' ' :: first, stop⟩ :: rows)
    (h : parse? s = some d) : ∃ fuel rows',
      keyRows fuel 0 [] (⟨0, k.toList ++ ':' :: ' ' :: first, stop⟩ :: rows) = some (d, rows') := by
  obtain ⟨c, name, hname⟩ := List.exists_cons_of_ne_nil hk.ne_nil
  have hc := hk.letters c (by simp [hname])
  have hmark : ((k.toList ++ cs).head? = some '\uFEFF') = False := by
    simp [hname, ne_of_isAlpha hc (d := '\uFEFF') rfl]
  have hvoid := isVoid_name hk 0 (':' :: ' ' :: first) stop
  have hpercent : (k.toList ++ ':' :: ' ' :: first).head? ≠ some '%' := by
    simp [hname, ne_of_isAlpha hc (d := '%') rfl]
  have hdashes := isMark_name hk "---" ⟨'-', rfl, rfl⟩ (':' :: ' ' :: first) stop
  have hdash : Row.isDash ⟨0, k.toList ++ ':' :: ' ' :: first, stop⟩ = false := by
    simp [Row.isDash, hname, ne_of_isAlpha hc (d := '-') rfl]
  rw [parse?] at h
  split at h
  · cases h
  simp only [hs, hmark, if_false, hrows, List.dropWhile_cons, hvoid, hpercent, decide_false, Bool.and_false,
    Bool.or_self, Bool.false_eq_true, hdashes] at h
  obtain ⟨⟨datum, rows'⟩, hnode, h⟩ := Option.bind_eq_some_iff.mp h
  rw [node] at hnode
  simp only [List.dropWhile_cons, hvoid, Bool.false_eq_true, if_false, Nat.lt_irrefl, hdash, splitKey?_name hk,
    Option.isSome_some, if_true] at hnode
  simp only [Option.ite_none_right_eq_some, Option.some.injEq] at h
  obtain ⟨-, rfl⟩ := h
  exact ⟨_, rows', hnode⟩

theorem rowsFrom_plain {k s : String} (hk : IsName k) (hs : IsPlain s) (cs : List Char) :
    rowsFrom [] (k.toList ++ ':' :: ' ' :: (s.toList ++ ['\n']) ++ cs) =
      ⟨0, k.toList ++ ':' :: ' ' :: s.toList, some '\n'⟩ :: rowsFrom [] cs := by
  have hmake := make_name hk (s.toList.reverse ++ [' ', ':']) (some '\n')
  simp only [List.append_assoc, List.cons_append, List.nil_append, List.reverse_append, List.reverse_reverse,
    List.reverse_cons, List.reverse_nil] at hmake
  rw [List.append_assoc, List.cons_append, List.cons_append, rowsFrom_name hk, List.append_assoc,
    rowsFrom_append hs.breaks, List.singleton_append, rowsFrom_newline, hmake]

/-- The second field of a record, if it is a plain text, is read back from what was written. -/
theorem get?_parse?_render {k₁ k₂ k₃ : String} (h₁ : IsName k₁) (h₂ : IsName k₂) (h₃ : IsName k₃) {s₁ s₂ : String}
    (hstyle : styleOf false (utf8 s₂) = .plain) {d datum : Datum} {fields : List (Bytes × Datum)}
    (h : parse? (render ((utf8 k₁, .ofString s₁) :: (utf8 k₂, .ofString s₂) :: (utf8 k₃, d) :: fields)) = some datum) :
    datum.get? k₂ = some (.ofString s₂) := by
  obtain ⟨v, hv, hholds⟩ := exists_holds s₁
  have hplain := isPlain_of_styleOf hstyle
  have hchars : Utf8.chars (render ((utf8 k₁, .ofString s₁) :: (utf8 k₂, .ofString s₂) :: (utf8 k₃, d) :: fields)) =
      k₁.toList ++ (':' :: ' ' :: v ++ (k₂.toList ++ ':' :: ' ' :: (s₂.toList ++ ['\n']) ++
        (k₃.toList ++ Utf8.chars (58 :: (afterKey 0 d ++ keyed 0 false fields))))) := by
    rw [render, if_neg (by simp), keyed_text h₁ hv, keyed_text h₂ (textValue_plain hstyle), keyed_name h₃,
      Utf8.chars_encode_append, Utf8.chars_encode_append, Utf8.chars_encode_append, List.append_assoc]
  obtain ⟨l, rest, hthird, hbegun⟩ := begun_name h₃ (Utf8.chars (58 :: (afterKey 0 d ++ keyed 0 false fields)))
  obtain ⟨first, stop, rows, hrows, hvalue⟩ := rowsFrom_field h₁ hholds (k₂.toList ++ ':' :: ' ' :: (s₂.toList ++ ['\n']) ++
    (k₃.toList ++ Utf8.chars (58 :: (afterKey 0 d ++ keyed 0 false fields))))
  rw [rowsFrom_plain h₂ hplain, hthird, List.append_assoc] at hrows
  obtain ⟨fuel, rows', hread⟩ := parse?_name h₁ hchars hrows h
  obtain ⟨fuel, ⟨d₁, rows₁⟩, hvalue₁, hread⟩ := keyRows_field h₁ hvalue.begins hread
  -- Whatever is read for the first field, the rows that it leaves hold no field before the second.
  obtain ⟨deep, rfl, hdeep⟩ := hvalue.ends (isBegun_name h₂ _ _) hvalue₁
  obtain ⟨c, cs, hcs, hblank, hmark⟩ := hplain.begins
  have hbegins := (isValue_plain cs hblank hmark (some '\n')).begins
  obtain ⟨fuel, ⟨d₂, rows₂⟩, hvalue₂, hread⟩ := keyRows_field h₂ (hcs ▸ hbegins) (keyRows_deep hdeep hread)
  cases inlineValue_text hplain hbegun hvalue₂
  obtain ⟨more, hdatum, hmore⟩ := keyRows_done hread
  dsimp only at hdatum
  have hfree : more.find? (·.1 = utf8 k₂) = none := by
    rw [List.find?_eq_none]
    intro f hf
    simpa using (hmore f hf (utf8 k₂, .ofString s₂) List.mem_cons_self).symm
  rw [hdatum, Datum.get?, Datum.field?, List.reverse_reverse, List.find?_append, hfree]
  simp

end Yaml

end SourceSurvey
