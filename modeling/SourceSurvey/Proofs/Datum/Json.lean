import Mathlib.Logic.Relation
import SourceSurvey.Datum.Json
import SourceSurvey.Proofs.Text.Numeral
import SourceSurvey.Proofs.Text.Search

namespace SourceSurvey

namespace Json

theorem hexValue?_hexDigit : ∀ n < 16, hexValue? (hexDigit n) = some n := by decide

theorem unit?_escape {n : Nat} (h : n < 0x10000) (r : Bytes) :
    unit? ([hexDigit (n / 4096 % 16), hexDigit (n / 256 % 16), hexDigit (n / 16 % 16), hexDigit (n % 16)] ++ r) =
      some (n, r) := by
  have hdigit : ∀ m, hexValue? (hexDigit (m % 16)) = some (m % 16) := fun m =>
    hexValue?_hexDigit _ (Nat.mod_lt m (by decide))
  have hn : n / 4096 % 16 * 4096 + n / 256 % 16 * 256 + n / 16 % 16 * 16 + n % 16 = n := by omega
  simp [unit?, hdigit, hn]

theorem unicode?_escape {c : Char} (hc : c.toNat < 0xD800) (r : Bytes) :
    unicode? ([hexDigit (c.toNat / 4096 % 16), hexDigit (c.toNat / 256 % 16), hexDigit (c.toNat / 16 % 16),
      hexDigit (c.toNat % 16)] ++ r) = some (c, r) := by
  rw [unicode?, unit?_escape (Nat.lt_trans hc (by decide))]
  simp [hc]

theorem readText_unicode {c : Char} {t u : Bytes} (h : unicode? t = some (c, u)) (seen : Bytes) :
    readText seen (92 :: 117 :: t) = readText ((Utf8.encodeChar c).reverse ++ seen) u := by
  rw [readText.eq_def]
  simp only [show ¬(92 : UInt8) = 34 by decide, show ¬(92 : UInt8) < 32 by decide, if_false, if_true]
  split
  · rename_i h'
    rw [h] at h'
    cases h'
    rfl
  · rename_i h'
    rw [h] at h'
    cases h'

theorem readText_unitEscape {c : Char} (hc : c.toNat < 0xD800) (seen r : Bytes) :
    readText seen (unitEscape c.toNat ++ r) = readText ((Utf8.encodeChar c).reverse ++ seen) r := by
  have hmark : utf8 "\\u" = [92, 117] := by decide
  rw [unitEscape, hmark, List.append_assoc, List.cons_append, List.singleton_append]
  exact readText_unicode (unicode?_escape hc r) seen

theorem readText_quote (seen r : Bytes) : readText seen (34 :: r) = some (Utf8.repair seen.reverse, r) := by
  rw [readText.eq_def]
  simp

def IsPlain (b : UInt8) : Prop := b ≠ 34 ∧ ¬b < 32 ∧ b ≠ 92

theorem readText_plain {bs : Bytes} (h : ∀ b ∈ bs, IsPlain b) (seen r : Bytes) :
    readText seen (bs ++ r) = readText (bs.reverse ++ seen) r := by
  induction bs generalizing seen with
  | nil => rfl
  | cons b bs ih =>
      obtain ⟨hquote, hlow, hslash⟩ := h b List.mem_cons_self
      rw [List.cons_append, readText.eq_def]
      simp only [if_neg hquote, if_neg hlow, if_neg hslash]
      rw [ih fun b hb => h b (List.mem_cons_of_mem _ hb)]
      simp

theorem isPlain_toUInt8 {n : Nat} (h : 0x80 ≤ n ∧ n < 256) : IsPlain n.toUInt8 := by
  have hn := Utf8.toNat_toUInt8 h.2
  refine ⟨?_, ?_, ?_⟩
  · rw [ne_eq, ← UInt8.toNat_inj, hn]
    exact Nat.ne_of_gt (Nat.lt_of_lt_of_le (by decide) h.1)
  · rw [UInt8.lt_iff_toNat_lt, hn]
    exact Nat.not_lt.mpr (Nat.le_trans (by decide) h.1)
  · rw [ne_eq, ← UInt8.toNat_inj, hn]
    exact Nat.ne_of_gt (Nat.lt_of_lt_of_le (by decide) h.1)

theorem isPlain_encodeChar {c : Char} (hlow : ¬c.toNat < 0x20) (hquote : c ≠ '"') (hslash : c ≠ '\\') :
    ∀ b ∈ Utf8.encodeChar c, IsPlain b := by
  have hmax := Utf8.toNat_lt c
  have hquote : c.toNat ≠ 34 := fun h => hquote (Char.ext (UInt32.toNat_inj.mp h))
  have hslash : c.toNat ≠ 92 := fun h => hslash (Char.ext (UInt32.toNat_inj.mp h))
  rw [Utf8.encodeChar]
  generalize c.toNat = n at *
  split
  · have hn : n.toUInt8.toNat = n := Utf8.toNat_toUInt8 (by omega)
    rw [List.forall_mem_singleton, IsPlain, ne_eq, ne_eq, ← UInt8.toNat_inj, ← UInt8.toNat_inj, UInt8.lt_iff_toNat_lt, hn]
    exact ⟨hquote, hlow, hslash⟩
  · have hhigh : ∀ m, 0x80 ≤ m ∧ m < 256 → IsPlain m.toUInt8 := fun m => isPlain_toUInt8
    split
    · simp only [List.forall_mem_cons]
      exact ⟨hhigh _ (by omega), hhigh _ (by omega), by simp⟩
    split
    · simp only [List.forall_mem_cons]
      exact ⟨hhigh _ (by omega), hhigh _ (by omega), hhigh _ (by omega), by simp⟩
    · simp only [List.forall_mem_cons]
      exact ⟨hhigh _ (by omega), hhigh _ (by omega), hhigh _ (by omega), hhigh _ (by omega), by simp⟩

theorem readText_short {e x : UInt8} (he : e ≠ 117) (hx : shortEscape? e = some x) (seen r : Bytes) :
    readText seen (92 :: e :: r) = readText (x :: seen) r := by
  rw [readText.eq_def]
  simp [he, hx]

theorem readText_escapeChar (c : Char) (seen r : Bytes) :
    readText seen (escapeChar c ++ r) = readText ((Utf8.encodeChar c).reverse ++ seen) r := by
  have hshort : ∀ (m : Nat) (text : String) (e : UInt8), c.toNat = m → m < 0x80 → utf8 text = [92, e] → e ≠ 117 →
      shortEscape? e = some m.toUInt8 →
      readText seen (utf8 text ++ r) = readText ((Utf8.encodeChar c).reverse ++ seen) r := by
    intro m text e hm hlow htext he hx
    rw [htext, Utf8.encodeChar, hm, if_pos hlow]
    exact readText_short he hx seen r
  -- Quotes and backslashes, then the escapes with a letter, those with four digits, and all other characters.
  rw [escapeChar]
  split
  · rename_i h
    simp only [Bool.or_eq_true, decide_eq_true_eq] at h
    obtain rfl | rfl := h
    · exact readText_short (by decide) (by decide) seen r
    · exact readText_short (by decide) (by decide) seen r
  rename_i hquoted
  split
  · exact hshort 8 _ 98 ‹_› (by decide) (by decide) (by decide) (by decide)
  split
  · exact hshort 9 _ 116 ‹_› (by decide) (by decide) (by decide) (by decide)
  split
  · exact hshort 10 _ 110 ‹_› (by decide) (by decide) (by decide) (by decide)
  split
  · exact hshort 12 _ 102 ‹_› (by decide) (by decide) (by decide) (by decide)
  split
  · exact hshort 13 _ 114 ‹_› (by decide) (by decide) (by decide) (by decide)
  split
  · rename_i h
    apply readText_unitEscape
    simp only [Bool.or_eq_true, decide_eq_true_eq] at h
    obtain ((((h | rfl) | rfl) | rfl) | h) | h := h
    · omega
    · decide
    · decide
    · decide
    · omega
    · omega
  · rename_i h
    simp only [Bool.or_eq_true, decide_eq_true_eq, not_or] at h hquoted
    exact readText_plain (isPlain_encodeChar h.1.1.1.1.1 hquoted.1 hquoted.2) seen r

theorem readText_escaped (cs : List Char) (seen r : Bytes) :
    readText seen (cs.flatMap escapeChar ++ 34 :: r) = some (Utf8.repair (seen.reverse ++ Utf8.encode cs), r) := by
  induction cs generalizing seen with
  | nil => simp [readText_quote, Utf8.encode]
  | cons c cs ih =>
      rw [List.flatMap_cons, List.append_assoc, readText_escapeChar, ih]
      simp [Utf8.encode]

theorem repair_repair (s : Bytes) : Utf8.repair (Utf8.repair s) = Utf8.repair s := Utf8.repair_encode _

theorem token?_quote (s r : Bytes) : token? (quote s ++ r) = some (.text (Utf8.repair s), r) := by
  have hread : readText [] ((Utf8.chars s).flatMap escapeChar ++ 34 :: r) = some (Utf8.repair s, r) := by
    rw [readText_escaped, List.reverse_nil, List.nil_append, ← Utf8.repair, repair_repair]
  have hmarks : (utf8 "[]\x7b\x7d:,").contains 34 = false := by decide
  rw [quote, List.cons_append, List.append_assoc, List.singleton_append, token?]
  simp only [hmarks, hread, Bool.false_eq_true, if_false, if_true, Option.map_some]

def EndsNumber (r : Bytes) : Prop := ∀ b ∈ r.head?, Bytes.isDigit b = false ∧ b ≠ 46 ∧ b ≠ 101 ∧ b ≠ 69

theorem endsNumber_cons {b : UInt8} {r : Bytes} (h : Bytes.isDigit b = false ∧ b ≠ 46 ∧ b ≠ 101 ∧ b ≠ 69) :
    EndsNumber (b :: r) := by
  intro c hc
  cases hc
  exact h

theorem takeWhile_digits {ds r : Bytes} (hds : ds.all Bytes.isDigit) (hr : EndsNumber r) :
    (ds ++ r).takeWhile Bytes.isDigit = ds ∧ (ds ++ r).dropWhile Bytes.isDigit = r := by
  have hmem : ∀ b ∈ ds, Bytes.isDigit b := List.all_eq_true.mp hds
  rw [List.takeWhile_append_of_pos hmem, List.dropWhile_append_of_pos hmem]
  cases r with
  | nil => simp
  | cons b r =>
      have hb := (hr b rfl).1
      simp [hb]

structure IsWhole (ds : Bytes) : Prop where
  ne_nil : ds ≠ []
  digits : ds.all Bytes.isDigit
  zero : ds.head? = some 48 → ds = [48]

theorem isWhole_nat (n : Nat) : IsWhole (utf8 (toString n)) := by
  refine ⟨Numeral.utf8_nat_ne_nil n, Numeral.all_isDigit_nat n, fun hhead => ?_⟩
  by_cases hn : n = 0
  · subst hn
    rfl
  · exact absurd hhead (Numeral.head?_utf8_nat hn)

theorem whole?_digits {ds r : Bytes} (hds : IsWhole ds) (hr : EndsNumber r) : whole? (ds ++ r) = some (ds, r) := by
  by_cases hzero : ds.head? = some 48
  · rw [hds.zero hzero]
    rfl
  have hfirst : ∀ t, ds ++ r ≠ 48 :: t := by
    intro t ht
    have hhead := congrArg List.head? ht
    rw [List.head?_append_of_ne_nil _ hds.ne_nil] at hhead
    exact hzero hhead
  obtain ⟨htake, hdrop⟩ := takeWhile_digits hds.digits hr
  rw [whole?]
  · rw [digits?, htake, hdrop]
    simp [hds.ne_nil]
  · exact hfirst

theorem fraction?_of_endsNumber {r : Bytes} (hr : EndsNumber r) : fraction? r = some ([], r) := by
  rw [fraction?]
  rintro t rfl
  exact (hr 46 rfl).2.1 rfl

theorem exponent?_of_endsNumber {r : Bytes} (hr : EndsNumber r) : exponent? r = some ([], r) := by
  cases r with
  | nil => rfl
  | cons b r =>
      obtain ⟨-, -, hlower, hupper⟩ := hr b rfl
      simp [exponent?, hlower, hupper]

theorem number?_whole {ds r : Bytes} (hds : IsWhole ds) (hr : EndsNumber r) :
    number? (ds ++ r) = some (ds, r) ∧ number? (45 :: ds ++ r) = some (45 :: ds, r) := by
  have hminus : ∀ t, ds ++ r ≠ 45 :: t := by
    intro t ht
    have hhead := congrArg List.head? ht
    rw [List.head?_append_of_ne_nil _ hds.ne_nil] at hhead
    have hdigit := List.all_eq_true.mp hds.digits 45 (List.mem_of_mem_head? hhead)
    exact absurd hdigit (by decide)
  constructor
  · rw [number?]
    · simp [whole?_digits hds hr, fraction?_of_endsNumber hr, exponent?_of_endsNumber hr]
    · exact hminus
  · simp [number?, whole?_digits hds hr, fraction?_of_endsNumber hr, exponent?_of_endsNumber hr]

theorem number?_int (n : Int) {r : Bytes} (hr : EndsNumber r) :
    number? (utf8 (toString n) ++ r) = some (utf8 (toString n), r) := by
  rw [Numeral.toString_int]
  split
  · exact (number?_whole (isWhole_nat _) hr).1
  · rw [utf8_append]
    exact (number?_whole (isWhole_nat _) hr).2

theorem head_int (n : Int) : ∃ b t, utf8 (toString n) = b :: t ∧ (b = 45 ∨ Bytes.isDigit b) := by
  have hdigits : ∀ m : Nat, ∃ b t, utf8 (toString m) = b :: t ∧ Bytes.isDigit b := by
    intro m
    obtain ⟨b, t, h⟩ := List.exists_cons_of_ne_nil (Numeral.utf8_nat_ne_nil m)
    exact ⟨b, t, h, List.all_eq_true.mp (Numeral.all_isDigit_nat m) b (h ▸ List.mem_cons_self)⟩
  rw [Numeral.toString_int]
  split
  · obtain ⟨b, t, h, hb⟩ := hdigits n.toNat
    exact ⟨b, t, h, .inr hb⟩
  · exact ⟨45, utf8 (toString (-n).toNat), by rw [utf8_append]; rfl, .inl rfl⟩

theorem token?_word (w : String) (d : Datum) (h : (w, d) ∈ words) (r : Bytes) :
    token? (utf8 w ++ r) = some (.value d, r) := by
  have hnull : utf8 "null" = [110, 117, 108, 108] := by decide
  have htrue : utf8 "true" = [116, 114, 117, 101] := by decide
  have hfalse : utf8 "false" = [102, 97, 108, 115, 101] := by decide
  have hmarks : utf8 "[]\x7b\x7d:," = [91, 93, 123, 125, 58, 44] := by decide
  simp only [words, List.mem_cons, List.not_mem_nil, or_false, Prod.mk.injEq] at h
  obtain ⟨rfl, rfl⟩ | ⟨rfl, rfl⟩ | ⟨rfl, rfl⟩ := h
  · simp [token?, words, hnull, hmarks, Bytes.dropStart?]
  · simp [token?, words, hnull, htrue, hmarks, Bytes.dropStart?]
  · simp [token?, words, hnull, htrue, hfalse, hmarks, Bytes.dropStart?]

theorem token?_int (n : Int) {r : Bytes} (hr : EndsNumber r) :
    token? (utf8 (toString n) ++ r) = some (.value (.ofInt n), r) := by
  have hnumber := number?_int n hr
  obtain ⟨b, t, htext, hb⟩ := head_int n
  rw [htext, List.cons_append] at hnumber
  have hmarks : utf8 "[]\x7b\x7d:," = [91, 93, 123, 125, 58, 44] := by decide
  have hne : ∀ c : UInt8, Bytes.isDigit c = false → c ≠ 45 → b ≠ c := by
    rintro c hdigit hminus rfl
    obtain h | h := hb
    · exact hminus h
    · rw [h] at hdigit
      cases hdigit
  have hmark : (utf8 "[]\x7b\x7d:,").contains b = false := by
    rw [hmarks]
    simp [hne 91, hne 93, hne 123, hne 125, hne 58, hne 44, Bytes.isDigit]
  have hword : ∀ (c : UInt8) (w : Bytes), Bytes.isDigit c = false → c ≠ 45 →
      Bytes.dropStart? (c :: w) (b :: (t ++ r)) = none := by
    intro c w hdigit hminus
    rw [Bytes.dropStart?, if_neg (hne c hdigit hminus).symm]
  have hnull : utf8 "null" = 110 :: [117, 108, 108] := by decide
  have htrue : utf8 "true" = 116 :: [114, 117, 101] := by decide
  have hfalse : utf8 "false" = 102 :: [97, 108, 115, 101] := by decide
  rw [htext, List.cons_append, token?]
  simp only [hmark, hne 34 (by decide) (by decide), Bool.false_eq_true, if_false]
  simp [words, hnull, htrue, hfalse, hword, hnumber, Bytes.isDigit]
  rw [Datum.ofInt, htext]

end Json

namespace Datum

def repaired : Datum → Datum
  | .text s => .text (Utf8.repair s)
  | .list items => .list (items.map repaired)
  | .record fields => .record (fields.map fun f => (Utf8.repair f.1, repaired f.2))
  | d => d
decreasing_by
  · have hsize := List.sizeOf_lt_of_mem ‹_›
    simp only [list.sizeOf_spec]
    omega
  · rename_i hf
    have hsize := List.sizeOf_lt_of_mem hf
    obtain ⟨k, v⟩ := f
    simp only [Prod.mk.sizeOf_spec, record.sizeOf_spec] at hsize ⊢
    omega

@[simp] theorem repaired_null : repaired .null = .null := by simp [repaired]

@[simp] theorem repaired_bool (b : Bool) : repaired (.bool b) = .bool b := by simp [repaired]

@[simp] theorem repaired_ofInt (n : Int) : (ofInt n).repaired = .ofInt n := by simp [ofInt, repaired]

@[simp] theorem repaired_ofString (s : String) : (ofString s).repaired = .ofString s := by
  simp [ofString, repaired, repair_utf8]

@[simp] theorem repaired_ofFields (fields : List (String × Datum)) :
    (ofFields fields).repaired = ofFields (fields.map fun f => (f.1, f.2.repaired)) := by
  simp [ofFields, repaired, repair_utf8, Function.comp_def]

theorem get?_ofFields (fields : List (String × Datum)) (name : String) :
    (ofFields fields).get? name = (fields.reverse.find? fun f => f.1 = name).map (·.2) := by
  rw [get?, ofFields, field?, ← List.map_reverse, List.find?_map, Option.map_map]
  simp only [Function.comp_def, utf8_injective.eq_iff]

@[simp] theorem get?_nil (name : String) : (ofFields []).get? name = none := by
  rw [get?_ofFields]
  rfl

@[simp] theorem get?_append (fields more : List (String × Datum)) (name : String) :
    (ofFields (fields ++ more)).get? name = ((ofFields more).get? name).or ((ofFields fields).get? name) := by
  rw [get?_ofFields, get?_ofFields, get?_ofFields, List.reverse_append, List.find?_append, Option.map_or]

@[simp] theorem get?_cons (key : String) (v : Datum) (fields : List (String × Datum)) (name : String) :
    (ofFields ((key, v) :: fields)).get? name =
      ((ofFields fields).get? name).or (if key = name then some v else none) := by
  rw [← List.singleton_append, get?_append, get?_ofFields [(key, v)]]
  by_cases hkey : key = name <;> simp [hkey]

theorem get?_repaired (fields : List (String × Datum)) (name : String) :
    (ofFields fields).repaired.get? name = ((ofFields fields).get? name).map repaired := by
  induction fields with
  | nil => simp
  | cons f fields ih =>
      obtain ⟨key, v⟩ := f
      rw [repaired_ofFields] at ih ⊢
      rw [List.map_cons, get?_cons, get?_cons, ih, Option.map_or]
      by_cases hkey : key = name <;> simp [hkey]

/-- A datum whose numbers are whole and whose containers are nested at most so deep. -/
inductive Nested : (depth : Nat) → Datum → Prop
  | null {depth : Nat} : Nested depth .null
  | bool {depth : Nat} (b : Bool) : Nested depth (.bool b)
  | int {depth : Nat} (n : Int) : Nested depth (.ofInt n)
  | text {depth : Nat} (s : Bytes) : Nested depth (.text s)
  | list {depth : Nat} {items : List Datum} (h : ∀ d ∈ items, Nested depth d) : Nested (depth + 1) (.list items)
  | record {depth : Nat} {fields : List (Bytes × Datum)} (h : ∀ f ∈ fields, Nested depth f.2) :
    Nested (depth + 1) (.record fields)

theorem Nested.mono {m n : Nat} {d : Datum} (h : d.Nested m) (hle : m ≤ n) : d.Nested n := by
  induction h generalizing n with
  | null => exact .null
  | bool b => exact .bool b
  | int k => exact .int k
  | text s => exact .text s
  | list _ ih =>
      obtain ⟨n, rfl⟩ := Nat.exists_eq_add_of_le' (Nat.le_of_add_left_le hle)
      exact .list fun d hd => ih d hd (Nat.le_of_add_le_add_right hle)
  | record _ ih =>
      obtain ⟨n, rfl⟩ := Nat.exists_eq_add_of_le' (Nat.le_of_add_left_le hle)
      exact .record fun f hf => ih f hf (Nat.le_of_add_le_add_right hle)

theorem nested_ofFields {depth : Nat} {fields : List (String × Datum)} (h : ∀ f ∈ fields, f.2.Nested depth) :
    (ofFields fields).Nested (depth + 1) := by
  apply Nested.record
  simpa only [List.forall_mem_map] using h

end Datum

namespace Json

open Relation

namespace Reader

def Step (x y : Reader × Bytes) : Prop :=
  y.2.length < x.2.length ∧ ∃ t, token? (x.2.dropLeft isBlank) = some (t, y.2) ∧ x.1.take t = some y.1

theorem not_step_finished {d : Datum} {fs : List Frame} {s : Bytes} {y : Reader × Bytes} :
    ¬Step (⟨fs, .finished d⟩, s) y := by
  rintro ⟨-, t, -, ht⟩
  simp [take] at ht

theorem read_of_steps {r : Reader} {s rest : Bytes} {d : Datum} (hr : ∀ d, r.phase ≠ .finished d)
    (h : ReflTransGen Step (r, s) (⟨[], .finished d⟩, rest)) {fuel : Nat} (hfuel : s.length < fuel) :
    read fuel r s = some (d, rest) := by
  induction fuel generalizing r s with
  | zero => omega
  | succ fuel ih =>
      obtain h | ⟨⟨r', s'⟩, ⟨hlength, t, htoken, htake⟩, hrest⟩ := ReflTransGen.cases_head h
      · cases h
        exact absurd rfl (hr d)
      dsimp only at hlength htoken htake
      rw [read, htoken]
      simp only [Option.bind_eq_bind, Option.bind_some, htake]
      by_cases hend : ∃ d', r'.phase = .finished d'
      · obtain ⟨d', hd'⟩ := hend
        obtain ⟨fs, p⟩ := r'
        obtain rfl : p = .finished d' := hd'
        obtain heq | ⟨y, hstep, -⟩ := ReflTransGen.cases_head hrest
        · cases heq
          rfl
        · exact absurd hstep not_step_finished
      · have hgoes : ∀ d', r'.phase ≠ .finished d' := fun d' hd' => hend ⟨d', hd'⟩
        split
        · exact absurd ‹_› (hgoes _)
        · exact ih hgoes hrest (by omega)

theorem step_of_token {r r' : Reader} {t : Token} {blank text rest : Bytes} (hblank : ∀ b ∈ blank, isBlank b)
    (hne : text ≠ []) (hfirst : ∀ b ∈ text.head?, isBlank b = false)
    (htoken : token? (text ++ rest) = some (t, rest)) (htake : r.take t = some r') :
    Step (r, blank ++ text ++ rest) (r', rest) := by
  obtain ⟨b, text, rfl⟩ := List.exists_cons_of_ne_nil hne
  have hdrop : Bytes.dropLeft (blank ++ (b :: text) ++ rest) isBlank = (b :: text) ++ rest := by
    rw [Bytes.dropLeft, List.append_assoc, List.dropWhile_append_of_pos hblank, List.cons_append,
      List.dropWhile_cons_of_neg (by simp [hfirst b rfl])]
  refine ⟨by simp; omega, t, ?_, htake⟩
  rw [hdrop, htoken]

theorem step_mark {r r' : Reader} {b : UInt8} {blank rest : Bytes} (hblank : ∀ b ∈ blank, isBlank b)
    (hb : b ∈ utf8 "[]\x7b\x7d:,") (htake : r.take (.mark b) = some r') :
    Step (r, blank ++ b :: rest) (r', rest) := by
  have hmarks : (utf8 "[]\x7b\x7d:,").all (!isBlank ·) := by decide
  have htoken : token? ([b] ++ rest) = some (.mark b, rest) := by
    rw [List.singleton_append, token?, if_pos (by simpa using hb)]
  have h := step_of_token hblank (by simp) (by simpa using List.all_eq_true.mp hmarks b hb) htoken htake
  rwa [List.append_assoc, List.singleton_append] at h

theorem step_quote {r r' : Reader} {s blank rest : Bytes} (hblank : ∀ b ∈ blank, isBlank b)
    (htake : r.take (.text (Utf8.repair s)) = some r') : Step (r, blank ++ quote s ++ rest) (r', rest) := by
  apply step_of_token hblank (by simp [quote]) _ (token?_quote s rest) htake
  intro b hb
  cases hb
  decide

end Reader

def ReadBack (depth : Nat) (d : Datum) : Prop :=
  ∀ (l : Layout) (level : Nat) (fs : List Frame) (p : Phase) (blank rest : Bytes), p = .value ∨ p = .valueOrClose →
    fs.length + depth ≤ Reader.maxDepth → (∀ b ∈ blank, isBlank b) → EndsNumber rest →
    ReflTransGen Reader.Step (⟨fs, p⟩, blank ++ renderAt l level d ++ rest) (Reader.place d.repaired fs, rest)

theorem isBlank_of_mem_breakLine {l : Layout} {level : Nat} : ∀ b ∈ l.breakLine level, isBlank b := by
  cases l with
  | compact => simp [Layout.breakLine]
  | indented =>
      simp only [Layout.breakLine, List.mem_cons, List.mem_replicate]
      rintro b (rfl | ⟨-, rfl⟩) <;> rfl

theorem endsNumber_of_mark {b : UInt8} {r : Bytes} (h : b ∈ [10, 44, 93, 125]) : EndsNumber (b :: r) := by
  apply endsNumber_cons
  simp only [List.mem_cons, List.not_mem_nil, or_false] at h
  rcases h with rfl | rfl | rfl | rfl <;> decide

theorem endsNumber_breakLine {b : UInt8} (h : b ∈ [10, 44, 93, 125]) (l : Layout) (level : Nat) (r : Bytes) :
    EndsNumber (l.breakLine level ++ b :: r) := by
  cases l with
  | compact => exact endsNumber_of_mark h
  | indented => exact endsNumber_of_mark (by simp)

theorem endsNumber_renderItems (l : Layout) (level : Nat) {r : Bytes} (hr : EndsNumber r) (items : List Datum) :
    EndsNumber (renderItems l level false items ++ r) := by
  cases items with
  | nil => simpa [renderItems] using hr
  | cons d items =>
      rw [renderItems]
      exact endsNumber_of_mark (by simp)

theorem endsNumber_renderFields (l : Layout) (level : Nat) {r : Bytes} (hr : EndsNumber r)
    (fields : List (Bytes × Datum)) : EndsNumber (renderFields l level false fields ++ r) := by
  cases fields with
  | nil => simpa [renderFields] using hr
  | cons f fields =>
      rw [renderFields]
      exact endsNumber_of_mark (by simp)

theorem take_value {fs : List Frame} {p : Phase} (hp : p = .value ∨ p = .valueOrClose) {t : Token}
    (ht : t ≠ .mark 93) : (⟨fs, p⟩ : Reader).take t = Reader.takeValue fs t := by
  obtain rfl | rfl := hp
  · rfl
  · cases t with
    | text s => rfl
    | value d => rfl
    | mark b =>
        have hb : b ≠ 93 := fun h => ht (congrArg Token.mark h)
        unfold Reader.take
        split <;> simp_all

theorem readBack_leaf {depth : Nat} {d : Datum} {t : Token}
    (hrender : ∀ (l : Layout) (level : Nat), ∃ b text, renderAt l level d = b :: text ∧ isBlank b = false)
    (htoken : ∀ (l : Layout) (level : Nat) (rest : Bytes), EndsNumber rest →
      token? (renderAt l level d ++ rest) = some (t, rest))
    (ht : t ≠ .mark 93) (htake : ∀ fs, Reader.takeValue fs t = some (Reader.place d.repaired fs)) :
    ReadBack depth d := by
  intro l level fs p blank rest hp _ hblank hrest
  obtain ⟨b, text, htext, hb⟩ := hrender l level
  apply ReflTransGen.single
  apply Reader.step_of_token hblank (by simp [htext]) (by simpa [htext] using hb) (htoken l level rest hrest)
  rw [take_value hp ht, htake]

theorem steps_items (l : Layout) (level : Nat) {depth : Nat} {items : List Datum} (hitems : ∀ d ∈ items, ReadBack depth d)
    (done : List Datum) {fs : List Frame} (hfs : fs.length + 1 + depth ≤ Reader.maxDepth) {rest : Bytes}
    (hrest : EndsNumber rest) :
    ReflTransGen Reader.Step (⟨.list done :: fs, .commaOrClose⟩, renderItems l level false items ++ rest)
      (⟨.list ((items.map Datum.repaired).reverse ++ done) :: fs, .commaOrClose⟩, rest) := by
  induction items generalizing done with
  | nil => exact .refl
  | cons d items ih =>
      have hcomma : Reader.Step
          (⟨.list done :: fs, .commaOrClose⟩, renderItems l level false (d :: items) ++ rest)
          (⟨.list done :: fs, .value⟩,
            l.breakLine level ++ renderAt l level d ++ (renderItems l level false items ++ rest)) := by
        have htext : renderItems l level false (d :: items) ++ rest =
            [] ++ 44 :: (l.breakLine level ++ renderAt l level d ++ (renderItems l level false items ++ rest)) := by
          simp [renderItems]
        rw [htext]
        exact Reader.step_mark (by simp) (by decide) rfl
      have hvalue := hitems d List.mem_cons_self l level (.list done :: fs) .value (l.breakLine level)
        (renderItems l level false items ++ rest) (.inl rfl) hfs isBlank_of_mem_breakLine
        (endsNumber_renderItems l level hrest items)
      have hmore := ih (fun d hd => hitems d (List.mem_cons_of_mem _ hd)) (d.repaired :: done)
      rw [List.map_cons, List.reverse_cons, List.append_assoc, List.singleton_append]
      exact (ReflTransGen.head hcomma hvalue).trans hmore

theorem steps_field (l : Layout) (level : Nat) {depth : Nat} {f : Bytes × Datum} (hf : ReadBack depth f.2) (closable : Bool)
    (done : List (Bytes × Datum)) (name : Bytes) {fs : List Frame} (hfs : fs.length + 1 + depth ≤ Reader.maxDepth)
    {rest : Bytes} (hrest : EndsNumber rest) :
    ReflTransGen Reader.Step (⟨.record done name :: fs, .name closable⟩,
        l.breakLine level ++ quote f.1 ++ (l.colon ++ renderAt l level f.2 ++ rest))
      (⟨.record ((Utf8.repair f.1, f.2.repaired) :: done) (Utf8.repair f.1) :: fs, .commaOrClose⟩, rest) := by
  have hname : Reader.Step (⟨.record done name :: fs, .name closable⟩,
        l.breakLine level ++ quote f.1 ++ (l.colon ++ renderAt l level f.2 ++ rest))
      (⟨.record done (Utf8.repair f.1) :: fs, .colon⟩, l.colon ++ renderAt l level f.2 ++ rest) := by
    apply Reader.step_quote isBlank_of_mem_breakLine
    cases closable <;> rfl
  obtain ⟨blank, hcolon, hblank⟩ : ∃ blank, l.colon = 58 :: blank ∧ ∀ b ∈ blank, isBlank b := by
    cases l with
    | compact => exact ⟨[], rfl, by simp⟩
    | indented => exact ⟨[32], rfl, List.forall_mem_singleton.mpr rfl⟩
  have hmark : Reader.Step (⟨.record done (Utf8.repair f.1) :: fs, .colon⟩, l.colon ++ renderAt l level f.2 ++ rest)
      (⟨.record done (Utf8.repair f.1) :: fs, .value⟩, blank ++ renderAt l level f.2 ++ rest) := by
    rw [hcolon, List.cons_append, List.cons_append]
    have hnone : ∀ b ∈ ([] : Bytes), isBlank b := by simp
    exact Reader.step_mark hnone (by decide) rfl
  have hvalue := hf l level (.record done (Utf8.repair f.1) :: fs) .value blank rest (.inl rfl) hfs hblank hrest
  exact .head hname (.head hmark hvalue)

theorem steps_fields (l : Layout) (level : Nat) {depth : Nat} {fields : List (Bytes × Datum)}
    (hfields : ∀ f ∈ fields, ReadBack depth f.2) (done : List (Bytes × Datum)) (name : Bytes) {fs : List Frame}
    (hfs : fs.length + 1 + depth ≤ Reader.maxDepth) {rest : Bytes} (hrest : EndsNumber rest) : ∃ name',
    ReflTransGen Reader.Step (⟨.record done name :: fs, .commaOrClose⟩, renderFields l level false fields ++ rest)
      (⟨.record ((fields.map fun f => (Utf8.repair f.1, f.2.repaired)).reverse ++ done) name' :: fs, .commaOrClose⟩,
        rest) := by
  induction fields generalizing done name with
  | nil => exact ⟨name, .refl⟩
  | cons f fields ih =>
      have hcomma : Reader.Step
          (⟨.record done name :: fs, .commaOrClose⟩, renderFields l level false (f :: fields) ++ rest)
          (⟨.record done name :: fs, .name false⟩, l.breakLine level ++ quote f.1 ++
            (l.colon ++ renderAt l level f.2 ++ (renderFields l level false fields ++ rest))) := by
        have htext : renderFields l level false (f :: fields) ++ rest = [] ++ 44 :: (l.breakLine level ++ quote f.1 ++
            (l.colon ++ renderAt l level f.2 ++ (renderFields l level false fields ++ rest))) := by
          simp [renderFields]
        rw [htext]
        exact Reader.step_mark (by simp) (by decide) rfl
      have hfield := steps_field l level (hfields f List.mem_cons_self) false done name hfs
        (endsNumber_renderFields l level hrest fields)
      obtain ⟨name', hmore⟩ := ih (fun f hf => hfields f (List.mem_cons_of_mem _ hf))
        ((Utf8.repair f.1, f.2.repaired) :: done) (Utf8.repair f.1)
      rw [List.map_cons, List.reverse_cons, List.append_assoc, List.singleton_append]
      exact ⟨name', (ReflTransGen.head hcomma hfield).trans hmore⟩

theorem readBack_list {depth : Nat} {items : List Datum} (hitems : ∀ d ∈ items, ReadBack depth d) :
    ReadBack (depth + 1) (.list items) := by
  intro l level fs p blank rest hp hdepth hblank hrest
  have hroom : fs.length + 1 + depth ≤ Reader.maxDepth := by omega
  have hopened : Reader.takeValue fs (.mark 91) = some ⟨.list [] :: fs, .valueOrClose⟩ := by
    rw [Reader.takeValue, if_pos rfl, Reader.openWith, if_pos (by omega)]
  have hopen : ∀ text, Reader.Step (⟨fs, p⟩, blank ++ 91 :: text) (⟨.list [] :: fs, .valueOrClose⟩, text) := by
    intro text
    apply Reader.step_mark hblank (by decide)
    rw [take_value hp (by simp), hopened]
  rw [Datum.repaired]
  cases items with
  | nil =>
      have hclose : Reader.Step (⟨.list [] :: fs, .valueOrClose⟩, [] ++ 93 :: rest) (Reader.place (.list []) fs, rest) :=
        Reader.step_mark (by simp) (by decide) rfl
      have htext : blank ++ renderAt l level (.list []) ++ rest = blank ++ 91 :: ([] ++ 93 :: rest) := by
        simp [renderAt]
      rw [htext]
      exact .head (hopen _) (.single hclose)
  | cons d items =>
      let tail := l.breakLine level ++ 93 :: rest
      -- With or without line breaks, what follows the members is no part of a number before it.
      have htail : EndsNumber tail := endsNumber_breakLine (by simp) l level rest
      have hfirst := hitems d List.mem_cons_self l (level + 1) (.list [] :: fs) .valueOrClose (l.breakLine (level + 1))
        (renderItems l (level + 1) false items ++ tail) (.inr rfl) hroom isBlank_of_mem_breakLine
        (endsNumber_renderItems l (level + 1) htail items)
      have hmore := steps_items l (level + 1) (fun d hd => hitems d (List.mem_cons_of_mem _ hd)) [d.repaired] hroom htail
      have hclose : Reader.Step
          (⟨.list ((items.map Datum.repaired).reverse ++ [d.repaired]) :: fs, .commaOrClose⟩, tail)
          (Reader.place (.list ((d :: items).map Datum.repaired)) fs, rest) := by
        apply Reader.step_mark isBlank_of_mem_breakLine (by decide)
        simp [Reader.take, Reader.close]
      have htext : blank ++ renderAt l level (.list (d :: items)) ++ rest = blank ++ 91 :: (l.breakLine (level + 1) ++
          renderAt l (level + 1) d ++ (renderItems l (level + 1) false items ++ tail)) := by
        simp [renderAt, renderItems, tail]
      rw [htext]
      exact .head (hopen _) ((hfirst.trans hmore).tail hclose)

theorem readBack_record {depth : Nat} {fields : List (Bytes × Datum)} (hfields : ∀ f ∈ fields, ReadBack depth f.2) :
    ReadBack (depth + 1) (.record fields) := by
  intro l level fs p blank rest hp hdepth hblank hrest
  have hroom : fs.length + 1 + depth ≤ Reader.maxDepth := by omega
  have hopened : Reader.takeValue fs (.mark 123) = some ⟨.record [] [] :: fs, .name true⟩ := by
    rw [Reader.takeValue, if_neg (by decide), if_pos rfl, Reader.openWith, if_pos (by omega)]
  have hopen : ∀ text, Reader.Step (⟨fs, p⟩, blank ++ 123 :: text) (⟨.record [] [] :: fs, .name true⟩, text) := by
    intro text
    apply Reader.step_mark hblank (by decide)
    rw [take_value hp (by simp), hopened]
  rw [Datum.repaired]
  cases fields with
  | nil =>
      have hclose : Reader.Step (⟨.record [] [] :: fs, .name true⟩, [] ++ 125 :: rest)
          (Reader.place (.record []) fs, rest) := Reader.step_mark (by simp) (by decide) rfl
      have htext : blank ++ renderAt l level (.record []) ++ rest = blank ++ 123 :: ([] ++ 125 :: rest) := by
        simp [renderAt]
      rw [htext]
      exact .head (hopen _) (.single hclose)
  | cons f fields =>
      let tail := l.breakLine level ++ 125 :: rest
      have htail : EndsNumber tail := endsNumber_breakLine (by simp) l level rest
      have hfirst := steps_field l (level + 1) (hfields f List.mem_cons_self) true [] [] hroom
        (endsNumber_renderFields l (level + 1) htail fields)
      obtain ⟨name, hmore⟩ := steps_fields l (level + 1) (fun f hf => hfields f (List.mem_cons_of_mem _ hf))
        [(Utf8.repair f.1, f.2.repaired)] (Utf8.repair f.1) hroom htail
      have hclose : Reader.Step
          (⟨.record ((fields.map fun f => (Utf8.repair f.1, f.2.repaired)).reverse ++ [(Utf8.repair f.1, f.2.repaired)])
            name :: fs, .commaOrClose⟩, tail)
          (Reader.place (.record ((f :: fields).map fun f => (Utf8.repair f.1, f.2.repaired))) fs, rest) := by
        apply Reader.step_mark isBlank_of_mem_breakLine (by decide)
        simp [Reader.take, Reader.close]
      have htext : blank ++ renderAt l level (.record (f :: fields)) ++ rest = blank ++ 123 :: (l.breakLine (level + 1) ++
          quote f.1 ++ (l.colon ++ renderAt l (level + 1) f.2 ++ (renderFields l (level + 1) false fields ++ tail))) := by
        simp [renderAt, renderFields, tail]
      rw [htext]
      exact .head (hopen _) ((hfirst.trans hmore).tail hclose)

theorem readBack_word {depth : Nat} {w : String} {d : Datum} (hw : (w, d) ∈ words)
    (hrender : ∀ l level, renderAt l level d = utf8 w) (hrepaired : d.repaired = d) : ReadBack depth d := by
  have hstart : ∀ x ∈ words, ∃ b text, utf8 x.1 = b :: text ∧ isBlank b = false := by
    intro x hx
    simp only [words, List.mem_cons, List.not_mem_nil, or_false] at hx
    obtain rfl | rfl | rfl := hx
    · exact ⟨110, [117, 108, 108], by decide, by decide⟩
    · exact ⟨116, [114, 117, 101], by decide, by decide⟩
    · exact ⟨102, [97, 108, 115, 101], by decide, by decide⟩
  refine readBack_leaf (t := .value d) (fun l level => ?_) (fun l level rest _ => ?_) (by simp) fun fs => ?_
  · rw [hrender]
    exact hstart (w, d) hw
  · rw [hrender]
    exact token?_word w d hw rest
  · rw [hrepaired, Reader.takeValue]

theorem readBack_int {depth : Nat} (n : Int) : ReadBack depth (.ofInt n) := by
  have hvisible : ∀ b, b = 45 ∨ Bytes.isDigit b → isBlank b = false := by
    intro b hb
    by_contra hblank
    simp only [isBlank, Bool.not_eq_false, Bool.or_eq_true, decide_eq_true_eq] at hblank
    obtain ((rfl | rfl) | rfl) | rfl := hblank <;> revert hb <;> decide
  refine readBack_leaf (t := .value (.ofInt n)) (fun l level => ?_) (fun l level rest hrest => ?_) (by simp) fun fs => ?_
  · obtain ⟨b, t, htext, hb⟩ := head_int n
    exact ⟨b, t, by rw [Datum.ofInt, renderAt, htext], hvisible b hb⟩
  · rw [Datum.ofInt, renderAt]
    exact token?_int n hrest
  · rw [Datum.repaired_ofInt, Reader.takeValue]

theorem readBack_text {depth : Nat} (s : Bytes) : ReadBack depth (.text s) := by
  refine readBack_leaf (t := .text (Utf8.repair s)) (fun l level => ?_) (fun l level rest _ => ?_) (by simp) fun fs => ?_
  · exact ⟨34, _, by rw [renderAt, quote], by decide⟩
  · rw [renderAt]
    exact token?_quote s rest
  · rw [Datum.repaired, Reader.takeValue]

theorem readBack_of_nested {depth : Nat} {d : Datum} (h : d.Nested depth) : ReadBack depth d := by
  induction h with
  | null => exact readBack_word (w := "null") (by simp [words]) (fun l level => by rw [renderAt]) Datum.repaired_null
  | bool b =>
      cases b with
      | false =>
          apply readBack_word (w := "false") (by simp [words]) _ (Datum.repaired_bool false)
          intro l level
          rw [renderAt, if_neg (by simp)]
      | true =>
          apply readBack_word (w := "true") (by simp [words]) _ (Datum.repaired_bool true)
          intro l level
          rw [renderAt, if_pos rfl]
  | int n => exact readBack_int n
  | text s => exact readBack_text s
  | list _ ih => exact readBack_list ih
  | record _ ih => exact readBack_record ih

/-- A value that was written is the first value of the text, with stray bytes replaced. -/
theorem read_render {d : Datum} (h : d.Nested Reader.maxDepth) (l : Layout) {rest : Bytes} (hrest : EndsNumber rest)
    {fuel : Nat} (hfuel : (render l d ++ rest).length < fuel) :
    Reader.read fuel .start (render l d ++ rest) = some (d.repaired, rest) := by
  apply Reader.read_of_steps _ _ hfuel
  · simp [Reader.start]
  · have hblank : ∀ b ∈ ([] : Bytes), isBlank b := by simp
    exact readBack_of_nested h l 0 [] .value [] rest (.inl rfl) (by simp) hblank hrest

theorem first?_render {d : Datum} (h : d.Nested Reader.maxDepth) (l : Layout) {rest : Bytes} (hrest : EndsNumber rest) :
    first? (render l d ++ rest) = some d.repaired := by
  rw [first?, read_render h l hrest (by omega), Option.map_some]

theorem parse?_render {d : Datum} (h : d.Nested Reader.maxDepth) (l : Layout) {rest : Bytes}
    (hrest : rest.all isBlank) : parse? (render l d ++ rest) = some d.repaired := by
  have hends : EndsNumber rest := by
    intro b hb
    have hblank := List.all_eq_true.mp hrest b (List.mem_of_mem_head? hb)
    simp only [isBlank, Bool.or_eq_true, decide_eq_true_eq] at hblank
    obtain ((rfl | rfl) | rfl) | rfl := hblank <;> decide
  rw [parse?, read_render h l hends (by omega)]
  exact if_pos hrest

end Json

end SourceSurvey
