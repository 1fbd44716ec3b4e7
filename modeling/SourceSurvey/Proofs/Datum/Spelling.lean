import SourceSurvey.Proofs.Datum.Json

namespace SourceSurvey.Json

open Relation

variable {c : Char} {cs cs' : List Char} {k k' n : Nat} {b : UInt8} {s s' w ds : Bytes}

def upperHexDigit (n : Nat) : UInt8 := (if n < 10 then 48 + n else 55 + n).toUInt8

def IsHex (n : Nat) (b : UInt8) : Prop := n < 16 ∧ (b = hexDigit n ∨ b = upperHexDigit n)

instance (n : Nat) (b : UInt8) : Decidable (IsHex n b) := inferInstanceAs (Decidable (_ ∧ _))

inductive IsUnit (n : Nat) : Bytes → Prop
  | digits {a b c d : UInt8} (ha : IsHex (n / 4096) a) (hb : IsHex (n / 256 % 16) b) (hc : IsHex (n / 16 % 16) c)
      (hd : IsHex (n % 16) d) : IsUnit n [a, b, c, d]

def letters : List (UInt8 × Char) :=
  [(34, '"'), (92, '\\'), (47, '/'), (98, '\x08'), (102, '\x0c'), (110, '\n'), (114, '\r'), (116, '\t')]

/-- A way to write a character, and the number of escapes it takes beyond one. -/
inductive Writes : Char → Nat → Bytes → Prop
  | itself {c : Char} (hlow : ¬c.toNat < 0x20) (hquote : c ≠ '"') (hslash : c ≠ '\\') : Writes c 0 (Utf8.encodeChar c)
  | short {c : Char} {e : UInt8} (h : (e, c) ∈ letters) : Writes c 0 [92, e]
  | unit {c : Char} {ds : Bytes} (h : IsUnit c.toNat ds) : Writes c 0 (92 :: 117 :: ds)
  | pair {c : Char} {high low : Bytes} (hwide : 0x10000 ≤ c.toNat)
      (hhigh : IsUnit (0xD800 + (c.toNat - 0x10000) / 0x400) high)
      (hlow : IsUnit (0xDC00 + (c.toNat - 0x10000) % 0x400) low) : Writes c 1 (92 :: 117 :: (high ++ 92 :: 117 :: low))

/-- A way to write a text, and how many of its characters take a pair of escapes. -/
inductive Spells : List Char → Nat → Bytes → Prop
  | nil : Spells [] 0 []
  | cons {c : Char} {cs : List Char} {k n : Nat} {w s : Bytes} (hw : Writes c k w) (hs : Spells cs n s) :
      Spells (c :: cs) (k + n) (w ++ s)

theorem hexValue?_upperHexDigit : ∀ n < 16, hexValue? (upperHexDigit n) = some n := by decide

theorem IsHex.value (h : IsHex n b) : hexValue? b = some n := by
  obtain ⟨hn, rfl | rfl⟩ := h
  · exact hexValue?_hexDigit n hn
  · exact hexValue?_upperHexDigit n hn

theorem IsUnit.unit? (h : IsUnit n ds) (r : Bytes) : unit? (ds ++ r) = some (n, r) := by
  cases h with
  | digits ha hb hc hd =>
      have hn : n / 4096 * 4096 + n / 256 % 16 * 256 + n / 16 % 16 * 16 + n % 16 = n := by omega
      simp [Json.unit?, ha.value, hb.value, hc.value, hd.value, hn]

theorem IsUnit.length (h : IsUnit n ds) : ds.length = 4 := by
  cases h
  rfl

theorem unicode?_unit (h : IsUnit c.toNat ds) (r : Bytes) : unicode? (ds ++ r) = some (c, r) := by
  have hvalid := Utf8.not_surrogate c
  rw [unicode?, h.unit?]
  simp [hvalid]

theorem unicode?_pair {high low : Bytes} (hwide : 0x10000 ≤ c.toNat)
    (hhigh : IsUnit (0xD800 + (c.toNat - 0x10000) / 0x400) high)
    (hlow : IsUnit (0xDC00 + (c.toNat - 0x10000) % 0x400) low) (r : Bytes) :
    unicode? (high ++ 92 :: 117 :: (low ++ r)) = some (c, r) := by
  have hmax := Utf8.toNat_lt c
  have hmark : Bytes.dropStart? (utf8 "\\u") (92 :: 117 :: (low ++ r)) = some (low ++ r) := by
    rw [show utf8 "\\u" = [92, 117] by decide]
    rfl
  have hchar : Char.ofNat (0x10000 + (0xD800 + (c.toNat - 0x10000) / 0x400 - 0xD800) * 0x400 +
      (0xDC00 + (c.toNat - 0x10000) % 0x400 - 0xDC00)) = c := by
    rw [show 0x10000 + (0xD800 + (c.toNat - 0x10000) / 0x400 - 0xD800) * 0x400 +
      (0xDC00 + (c.toNat - 0x10000) % 0x400 - 0xDC00) = c.toNat by omega, Char.ofNat_toNat]
  rw [unicode?, hhigh.unit?]
  dsimp only
  rw [if_neg (by simp; omega), hmark, Option.bind_some, hlow.unit?]
  dsimp only
  rw [if_pos (by simp; omega), hchar]

theorem letter_of_mem : ∀ x ∈ letters, x.1 ≠ 117 ∧ shortEscape? x.1 = some x.2.toNat.toUInt8 ∧ x.2.toNat < 0x80 := by
  decide

theorem Writes.readText (h : Writes c k w) (seen r : Bytes) :
    Json.readText seen (w ++ r) = Json.readText ((Utf8.encodeChar c).reverse ++ seen) r := by
  cases h with
  | itself hlow hquote hslash => exact readText_plain (isPlain_encodeChar hlow hquote hslash) seen r
  | short hmem =>
      obtain ⟨he, hx, hascii⟩ := letter_of_mem _ hmem
      rw [Utf8.encodeChar, if_pos hascii]
      exact readText_short he hx seen r
  | unit hunit => exact readText_unicode (unicode?_unit hunit r) seen
  | pair hwide hhigh hlow =>
      have hread := unicode?_pair hwide hhigh hlow r
      rw [List.cons_append, List.cons_append, List.append_assoc, List.cons_append, List.cons_append]
      exact readText_unicode hread seen

theorem length_encodeChar_le (c : Char) : (Utf8.encodeChar c).length ≤ 4 := by
  rw [Utf8.encodeChar]
  split_ifs <;> simp

theorem Writes.length_le (h : Writes c k w) : w.length ≤ 6 * (1 + k) := by
  cases h with
  | itself => exact Nat.le_trans (length_encodeChar_le c) (by decide)
  | short => simp
  | unit hunit => simp [hunit.length]
  | pair _ hhigh hlow => simp [hhigh.length, hlow.length]

namespace Spells

theorem readText (h : Spells cs k s) (seen r : Bytes) :
    Json.readText seen (s ++ 34 :: r) = some (Utf8.repair (seen.reverse ++ Utf8.encode cs), r) := by
  induction h generalizing seen with
  | nil => simp [readText_quote, Utf8.encode]
  | cons hw _ ih =>
      rw [List.append_assoc, hw.readText, ih]
      simp [Utf8.encode]

theorem length_le (h : Spells cs k s) : s.length ≤ 6 * (cs.length + k) := by
  induction h with
  | nil => simp
  | cons hw _ ih =>
      have hlength := hw.length_le
      rw [List.length_append, List.length_cons]
      omega

theorem replicate (hw : Writes c k w) (n : Nat) : Spells (List.replicate n c) (n * k) (List.replicate n w).flatten := by
  induction n with
  | zero => simpa using Spells.nil
  | succ n ih =>
      rw [List.replicate_succ, List.replicate_succ, List.flatten_cons, Nat.succ_mul, Nat.add_comm]
      exact .cons hw ih

theorem itself (h : cs.all fun c => ¬c.toNat < 0x20 ∧ c ≠ '"' ∧ c ≠ '\\') : Spells cs 0 (Utf8.encode cs) := by
  induction cs with
  | nil => exact .nil
  | cons c cs ih =>
      rw [List.all_cons, Bool.and_eq_true, decide_eq_true_eq] at h
      obtain ⟨⟨hlow, hquote, hslash⟩, hall⟩ := h
      exact .cons (.itself hlow hquote hslash) (ih hall)

end Spells

def quoted (s : Bytes) : Bytes := 34 :: (s ++ [34])

theorem Reader.step_quoted {r r' : Reader} {rest : Bytes} (hs : Spells cs k s)
    (htake : r.take (.text (Utf8.encode cs)) = some r') : Step (r, quoted s ++ rest) (r', rest) := by
  have hread : readText [] (s ++ 34 :: rest) = some (Utf8.encode cs, rest) := by
    rw [hs.readText, List.reverse_nil, List.nil_append, Utf8.repair_encode]
  have hmarks : (utf8 "[]\x7b\x7d:,").contains 34 = false := by decide
  have htoken : token? (quoted s ++ rest) = some (.text (Utf8.encode cs), rest) := by
    rw [quoted, List.cons_append, List.append_assoc, List.singleton_append, token?]
    simp only [hmarks, hread, Bool.false_eq_true, if_false, if_true, Option.map_some]
  have hblank : ∀ b ∈ ([] : Bytes), isBlank b := by simp
  refine step_of_token hblank (List.cons_ne_nil _ _) ?_ htoken htake
  intro b hb
  cases hb
  decide

def twoFields (name value name' value' : Bytes) : Bytes :=
  123 :: (quoted name ++ 58 :: (quoted value ++ 44 :: (quoted name' ++ 58 :: (quoted value' ++ [125]))))

theorem length_twoFields (name value name' value' : Bytes) : (twoFields name value name' value').length =
    name.length + value.length + name'.length + value'.length + 13 := by
  simp only [twoFields, quoted, List.length_cons, List.length_append, List.length_nil]
  omega

/-- A record of two texts is read, however they are spelled. -/
theorem parse?_twoFields {names values names' values' : List Char} {a b c d : Nat} {name value name' value' : Bytes}
    (hname : Spells names a name) (hvalue : Spells values b value) (hname' : Spells names' c name')
    (hvalue' : Spells values' d value') : parse? (twoFields name value name' value') = some (.record
      [(Utf8.encode names, .text (Utf8.encode values)), (Utf8.encode names', .text (Utf8.encode values'))]) := by
  have hblank : ∀ b ∈ ([] : Bytes), isBlank b := by simp
  have hmark {r r' : Reader} {b : UInt8} {rest : Bytes} (hb : b ∈ utf8 "[]\x7b\x7d:,")
      (htake : r.take (.mark b) = some r') : Reader.Step (r, b :: rest) (r', rest) := Reader.step_mark hblank hb htake
  have hsteps : ReflTransGen Reader.Step (.start, twoFields name value name' value') (⟨[], .finished (.record
      [(Utf8.encode names, .text (Utf8.encode values)), (Utf8.encode names', .text (Utf8.encode values'))])⟩, []) := by
    refine .head (hmark (by decide) rfl) ?_
    refine .head (Reader.step_quoted hname rfl) ?_
    refine .head (hmark (by decide) rfl) ?_
    refine .head (Reader.step_quoted hvalue rfl) ?_
    refine .head (hmark (by decide) rfl) ?_
    refine .head (Reader.step_quoted hname' rfl) ?_
    refine .head (hmark (by decide) rfl) ?_
    refine .head (Reader.step_quoted hvalue' rfl) ?_
    exact .single (hmark (by decide) rfl)
  rw [parse?, Reader.read_of_steps (by simp [Reader.start]) hsteps (Nat.lt_succ_self _)]
  rfl

end SourceSurvey.Json
