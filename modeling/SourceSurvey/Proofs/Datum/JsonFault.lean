import SourceSurvey.Datum.JsonFault
import SourceSurvey.Proofs.Text.Glyphs

namespace SourceSurvey.Json

variable {blank s : Bytes} {d : Datum}

namespace Reader

variable {r : Reader} {x : Datum × Bytes} {m n : Nat}

theorem read_mono (h : read n r s = some x) (hle : n ≤ m) : read m r s = some x := by
  induction n generalizing m r s with
  | zero => simp [read] at h
  | succ n ih =>
      obtain ⟨m, rfl⟩ := Nat.exists_eq_add_of_le' (Nat.le_of_add_left_le hle)
      rw [read] at h ⊢
      obtain ⟨⟨t, rest⟩, htoken, h⟩ := Option.bind_eq_some_iff.mp h
      obtain ⟨r', htake, h⟩ := Option.bind_eq_some_iff.mp h
      rw [htoken]
      simp only [Option.bind_eq_bind, Option.bind_some, htake]
      split at h
      · exact h
      · exact ih h (Nat.le_of_add_le_add_right hle)

theorem read_blank (hblank : ∀ b ∈ blank, isBlank b) (n : Nat) (r : Reader) : read n r (blank ++ s) = read n r s := by
  cases n with
  | zero => rfl
  | succ n => rw [read, read, Bytes.dropLeft, List.dropWhile_append_of_pos hblank, Bytes.dropLeft]

end Reader

theorem parse?_blank (hblank : ∀ b ∈ blank, isBlank b) (h : parse? s = some d) : parse? (blank ++ s) = some d := by
  obtain ⟨x, hread, hx⟩ := Option.bind_eq_some_iff.mp h
  have hle : s.length + 1 ≤ (blank ++ s).length + 1 := by simp
  rw [parse?, Reader.read_blank hblank, Reader.read_mono hread hle]
  exact hx

theorem fault?_blank (hblank : ∀ b ∈ blank, isBlank b) : fault? (blank ++ s) = fault? s := by
  have hrun : JsonChecker.run {} (blank ++ s) = JsonChecker.run {} s := by
    induction blank with
    | nil => rfl
    | cons b blank ih =>
        have hb : isBlank b := hblank b List.mem_cons_self
        rw [List.cons_append, JsonChecker.run, JsonChecker.step, JsonChecker.begin, if_pos hb]
        exact ih fun b hb => hblank b (List.mem_cons_of_mem _ hb)
  rw [fault?, hrun, fault?]

theorem isVisible_of_begin {b : UInt8} (hb : isBlank b = false) (h : (JsonChecker.begin {} b).isOk) :
    Bytes.isVisible b := by
  have hbytes : ∀ n < 256, isBlank n.toUInt8 = false → (JsonChecker.begin {} n.toUInt8).isOk →
      Bytes.isVisible n.toUInt8 := by
    decide +kernel
  have hall := hbytes b.toNat b.toNat_lt
  rw [Nat.toUInt8_eq, UInt8.ofNat_toNat] at hall
  exact hall hb h

theorem exists_visible (h : fault? s = none) : ∃ b ∈ s, Bytes.isVisible b := by
  induction s with
  | nil => exact absurd h (by decide)
  | cons b s ih =>
      by_cases hb : isBlank b
      · rw [← List.singleton_append, fault?_blank (by simpa using hb)] at h
        obtain ⟨c, hc, hvisible⟩ := ih h
        exact ⟨c, List.mem_cons_of_mem _ hc, hvisible⟩
      · refine ⟨b, List.mem_cons_self, isVisible_of_begin (by simpa using hb) ?_⟩
        rw [fault?, JsonChecker.run, JsonChecker.step] at h
        cases hbegin : JsonChecker.begin {} b with
        | ok c => rfl
        | error e => simp [hbegin] at h

end SourceSurvey.Json
