import SourceSurvey.Proofs.Cache.Index

namespace SourceSurvey.Fingerprint

theorem encodeParts_injective : Function.Injective encodeParts := by
  intro parts others h
  have hparts := CacheManager.decodeParts?_encodeParts parts (Nat.le_max_left parts.length others.length)
  have hothers := CacheManager.decodeParts?_encodeParts others (Nat.le_max_right parts.length others.length)
  rw [h] at hparts
  exact Option.some.inj (hparts.symm.trans hothers)

theorem digitChar_inj : ∀ a < 16, ∀ b < 16, Nat.digitChar a = Nat.digitChar b → a = b := by decide

theorem toDigits_injective : Function.Injective (Nat.toDigits 16) := by
  intro m
  induction m using Nat.strongRecOn with
  | ind m ih =>
      intro n h
      have hshort : m < 16 ↔ n < 16 := by
        have hlength (k : Nat) : (Nat.toDigits 16 k).length ≤ 1 ↔ k < 16 ^ 1 :=
          Nat.length_toDigits_le_iff (by decide) (by decide)
        rw [← Nat.pow_one 16, ← hlength m, ← hlength n, h]
      by_cases hm : m < 16
      · rw [Nat.toDigits_of_lt_base hm, Nat.toDigits_of_lt_base (hshort.mp hm)] at h
        exact digitChar_inj m hm n (hshort.mp hm) (List.singleton_inj.mp h)
      · have hn : ¬n < 16 := fun hn => hm (hshort.mpr hn)
        rw [Nat.toDigits_of_base_le (by decide) (Nat.not_lt.mp hm),
          Nat.toDigits_of_base_le (by decide) (Nat.not_lt.mp hn)] at h
        obtain ⟨hhead, hlast⟩ := List.append_inj' h rfl
        have hquotient := ih (m / 16) (by omega) hhead
        have hrest := digitChar_inj (m % 16) (by omega) (n % 16) (by omega) (List.singleton_inj.mp hlast)
        omega

theorem ofParts_eq_iff {parts others : List Bytes} :
    ofParts parts = ofParts others ↔ hash (encodeParts parts) = hash (encodeParts others) := by
  rw [ofParts, ofParts, String.ofList_inj, toDigits_injective.eq_iff, UInt64.toNat_inj]

/-- The text that is hashed determines the list of parts, however many there are, however they are cut and whatever
digits and colons they hold. So two different lists have one fingerprint exactly if the hash takes two different texts
to one number. -/
theorem ofParts_distinguishes (parts others : List Bytes) :
    (encodeParts parts = encodeParts others ↔ parts = others) ∧
      (parts ≠ others → (ofParts parts = ofParts others ↔
        encodeParts parts ≠ encodeParts others ∧ hash (encodeParts parts) = hash (encodeParts others))) := by
  refine ⟨encodeParts_injective.eq_iff, fun hne => ?_⟩
  have htexts : encodeParts parts ≠ encodeParts others := fun h => hne (encodeParts_injective h)
  rw [ofParts_eq_iff]
  exact ⟨fun h => ⟨htexts, h⟩, fun h => h.2⟩

end SourceSurvey.Fingerprint
