import Mathlib
import SourceSurvey.Proofs.Datum.Spelling
import SourceSurvey.Service.Server

namespace SourceSurvey.Submission

open Json

variable {settings : ServiceSettings} {r : ServiceRequest} {code name : List Char} {k : Nat} {body : Bytes}

/-- A body without white space that holds a code and a file name and nothing else, and how many of its characters take a
pair of escapes. -/
inductive Holds (code name : List Char) : Nat → Bytes → Prop
  | codeFirst {a b c d : Nat} {codeKey codeText nameKey nameText : Bytes} (hcodeKey : Spells "code".toList a codeKey)
      (hcode : Spells code b codeText) (hnameKey : Spells "filename".toList c nameKey) (hname : Spells name d nameText) :
      Holds code name (a + b + c + d) (twoFields codeKey codeText nameKey nameText)
  | nameFirst {a b c d : Nat} {codeKey codeText nameKey nameText : Bytes} (hcodeKey : Spells "code".toList a codeKey)
      (hcode : Spells code b codeText) (hnameKey : Spells "filename".toList c nameKey) (hname : Spells name d nameText) :
      Holds code name (a + b + c + d) (twoFields nameKey nameText codeKey codeText)

def fieldsOf (code name : List Char) : Bool → List (Bytes × Datum)
  | true => [(utf8 "code", .text (Utf8.encode code)), (utf8 "filename", .text (Utf8.encode name))]
  | false => [(utf8 "filename", .text (Utf8.encode name)), (utf8 "code", .text (Utf8.encode code))]

theorem Holds.parse? (h : Holds code name k body) :
    ∃ first, Json.parse? body = some (.record (fieldsOf code name first)) := by
  cases h with
  | codeFirst hcodeKey hcode hnameKey hname =>
      refine ⟨true, ?_⟩
      rw [parse?_twoFields hcodeKey hcode hnameKey hname, ← utf8_eq, ← utf8_eq]
      rfl
  | nameFirst hcodeKey hcode hnameKey hname =>
      refine ⟨false, ?_⟩
      rw [parse?_twoFields hnameKey hname hcodeKey hcode, ← utf8_eq, ← utf8_eq]
      rfl

theorem Holds.length_le (h : Holds code name k body) : body.length ≤ 6 * (code.length + name.length + k) + 85 := by
  have hcodeLength : "code".toList.length = 4 := by decide
  have hnameLength : "filename".toList.length = 8 := by decide
  cases h with
  | codeFirst hcodeKey hcode hnameKey hname | nameFirst hcodeKey hcode hnameKey hname =>
      have := hcodeKey.length_le
      have := hcode.length_le
      have := hnameKey.length_le
      have := hname.length_le
      rw [length_twoFields]
      omega

theorem ofDatum_fieldsOf (first : Bool) {maxCode : Nat} (hcode : code.length ≤ maxCode)
    (hname : name.length ≤ maxFilename) :
    ofDatum maxCode (.record (fieldsOf code name first)) = .ok ⟨Utf8.encode code, String.ofList name⟩ := by
  have hne : utf8 "code" ≠ utf8 "filename" := by decide
  have hcodeField : field? (.record (fieldsOf code name first)) "code" = some (.text (Utf8.encode code)) := by
    cases first <;> simp [field?, Datum.get?, Datum.field?, fieldsOf, hne.symm]
  have hnameField : field? (.record (fieldsOf code name first)) "filename" = some (.text (Utf8.encode name)) := by
    cases first <;> simp [field?, Datum.get?, Datum.field?, fieldsOf, hne]
  rw [ofDatum, hcodeField]
  simp only [filenameOf, hnameField, Utf8.chars_encode, Utf8.toString]
  rw [if_neg (by omega), if_neg (by omega)]

theorem maxBody_eq (hpositive : 0 ≤ settings.maxCodeChars) (hfits : settings.maxCodeChars * 6 + 65536 < 0x8000000000000000) :
    (settings.maxBody : Int) = settings.maxCodeChars * 6 + 65536 := by
  rw [ServiceSettings.maxBody, Int.bmod_eq_of_le (by omega) (by omega)]
  omega

theorem ofRequest_of_long (htype : r.mediaType = "application/json") (hlong : settings.maxBody < r.body.length) :
    ofRequest settings r = .error .codeTooLarge := by
  rw [ofRequest, if_neg (by simp [htype]), if_pos hlong]

/-- A request whose code and file name are of admissible length is let in, whatever way they are spelled, exactly if its
body is within the limit. It is if sixty-four bits hold the limit and the characters that take a pair of escapes, counted
twice, are no more than the room for the rest makes up for. -/
theorem ofRequest_of_holds (hbody : Holds code name k r.body) (htype : r.mediaType = "application/json")
    (hcode : code.length ≤ settings.maxCodeChars) (hname : name.length ≤ maxFilename) :
    (ofRequest settings r = .ok ⟨Utf8.encode code, String.ofList name⟩ ↔ r.body.length ≤ settings.maxBody) ∧
      (settings.maxCodeChars * 6 + 65536 < 0x8000000000000000 → code.length + name.length + k ≤ settings.maxCodeChars + 10908 →
        ofRequest settings r = .ok ⟨Utf8.encode code, String.ofList name⟩) := by
  have hiff : ofRequest settings r = .ok ⟨Utf8.encode code, String.ofList name⟩ ↔ r.body.length ≤ settings.maxBody := by
    by_cases hlong : settings.maxBody < r.body.length
    · rw [ofRequest_of_long htype hlong]
      exact ⟨nofun, fun h => absurd hlong (by omega)⟩
    · obtain ⟨first, hparse⟩ := hbody.parse?
      rw [ofRequest, if_neg (by simp [htype]), if_neg hlong, hparse]
      exact ⟨fun _ => by omega, fun _ => ofDatum_fieldsOf first (by omega) hname⟩
  refine ⟨hiff, fun hfits hpairs => hiff.mpr ?_⟩
  have hlimit := maxBody_eq (by omega) hfits
  have hlength := hbody.length_le
  omega

theorem spells_names : Spells "code".toList 0 (utf8 "code") ∧ Spells "filename".toList 0 (utf8 "filename") := by
  rw [utf8_eq, utf8_eq]
  exact ⟨.itself (by decide), .itself (by decide)⟩

def smile : Bytes := utf8 "\\ud83d\\uDE00"

theorem writes_smile : Writes '😀' 1 smile := by
  have hsmile : smile = 92 :: 117 :: ([100, 56, 51, 100] ++ 92 :: 117 :: [68, 69, 48, 48]) := by decide
  rw [hsmile]
  exact .pair (by decide) (.digits (by decide) (by decide) (by decide) (by decide))
    (.digits (by decide) (by decide) (by decide) (by decide))

def posted (body : Bytes) : ServiceRequest := { target := "/analyze", body }

theorem mediaType_posted (body : Bytes) : (posted body).mediaType = "application/json" := by cbv

theorem ofRequest_of_holds_smile :
    ofRequest .default (posted (twoFields (utf8 "filename") (utf8 "a.py") (utf8 "code") (utf8 "\\u0078\\ud83d\\uDE00"))) =
      .ok ⟨Utf8.encode ['x', '😀'], "a.py"⟩ := by
  have hx : Writes 'x' 0 (92 :: 117 :: [48, 48, 55, 56]) :=
    .unit (.digits (by decide) (by decide) (by decide) (by decide))
  have hcode : Spells ['x', '😀'] (0 + (1 + 0)) (utf8 "\\u0078\\ud83d\\uDE00") := by
    rw [show utf8 "\\u0078\\ud83d\\uDE00" = 92 :: 117 :: [48, 48, 55, 56] ++ (smile ++ []) by decide]
    exact .cons hx (.cons writes_smile .nil)
  have hname : Spells "a.py".toList 0 (utf8 "a.py") := by
    rw [utf8_eq]
    exact .itself (by decide)
  exact (ofRequest_of_holds (r := posted _) (.nameFirst spells_names.1 hcode spells_names.2 hname) (mediaType_posted _)
    (by decide) (by decide)).2 (by decide) (by decide)

def unnamed (text : Bytes) : ServiceRequest := posted (twoFields (utf8 "code") text (utf8 "filename") [])

theorem holds_unnamed {text : Bytes} (h : Spells code k text) : Holds code [] k (unnamed text).body := by
  have hbody := Holds.codeFirst spells_names.1 h spells_names.2 .nil
  simpa [unnamed, posted] using hbody

/-- Code of admissible length is turned away when it is all pairs of escapes, and when sixty-four bits do not hold the
limit. -/
theorem ofRequest_refuses_admissible :
    (∃ settings, ServiceSettings.complete { maxCodeChars := 11000 } = .ok settings ∧ settings.maxCodeChars = 11000 ∧
      Holds (List.replicate 11000 '😀') [] 11000 (unnamed (List.replicate 11000 smile).flatten).body ∧
      ofRequest settings (unnamed (List.replicate 11000 smile).flatten) = .error .codeTooLarge) ∧
    (∃ settings, ServiceSettings.complete { maxCodeChars := 4611686018427387904 } = .ok settings ∧
      settings.maxCodeChars = 4611686018427387904 ∧ Holds ['x'] [] 0 (unnamed (utf8 "x")).body ∧
      ofRequest settings (unnamed (utf8 "x")) = .error .codeTooLarge) := by
  refine ⟨⟨_, rfl, rfl, ?_, ?_⟩, ⟨_, rfl, rfl, ?_, ?_⟩⟩
  · have hspells := Spells.replicate writes_smile 11000
    rw [Nat.mul_one] at hspells
    exact holds_unnamed hspells
  · have hsmile : smile.length = 12 := by decide
    have hkeys : (utf8 "code").length = 4 ∧ (utf8 "filename").length = 8 := by decide
    have htext : (List.replicate 11000 smile).flatten.length = 132000 := by
      rw [List.length_flatten, List.map_replicate, List.sum_replicate_nat, hsmile]
    refine ofRequest_of_long (mediaType_posted _) ?_
    rw [unnamed, posted, length_twoFields, htext, hkeys.1, hkeys.2]
    decide +kernel
  · have hspells : Spells "x".toList 0 (utf8 "x") := by
      rw [utf8_eq]
      exact .itself (by decide)
    exact holds_unnamed hspells
  · exact ofRequest_of_long (mediaType_posted _) (by decide +kernel)

end SourceSurvey.Submission
