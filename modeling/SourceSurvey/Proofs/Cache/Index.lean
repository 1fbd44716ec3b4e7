import SourceSurvey.Cache.Index
import SourceSurvey.Proofs.Datum.Json
import SourceSurvey.Proofs.Instant
import SourceSurvey.Proofs.Keyed

namespace SourceSurvey

def CacheFormat.keep : CacheFormat → Timestamp → Timestamp
  | json, t => t.stored
  | binary, t => t

theorem CacheFormat.keep_eq_self {t : Timestamp} (h : t.offset.tmod 60 = 0) (f : CacheFormat) : f.keep t = t := by
  cases f with
  | json => exact Timestamp.stored_eq_self h
  | binary => rfl

def CacheEntry.kept (f : CacheFormat) (e : CacheEntry) : CacheEntry := { e with modified := f.keep e.modified }

namespace CacheManager

/-- The index as a file of a form keeps it. -/
def keptIn (f : CacheFormat) (index : CacheIndex) : CacheIndex := index.map fun x => (x.1, x.2.kept f)

def kept (m : CacheManager) : CacheIndex := keptIn m.format m.index

theorem keys_keptIn (f : CacheFormat) (index : CacheIndex) : (keptIn f index).map (·.1) = index.map (·.1) := by
  rw [keptIn, List.map_map]
  rfl

theorem lookup_keptIn (f : CacheFormat) (index : CacheIndex) (path : String) :
    (keptIn f index).lookup path = (index.lookup path).map (CacheEntry.kept f) := by
  induction index with
  | nil => rfl
  | cons x index ih =>
      rw [keptIn, List.map_cons, Keyed.lookup_cons, ← keptIn, ih, Keyed.lookup_cons]
      split <;> rfl

theorem keptIn_binary (index : CacheIndex) : keptIn .binary index = index := List.map_id index

/-- Where all offsets are of whole minutes, the index is kept as it is. -/
theorem kept_eq_index {m : CacheManager} (h : ∀ x ∈ m.index, x.2.modified.offset.tmod 60 = 0) : m.kept = m.index := by
  rw [kept, keptIn]
  conv_rhs => rw [← List.map_id m.index]
  refine List.map_congr_left fun x hx => ?_
  rw [CacheEntry.kept, CacheFormat.keep_eq_self (h x hx)]
  rfl

theorem lookup_update (m : CacheManager) (p : String) (modified : Timestamp) (source settings output path : String) :
    (m.update p modified source settings output).index.lookup path =
      if path = p then some ⟨modified, source, settings, output, schemaVersion, m.tool⟩ else m.index.lookup path := by
  rw [update, List.lookup_append, Keyed.lookup_filter_ne, Keyed.lookup_cons]
  by_cases hpath : path = p <;> simp [hpath]

theorem check_update (m : CacheManager) (path : String) (modified : Timestamp) (source settings output : String) :
    (m.update path modified source settings output).check path modified.instant source settings = some output := by
  rw [check, lookup_update, if_pos rfl]
  simp [compatible, update]

theorem decodeParts?_cons (p r : Bytes) (fuel : Nat) :
    decodeParts? (fuel + 1) (utf8 (toString p.length) ++ 58 :: p ++ r) = (decodeParts? fuel r).map (p :: ·) := by
  have hnumber := Datum.intOf?_nat p.length
  have hdigits := Numeral.all_isDigit_nat p.length
  have hne := Numeral.utf8_nat_ne_nil p.length
  generalize utf8 (toString p.length) = ds at hnumber hdigits hne
  have htake : (ds ++ 58 :: p ++ r).takeWhile Bytes.isDigit = ds := by
    rw [List.append_assoc, List.takeWhile_append_of_pos (List.all_eq_true.mp hdigits)]
    simp [Bytes.isDigit]
  have hdrop : (ds ++ 58 :: p ++ r).drop ds.length = 58 :: (p ++ r) := by simp
  rw [decodeParts?, htake]
  simp only [hnumber, hdrop, Option.map_some, Option.bind_eq_bind, Option.bind_some, Int.toNat_natCast]
  cases h : decodeParts? fuel r <;> simp [h]

theorem decodeParts?_encodeParts (parts : List Bytes) {fuel : Nat} (h : parts.length ≤ fuel) :
    decodeParts? fuel (Fingerprint.encodeParts parts) = some parts := by
  induction parts generalizing fuel with
  | nil => cases fuel <;> rfl
  | cons p parts ih =>
      cases fuel with
      | zero => simp at h
      | succ fuel =>
          rw [Fingerprint.encodeParts, List.flatMap_cons, ← Fingerprint.encodeParts, decodeParts?_cons,
            ih (Nat.le_of_succ_le_succ h), Option.map_some]

theorem length_encodeParts (parts : List Bytes) : parts.length ≤ (Fingerprint.encodeParts parts).length := by
  induction parts with
  | nil => simp
  | cons p parts ih =>
      rw [Fingerprint.encodeParts, List.flatMap_cons, ← Fingerprint.encodeParts]
      simp only [List.length_append, List.length_cons]
      omega

theorem entriesOf?_entryParts (index : CacheIndex) :
    entriesOf? ((index.flatMap fun (p, e) => entryParts p e).map Utf8.toString) = some index := by
  induction index with
  | nil => rfl
  | cons x index ih =>
      obtain ⟨p, e⟩ := x
      have hentry : (entryParts p e).map Utf8.toString =
          [p, toString e.modified.instant, toString e.modified.offset, e.source, e.settings, e.output, e.schema, e.tool] := by
        simp only [entryParts, List.map_cons, List.map_nil, toString_utf8]
      rw [List.flatMap_cons, List.map_append, hentry]
      simp only [List.cons_append, List.nil_append]
      rw [entriesOf?, Datum.intOf?_int, Datum.intOf?_int, ih]
      rfl

theorem decodeBinary?_encodeBinary (tool : String) (index : CacheIndex) :
    decodeBinary? (encodeBinary tool index) = some ⟨schemaVersion, tool, index⟩ := by
  rw [decodeBinary?, encodeBinary, decodeParts?_encodeParts _ (length_encodeParts _)]
  have hhead : ([signature, schemaVersion, tool].map utf8).map Utf8.toString = [signature, schemaVersion, tool] := by
    simp only [List.map_cons, List.map_nil, toString_utf8]
  rw [Option.bind_eq_bind, Option.bind_some, List.map_append, hhead]
  simp only [List.cons_append, List.nil_append, if_true]
  rw [entriesOf?_entryParts]
  rfl

theorem looseField?_ofFields (fields : List (String × Datum)) (name : String) : looseField? (.ofFields fields) name =
    fields.reverse.findSome? fun f => if (utf8 f.1).lowerAscii = (utf8 name).lowerAscii then some f.2 else none := by
  rw [looseField?, Datum.ofFields, Datum.fields?, Option.getD_some, ← List.map_reverse, List.findSome?_map]
  rfl

theorem entryOf?_entryDatum {e : CacheEntry} (h : e.modified.textFlaw? = none) :
    entryOf? (entryDatum e).repaired = some (e.kept .json) := by
  rw [entryDatum, Datum.repaired_ofFields]
  simp only [List.map_cons, List.map_nil, Datum.repaired_ofString]
  rw [entryOf?]
  have hrecord : ∀ fields, isRecordOrNull (.ofFields fields) = true := fun _ => rfl
  simp +decide [hrecord, stringField?, looseField?_ofFields, Datum.ofString, Timestamp.parse?_render h,
    CacheEntry.kept, CacheFormat.keep]

def entryFields (index : CacheIndex) : List (Bytes × Datum) :=
  index.map fun x => (utf8 x.1, (entryDatum x.2).repaired)

theorem indexOf?_entryFields {index : CacheIndex} (h : ∀ x ∈ index, x.2.modified.textFlaw? = none) :
    ∃ read, indexOf? (entryFields index) = some read ∧ read ⊆ keptIn .json index ∧
      ((index.map (·.1)).Nodup → read = keptIn .json index) := by
  induction index with
  | nil => exact ⟨[], rfl, by simp, fun _ => rfl⟩
  | cons x index ih =>
      rw [List.forall_mem_cons] at h
      obtain ⟨others, hothers, hsub, hall⟩ := ih h.2
      have hread : indexOf? (entryFields (x :: index)) =
          some (if others.any (·.1 = x.1) then others else (x.1, x.2.kept .json) :: others) := by
        rw [entryFields, List.map_cons, indexOf?, entryOf?_entryDatum h.1, ← entryFields, hothers, toString_utf8]
        rfl
      refine ⟨_, hread, ?_, fun hnodup => ?_⟩
      · split
        · exact fun y hy => List.mem_cons_of_mem _ (hsub hy)
        · exact List.cons_subset_cons _ hsub
      · rw [List.map_cons, List.nodup_cons] at hnodup
        obtain rfl := hall hnodup.2
        rw [if_neg]
        · rfl
        · simpa [keptIn] using hnodup.1

theorem nested_entryDatum (e : CacheEntry) : (entryDatum e).Nested 1 := by
  apply Datum.nested_ofFields
  simp only [List.forall_mem_cons]
  exact ⟨.text _, .text _, .text _, .text _, .text _, .text _, by simp⟩

def headerDatum (tool : String) : Datum :=
  .ofFields [("schemaVersion", .ofString schemaVersion), ("toolVersion", .ofString tool)]

def repairedEntries (index : CacheIndex) : Datum := .record (entryFields (sorted index))

theorem first?_encodeJson (tool : String) (index : CacheIndex) : Json.first? (encodeJson tool index) =
    some (.ofFields [("header", headerDatum tool), ("index", repairedEntries index)]) := by
  have hheader : (headerDatum tool).Nested 2 := by
    apply Datum.nested_ofFields
    simp only [List.forall_mem_cons]
    exact ⟨.text _, .text _, by simp⟩
  have hindex : (Datum.ofFields ((sorted index).map fun x => (x.1, entryDatum x.2))).Nested 2 := by
    apply Datum.nested_ofFields
    rw [List.forall_mem_map]
    exact fun x _ => nested_entryDatum x.2
  have hnested : (Datum.ofFields [("header", headerDatum tool),
      ("index", .ofFields ((sorted index).map fun x => (x.1, entryDatum x.2)))]).Nested 3 := by
    apply Datum.nested_ofFields
    simp only [List.forall_mem_cons]
    exact ⟨hheader, hindex, by simp⟩
  have hread := Json.first?_render (hnested.mono (show 3 ≤ Json.Reader.maxDepth by decide)) .indented
    (Json.endsNumber_of_mark (b := 10) (r := []) (by simp))
  rw [encodeJson]
  refine hread.trans ?_
  simp [headerDatum, repairedEntries, entryFields, Datum.ofFields, Datum.repaired, repair_utf8, Function.comp_def]

theorem decodeJson?_encodeJson (tool : String) {index : CacheIndex}
    (h : ∀ x ∈ index, x.2.modified.textFlaw? = none) : ∃ read,
      decodeJson? (encodeJson tool index) = some ⟨schemaVersion, tool, read⟩ ∧ read ⊆ keptIn .json index ∧
        ((index.map (·.1)).Nodup → read.Perm (keptIn .json index)) := by
  have hheader : looseField? (.ofFields [("header", headerDatum tool), ("index", repairedEntries index)]) "header" =
      some (headerDatum tool) := by
    simp +decide [looseField?_ofFields]
  have hindex : looseField? (.ofFields [("header", headerDatum tool), ("index", repairedEntries index)]) "index" =
      some (repairedEntries index) := by
    simp +decide [looseField?_ofFields]
  have hschema : stringField? (headerDatum tool) "schemaVersion" = some schemaVersion := by
    simp +decide [headerDatum, stringField?, looseField?_ofFields, Datum.ofString]
  have htool : stringField? (headerDatum tool) "toolVersion" = some tool := by
    simp +decide [headerDatum, stringField?, looseField?_ofFields, Datum.ofString]
  have hrecord : ∀ fields, isRecordOrNull (.ofFields fields) = true := fun _ => rfl
  have hperm : (sorted index).Perm index := List.mergeSort_perm _ _
  obtain ⟨read, hread, hsub, hall⟩ := indexOf?_entryFields fun x hx => h x (hperm.mem_iff.mp hx)
  refine ⟨read, ?_, fun x hx => (hperm.map _).mem_iff.mp (hsub hx), fun hnodup => ?_⟩
  · rw [decodeJson?, first?_encodeJson, Option.bind_eq_bind, Option.bind_some, hheader, hindex, Option.getD_some,
      Option.getD_some]
    have hheaderRecord : isRecordOrNull (headerDatum tool) = true := rfl
    simp only [hrecord, hheaderRecord, repairedEntries, hread, hschema, htool]
    rfl
  · rw [hall ((hperm.map _).nodup_iff.mpr hnodup)]
    exact hperm.map _

theorem isEncodable_of_flaw?_eq_none {m : CacheManager} (h : m.flaw? = none) : m.isEncodable := by
  rw [isEncodable, h]
  rfl

theorem isEncodable_of_flaw?_eq_some {m : CacheManager} {f : Timestamp.Flaw} (h : m.flaw? = some f) :
    m.isEncodable = false := by
  rw [isEncodable, h]
  rfl

theorem textFlaw?_of_isEncodable {m : CacheManager} (hformat : m.format = .json) (h : m.isEncodable) :
    ∀ x ∈ m.index, x.2.modified.textFlaw? = none := by
  rw [isEncodable, flaw?, hformat, Option.isNone_iff_eq_none, List.findSome?_eq_none_iff] at h
  exact fun x hx => h x ((List.mergeSort_perm _ _).mem_iff.mpr hx)

theorem decodeBinary?_encodeJson (tool : String) (index : CacheIndex) : decodeBinary? (encodeJson tool index) = none := by
  obtain ⟨text, htext⟩ : ∃ text, encodeJson tool index = 123 :: text := by
    rw [encodeJson, Json.render, Datum.ofFields, Json.renderAt]
    exact ⟨_, rfl⟩
  rw [htext, decodeBinary?, List.length_cons, decodeParts?]
  simp [Bytes.isDigit, Datum.intOf?]

theorem decodeJson?_encodeBinary (tool : String) (index : CacheIndex) : decodeJson? (encodeBinary tool index) = none := by
  obtain ⟨text, htext⟩ : ∃ text, encodeBinary tool index = Json.render .compact (.ofInt 5) ++ 58 :: text := by
    rw [encodeBinary, Fingerprint.encodeParts]
    exact ⟨_, rfl⟩
  have hcolon : Json.EndsNumber (58 :: text) := Json.endsNumber_cons (by decide)
  have hnested : (Datum.ofInt 5).Nested Json.Reader.maxDepth := .int 5
  rw [decodeJson?, htext, Json.first?_render hnested .compact hcolon, Datum.repaired_ofInt]
  rfl

theorem of_mem_indexOfContent {m reader : CacheManager} (hencodable : m.isEncodable) {x : String × CacheEntry}
    (h : x ∈ reader.indexOfContent m.encode) : x ∈ m.kept := by
  rw [indexOfContent] at h
  split at h
  · cases h
  rename_i stored hstored
  split at h
  · rw [decode?, encode] at hstored
    split at hstored
    · split at hstored
      · rename_i hformat
        obtain ⟨read, hread, hsub, -⟩ := decodeJson?_encodeJson m.tool (textFlaw?_of_isEncodable hformat hencodable)
        rw [hread] at hstored
        cases hstored
        rw [kept, hformat]
        exact hsub h
      · rw [decodeJson?_encodeBinary] at hstored
        cases hstored
    · split at hstored
      · rw [decodeBinary?_encodeJson] at hstored
        cases hstored
      · rename_i hformat
        rw [decodeBinary?_encodeBinary] at hstored
        cases hstored
        rw [kept, hformat, keptIn_binary]
        exact h
  · cases h

/-- What is read from a written index in the form it was written in. -/
theorem indexOfContent_encode {m reader : CacheManager} (hformat : reader.format = m.format)
    (hencodable : m.isEncodable) (hnodup : (m.index.map (·.1)).Nodup) : ∃ read, read.Perm m.kept ∧
      reader.indexOfContent m.encode = if reader.compatible schemaVersion m.tool then read else [] := by
  rw [indexOfContent, decode?, encode, hformat, kept]
  cases hm : m.format with
  | json =>
      obtain ⟨read, hread, -, hall⟩ := decodeJson?_encodeJson m.tool (textFlaw?_of_isEncodable hm hencodable)
      exact ⟨read, hall hnodup, by simp only [hread]⟩
  | binary => exact ⟨m.index, .of_eq (keptIn_binary _).symm, by simp only [decodeBinary?_encodeBinary]⟩

end CacheManager

end SourceSurvey
