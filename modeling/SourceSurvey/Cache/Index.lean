import SourceSurvey.Datum.Json
import SourceSurvey.FileTree
import SourceSurvey.Fingerprint
import SourceSurvey.Instant
import SourceSurvey.Text.Letter

/-!
The index of files already analyzed: for each path, which content and settings led to which output.
It is kept in one file, as JSON or in a binary form. A file that is missing, damaged or of another
version counts as an empty index.
-/

namespace SourceSurvey

structure CacheEntry where
  modified : Timestamp := .universal Instant.epoch
  source : String := ""
  settings : String := ""
  output : String := ""
  schema : String := ""
  tool : String := ""
  deriving Repr, DecidableEq

inductive CacheFormat
  | binary
  | json
  deriving Repr, DecidableEq

namespace CacheFormat

def name : CacheFormat → String
  | binary => "gob"
  | json => "json"

/-- The format that a name in any case asks for; an unknown name asks for the binary one. -/
def ofName (s : String) : CacheFormat := if (utf8 s).lower = utf8 "json" then json else binary

end CacheFormat

abbrev CacheIndex := List (String × CacheEntry)

structure CacheManager where
  tool : String := "dev"
  format : CacheFormat := .binary
  index : CacheIndex := []
  deriving Repr, DecidableEq

inductive CacheError
  | load (path : String) (cause : FileError)
  | persistDirectory (directory : String) (cause : FileError)
  | persistTemporary (directory : String) (cause : FileError)
  | persistEncode (format : CacheFormat) (cause : FileError)
  | persistTimestamp (format : CacheFormat) (flaw : Timestamp.Flaw)
  | persistClose (temporary : String) (cause : FileError)
  | persistRename (temporary path : String) (cause : FileCause)
  deriving Repr, DecidableEq

namespace CacheError

def isLoad : CacheError → Bool
  | load .. => true
  | _ => false

def message : CacheError → String
  | load path c => "failed to load cache index: open " ++ path ++ ": " ++ c.message
  | persistDirectory d c => persist ++ "create " ++ d ++ ": " ++ c.message
  | persistTemporary d c => persist ++ "create temporary file in " ++ d ++ ": " ++ c.message
  | persistEncode f c => persist ++ "encode " ++ f.name ++ " index: " ++ c.message
  | persistTimestamp f w => persist ++ "encode " ++ f.name ++ " index: " ++ w.message
  | persistClose t c => persist ++ "close " ++ t ++ ": " ++ c.message
  | persistRename t p c =>
    persist ++ "rename " ++ t ++ " to " ++ p ++ ": rename " ++ t ++ " " ++ p ++ ": " ++ c.message
where
  persist := "failed to persist cache index: "

end CacheError

namespace CacheManager

def fileName : String := ".codelens.cache"

def schemaVersion : String := "1"

def anyTool : String := "dev"

def ofSettings (tool format : String) : CacheManager :=
  { tool := if tool = "" then anyTool else tool, format := .ofName format }

def compatible (m : CacheManager) (schema tool : String) : Bool :=
  schema = schemaVersion && (m.tool = anyTool || tool = anyTool || tool = m.tool)

def check (m : CacheManager) (path : String) (modified : Instant) (source settings : String) : Option String :=
  match m.index.lookup path with
  | none => none
  | some e =>
    if m.compatible e.schema e.tool && e.modified.instant = modified && e.source = source && e.settings = settings then
      some e.output
    else none

def update (m : CacheManager) (path : String) (modified : Timestamp) (source settings output : String) : CacheManager :=
  let entry : CacheEntry := ⟨modified, source, settings, output, schemaVersion, m.tool⟩
  { m with index := m.index.filter (·.1 ≠ path) ++ [(path, entry)] }

def sorted (index : CacheIndex) : CacheIndex := index.mergeSort fun a b => a.1 ≤ b.1

def entryDatum (e : CacheEntry) : Datum :=
  .ofFields [("sourceModTime", .ofString e.modified.render), ("sourceHash", .ofString e.source),
    ("settingsHash", .ofString e.settings), ("outputHash", .ofString e.output),
    ("schemaVersion", .ofString e.schema), ("toolVersion", .ofString e.tool)]

def encodeJson (tool : String) (index : CacheIndex) : Bytes :=
  Json.render .indented (.ofFields [
    ("header", .ofFields [("schemaVersion", .ofString schemaVersion), ("toolVersion", .ofString tool)]),
    ("index", .ofFields ((sorted index).map fun (p, e) => (p, entryDatum e)))]) ++ [10]

def looseField? (d : Datum) (name : String) : Option Datum :=
  let key := (utf8 name).lowerAscii
  (d.fields?.getD []).reverse.findSome? fun (k, v) => if k.lowerAscii = key then some v else none

def stringField? (d : Datum) (name : String) : Option String :=
  match looseField? d name with
  | none | some .null => some ""
  | some (.text s) => some (Utf8.toString s)
  | some _ => none

def isRecordOrNull : Datum → Bool
  | .record _ | .null => true
  | _ => false

def entryOf? (d : Datum) : Option CacheEntry := do
  if !isRecordOrNull d then none
  let modified ← match looseField? d "sourceModTime" with
    | none | some .null => some (.universal Instant.epoch)
    | some (.text s) => Timestamp.parse? s
    | some _ => none
  return ⟨modified, ← stringField? d "sourceHash", ← stringField? d "settingsHash", ← stringField? d "outputHash",
    ← stringField? d "schemaVersion", ← stringField? d "toolVersion"⟩

structure Stored where
  schema : String
  tool : String
  index : CacheIndex

/-- Entries by path; of two entries with one path the later counts. -/
def indexOf? : List (Bytes × Datum) → Option CacheIndex
  | [] => some []
  | (k, d) :: rest => do
    let e ← entryOf? d
    let others ← indexOf? rest
    let path := Utf8.toString k
    return if others.any (·.1 = path) then others else (path, e) :: others

def decodeJson? (s : Bytes) : Option Stored := do
  let d ← Json.first? s
  if !isRecordOrNull d then none
  let header := (looseField? d "header").getD .null
  if !isRecordOrNull header then none
  let index ← match (looseField? d "index").getD .null with
    | .null => some []
    | .record fields => indexOf? fields
    | _ => none
  return ⟨← stringField? header "schemaVersion", ← stringField? header "toolVersion", index⟩

def signature : String := "index"

def entryParts (path : String) (e : CacheEntry) : List Bytes :=
  [path, toString e.modified.instant, toString e.modified.offset, e.source, e.settings, e.output, e.schema, e.tool].map utf8

def encodeBinary (tool : String) (index : CacheIndex) : Bytes :=
  Fingerprint.encodeParts (([signature, schemaVersion, tool].map utf8) ++ index.flatMap fun (p, e) => entryParts p e)

def decodeParts? : (fuel : Nat) → Bytes → Option (List Bytes)
  | 0, s => if s.isEmpty then some [] else none
  | fuel + 1, s =>
    if s.isEmpty then some []
    else do
      let digits := s.takeWhile Bytes.isDigit
      let n ← (Datum.intOf? digits).map Int.toNat
      match s.drop digits.length with
      | 58 :: rest => if rest.length < n then none else return rest.take n :: (← decodeParts? fuel (rest.drop n))
      | _ => none

def entriesOf? : List String → Option CacheIndex
  | [] => some []
  | path :: instant :: offset :: source :: settings :: output :: schema :: tool :: rest => do
    let modified : Timestamp := ⟨← Datum.intOf? (utf8 instant), ← Datum.intOf? (utf8 offset)⟩
    return (path, ⟨modified, source, settings, output, schema, tool⟩) :: (← entriesOf? rest)
  | _ => none

def decodeBinary? (s : Bytes) : Option Stored := do
  let parts ← decodeParts? s.length s
  match parts.map Utf8.toString with
  | mark :: schema :: tool :: rest => if mark = signature then return ⟨schema, tool, ← entriesOf? rest⟩ else none
  | _ => none

def encode (m : CacheManager) : Bytes :=
  match m.format with
  | .json => encodeJson m.tool m.index
  | .binary => encodeBinary m.tool m.index

/-- What keeps the index from being written: the first timestamp that cannot be. -/
def flaw? (m : CacheManager) : Option Timestamp.Flaw :=
  (sorted m.index).findSome? fun (_, e) =>
    match m.format with
    | .json => e.modified.textFlaw?
    | .binary => e.modified.binaryFlaw?

def isEncodable (m : CacheManager) : Bool := m.flaw?.isNone

def decode? (m : CacheManager) (s : Bytes) : Option Stored :=
  match m.format with
  | .json => decodeJson? s
  | .binary => decodeBinary? s

def indexOfContent (m : CacheManager) (content : Bytes) : CacheIndex :=
  match m.decode? content with
  | none => []
  | some stored => if m.compatible stored.schema stored.tool then stored.index else []

/-- Replaces the index by that of a file. It fails only if the file is there and cannot be
opened. -/
def load (m : CacheManager) (t : FileTree) (path : String) : CacheManager × Except CacheError Unit :=
  match t.look true path with
  | .ok (.file content _) => ({ m with index := m.indexOfContent content }, .ok ())
  | .ok _ | .error .notFound => ({ m with index := [] }, .ok ())
  | .error c => ({ m with index := [] }, .error (.load path ⟨"open", path, c⟩))

inductive PersistStep
  | makeDirectory
  | createTemporary
  | encode
  | close
  | rename
  deriving Repr, DecidableEq

def temporaryPath (t : FileTree) (path : String) : String :=
  let candidate (n : Nat) := path ++ ".tmp-" ++ toString n
  match (List.range (t.nodes.length + 1)).find? fun n => (t.node? (candidate n)).isNone with
  | some n => candidate n
  | none => candidate (t.nodes.length + 1)

/-- Writes the index by way of a temporary file, which never outlasts the attempt. An empty index
removes the file instead. `trouble` tells of steps that fail for reasons outside the tree. -/
def persist (m : CacheManager) (trouble : PersistStep → Option FileCause) (t : FileTree) (path : String) :
    FileTree × Except CacheError Unit :=
  if m.index.isEmpty then
    match t.remove path with
    | .ok t' => (t', .ok ())
    | .error _ => (t, .ok ())
  else
    let directory := Path.parent path
    let made : Except FileError FileTree := match trouble .makeDirectory with
      | some c => .error ⟨"mkdir", directory, c⟩
      | none => t.makeDirectory directory
    match made with
    | .error e => (t, .error (.persistDirectory directory e))
    | .ok t =>
      let temporary := temporaryPath t path
      match trouble .createTemporary with
      | some c => (t, .error (.persistTemporary directory ⟨"open", temporary, c⟩))
      | none =>
        match m.flaw? with
        | some f => (t, .error (.persistTimestamp m.format f))
        | none =>
          match trouble .encode, trouble .close with
          | some c, _ => (t, .error (.persistEncode m.format ⟨"write", temporary, c⟩))
          | none, some c => (t, .error (.persistClose temporary ⟨"close", temporary, c⟩))
          | none, none =>
            match trouble .rename, t.look false path with
            | some c, _ => (t, .error (.persistRename temporary path c))
            | none, .ok .directory => (t, .error (.persistRename temporary path .occupied))
            | none, _ =>
              match t.resolve false path with
              | .error c => (t, .error (.persistRename temporary path c))
              | .ok p => (t.put p (.file m.encode 0), .ok ())

end CacheManager

end SourceSurvey
