import SourceSurvey.Configuration.Flags
import SourceSurvey.Datum.Basic
import SourceSurvey.Text.Letter

/-!
Layers of configuration. A key is looked up in the flags that were given, then among the variables of
the environment, then in the file, and last among the defaults; the first layer that has a value
decides. Keys name nested records by their parts between dots, in any letter case.
-/

namespace SourceSurvey

abbrev Environment := List (String × String)

structure Layers where
  flags : FlagSettings := {}
  environment : Environment := []
  file : Datum := .record []

namespace Layers

def lower (s : String) : String := Utf8.toString (Bytes.lower (utf8 s))

def lowerKeys : Datum → Datum
  | .record fields => .record (lowerFields fields)
  | .list items => .list (lowerItems items)
  | d => d
where
  lowerFields : List (Bytes × Datum) → List (Bytes × Datum)
    | [] => []
    | (k, v) :: fields => (Bytes.lower k, lowerKeys v) :: lowerFields fields
  lowerItems : List Datum → List Datum
    | [] => []
    | d :: items => lowerKeys d :: lowerItems items

def within? : (most : Nat) → Datum → (path : List String) → Option Datum
  | _, d, [] => some d
  | 0, _, _ => none
  | most + 1, d, path =>
    (List.range path.length).reverse.findSome? fun i =>
      match d.get? (".".intercalate (path.take (i + 1))) with
      | none | some .null => none
      | some v => within? most v (path.drop (i + 1))

/-- The value at a path of a record, unless it is null. A key may itself hold dots, so longer keys are
tried first. -/
def at? (d : Datum) (path : List String) : Option Datum := within? path.length d path

def pathOf (key : String) : List String := (lower key).splitOn "."

def variableOf (key : String) : String :=
  let upper := Utf8.toString (Bytes.upperAscii (utf8 ("codelens_" ++ key)))
  String.ofList (upper.toList.map fun c => if c = '.' || c = '-' then '_' else c)

def furtherVariables (key : String) : List String :=
  if key = "generator.apiKey" then
    ["CODELENS_GENERATOR_API_KEY", "OPENAI_API_KEY", "GEMINI_API_KEY", "GOOGLE_API_KEY"]
  else []

def parents (key : String) : List String :=
  let path := key.splitOn "."
  (List.range (path.length - 1)).map fun i => ".".intercalate (path.take (i + 1))

variable (l : Layers)

def assigned? (name : String) : Option Datum :=
  match l.environment.lookup name with
  | none | some "" => none
  | some v => some (.ofString v)

/-- The value of the flag for a key, if it was given. A list that holds an empty item alone counts as
empty. -/
def flag? (key : String) : Option Datum :=
  match Flags.keys.find? (·.2 = key) with
  | none => none
  | some (name, _) => (l.flags.value? name).map fun v =>
      match v with
      | .text s => .ofString s
      | .toggle b => .bool b
      | .number n => .ofInt n
      | .texts items => .list (if items = [""] then [] else items.map Datum.ofString)
      | .duration d => .ofString (Duration.render d)

/-- Looks a key up, down to its default. A variable that is named like a record around the key hides
what the variables of other names, the file and the defaults say of it. -/
def find? (key : String) (default : Datum) : Option Datum :=
  match l.flag? key with
  | some v => some v
  | none =>
    match l.assigned? (variableOf key) with
    | some v => some v
    | none =>
      if (parents key).any fun p => (l.assigned? (variableOf p)).isSome then none
      else ((furtherVariables key).findSome? l.assigned?).or ((at? l.file (pathOf key)).or
        (if default matches .null then none else some default))

end Layers

end SourceSurvey
