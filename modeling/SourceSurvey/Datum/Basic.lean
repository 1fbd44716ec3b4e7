import SourceSurvey.Text.Utf8

namespace SourceSurvey

inductive Datum
  | null
  | bool (b : Bool)
  | number (literal : Bytes)
  | text (s : Bytes)
  | list (items : List Datum)
  /-- Named fields, in the order they are written. -/
  | record (fields : List (Bytes × Datum))
  deriving Repr, Inhabited

namespace Datum

def ofInt (n : Int) : Datum := number (utf8 (toString n))

def ofString (s : String) : Datum := text (utf8 s)

def ofFields (fields : List (String × Datum)) : Datum := record (fields.map fun (k, v) => (utf8 k, v))

def text? : Datum → Option Bytes
  | text s => some s
  | _ => none

def bool? : Datum → Option Bool
  | bool b => some b
  | _ => none

def list? : Datum → Option (List Datum)
  | list items => some items
  | _ => none

def fields? : Datum → Option (List (Bytes × Datum))
  | record fields => some fields
  | _ => none

/-- The value of a field; of two fields with one name the later counts. -/
def field? (name : Bytes) : Datum → Option Datum
  | record fields => (fields.reverse.find? (·.1 = name)).map (·.2)
  | _ => none

def get? (d : Datum) (name : String) : Option Datum := d.field? (utf8 name)

def intOf? (literal : Bytes) : Option Int :=
  let digits? (ds : Bytes) : Option Nat :=
    if ds.isEmpty || !ds.all Bytes.isDigit then none
    else some (ds.foldl (fun n d => n * 10 + (d.toNat - 48)) 0)
  match literal with
  | 45 :: ds => (digits? ds).map fun n => -(n : Int)
  | ds => (digits? ds).map fun n => (n : Int)

def int? : Datum → Option Int
  | number literal => intOf? literal
  | _ => none

end Datum

end SourceSurvey
