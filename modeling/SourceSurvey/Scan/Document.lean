import SourceSurvey.Scan.File

namespace SourceSurvey

structure FileDocument where
  path : Bytes
  analysis : WrittenAnalysis
  facts : List (String × String)
  deriving Repr, DecidableEq

namespace FileDocument

def factsOf? : List (Bytes × Datum) → Option (List (String × String))
  | [] => some []
  | (k, d) :: rest => do
    let value ← d.readOr "" fun v => v.text?.map Utf8.toString
    let others ← factsOf? rest
    let name := Utf8.toString k
    return if others.any (·.1 = name) then others else (name, value) :: others

def ofDatum? (d : Datum) : Option FileDocument := do
  return ⟨← d.readField "path" [] Datum.text?, ← WrittenAnalysis.ofDatum? d,
    ← d.readField "git" [] fun v => v.fields?.bind factsOf?⟩

def decode? (format : DocumentFormat) (s : Bytes) : Option FileDocument := (format.decode? s).bind ofDatum?

end FileDocument

end SourceSurvey
