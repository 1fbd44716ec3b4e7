import SourceSurvey.Profile.Scripting
import SourceSurvey.Profile.Curly
import SourceSurvey.Profile.Modern

namespace SourceSurvey

namespace Registry

open Profile

def profiles : List Profile :=
  [python, javaScript, typeScript, java, c, cpp, cSharp, go, rust, ruby, php, swift, kotlin, scala,
    shell, lua, perl, r, sql, haskell, dart]

def identifiers : List String := profiles.map (·.id)

def key (s : String) : Bytes := (utf8 s).strip.lower

def profile? (id : String) : Option Profile := profiles.find? fun p => key p.id = key id

/-- The extension in lower case with exactly one leading dot taken off; empty if nothing is left. -/
def extensionKey (ext : String) : Bytes := (key ext).dropStart (utf8 ".")

def profileForExtension? (ext : String) : Option Profile :=
  if (extensionKey ext).isEmpty then none
  else profiles.find? fun p => p.extensions.any fun e => extensionKey e = extensionKey ext

/-- The profile of that name, or one without rules that carries the name. -/
def resolve (id : String) : Profile := (profile? id).getD (.empty id)

end Registry

end SourceSurvey
