import SourceSurvey.Profile.Basic

namespace SourceSurvey.Profile

open Pattern

def rust : Profile where
  id := "Rust"
  extensions := [".rs"]
  lineComments := [slashes]
  blockComments := [slashStar]
  quotes := utf8 "\""
  imports := [
    start ++ gap ++ opt (lit "pub" ++ gap1) ++ lit "use" ++ gap1 ++ one (.or .word ":\x7b"),
    start ++ gap ++ lit "extern" ++ gap1 ++ lit "crate" ++ one .blank,
    start ++ gap ++ opt (lit "pub" ++ gap1) ++ lit "mod" ++ gap1 ++ many1 .word ++ gap ++ lit ";"]
  functions := [
    start ++ gap ++ opt (lit "pub" ++ opt (lit "(" ++ many (.except ")") ++ lit ")") ++ gap1) ++
      star (anyOf [lit "const", lit "async", lit "unsafe", lit "extern" ++ opt (gap1 ++ lit "\"" ++
      many (.except "\"") ++ lit "\"")] ++ gap1) ++ lit "fn" ++ gap1 ++ name ident]
  classes := [
    start ++ gap ++ opt (lit "pub" ++ opt (lit "(" ++ many (.except ")") ++ lit ")") ++ gap1) ++
      kind (oneOf ["struct", "enum", "trait", "union"]) ++ gap1 ++ name ident]
  bindings := [
    start ++ gap ++ lit "let" ++ gap1 ++ opt (lit "mut" ++ gap1) ++ one (.or .letter "_("),
    start ++ gap ++ opt (lit "pub" ++ gap1) ++ oneOf ["const", "static"] ++ gap1 ++
      opt (lit "mut" ++ gap1) ++ one (.or .upper "_") ++ many .word ++ gap ++ lit ":"]
  loops := ["for", "while", "loop"].map utf8
  conditionals := ["if", "match"].map utf8
  signatures := [
    start ++ gap ++ lit "fn" ++ gap1 ++ lit "main" ++ gap ++ lit "(",
    edge ++ lit "let" ++ gap1 ++ lit "mut" ++ edge,
    edge ++ lit "println!(",
    start ++ gap ++ lit "impl" ++ edge,
    lit "&mut" ++ edge,
    lit "::new(",
    start ++ gap ++ lit "use" ++ gap1 ++ lit "std::"]

def swift : Profile where
  id := "Swift"
  extensions := [".swift"]
  lineComments := [slashes]
  blockComments := [slashStar]
  fences := ["\"\"\""].map utf8
  quotes := utf8 "\""
  imports := [start ++ gap ++ lit "import" ++ gap1 ++ one .word]
  functions := [
    start ++ gap ++ star (anyOf [lit "public", lit "private", lit "fileprivate", lit "internal",
      lit "open", lit "static", lit "class", lit "override", lit "final", lit "mutating",
      lit "@" ++ many1 .word] ++ gap1) ++ lit "func" ++ gap1 ++ name ident]
  classes := [
    start ++ gap ++ modifiers ["public", "private", "fileprivate", "internal", "open", "final",
      "indirect"] ++ kind (oneOf ["class", "struct", "enum", "protocol", "extension", "actor"]) ++
      gap1 ++ name ident]
  bindings := [
    start ++ gap ++ star (anyOf [lit "public", lit "private", lit "fileprivate", lit "internal",
      lit "open", lit "static", lit "lazy", lit "weak", lit "final", lit "override", lit "@" ++
      many1 .word] ++ gap1) ++ oneOf ["var", "let"] ++ gap1 ++ one (.or .letter "_(")]
  loops := ["for", "while", "repeat"].map utf8
  conditionals := ["if", "guard", "switch"].map utf8
  signatures := [
    start ++ gap ++ lit "import" ++ gap1 ++ oneOf ["UIKit", "Foundation", "SwiftUI"] ++ edge,
    edge ++ lit "guard" ++ gap1 ++ lit "let" ++ edge,
    edge ++ lit "func" ++ gap1 ++ many1 .word ++ gap ++ lit "(" ++ many .notNewline ++ lit ")" ++
      gap ++ lit "->",
    edge ++ lit "if" ++ gap1 ++ lit "let" ++ edge,
    lit "@IBOutlet" ++ edge]

def kotlin : Profile where
  id := "Kotlin"
  extensions := [".kt", ".kts"]
  lineComments := [slashes]
  blockComments := [slashStar]
  fences := ["\"\"\""].map utf8
  quotes := utf8 "\"'"
  imports := [start ++ gap ++ lit "import" ++ gap1 ++ many1 (.or .word ".")]
  functions := [
    start ++ gap ++ modifiers ["public", "private", "protected", "internal", "open", "override",
      "abstract", "suspend", "inline", "operator", "infix", "tailrec", "external"] ++ lit "fun" ++
      gap1 ++ opt (lit "<" ++ many (.except ">") ++ lit ">" ++ gap) ++
      opt (many1 (.or .word ".") ++ lit ".") ++ name ident]
  classes := [
    start ++ gap ++ modifiers ["public", "private", "protected", "internal", "open", "abstract",
      "sealed", "data", "enum", "inner", "annotation", "value"] ++ kind (oneOf ["class",
      "interface", "object"]) ++ gap1 ++ name ident]
  bindings := [
    start ++ gap ++ modifiers ["private", "public", "protected", "internal", "const", "lateinit",
      "override"] ++ oneOf ["val", "var"] ++ gap1 ++ one (.or .letter "_(")]
  loops := curlyLoops
  conditionals := ["if", "when"].map utf8
  signatures := [
    start ++ gap ++ lit "fun" ++ gap1 ++ lit "main" ++ gap ++ lit "(",
    edge ++ lit "val" ++ gap1 ++ many1 .word ++ gap ++ one (.among ":="),
    start ++ gap ++ star (many1 .word ++ gap1) ++ lit "fun" ++ gap1 ++ many1 .word,
    edge ++ lit "data" ++ gap1 ++ lit "class" ++ edge,
    edge ++ lit "when" ++ gap ++ lit "("]

def scala : Profile where
  id := "Scala"
  extensions := [".scala", ".sc"]
  lineComments := [slashes]
  blockComments := [slashStar]
  fences := ["\"\"\""].map utf8
  quotes := utf8 "\""
  imports := [start ++ gap ++ lit "import" ++ gap1 ++ many1 (.or .word ".")]
  functions := [
    start ++ gap ++ modifiers ["override", "private", "protected", "final", "implicit", "lazy",
      "inline"] ++ lit "def" ++ gap1 ++ name ident]
  classes := [
    start ++ gap ++ modifiers ["abstract", "final", "sealed", "case", "implicit", "private",
      "protected"] ++ kind (oneOf ["class", "trait", "object", "enum"]) ++ gap1 ++ name ident]
  bindings := [
    start ++ gap ++ modifiers ["private", "protected", "override", "lazy", "final", "implicit"] ++
      oneOf ["val", "var"] ++ gap1 ++ one (.or .letter "_(")]
  loops := ["for", "while"].map utf8
  conditionals := ["if", "match"].map utf8
  signatures := [
    edge ++ lit "case" ++ gap1 ++ lit "class" ++ edge,
    edge ++ lit "object" ++ gap1 ++ many1 .word ++ gap1 ++ lit "extends" ++ gap1 ++ lit "App" ++
      edge,
    start ++ gap ++ lit "def" ++ gap1 ++ many1 .word ++ many .notNewline ++ lit "=" ++ gap ++
      opt (lit "\x7b") ++ gap ++ stop,
    edge ++ lit "implicit" ++ edge,
    start ++ gap ++ lit "import" ++ gap1 ++ lit "scala."]

def sql : Profile where
  id := "SQL"
  extensions := [".sql"]
  lineComments := ["--"].map utf8
  blockComments := [slashStar]
  quotes := utf8 "'\""
  functions := [
    start ++ gap ++ anyCase "create" ++ gap1 ++ opt (anyCase "or" ++ gap1 ++ anyCase "replace" ++
      gap1) ++ anyOf [anyCase "function", anyCase "procedure"] ++ gap1 ++
      name (many1 (.or .foldedWord "."))]
  classes := [
    start ++ gap ++ anyCase "create" ++ gap1 ++ opt (anyCase "or" ++ gap1 ++ anyCase "replace" ++
      gap1) ++ opt (anyOf [anyCase "temporary" ++ gap1, anyCase "temp" ++ gap1]) ++
      kind (anyOf [anyCase "table", anyCase "view"]) ++ gap1 ++ opt (anyCase "if" ++ gap1 ++
      anyCase "not" ++ gap1 ++ anyCase "exists" ++ gap1) ++ name (many1 (.or .foldedWord "."))]
  bindings := [
    start ++ gap ++ anyCase "declare" ++ gap1 ++ opt (lit "@") ++ many1 .foldedWord,
    start ++ gap ++ anyCase "set" ++ gap1 ++ lit "@" ++ many1 .foldedWord ++ gap ++ lit "="]
  loops := ["while", "loop"].map utf8
  conditionals := ["if", "case"].map utf8
  ignoresCase := true
  signatures := [
    start ++ gap ++ anyCase "select" ++ edge ++ many .notNewline ++ edge ++ anyCase "from" ++ edge,
    start ++ gap ++ anyCase "insert" ++ gap1 ++ anyCase "into" ++ edge,
    start ++ gap ++ anyCase "create" ++ gap1 ++ anyCase "table" ++ edge,
    start ++ gap ++ anyCase "update" ++ gap1 ++ many1 .foldedWord ++ gap1 ++ anyCase "set" ++ edge,
    start ++ gap ++ anyCase "where" ++ edge,
    edge ++ anyCase "join" ++ edge ++ many .notNewline ++ edge ++ anyCase "on" ++ edge]

def haskell : Profile where
  id := "Haskell"
  extensions := [".hs", ".lhs"]
  lineComments := ["--"].map utf8
  blockComments := [⟨utf8 "\x7b-", utf8 "-\x7d"⟩]
  quotes := utf8 "\""
  imports := [
    start ++ gap ++ lit "import" ++ gap1 ++ opt (lit "qualified" ++ gap1) ++ one .upper ++
      many (.or .word ".")]
  functions := [start ++ name (one (.or .lower "_") ++ many (.or .word "'")) ++ gap ++ lit "::"]
  classes := [
    start ++ gap ++ kind (oneOf ["data", "newtype", "class", "instance"]) ++ gap1 ++
      opt (lit "(" ++ many (.except ")") ++ lit ")" ++ gap ++ lit "=>" ++ gap) ++
      name (one .upper ++ many (.or .word "'"))]
  bindings := [start ++ gap ++ lit "let" ++ gap1 ++ one (.or .lower "_")]
  conditionals := ["if", "case"].map utf8
  signatures := [
    start ++ gap ++ lit "module" ++ gap1 ++ one .upper ++ many (.or .word ".") ++ opt (gap1 ++
      lit "(" ++ many .notNewline ++ lit ")") ++ gap1 ++ lit "where" ++ edge,
    lit "::" ++ gap ++ one .visible ++ many .notNewline ++ lit "->",
    start ++ gap ++ lit "import" ++ gap1 ++ lit "qualified" ++ edge,
    start ++ gap ++ lit "main" ++ gap ++ lit "=" ++ gap ++ lit "do" ++ edge,
    edge ++ lit "where" ++ gap ++ stop]

end SourceSurvey.Profile
