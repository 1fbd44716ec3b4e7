import SourceSurvey.Profile.Basic

namespace SourceSurvey.Profile

open Pattern

def python : Profile where
  id := "Python"
  extensions := [".py", ".pyw", ".pyi"]
  lineComments := ["#"].map utf8
  fences := ["\"\"\"", "'''"].map utf8
  quotes := utf8 "\"'"
  imports := [
    start ++ gap ++ lit "import" ++ gap1 ++ one (.or .letter "_"),
    start ++ gap ++ lit "from" ++ gap1 ++ many1 (.or .word ".") ++ gap1 ++ lit "import" ++
      one .blank]
  functions := [
    start ++ gap ++ opt (lit "async" ++ gap1) ++ lit "def" ++ gap1 ++ name ident ++ gap ++ lit "("]
  classes := [start ++ gap ++ kind (lit "class") ++ gap1 ++ name ident]
  bindings := [
    start ++ gap ++ one (.or .letter "_") ++ many (.or .word ".") ++ star (gap ++ lit "," ++ gap ++
      ident) ++ gap ++ opt (lit ":" ++ gap ++ many1 (.except "=()")) ++ lit "=" ++
      anyOf [one (.except "="), stop]]
  loops := ["for", "while"].map utf8
  conditionals := ["if", "elif"].map utf8
  signatures := [
    start ++ gap ++ opt (lit "async" ++ gap1) ++ lit "def" ++ gap1 ++ many1 .word ++ gap ++
      lit "(" ++ many .notNewline ++ lit ")" ++ gap ++ opt (lit "->" ++ gap ++
      many1 (.except ":")) ++ lit ":" ++ gap ++ stop,
    start ++ gap ++ lit "class" ++ gap1 ++ many1 .word ++ opt (lit "(" ++ many .notNewline ++
      lit ")") ++ gap ++ lit ":" ++ gap ++ stop,
    start ++ gap ++ lit "from" ++ gap1 ++ many1 (.or .word ".") ++ gap1 ++ lit "import" ++
      one .blank,
    edge ++ lit "self." ++ one .word,
    start ++ gap ++ lit "elif" ++ edge,
    lit "__" ++ many1 .word ++ lit "__"]
  indentBlocks := true

def javaScript : Profile where
  id := "JavaScript"
  extensions := [".js", ".mjs", ".cjs", ".jsx"]
  lineComments := [slashes]
  blockComments := [slashStar]
  fences := ["`"].map utf8
  quotes := utf8 "\"'"
  imports := [
    start ++ gap ++ lit "import" ++ one .blank,
    edge ++ lit "require" ++ gap ++ lit "(",
    start ++ gap ++ lit "export" ++ gap1 ++ many .notNewline ++ edge ++ lit "from" ++ one .blank]
  functions := [
    start ++ gap ++ opt (lit "export" ++ gap1) ++ opt (lit "default" ++ gap1) ++
      opt (lit "async" ++ gap1) ++ lit "function" ++ gap ++ opt (lit "*") ++ gap ++
      name dollarIdent ++ gap ++ lit "(",
    start ++ gap ++ opt (lit "export" ++ gap1) ++ oneOf ["const", "let", "var"] ++ gap1 ++
      name dollarIdent ++ gap ++ lit "=" ++ gap ++ opt (lit "async" ++ gap1) ++
      anyOf [lit "function" ++ edge, lit "(" ++ many (.except ")") ++ lit ")" ++ gap ++ lit "=>",
      dollarIdent ++ gap ++ lit "=>"],
    start ++ gap ++ opt (lit "async" ++ gap1) ++ opt (lit "static" ++ gap1) ++
      opt (anyOf [lit "get" ++ gap1, lit "set" ++ gap1]) ++ name dollarIdent ++ gap ++ lit "(" ++
      many (.except ")") ++ lit ")" ++ gap ++ lit "\x7b" ++ gap ++ stop]
  classes := [
    start ++ gap ++ opt (lit "export" ++ gap1) ++ opt (lit "default" ++ gap1) ++
      kind (lit "class") ++ gap1 ++ name dollarIdent]
  bindings := [
    start ++ gap ++ opt (lit "export" ++ gap1) ++ oneOf ["const", "let", "var"] ++ gap1 ++
      one (.or .letter "_$[\x7b")]
  loops := curlyLoops
  conditionals := curlyBranches
  signatures := [
    edge ++ lit "console." ++ many1 .word ++ lit "(",
    edge ++ lit "function" ++ gap ++ many .word ++ gap ++ lit "(",
    edge ++ lit "module.exports" ++ edge,
    edge ++ lit "require" ++ gap ++ lit "(" ++ gap ++ one (.among "'\""),
    edge ++ lit "document." ++ one .word,
    oneOf ["===", "!=="]]

def typeScript : Profile where
  id := "TypeScript"
  extensions := [".ts", ".tsx", ".mts", ".cts"]
  lineComments := [slashes]
  blockComments := [slashStar]
  fences := ["`"].map utf8
  quotes := utf8 "\"'"
  imports := [
    start ++ gap ++ lit "import" ++ one .blank,
    edge ++ lit "require" ++ gap ++ lit "(",
    start ++ gap ++ lit "export" ++ gap1 ++ many .notNewline ++ edge ++ lit "from" ++ one .blank]
  functions := [
    start ++ gap ++ opt (lit "export" ++ gap1) ++ opt (lit "default" ++ gap1) ++
      opt (lit "async" ++ gap1) ++ lit "function" ++ gap ++ opt (lit "*") ++ gap ++
      name dollarIdent ++ gap ++ opt (lit "<" ++ many (.except ">") ++ lit ">") ++ gap ++ lit "(",
    start ++ gap ++ opt (lit "export" ++ gap1) ++ oneOf ["const", "let", "var"] ++ gap1 ++
      name dollarIdent ++ gap ++ opt (lit ":" ++ gap ++ many1 (.except "=")) ++ lit "=" ++ gap ++
      opt (lit "async" ++ gap1) ++ anyOf [lit "function" ++ edge, lit "(" ++ many (.except ")") ++
      lit ")" ++ gap ++ opt (lit ":" ++ gap ++ many1 (.except "=")) ++ lit "=>", dollarIdent ++
      gap ++ lit "=>"],
    start ++ gap ++ modifiers ["public", "private", "protected", "static", "async", "readonly",
      "abstract", "override"] ++ name dollarIdent ++ gap ++ opt (lit "<" ++ many (.except ">") ++
      lit ">") ++ gap ++ lit "(" ++ many (.except ")") ++ lit ")" ++ gap ++ opt (lit ":" ++ gap ++
      many1 (.except "\x7b;")) ++ lit "\x7b" ++ gap ++ stop]
  classes := [
    start ++ gap ++ opt (lit "export" ++ gap1) ++ opt (lit "default" ++ gap1) ++
      opt (lit "abstract" ++ gap1) ++ kind (oneOf ["class", "interface", "enum"]) ++ gap1 ++
      name dollarIdent,
    start ++ gap ++ opt (lit "export" ++ gap1) ++ kind (lit "type") ++ gap1 ++ name dollarIdent ++
      gap ++ opt (lit "<" ++ many (.except ">") ++ lit ">") ++ gap ++ lit "="]
  bindings := [
    start ++ gap ++ opt (lit "export" ++ gap1) ++ oneOf ["const", "let", "var"] ++ gap1 ++
      one (.or .letter "_$[\x7b")]
  loops := curlyLoops
  conditionals := curlyBranches
  signatures := [
    lit ":" ++ gap ++ oneOf ["string", "number", "boolean", "any", "void", "unknown", "never"] ++
      edge,
    start ++ gap ++ opt (lit "export" ++ gap1) ++ lit "interface" ++ gap1 ++ many1 .word,
    start ++ gap ++ opt (lit "export" ++ gap1) ++ lit "type" ++ gap1 ++ many1 .word ++ gap ++
      opt (lit "<" ++ many (.except ">") ++ lit ">") ++ gap ++ lit "=",
    edge ++ lit "as" ++ gap1 ++ oneOf ["string", "number", "const", "unknown"] ++ edge,
    edge ++ oneOf ["private", "public", "readonly"] ++ gap1 ++ many1 .word ++ gap ++ lit ":"]

def ruby : Profile where
  id := "Ruby"
  extensions := [".rb", ".rake", ".gemspec"]
  lineComments := ["#"].map utf8
  blockComments := [⟨utf8 "=begin", utf8 "=end"⟩]
  quotes := utf8 "\"'"
  imports := [
    start ++ gap ++ lit "require" ++ opt (lit "_relative") ++ edge,
    start ++ gap ++ oneOf ["include", "extend"] ++ gap1 ++ one .upper]
  functions := [
    start ++ gap ++ lit "def" ++ gap1 ++ opt (lit "self.") ++ name (ident ++
      opt (one (.among "?!=")))]
  classes := [
    start ++ gap ++ kind (oneOf ["class", "module"]) ++ gap1 ++ name (one .upper ++ many .word)]
  bindings := [
    start ++ gap ++ opt (lit "@" ++ opt (lit "@")) ++ one (.or .lower "_") ++ many .word ++ gap ++
      lit "=" ++ anyOf [one (.except "=~>"), stop],
    start ++ gap ++ one .upper ++ many .upperSnake ++ gap ++ lit "=" ++ anyOf [one (.except "="),
      stop]]
  loops := ["for", "while", "until", "loop"].map utf8
  conditionals := ["if", "elsif", "unless", "case"].map utf8
  signatures := [
    start ++ gap ++ lit "end" ++ gap ++ stop,
    edge ++ lit "puts" ++ edge,
    edge ++ lit "do" ++ gap ++ lit "|",
    edge ++ lit "attr_" ++ oneOf ["accessor", "reader", "writer"] ++ edge,
    start ++ gap ++ lit "elsif" ++ edge,
    start ++ gap ++ lit "require" ++ gap1 ++ one (.among "'\"")]

def php : Profile where
  id := "PHP"
  extensions := [".php", ".phtml"]
  lineComments := ["//", "#"].map utf8
  blockComments := [slashStar]
  quotes := utf8 "\"'"
  imports := [
    start ++ gap ++ oneOf ["require", "require_once", "include", "include_once"] ++ edge,
    start ++ gap ++ lit "use" ++ gap1 ++ many1 (.or .word "\\")]
  functions := [
    start ++ gap ++ modifiers ["public", "private", "protected", "static", "abstract", "final"] ++
      lit "function" ++ gap1 ++ opt (lit "&") ++ name ident ++ gap ++ lit "("]
  classes := [
    start ++ gap ++ modifiers ["abstract", "final", "readonly"] ++ kind (oneOf ["class",
      "interface", "trait", "enum"]) ++ gap1 ++ name ident]
  bindings := [
    start ++ gap ++ lit "$" ++ ident ++ gap ++ lit "=" ++ anyOf [one (.except "=>"), stop],
    start ++ gap ++ plus (oneOf ["public", "private", "protected", "static", "var", "const",
      "readonly"] ++ gap1) ++ opt (opt (lit "?") ++ many1 (.or .word "\\") ++ gap1) ++
      opt (lit "$") ++ ident ++ gap ++ oneOf ["=", ";"]]
  loops := ["for", "foreach", "while", "do"].map utf8
  conditionals := ["if", "elseif", "switch", "match"].map utf8
  signatures := [
    lit "<?php",
    lit "$this->",
    start ++ gap ++ lit "echo" ++ edge,
    start ++ gap ++ lit "$" ++ many1 .word ++ gap ++ lit "=",
    start ++ gap ++ lit "namespace" ++ gap1 ++ many1 (.or .word "\\") ++ gap ++ lit ";"]

def shell : Profile where
  id := "Shell"
  extensions := [".sh", ".bash", ".zsh", ".ksh"]
  lineComments := ["#"].map utf8
  quotes := utf8 "\"'"
  imports := [start ++ gap ++ oneOf ["source", "."] ++ gap1 ++ one .visible]
  functions := [
    start ++ gap ++ opt (lit "function" ++ gap1) ++ name (one (.or .letter "_") ++
      many (.or .word "-")) ++ gap ++ lit "(" ++ gap ++ lit ")",
    start ++ gap ++ lit "function" ++ gap1 ++ name (one (.or .letter "_") ++ many (.or .word "-"))]
  bindings := [
    start ++ gap ++ opt (anyOf [lit "export" ++ gap1, lit "local" ++ gap1, lit "readonly" ++ gap1,
      lit "declare" ++ gap1 ++ opt (lit "-" ++ many1 .word ++ gap1)]) ++ ident ++ lit "="]
  loops := ["for", "while", "until"].map utf8
  conditionals := ["if", "elif", "case"].map utf8
  signatures := [
    start ++ lit "#!" ++ gap ++ lit "/" ++ opt (lit "usr/") ++ lit "bin/" ++ opt (lit "env" ++
      gap1) ++ opt (oneOf ["ba", "z", "k"]) ++ lit "sh" ++ edge,
    start ++ gap ++ lit "echo" ++ one .blank,
    start ++ gap ++ lit "fi" ++ gap ++ stop,
    start ++ gap ++ lit "done" ++ gap ++ stop,
    edge ++ lit "then" ++ gap ++ stop,
    lit "$\x7b" ++ many1 .word ++ lit "\x7d"]

def lua : Profile where
  id := "Lua"
  extensions := [".lua"]
  lineComments := ["--"].map utf8
  blockComments := [⟨utf8 "--[[", utf8 "]]"⟩]
  fences := ["[["].map utf8
  quotes := utf8 "\"'"
  imports := [edge ++ lit "require" ++ edge]
  functions := [
    start ++ gap ++ opt (lit "local" ++ gap1) ++ lit "function" ++ gap1 ++
      opt (many1 (.or .word ".") ++ one (.among ".:")) ++ name ident ++ gap ++ lit "(",
    start ++ gap ++ opt (lit "local" ++ gap1) ++ star (many1 .word ++ lit ".") ++ name ident ++
      gap ++ lit "=" ++ gap ++ lit "function" ++ edge]
  bindings := [start ++ gap ++ lit "local" ++ gap1 ++ one (.or .letter "_")]
  loops := ["for", "while", "repeat"].map utf8
  conditionals := ["if", "elseif"].map utf8
  signatures := [
    edge ++ lit "local" ++ gap1 ++ lit "function" ++ edge,
    edge ++ lit "ipairs" ++ gap ++ lit "(",
    edge ++ lit "pairs" ++ gap ++ lit "(",
    lit "~=",
    edge ++ lit "then" ++ gap ++ stop]

def perl : Profile where
  id := "Perl"
  extensions := [".pl", ".pm", ".t"]
  lineComments := ["#"].map utf8
  blockComments := [⟨utf8 "=pod", utf8 "=cut"⟩]
  quotes := utf8 "\"'"
  imports := [start ++ gap ++ oneOf ["use", "require"] ++ gap1 ++ many1 (.or .word ":")]
  functions := [start ++ gap ++ lit "sub" ++ gap1 ++ name ident]
  classes := [
    start ++ gap ++ kind (lit "package") ++ gap1 ++ name (ident ++ star (lit "::" ++ many1 .word))]
  bindings := [start ++ gap ++ oneOf ["my", "our", "local"] ++ gap1 ++ one (.among "$@%(")]
  loops := ["for", "foreach", "while", "until"].map utf8
  conditionals := ["if", "elsif", "unless"].map utf8
  signatures := [
    start ++ gap ++ lit "use" ++ gap1 ++ lit "strict" ++ gap ++ lit ";",
    start ++ gap ++ lit "my" ++ gap1 ++ one (.among "$@%"),
    lit "$_" ++ edge,
    lit "=~" ++ gap ++ opt (one (.among "ms")) ++ lit "/",
    start ++ lit "#!" ++ many .notNewline ++ edge ++ lit "perl" ++ edge]

def r : Profile where
  id := "R"
  extensions := [".r", ".rmd"]
  lineComments := ["#"].map utf8
  quotes := utf8 "\"'"
  imports := [start ++ gap ++ oneOf ["library", "require", "source"] ++ gap ++ lit "("]
  functions := [
    start ++ gap ++ name (one (.or .letter "_.") ++ many (.or .word ".")) ++ gap ++ oneOf ["<-",
      "="] ++ gap ++ lit "function" ++ gap ++ lit "("]
  classes := [
    start ++ gap ++ name (one (.or .letter "_.") ++ many (.or .word ".")) ++ gap ++ oneOf ["<-",
      "="] ++ gap ++ kind (oneOf ["setRefClass", "R6Class"]) ++ gap ++ lit "("]
  bindings := [
    start ++ gap ++ one (.or .letter "_.") ++ many (.or .word ".") ++ gap ++ oneOf ["<-", "<<-"],
    start ++ gap ++ one (.or .letter "_.") ++ many (.or .word ".") ++ gap ++ lit "=" ++
      anyOf [one (.except "="), stop]]
  loops := ["for", "while", "repeat"].map utf8
  conditionals := curlyBranches
  signatures := [
    lit "<-",
    edge ++ lit "library" ++ gap ++ lit "(",
    edge ++ lit "function" ++ gap ++ lit "(",
    edge ++ lit "data.frame" ++ gap ++ lit "(",
    edge ++ lit "c("]

end SourceSurvey.Profile
