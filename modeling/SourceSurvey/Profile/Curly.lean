import SourceSurvey.Profile.Basic

namespace SourceSurvey.Profile

open Pattern

def java : Profile where
  id := "Java"
  extensions := [".java"]
  lineComments := [slashes]
  blockComments := [slashStar]
  fences := ["\"\"\""].map utf8
  quotes := utf8 "\"'"
  imports := [
    start ++ gap ++ lit "import" ++ gap1 ++ opt (lit "static" ++ gap1) ++ many1 (.or .word ".") ++
      opt (lit ".*") ++ gap ++ lit ";"]
  functions := [
    start ++ gap ++ modifiers ["public", "private", "protected", "static", "final", "abstract",
      "synchronized", "native", "default"] ++ opt (lit "<" ++ many1 (.except ">") ++ lit ">" ++
      gap1) ++ many1 (.or .word ".$") ++ opt (lit "<" ++ many (.except "()") ++ lit ">") ++
      star (lit "[]") ++ gap1 ++ name dollarIdent ++ gap ++ lit "(" ++ many (.except ";") ++ stop]
  classes := [
    start ++ gap ++ modifiers ["public", "private", "protected", "static", "final", "abstract",
      "sealed", "non-sealed"] ++ kind (oneOf ["class", "interface", "enum", "record"]) ++ gap1 ++
      name dollarIdent]
  bindings := [
    start ++ gap ++ modifiers ["public", "private", "protected", "static", "final", "transient",
      "volatile"] ++ one (.or .letter "_$") ++ many (.or .word ".$") ++ opt (lit "<" ++
      many (.except "()") ++ lit ">") ++ star (lit "[]") ++ gap1 ++ dollarIdent ++ gap ++
      anyOf [lit "=" ++ anyOf [one (.except "="), stop], lit ";"]]
  loops := curlyLoops
  conditionals := curlyBranches
  signatures := [
    edge ++ lit "System." ++ oneOf ["out", "err"] ++ lit ".print",
    start ++ gap ++ lit "public" ++ gap1 ++ modifiers ["static", "final", "abstract"] ++
      oneOf ["class", "interface", "enum", "record"] ++ one .blank,
    start ++ gap ++ lit "package" ++ gap1 ++ many1 (.or .word ".") ++ gap ++ lit ";",
    lit "@Override" ++ edge,
    edge ++ lit "public" ++ gap1 ++ lit "static" ++ gap1 ++ lit "void" ++ gap1 ++ lit "main" ++
      gap ++ lit "(",
    start ++ gap ++ lit "import" ++ gap1 ++ lit "java."]

def c : Profile where
  id := "C"
  extensions := [".c", ".h"]
  lineComments := [slashes]
  blockComments := [slashStar]
  quotes := utf8 "\"'"
  imports := [start ++ gap ++ lit "#" ++ gap ++ lit "include" ++ gap ++ one (.among "<\"")]
  functions := [
    start ++ gap ++ modifiers ["static", "inline", "extern", "const", "unsigned", "signed",
      "struct", "enum", "volatile", "register"] ++ ident ++ anyOf [gap ++ many1 (.among "*") ++
      gap, gap1] ++ name ident ++ gap ++ lit "(" ++ many (.except ";") ++ stop]
  classes := [
    start ++ gap ++ opt (lit "typedef" ++ gap1) ++ kind (oneOf ["struct", "union", "enum"]) ++
      gap1 ++ name ident ++ gap ++ opt (lit "\x7b") ++ gap ++ stop]
  bindings := [
    start ++ gap ++ modifiers ["static", "const", "extern", "unsigned", "signed", "volatile",
      "register", "struct", "long", "short"] ++ ident ++ anyOf [gap ++ many1 (.among "*") ++ gap,
      gap1] ++ ident ++ opt (gap ++ lit "[" ++ many (.except "]") ++ lit "]") ++ gap ++
      anyOf [lit "=" ++ anyOf [one (.except "="), stop], lit ";", lit ","]]
  loops := curlyLoops
  conditionals := curlyBranches
  signatures := [
    start ++ gap ++ lit "#" ++ gap ++ lit "include" ++ gap ++ lit "<" ++ many1 .word ++ lit ".h>",
    edge ++ lit "printf" ++ gap ++ lit "(",
    edge ++ lit "malloc" ++ gap ++ lit "(",
    edge ++ lit "int" ++ gap1 ++ lit "main" ++ gap ++ lit "(",
    edge ++ lit "sizeof" ++ gap ++ lit "(",
    start ++ gap ++ lit "#" ++ gap ++ lit "define" ++ one .blank]

def cpp : Profile where
  id := "C++"
  extensions := [".cpp", ".cc", ".cxx", ".c++", ".hpp", ".hh", ".hxx"]
  lineComments := [slashes]
  blockComments := [slashStar]
  quotes := utf8 "\"'"
  imports := [
    start ++ gap ++ lit "#" ++ gap ++ lit "include" ++ gap ++ one (.among "<\""),
    start ++ gap ++ lit "using" ++ gap1 ++ lit "namespace" ++ one .blank,
    start ++ gap ++ lit "import" ++ gap1 ++ one (.or .word ".<\"")]
  functions := [
    start ++ gap ++ opt (lit "template" ++ gap ++ lit "<" ++ many (.except ">") ++ lit ">" ++
      gap) ++ modifiers ["static", "inline", "virtual", "explicit", "constexpr", "extern", "const",
      "unsigned", "signed", "friend"] ++ one (.or .letter "_") ++ many (.or .word ":<>,") ++
      anyOf [gap ++ many1 (.among "*&") ++ gap, gap1] ++ name (one (.or .letter "_~") ++
      many (.or .word ":~")) ++ gap ++ lit "(" ++ many (.except ";") ++ stop]
  classes := [
    start ++ gap ++ opt (lit "template" ++ gap ++ lit "<" ++ many (.except ">") ++ lit ">" ++
      gap) ++ kind (anyOf [lit "class", lit "struct", lit "union", lit "enum" ++ opt (gap1 ++
      lit "class")]) ++ gap1 ++ name ident ++ opt (gap ++ opt (lit "final" ++ gap) ++
      one (.among ":\x7b") ++ many .notNewline) ++ stop]
  bindings := [
    start ++ gap ++ modifiers ["static", "const", "constexpr", "extern", "unsigned", "signed",
      "volatile", "mutable", "long", "short"] ++ anyOf [lit "auto", one (.or .letter "_") ++
      many (.or .word ":") ++ opt (lit "<" ++ many (.except ";()") ++ lit ">")] ++ anyOf [gap ++
      many1 (.among "*&") ++ gap, gap1] ++ ident ++ opt (gap ++ lit "[" ++ many (.except "]") ++
      lit "]") ++ gap ++ anyOf [lit "=" ++ anyOf [one (.except "="), stop], lit ";", lit "\x7b",
      lit ","]]
  loops := curlyLoops
  conditionals := curlyBranches
  signatures := [
    edge ++ lit "std::",
    edge ++ lit "cout" ++ gap ++ lit "<<",
    start ++ gap ++ lit "#" ++ gap ++ lit "include" ++ gap ++ lit "<" ++ oneOf ["iostream",
      "vector", "string", "map", "memory", "algorithm"] ++ lit ">",
    edge ++ lit "template" ++ gap ++ lit "<",
    edge ++ lit "nullptr" ++ edge,
    start ++ gap ++ oneOf ["public", "private", "protected"] ++ gap ++ lit ":" ++ gap ++ stop]

def cSharp : Profile where
  id := "C#"
  extensions := [".cs"]
  lineComments := [slashes]
  blockComments := [slashStar]
  quotes := utf8 "\"'"
  imports := [
    start ++ gap ++ lit "using" ++ gap1 ++ opt (lit "static" ++ gap1) ++ many1 (.or .word ".") ++
      gap ++ lit ";"]
  functions := [
    start ++ gap ++ modifiers ["public", "private", "protected", "internal", "static", "virtual",
      "override", "abstract", "async", "sealed", "extern", "unsafe", "new", "partial"] ++
      many1 (.or .word ".") ++ opt (lit "<" ++ many (.except "()") ++ lit ">") ++
      star (lit "[]") ++ opt (lit "?") ++ gap1 ++ name ident ++ gap ++ opt (lit "<" ++
      many (.except ">") ++ lit ">") ++ gap ++ lit "(" ++ many (.except ";") ++ stop]
  classes := [
    start ++ gap ++ modifiers ["public", "private", "protected", "internal", "static", "abstract",
      "sealed", "partial", "readonly"] ++ kind (oneOf ["class", "interface", "struct", "enum",
      "record"]) ++ gap1 ++ name ident]
  bindings := [
    start ++ gap ++ modifiers ["public", "private", "protected", "internal", "static", "readonly",
      "const", "volatile"] ++ anyOf [lit "var", one (.or .letter "_") ++ many (.or .word ".") ++
      opt (lit "<" ++ many (.except "()") ++ lit ">") ++ star (lit "[]") ++ opt (lit "?")] ++
      gap1 ++ ident ++ gap ++ anyOf [lit "=" ++ anyOf [one (.except "=>"), stop], lit ";"]]
  loops := ["for", "foreach", "while", "do"].map utf8
  conditionals := curlyBranches
  signatures := [
    start ++ gap ++ lit "using" ++ gap1 ++ lit "System" ++ edge,
    edge ++ lit "Console.Write",
    start ++ gap ++ lit "namespace" ++ gap1 ++ many1 (.or .word "."),
    lit "\x7b" ++ gap ++ lit "get" ++ gap ++ lit ";",
    edge ++ lit "async" ++ gap1 ++ lit "Task" ++ edge]

def go : Profile where
  id := "Go"
  extensions := [".go"]
  lineComments := [slashes]
  blockComments := [slashStar]
  fences := ["`"].map utf8
  quotes := utf8 "\"'"
  imports := [
    start ++ gap ++ lit "import" ++ gap ++ anyOf [lit "(", lit "\"", many1 (.or .word ".") ++
      gap1 ++ lit "\""]]
  functions := [
    start ++ gap ++ lit "func" ++ gap1 ++ opt (lit "(" ++ many (.except ")") ++ lit ")" ++ gap) ++
      name ident ++ gap ++ opt (lit "[" ++ many (.except "]") ++ lit "]") ++ gap ++ lit "("]
  classes := [
    start ++ gap ++ lit "type" ++ gap1 ++ name ident ++ opt (lit "[" ++ many (.except "]") ++
      lit "]") ++ gap1 ++ kind (oneOf ["struct", "interface"]) ++ edge]
  bindings := [
    start ++ gap ++ oneOf ["var", "const"] ++ gap1 ++ one (.or .letter "_("),
    start ++ gap ++ ident ++ star (gap ++ lit "," ++ gap ++ ident) ++ gap ++ lit ":="]
  loops := ["for"].map utf8
  conditionals := ["if", "switch", "select"].map utf8
  signatures := [
    start ++ gap ++ lit "package" ++ gap1 ++ many1 .word ++ gap ++ stop,
    start ++ gap ++ lit "func" ++ gap1 ++ opt (lit "(" ++ many (.except ")") ++ lit ")" ++ gap) ++
      many1 .word ++ gap ++ lit "(",
    lit ":=",
    edge ++ lit "fmt." ++ many1 .word ++ lit "(",
    edge ++ lit "err" ++ gap ++ lit "!=" ++ gap ++ lit "nil" ++ edge,
    edge ++ lit "go" ++ gap1 ++ lit "func" ++ edge,
    edge ++ lit "chan" ++ edge]

def dart : Profile where
  id := "Dart"
  extensions := [".dart"]
  lineComments := [slashes]
  blockComments := [slashStar]
  fences := ["'''", "\"\"\""].map utf8
  quotes := utf8 "\"'"
  imports := [start ++ gap ++ oneOf ["import", "export", "part"] ++ one .blank]
  functions := [
    start ++ gap ++ star (anyOf [lit "static", lit "external", lit "factory", lit "@" ++
      many1 .word] ++ gap1) ++ many1 (.or .word "<>?,[]") ++ gap1 ++ name dollarIdent ++ gap ++
      opt (lit "<" ++ many (.except ">") ++ lit ">") ++ gap ++ lit "(" ++ many (.except ";") ++
      stop]
  classes := [
    start ++ gap ++ modifiers ["abstract", "sealed", "base", "final", "interface"] ++
      kind (oneOf ["class", "mixin", "enum", "extension"]) ++ gap1 ++ name dollarIdent]
  bindings := [
    start ++ gap ++ modifiers ["static", "late"] ++ anyOf [lit "var", lit "final", lit "const",
      lit "int", lit "double", lit "String", lit "bool", lit "num", lit "dynamic", one .upper ++
      many .word ++ opt (lit "<" ++ many (.except ";=") ++ lit ">") ++ opt (lit "?")] ++ gap1 ++
      dollarIdent ++ gap ++ anyOf [lit "=" ++ anyOf [one (.except "="), stop], lit ";"]]
  loops := curlyLoops
  conditionals := curlyBranches
  signatures := [
    start ++ gap ++ lit "import" ++ gap1 ++ one (.among "'\"") ++ oneOf ["package", "dart"] ++
      lit ":",
    edge ++ lit "void" ++ gap1 ++ lit "main" ++ gap ++ lit "(" ++ gap ++ lit ")",
    edge ++ lit "Widget" ++ gap1 ++ lit "build" ++ gap ++ lit "(",
    edge ++ lit "setState" ++ gap ++ lit "(",
    lit "@override" ++ edge,
    edge ++ lit "Future<"]

end SourceSurvey.Profile
