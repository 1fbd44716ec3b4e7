import SourceSurvey.Datum.Json
import SourceSurvey.Text.Quoted

namespace SourceSurvey

inductive JsonFault
  | unexpected (b : UInt8) (place : String)
  | unfinished
  | tooDeep
  deriving Repr, DecidableEq

namespace JsonFault

def shown (b : UInt8) : String :=
  if b = 39 then "'\\''"
  else if b = 34 then "'\"'"
  else "'" ++ (((quoted (String.singleton (Char.ofNat b.toNat))).drop 1).dropEnd 1).toString ++ "'"

def message : JsonFault → String
  | unexpected b place => "invalid character " ++ shown b ++ " " ++ place
  | unfinished => "unexpected end of JSON input"
  | tooDeep => "exceeded max depth"

end JsonFault

inductive JsonPlace
  | list
  | name
  | member
  deriving Repr, DecidableEq

inductive JsonStage
  | value
  | valueOrClose
  | name
  | nameOrClose
  | after
  | text
  | escape
  | hexadecimal (left : Nat)
  | sign
  | zero
  | digits
  | point
  | fraction
  | exponentMark
  | exponentSign
  | exponent
  | word (name : String) (rest : List UInt8)
  deriving Repr, DecidableEq

structure JsonChecker where
  places : List JsonPlace := []
  stage : JsonStage := .value
  deriving Repr, DecidableEq

namespace JsonChecker

variable (c : JsonChecker)

def at_ (stage : JsonStage) : Except JsonFault JsonChecker := .ok { c with stage }

def refuse (b : UInt8) (place : String) : Except JsonFault JsonChecker := .error (.unexpected b place)

def enter (place : JsonPlace) (stage : JsonStage) : Except JsonFault JsonChecker :=
  if c.places.length < Json.Reader.maxDepth then .ok ⟨place :: c.places, stage⟩ else .error .tooDeep

def isExponentMark (b : UInt8) : Bool := b = 101 || b = 69

def begin (b : UInt8) : Except JsonFault JsonChecker :=
  if Json.isBlank b then .ok c
  else if b = 123 then enter c .name .nameOrClose
  else if b = 91 then enter c .list .valueOrClose
  else if b = 34 then at_ c .text
  else if b = 45 then at_ c .sign
  else if b = 48 then at_ c .zero
  else if Bytes.isDigit b then at_ c .digits
  else
    match Json.words.find? fun (w, _) => (utf8 w).head? = some b with
    | some (w, _) => at_ c (.word w (utf8 w).tail)
    | none => refuse b "looking for beginning of value"

def after (b : UInt8) : Except JsonFault JsonChecker :=
  let c := { c with stage := .after }
  if Json.isBlank b then .ok c
  else
    match c.places with
    | [] => refuse b "after top-level value"
    | .name :: ps => if b = 58 then .ok ⟨.member :: ps, .value⟩ else refuse b "after object key"
    | .member :: ps =>
      if b = 44 then .ok ⟨.name :: ps, .name⟩
      else if b = 125 then .ok ⟨ps, .after⟩
      else refuse b "after object key:value pair"
    | .list :: ps =>
      if b = 44 then .ok ⟨.list :: ps, .value⟩
      else if b = 93 then .ok ⟨ps, .after⟩
      else refuse b "after array element"

def beginName (b : UInt8) : Except JsonFault JsonChecker :=
  if Json.isBlank b then .ok c
  else if b = 34 then at_ c .text
  else refuse b "looking for beginning of object key string"

def step (b : UInt8) : Except JsonFault JsonChecker :=
  match c.stage with
  | .value => begin c b
  | .valueOrClose => if b = 93 then .ok ⟨c.places.tail, .after⟩ else begin c b
  | .name => beginName c b
  | .nameOrClose => if b = 125 then .ok ⟨c.places.tail, .after⟩ else beginName c b
  | .after => after c b
  | .text =>
    if b = 34 then at_ c .after
    else if b = 92 then at_ c .escape
    else if b < 32 then refuse b "in string literal"
    else .ok c
  | .escape =>
    if b = 117 then at_ c (.hexadecimal 4)
    else if (Json.shortEscape? b).isSome then at_ c .text
    else refuse b "in string escape code"
  | .hexadecimal n =>
    if (Json.hexValue? b).isSome then at_ c (if n ≤ 1 then .text else .hexadecimal (n - 1))
    else refuse b "in \\u hexadecimal character escape"
  | .sign =>
    if b = 48 then at_ c .zero
    else if Bytes.isDigit b then at_ c .digits
    else refuse b "in numeric literal"
  | .zero => if b = 46 then at_ c .point else if isExponentMark b then at_ c .exponentMark else after c b
  | .digits =>
    if Bytes.isDigit b then .ok c
    else if b = 46 then at_ c .point
    else if isExponentMark b then at_ c .exponentMark
    else after c b
  | .point => if Bytes.isDigit b then at_ c .fraction else refuse b "after decimal point in numeric literal"
  | .fraction =>
    if Bytes.isDigit b then .ok c else if isExponentMark b then at_ c .exponentMark else after c b
  | .exponentMark =>
    if b = 43 || b = 45 then at_ c .exponentSign
    else if Bytes.isDigit b then at_ c .exponent
    else refuse b "in exponent of numeric literal"
  | .exponentSign => if Bytes.isDigit b then at_ c .exponent else refuse b "in exponent of numeric literal"
  | .exponent => if Bytes.isDigit b then .ok c else after c b
  | .word w (x :: rest) =>
    if b = x then at_ c (if rest.isEmpty then .after else .word w rest)
    else refuse b ("in literal " ++ w ++ " (expecting '" ++ Utf8.toString [x] ++ "')")
  | .word _ [] => after c b

def run : JsonChecker → List UInt8 → Except JsonFault JsonChecker
  | c, [] => .ok c
  | c, b :: s =>
    match c.step b with
    | .ok c => run c s
    | .error e => .error e

def isDone : Bool := c.places.isEmpty && c.stage = .after

end JsonChecker

def Json.fault? (s : Bytes) : Option JsonFault :=
  match JsonChecker.run {} s with
  | .error e => some e
  | .ok c =>
    if c.isDone then none
    else
      match c.step 32 with
      | .error e => some e
      | .ok c => if c.isDone then none else some .unfinished

end SourceSurvey
