import SourceSurvey.Charset.Labels
import SourceSurvey.Charset.SingleByte
import SourceSurvey.Charset.MultiByte
import SourceSurvey.Charset.Sniff
import SourceSurvey.Charset.Meta

namespace SourceSurvey

structure Decoded where
  text : Bytes
  encoding : String
  certain : Bool
  bom : Bool
  deriving Repr, DecidableEq

namespace Charset

def bom : Bytes := [0xEF, 0xBB, 0xBF]

def encodingNamed? (label : Bytes) : Option String :=
  let key := label.strip.lower
  (labels.find? fun (_, ls) => ls.any fun l => utf8 l = key).map (·.1)

def decodeAs (name : String) (content : Bytes) : List Char :=
  match name with
  | "utf-8" => Utf8.chars content
  | "utf-16be" => readAll (utf16At true) content
  | "utf-16le" => readAll (utf16At false) content
  | "shift_jis" => readAll shiftJisAt content
  | "euc-jp" => readAll eucJpAt content
  | "iso-2022-jp" => readFrom iso2022JpAt .ascii [] content
  | "euc-kr" => readAll eucKrAt content
  | "big5" => readAll big5At content
  | "gbk" => readAll (gbAt false) content
  | "gb18030" => readAll (gbAt true) content
  | "replacement" => if content.isEmpty then [] else [Utf8.replacement]
  | "x-user-defined" => content.map fun b => Char.ofNat (if b < 0x80 then b.toNat else 0xF700 + b.toNat)
  | _ =>
    let upper := (upperHalves.lookup (if name = "iso-8859-8-i" then "iso-8859-8" else name)).getD ""
    let table := upper.toList.toArray
    content.map (singleByte table)

/-- The text with each run of stray bytes replaced by one replacement character. -/
def mend : (inRun : Bool) → List Glyph → List Char
  | _, [] => []
  | inRun, g :: gs =>
    if Utf8.isStray g then if inRun then mend true gs else Utf8.replacement :: mend true gs
    else g.char :: mend false gs

/-- The content without a character cut off at its end, as far as the last three bytes show one. -/
def dropPartial (content : Bytes) : Bytes :=
  let rec go : Nat → Bytes → Option Bytes
    | n + 1, b :: rest => if b < 0x80 then none else if !Utf8.isContinuation b then some rest else go n rest
    | _, _ => none
  match go 3 content.reverse with
  | some rest => rest.reverse
  | none => content

/-- How content is to be read: the name of its encoding, whether that is certain, and whether it is
UTF-8 to be mended as it stands. -/
structure Guess where
  name : String
  certain : Bool
  mended : Bool := false

def determine (content : Bytes) : Guess :=
  let head : Bytes := content.take 1024
  match byteOrderMarks.find? fun (_, m) => head.startsWith m with
  | some (name, _) => { name, certain := true }
  | none =>
    match Meta.search? encodingNamed? head.length head with
    | some name => { name, certain := false, mended := name = "utf-8" }
    | none =>
      let kept := dropPartial head
      if kept.any (0x80 ≤ ·) && Utf8.isValid kept then { name := "utf-8", certain := false, mended := true }
      else { name := "windows-1252", certain := false }

def decode (defaultEncoding : String) (content : Bytes) : Decoded :=
  if Utf8.isValid content then
    { text := content.dropStart bom, encoding := "utf-8", certain := true, bom := content.startsWith bom }
  else
    let guess := determine content
    let given := if guess.certain || defaultEncoding = "" then none else encodingNamed? (utf8 defaultEncoding)
    let guess : Guess := match given with
      | some name => { name, certain := true }
      | none => guess
    let chars := if guess.mended then mend false (Utf8.glyphs content) else decodeAs guess.name content
    { text := Bytes.dropStart (Utf8.encode chars) bom, encoding := guess.name, certain := guess.certain, bom := false }

end Charset

end SourceSurvey
