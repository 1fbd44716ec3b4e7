import SourceSurvey.Text.Bytes

namespace SourceSurvey

namespace Charset

/-- A byte pattern; `none` stands for any byte. -/
abbrev Signature := List (Option UInt8)

def exactly (s : Bytes) : Signature := s.map some

def ascii (s : String) : Signature := exactly (utf8 s)

def any (n : Nat) : Signature := List.replicate n none

def Signature.matches : Signature → Bytes → Bool
  | [], _ => true
  | _ :: _, [] => false
  | none :: sig, _ :: s => Signature.matches sig s
  | some a :: sig, b :: s => a = b && Signature.matches sig s

def binarySignatures : List Signature := [
  ascii "%PDF-", ascii "%!PS-Adobe-",
  exactly [0, 0, 1, 0], exactly [0, 0, 2, 0], ascii "BM", ascii "GIF87a", ascii "GIF89a",
  ascii "RIFF" ++ any 4 ++ ascii "WEBPVP", exactly [0x89, 80, 78, 71, 13, 10, 26, 10], exactly [0xFF, 0xD8, 0xFF],
  ascii "FORM" ++ any 4 ++ ascii "AIFF", ascii "ID3", ascii "OggS" ++ exactly [0],
  ascii "MThd" ++ exactly [0, 0, 0, 6], ascii "RIFF" ++ any 4 ++ ascii "AVI ", ascii "RIFF" ++ any 4 ++ ascii "WAVE",
  exactly [0x1A, 0x45, 0xDF, 0xA3],
  any 34 ++ ascii "LP", exactly [0, 1, 0, 0], ascii "OTTO", ascii "ttcf", ascii "wOFF", ascii "wOF2",
  exactly [0x1F, 0x8B, 8], ascii "PK" ++ exactly [3, 4], ascii "Rar!" ++ exactly [0x1A, 7, 0],
  ascii "Rar!" ++ exactly [0x1A, 7, 1, 0], exactly [0, 0x61, 0x73, 0x6D]]

def textTags : List String :=
  ["<!DOCTYPE HTML", "<HTML", "<HEAD", "<SCRIPT", "<IFRAME", "<H1", "<DIV", "<FONT", "<TABLE", "<A", "<STYLE",
    "<TITLE", "<B", "<BODY", "<BR", "<P", "<!--"]

def isMarkup (s : Bytes) : Bool :=
  let s : Bytes := s.dropWhile fun b => b = 9 || b = 10 || b = 12 || b = 13 || b = 32
  (textTags.any fun t =>
    (Bytes.upperAscii (s.take t.length) = utf8 t) && (s[t.length]?.map fun b => b = 32 || b = 62).getD false) ||
    s.startsWith (utf8 "<?xml")

def byteOrderMarks : List (String × Bytes) :=
  [("utf-16be", [0xFE, 0xFF]), ("utf-16le", [0xFF, 0xFE]), ("utf-8", [0xEF, 0xBB, 0xBF])]

/-- A film box whose size is a multiple of four and within the content, naming a compatible brand. -/
def isFilm (s : Bytes) : Bool :=
  let size := (s.take 4).foldl (fun n b => n * 256 + b.toNat) 0
  let brand (at_ : Nat) : Bool := at_ ≠ 12 && Bytes.startsWith (s.drop at_) (utf8 "mp4")
  12 ≤ s.length && size ≤ s.length && size % 4 = 0 && Bytes.startsWith (s.drop 4) (utf8 "ftyp") &&
    (List.range (size / 4)).any fun i => 2 ≤ i && brand (4 * i)

def isBinary (content : Bytes) : Bool :=
  let utf16 := content.startsWith [0xFF, 0xFE] || content.startsWith [0xFE, 0xFF]
  let start : Bytes := content.take 512
  let head := content.take 1024
  let known := !isMarkup start && !start.startsWith [0xEF, 0xBB, 0xBF] &&
    (binarySignatures.any (Signature.matches · start) || isFilm start)
  !content.isEmpty && !utf16 && (known || 15 * head.length < 100 * head.count 0)

end Charset

end SourceSurvey
