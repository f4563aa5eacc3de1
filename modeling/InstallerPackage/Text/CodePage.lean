import InstallerPackage.Bytes
import InstallerPackage.Text.CodePage.Chinese
import InstallerPackage.Text.CodePage.Japanese
import InstallerPackage.Text.CodePage.Korean
import InstallerPackage.Text.CodePage.Table

/-!
# Code pages

A database, and likewise a property set, tells by number how its text is encoded. `CodePage.ofNumber`
gives the page for a number. The number 0 and numbers that no page is registered for select Latin-1,
in which every byte is the code point of its character, so all bytes can always be decoded.
-/

namespace InstallerPackage

/-- How bytes become characters. -/
inductive Charset where
  /-- A byte is the code point of its character. -/
  | latin1
  /-- Sequences of one to four bytes. -/
  | utf8
  /-- One character for every byte value. -/
  | table (chars : Array Char)
  /-- Characters of one or two bytes. -/
  | doubleByte (page : DoubleByte)

/-- Bytes that have no meaning are replaced by U+FFFD. -/
def Charset.decode (charset : Charset) (b : ByteArray) : List Char :=
  let bytes := b.data.toList.map UInt8.toNat
  match charset with
  | latin1 => bytes.map Char.ofNat
  | utf8 => Utf8.decode bytes
  | table chars => bytes.map fun x => chars[x]?.getD Utf8.replacement
  | doubleByte page => page.decode bytes

/-- A named way to encode text. -/
structure CodePage where
  name : String
  charset : Charset

namespace CodePage

/-- The page that is used where no other is known. -/
def latin1 : CodePage := ⟨"latin-1", .latin1⟩

/-- The first half of most pages. -/
def asciiChars : Array Char := Array.ofFn fun i : Fin 128 => Char.ofNat i

/-- A page that extends ASCII by the given characters. -/
def extending (upper : String) : Charset := .table (asciiChars ++ upper.toList.toArray)

/-- A page that lists a character for every byte. -/
def listing (all : String) : Charset := .table all.toList.toArray

/-- The name of a page that goes by its number. -/
def numbered (n : Nat) (charset : Charset) : Nat × CodePage := (n, ⟨"cp" ++ toString n, charset⟩)

/-- The pages that are known, by number. -/
def registered : List (Nat × CodePage) := [
  (154, ⟨"ptcp154", extending Table.page154⟩),
  numbered 273 (listing Table.page273),
  (367, ⟨"ascii", .table asciiChars⟩),
  numbered 424 (listing Table.page424),
  numbered 437 (extending Table.page437),
  numbered 500 (listing Table.page500),
  numbered 720 (extending Table.page720),
  numbered 737 (extending Table.page737),
  numbered 775 (extending Table.page775),
  (819, ⟨"iso8859-1", .latin1⟩),
  numbered 850 (extending Table.page850),
  numbered 852 (extending Table.page852),
  numbered 855 (extending Table.page855),
  numbered 856 (extending Table.page856),
  numbered 857 (extending Table.page857),
  numbered 858 (extending Table.page858),
  numbered 860 (extending Table.page860),
  numbered 861 (extending Table.page861),
  numbered 862 (extending Table.page862),
  numbered 863 (extending Table.page863),
  numbered 864 (listing Table.page864),
  numbered 865 (extending Table.page865),
  numbered 866 (extending Table.page866),
  numbered 869 (extending Table.page869),
  numbered 874 (extending Table.page874),
  numbered 875 (listing Table.page875),
  numbered 932 (.doubleByte DoubleByte.page932),
  (936, ⟨"gbk", .doubleByte DoubleByte.page936⟩),
  numbered 949 (.doubleByte DoubleByte.page949),
  numbered 950 (.doubleByte DoubleByte.page950),
  numbered 1006 (extending Table.page1006),
  numbered 1026 (listing Table.page1026),
  (1051, ⟨"hp-roman8", extending Table.page1051⟩),
  numbered 1125 (extending Table.page1125),
  numbered 1140 (listing Table.page1140),
  numbered 1250 (extending Table.page1250),
  numbered 1251 (extending Table.page1251),
  numbered 1252 (extending Table.page1252),
  numbered 1253 (extending Table.page1253),
  numbered 1254 (extending Table.page1254),
  numbered 1255 (extending Table.page1255),
  numbered 1256 (extending Table.page1256),
  numbered 1257 (extending Table.page1257),
  numbered 1258 (extending Table.page1258),
  (1361, ⟨"johab", .doubleByte DoubleByte.page1361⟩),
  (65001, ⟨"utf-8", .utf8⟩)]

/-- The page with a number. -/
def ofNumber (n : Nat) : CodePage := (registered.lookup n).getD latin1

/-- The text that some bytes stand for. -/
def decode (page : CodePage) (b : ByteArray) : String := String.ofList (page.charset.decode b)

/-- The text that some bytes stand for once the zeros at their end are cut off. -/
def decodeTrimmed (page : CodePage) (b : ByteArray) : String := page.decode (Bytes.trimZeros b)

end CodePage

end InstallerPackage
