import EpubLibrary.Text.Charset.Names
import EpubLibrary.Text.Charset.Escapes
import EpubLibrary.Text.Charset.Backslash
import EpubLibrary.Text.Utf8

namespace EpubLibrary.Text

/-- How bytes spell characters. -/
structure Charset where
  pieces : Bytes → List (Option (List Char))
  /-- the first surrogates that bytes spell without partners -/
  stray? : Bytes → Option Charset.Stray := fun _ => none

namespace Charset

def ofRead (read : Bytes → Piece) : Charset := { pieces := Text.pieces read }

/-- Bytes that spell code points, those of surrogates among them. -/
def ofPoints (points : Bytes → List (Option Nat)) : Charset where
  pieces bytes := shownPoints (points bytes)
  stray? bytes := strayIn? (points bytes)

/-- The text, if all bytes are readable. -/
def decode? (c : Charset) (bytes : Bytes) : Option (List Char) := strict? (c.pieces bytes)

/-- The text with replacement characters. -/
def decodeReplacing (c : Charset) (bytes : Bytes) : List Char := replacing (c.pieces bytes)

def utf8 : Charset := ofRead Utf8.read

def ascii : Charset := ofRead (singleByte #[] 128)

def latin1 : Charset := ofRead (singleByte #[] 256)

/-- Units in the order that a mark at the start tells, or in the order of most machines. -/
def marked (read : ByteOrder → Bytes → Piece) (little big : Bytes) : Charset :=
  { pieces := fun bytes =>
    if little.isPrefixOf bytes then Text.pieces (read .little) (bytes.drop little.length)
    else if big.isPrefixOf bytes then Text.pieces (read .big) (bytes.drop big.length)
    else Text.pieces (read .little) bytes }

def utf8Mark : Bytes := [0xEF, 0xBB, 0xBF]

/-- Drops the byte-order mark of UTF-8. -/
def dropUtf8Mark (bytes : Bytes) : Bytes :=
  if utf8Mark.isPrefixOf bytes then bytes.drop 3 else bytes

def halfTables : List (String × Array Char) := upperHalves.map fun t => (t.1, ofLines t.2)

def wholeTables : List (String × Array Char) := wholePages.map fun t => (t.1, ofLines t.2)

/-- The character set with a canonical name. -/
def ofName? (name : String) : Option Charset :=
  match name with
  | "utf_8" => some utf8
  | "utf_8_sig" => some { pieces := fun bytes => utf8.pieces (dropUtf8Mark bytes) }
  | "ascii" => some ascii
  | "latin_1" | "iso8859_1" => some latin1
  | "utf_16" => some (marked utf16 [0xFF, 0xFE] [0xFE, 0xFF])
  | "utf_16_le" => some (ofRead (utf16 .little))
  | "utf_16_be" => some (ofRead (utf16 .big))
  | "utf_32" => some (marked utf32 [0xFF, 0xFE, 0, 0] [0, 0, 0xFE, 0xFF])
  | "utf_32_le" => some (ofRead (utf32 .little))
  | "utf_32_be" => some (ofRead (utf32 .big))
  | "utf_7" => some (ofPoints (utf7From .plain))
  | "gb2312" => some (ofRead (doubleByte gb2312Char?))
  | "gbk" => some (ofRead (doubleByte gbkChar?))
  | "gb18030" => some (ofRead gb18030)
  | "hz" => some { pieces := hzFrom false 0 }
  | "big5" => some (ofRead (doubleByte big5Char?))
  | "big5hkscs" => some (ofRead (doubleByteText hongKongText?))
  | "cp950" => some (ofRead (doubleByte cp950Char?))
  | "shift_jis" => some (ofRead shiftJis)
  | "cp932" => some (ofRead cp932)
  | "euc_jp" => some (ofRead eucJp)
  | "shift_jis_2004" => some (ofRead (shiftedLater .second))
  | "shift_jisx0213" => some (ofRead (shiftedLater .first))
  | "euc_jis_2004" => some (ofRead (eucLater .second))
  | "euc_jisx0213" => some (ofRead (eucLater .first))
  | "iso2022_jp" => some { pieces := escapedJapanese.pieces }
  | "iso2022_jp_1" => some { pieces := escapedJapanese1.pieces }
  | "iso2022_jp_2" => some { pieces := escapedJapanese2.pieces }
  | "iso2022_jp_3" => some { pieces := (escapedLater .first).pieces }
  | "iso2022_jp_2004" => some { pieces := (escapedLater .second).pieces }
  | "iso2022_jp_ext" => some { pieces := escapedJapaneseExtended.pieces }
  | "euc_kr" => some (ofRead eucKr)
  | "cp949" => some (ofRead (doubleByte cp949Char?))
  | "johab" => some (ofRead (doubleByte johabChar?))
  | "iso2022_kr" => some { pieces := escapedKorean.pieces }
  | _ =>
    match halfTables.lookup name with
    | some table => some (ofRead (singleByte table 128))
    | none => (wholeTables.lookup name).map fun table => ofRead (singleByte table 0)

/-- The character set that goes by a name. -/
def find? (name : List Char) : Option Charset := (canonicalName? name).bind ofName?

/-- Forms of text that are used inside programs, and go by names of their own. The two for names of
hosts, `idna` and `punycode`, are not among them. -/
def internal? (name : List Char) : Option Charset :=
  match String.ofList (normalName name) with
  | "charmap" => some latin1
  | "raw_unicode_escape" => some (ofPoints (backslashedFrom .raw 0))
  | "unicode_escape" => some (ofPoints (backslashedFrom .full 0))
  | _ => none

end Charset
end EpubLibrary.Text
