/-
# Charsets

A header names the charset of a body. Most charsets are encodings. Some ask for a mark at the
front, which then shows the encoding, and some are no encodings of text at all.
-/
import ToolGateway.Text.Charset.Names
import ToolGateway.Text.Encoding

namespace ToolGateway
namespace Text

/-- A charset cannot be used for a body. -/
inductive CharsetFault where
  /-- The mark that the charset asks for is missing; the width of its units is given. -/
  | noMark (width : Nat)
  | undefined
  /-- Only what is without fault can be read. -/
  | strictOnly
  /-- The charset does not stand for text. -/
  | noText
  /-- The charset takes text in place of octets. -/
  | fromText
  | zeroInName
  /-- A parameter has parts with numbers and parts without; the kinds of two such parts are
  given. -/
  | mixedParts (kind other : String)
  | reading (fault : ReadingFault)
deriving DecidableEq, Repr

/-- The fault in words. -/
def CharsetFault.message : CharsetFault → String
  | noMark width => "UTF-" ++ toString width ++ " stream does not start with BOM"
  | undefined => "undefined encoding"
  | strictOnly => "Unsupported error handling replace"
  | noText => ""
  | fromText => "descriptor 'translate' for 'str' objects doesn't apply to a 'bytes' object"
  | zeroInName => "embedded null character"
  | mixedParts kind other =>
    "'<' not supported between instances of '" ++ kind ++ "' and '" ++ other ++ "'"
  | reading fault => fault.message

/-- What a name of a charset stands for. -/
inductive Charset where
  | plain (e : Encoding)
  /-- UTF-8; a mark at the front is no part of the text. -/
  | markedUtf8
  | markedUtf16
  | markedUtf32
  | unusable (fault : CharsetFault)
deriving DecidableEq, Repr

namespace Charset

/-- ASCII. -/
def ascii : Page := ⟨(List.range 128).map (fun n => some (Char.ofNat n)) |>.toArray⟩

/-- The first 256 code points. -/
def latin : Page := ⟨(List.range 256).map (fun n => some (Char.ofNat n)) |>.toArray⟩

/-- The Japanese encoding with escapes and some sets besides the basic one. -/
def escapes (sets : List CodeSet) : Charset := plain (.shifts (.japanese sets))

/-- The charset with a usual name. -/
def ofUsualName? : String → Option Charset
  | "utf_8" => some (plain .utf8)
  | "utf_8_sig" => some markedUtf8
  | "utf_16" => some markedUtf16
  | "utf_32" => some markedUtf32
  | "utf_16_le" => some (plain (.utf16 false))
  | "utf_16_be" => some (plain (.utf16 true))
  | "utf_32_le" => some (plain (.utf32 false))
  | "utf_32_be" => some (plain (.utf32 true))
  | "utf_7" => some (plain .sixBits)
  | "unicode_escape" => some (plain (.backslashes false))
  | "raw_unicode_escape" => some (plain (.backslashes true))
  | "punycode" => some (plain .punycode)
  | "ascii" => some (plain (.page ascii))
  | "latin_1" | "iso8859_1" | "charmap" => some (plain (.page latin))
  | "shift_jis" => some (plain (.japanese .moved))
  | "cp932" => some (plain (.japanese .movedWindows))
  | "shift_jisx0213" => some (plain (.japanese (.movedPlanes false)))
  | "shift_jis_2004" => some (plain (.japanese (.movedPlanes true)))
  | "euc_jp" => some (plain (.japanese .marked))
  | "euc_jisx0213" => some (plain (.japanese (.markedPlanes false)))
  | "euc_jis_2004" => some (plain (.japanese (.markedPlanes true)))
  | "gb2312" => some (plain (.chinese .basic))
  | "gbk" => some (plain (.chinese .extended))
  | "gb18030" => some (plain (.chinese .complete))
  | "big5" => some (plain (.chinese .traditional))
  | "cp950" => some (plain (.chinese .traditionalWindows))
  | "big5hkscs" => some (plain (.chinese .traditionalHongKong))
  | "euc_kr" => some (plain (.korean .basic))
  | "cp949" => some (plain (.korean .windows))
  | "johab" => some (plain (.korean .parts))
  | "hz" => some (plain .tildes)
  | "iso2022_kr" => some (plain (.shifts .korean))
  | "iso2022_jp" => some (escapes [.roman, .earlyJapanese])
  | "iso2022_jp_1" => some (escapes [.supplement, .roman, .earlyJapanese])
  | "iso2022_jp_2" => some (plain (.shifts .several))
  | "iso2022_jp_2004" => some (escapes [.firstPlane true, .secondPlane true])
  | "iso2022_jp_3" => some (escapes [.firstPlane false, .secondPlane false])
  | "iso2022_jp_ext" => some (escapes [.supplement, .roman, .kana, .earlyJapanese])
  | "undefined" => some (unusable .undefined)
  | "idna" => some (unusable .strictOnly)
  | "rot_13" => some (unusable .fromText)
  | "base64_codec" | "bz2_codec" | "hex_codec" | "quopri_codec" | "uu_codec" | "zlib_codec" =>
    some (unusable .noText)
  | name => (Page.named? name).map fun p => plain (.page p)

/-- The charset of a name, if it is a known one. -/
def named? (name : String) : Option Charset :=
  if name.toList.contains '\x00' then some (unusable .zeroInName)
  else (CharsetEntry.usualName? name).bind ofUsualName?

/-- The encoding of a body and its octets without the mark. Octets too few to show a lack of the
mark are a broken unit. -/
def unmark (charset : Charset) (octets : List UInt8) :
    Except CharsetFault (Encoding × List UInt8) :=
  match charset, octets with
  | plain e, _ => .ok (e, octets)
  | unusable fault, _ => .error fault
  | markedUtf8, 0xEF :: 0xBB :: 0xBF :: rest => .ok (.utf8, rest)
  | markedUtf8, _ => .ok (.utf8, octets)
  | markedUtf16, 0xFF :: 0xFE :: rest => .ok (.utf16 false, rest)
  | markedUtf16, 0xFE :: 0xFF :: rest => .ok (.utf16 true, rest)
  | markedUtf16, _ :: _ :: _ => .error (.noMark 16)
  | markedUtf16, _ => .ok (.utf16 false, octets)
  | markedUtf32, 0xFF :: 0xFE :: 0 :: 0 :: rest => .ok (.utf32 false, rest)
  | markedUtf32, 0 :: 0 :: 0xFE :: 0xFF :: rest => .ok (.utf32 true, rest)
  | markedUtf32, _ :: _ :: _ :: _ :: _ => .error (.noMark 32)
  | markedUtf32, _ => .ok (.utf32 false, octets)

/-- The octets end within the mark of UTF-8. -/
def isBegunMark (octets : List UInt8) : Bool := octets = [0xEF] || octets = [0xEF, 0xBB]

/-- The text of octets, with a replacement character for what is none. A mark that is only begun is
no part of it either. -/
def decode (charset : Charset) (octets : List UInt8) : Except CharsetFault String :=
  if charset = markedUtf8 && isBegunMark octets then .ok ""
  else do
    let (e, rest) ← charset.unmark octets
    (e.decodeReplacing rest).mapError .reading

/-- The text of octets that are read as a whole, if every part of them is a character. Without a
mark the smaller octet of a unit comes first. -/
def decodeWhole? (charset : Charset) (octets : List UInt8) : Option String :=
  match charset, charset.unmark octets with
  | _, .ok (e, rest) => e.decode? rest
  | markedUtf16, .error _ => Encoding.decode? (.utf16 false) octets
  | markedUtf32, .error _ => Encoding.decode? (.utf32 false) octets
  | _, .error _ => none

end Charset
end Text
end ToolGateway
