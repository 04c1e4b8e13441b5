/-
# Encodings

An encoding tells for which characters octets stand. The encoding of a structured body shows by the
zeros among its first octets.
-/
import ToolGateway.Text.Charset.Escaped
import ToolGateway.Text.Charset.Page
import ToolGateway.Text.Charset.Shifted
import ToolGateway.Text.Hexadecimal
import ToolGateway.Text.Punycode
import ToolGateway.Text.Utf8

namespace ToolGateway
namespace Text

/-- How octets stand for characters. -/
inductive Encoding where
  | utf8
  | utf16 (bigEndian : Bool)
  | utf32 (bigEndian : Bool)
  | sixBits
  | backslashes (raw : Bool)
  | punycode
  | page (p : Page)
  | japanese (s : Japanese.Scheme)
  | chinese (s : Chinese.Scheme)
  | korean (s : Korean.Scheme)
  | shifts (k : ShiftKit)
  | tildes
deriving DecidableEq, Repr

/-- Octets cannot be read to their end. -/
inductive ReadingFault where
  /-- Too many octets at the end are no piece yet. -/
  | tooManyPending
  | refused
  | notAscii (octet : UInt8) (place : Nat)
deriving DecidableEq, Repr

/-- The fault in words. -/
def ReadingFault.message : ReadingFault → String
  | tooManyPending => "pending buffer overflow"
  | refused => "internal codec error"
  | notAscii octet place =>
    "'ascii' codec can't decode byte 0x" ++ .ofList (hex 2 octet.toNat) ++ " in position "
      ++ toString place ++ ": ordinal not in range(128)"

namespace Encoding

/-- Two octets as a number. -/
def unit (bigEndian : Bool) (a b : UInt8) : Nat :=
  if bigEndian then a.toNat * 256 + b.toNat else b.toNat * 256 + a.toNat

/-- The 16-bit units of octets, and whether an octet is left over. -/
def units (bigEndian : Bool) : List UInt8 → List Nat × Bool
  | a :: b :: rest => let (us, odd) := units bigEndian rest; (unit bigEndian a b :: us, odd)
  | [_] => ([], true)
  | [] => ([], false)

/-- The first unit of a pair. -/
def isHigh (u : Nat) : Bool := 0xD800 ≤ u && u < 0xDC00

/-- The second unit of a pair. -/
def isLow (u : Nat) : Bool := 0xDC00 ≤ u && u < 0xE000

/-- The characters of 16-bit units; a unit of a pair that stands alone is none. -/
def ofUnits : List Nat → List (Option Char)
  | u :: v :: rest =>
    if isHigh u && isLow v then
      some (Char.ofNat (0x10000 + (u - 0xD800) * 1024 + (v - 0xDC00))) :: ofUnits rest
    else (if isHigh u || isLow u then none else some (Char.ofNat u)) :: ofUnits (v :: rest)
  | [u] => [if isHigh u || isLow u then none else some (Char.ofNat u)]
  | [] => []

/-- The characters of groups of four octets; a group that is no code point is none. -/
def ofWords (bigEndian : Bool) : List UInt8 → List (Option Char)
  | a :: b :: c :: d :: rest =>
    let n := if bigEndian then unit true a b * 65536 + unit true c d
      else unit false c d * 65536 + unit false a b
    (if h : n.isValidChar then some (Char.ofNatAux n h) else none) :: ofWords bigEndian rest
  | [] => []
  | _ => [none]

/-- The characters of UTF-8; octets that begin no character are none. -/
def ofUtf8 (octets : List UInt8) : List (Option Char) :=
  match decodeUtf8 octets with
  | .ok s => s.toList.map some
  | .error _ => (decodeUtf8Replacing octets).toList.map fun c => if c = '\ufffd' then none else c

/-- As many octets at the end may be no piece yet. -/
def pendingLimit : Nat := 8

/-- The characters that are read piece by piece. -/
def ofPieces {σ : Type} (next : σ → List UInt8 → Piece × σ) (start : σ) (octets : List UInt8) :
    Except ReadingFault (List (Option Char)) :=
  match Piece.readFrom next octets.length start octets with
  | (_, .refused) => .error .refused
  | (cs, .short left) => if pendingLimit < left then .error .tooManyPending else .ok cs
  | (cs, .complete) => .ok cs

/-- The characters of a coded label: octets outside ASCII may stand before the last hyphen only. -/
def ofPunycode (octets : List UInt8) : Except ReadingFault (List (Option Char)) :=
  let (front, coded) := Punycode.cutLast (octets.map fun b => Char.ofNat b.toNat)
  match coded.findIdx? fun c => 128 ≤ c.toNat with
  | some place => .error (.notAscii ((coded[place]?.map fun c => UInt8.ofNat c.toNat).getD 0) place)
  | none =>
    let front := front.map fun c => if c.toNat < 128 then c.toNat else 0xFFFD
    let points := (Punycode.decodeParts? true front coded).getD []
    .ok (points.map fun n => if h : n.isValidChar then some (Char.ofNatAux n h) else none)

/-- The characters of octets, none where the octets stand for no character. -/
def chars (e : Encoding) (octets : List UInt8) : Except ReadingFault (List (Option Char)) :=
  match e with
  | utf8 => .ok (ofUtf8 octets)
  | utf16 big =>
    let (us, odd) := units big octets
    let opened := us.getLast?.any isHigh
    .ok (ofUnits us ++ (if odd && !opened then [none] else []))
  | utf32 big => .ok (ofWords big octets)
  | sixBits => .ok (SixBits.chars none octets)
  | backslashes raw =>
    .ok (Piece.readAll (if raw then Backslash.nextRaw else Backslash.next) octets)
  | punycode => ofPunycode octets
  | page p => .ok (octets.map p.char?)
  | japanese s => .ok (Piece.readAll s.next octets)
  | chinese s => .ok (Piece.readAll s.next octets)
  | korean s => .ok (Piece.readAll s.next octets)
  | shifts k => ofPieces k.next .start octets
  | tildes => ofPieces nextTilde false octets

/-- The text, with a replacement character for what is none. -/
def decodeReplacing (e : Encoding) (octets : List UInt8) : Except ReadingFault String :=
  (e.chars octets).map fun cs => .ofList (cs.map (·.getD '\ufffd'))

/-- The text, if every part of the octets is a character. -/
def decode? (e : Encoding) (octets : List UInt8) : Option String :=
  match e.chars octets with
  | .ok cs => (cs.mapM id).map String.ofList
  | .error _ => none

/-- The encoding of a structured body and its octets without the mark at the front. The first
character is an ASCII one, so the zeros around it show the width and the order. -/
def detect (octets : List UInt8) : Encoding × List UInt8 :=
  match octets with
  | 0 :: 0 :: 0xFE :: 0xFF :: rest => (utf32 true, rest)
  | 0xFF :: 0xFE :: 0 :: 0 :: rest => (utf32 false, rest)
  | 0xFE :: 0xFF :: rest => (utf16 true, rest)
  | 0xFF :: 0xFE :: rest => (utf16 false, rest)
  | 0xEF :: 0xBB :: 0xBF :: rest => (utf8, rest)
  | a :: b :: c :: d :: _ =>
    if a = 0 then (if b = 0 then utf32 true else utf16 true, octets)
    else if b = 0 then (if c = 0 ∧ d = 0 then utf32 false else utf16 false, octets)
    else (utf8, octets)
  | [a, b] =>
    if a = 0 then (utf16 true, octets) else if b = 0 then (utf16 false, octets) else (utf8, octets)
  | _ => (utf8, octets)

end Encoding
end Text
end ToolGateway
