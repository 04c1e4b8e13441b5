/-
# Encodings with written code points

In these encodings a character outside the plain ones is written out: between a plus sign and a
hyphen as 16-bit units in characters of six bits, or behind a backslash by its number.
-/
import ToolGateway.Text.Charset.Piece
import ToolGateway.Text.Hexadecimal

namespace ToolGateway
namespace Text

/-! ## Six bits -/

namespace SixBits

/-- The value of a character of six bits. -/
def value? (b : UInt8) : Option Nat :=
  if 0x41 ≤ b ∧ b ≤ 0x5A then some (b.toNat - 0x41)
  else if 0x61 ≤ b ∧ b ≤ 0x7A then some (b.toNat - 71)
  else if 0x30 ≤ b ∧ b ≤ 0x39 then some (b.toNat + 4)
  else if b = 0x2B then some 62
  else if b = 0x2F then some 63
  else none

/-- A stretch of six-bit characters that is being read: the bits that make no unit yet, how many
there are, and the first unit of a pair. -/
structure Stretch where
  bits : Nat
  count : Nat
  high : Option Nat
deriving DecidableEq, Repr

/-- Six more bits, and what they complete. Half of a pair that stands alone is none. -/
def Stretch.push (s : Stretch) (v : Nat) : List (Option Char) × Stretch :=
  let bits := s.bits * 64 + v
  let count := s.count + 6
  if count < 16 then ([], ⟨bits, count, s.high⟩)
  else
    let unit := bits / Nat.pow 2 (count - 16)
    let rest := bits % Nat.pow 2 (count - 16)
    let alone (before : List (Option Char)) : List (Option Char) × Stretch :=
      if 0xD800 ≤ unit ∧ unit < 0xDC00 then (before, ⟨rest, count - 16, some unit⟩)
      else
        let c := if 0xDC00 ≤ unit ∧ unit < 0xE000 then none else some (Char.ofNat unit)
        (before ++ [c], ⟨rest, count - 16, none⟩)
    match s.high with
    | none => alone []
    | some high =>
      if 0xDC00 ≤ unit ∧ unit < 0xE000 then
        ([some (Char.ofNat (0x10000 + (high - 0xD800) * 1024 + (unit - 0xDC00)))],
          ⟨rest, count - 16, none⟩)
      else alone [none]

/-- Bits are left that belong to no unit. -/
def Stretch.isTorn (s : Stretch) : Bool := 6 ≤ s.count || s.bits != 0

/-- The characters of octets, inside a stretch or outside. -/
def chars : Option Stretch → List UInt8 → List (Option Char)
  | some s, [] => if s.high.isSome || s.isTorn then [none] else []
  | none, [] => []
  | some s, b :: rest =>
    match value? b with
    | some v => let (out, s) := s.push v; out ++ chars (some s) rest
    | none =>
      if s.isTorn then none :: chars none rest
      else
        let half := if s.high.isSome && b < 0x80 then [none] else []
        if b = 0x2D then half ++ chars none rest
        else if b < 0x80 then half ++ some (Char.ofNat b.toNat) :: chars none rest
        else half ++ none :: chars none rest
  | none, 0x2B :: 0x2D :: rest => some '+' :: chars none rest
  | none, 0x2B :: b :: rest =>
    match value? b with
    | some v => let (out, s) := Stretch.push ⟨0, 0, none⟩ v; out ++ chars (some s) rest
    | none => none :: chars none rest
  | none, [0x2B] => []
  | none, b :: rest => (if b < 0x80 then some (Char.ofNat b.toNat) else none) :: chars none rest

end SixBits

/-! ## Backslashes -/

namespace Backslash

/-- The value of an octet that is a hexadecimal digit. -/
def hexDigit? (b : UInt8) : Option Nat := hexValue? (Char.ofNat b.toNat)

/-- A number of hexadecimal digits behind a front of two octets. -/
def hexPiece (count : Nat) (rest : List UInt8) : Piece :=
  let digits := (rest.take count).takeWhile fun b => (hexDigit? b).isSome
  let n := digits.foldl (fun n b => n * 16 + (hexDigit? b).getD 0) 0
  if digits.length < count then .broken (2 + digits.length)
  else if h : n.isValidChar then .one (Char.ofNatAux n h) (2 + count)
  else .broken (2 + count)

/-- An octal number: up to three digits. -/
def octalPiece (octets : List UInt8) : Piece :=
  let digits := (octets.take 3).takeWhile fun b => 0x30 ≤ b && b ≤ 0x37
  .one (Char.ofNat (digits.foldl (fun n b => n * 8 + (b.toNat - 0x30)) 0)) (1 + digits.length)

/-- A name in braces. No name is known. -/
def namePiece : List UInt8 → Piece
  | 0x7B :: rest =>
    let name := rest.takeWhile (· != 0x7D)
    if rest.length ≤ name.length ∨ name.isEmpty then .broken (3 + name.length)
    else .broken (4 + name.length)
  | _ => .broken 2

/-- The characters of a single octet behind a backslash. -/
def short? (b : UInt8) : Option (List Char) :=
  match Char.ofNat b.toNat with
  | '\n' => some []
  | '\\' => some ['\\']
  | '\'' => some ['\'']
  | '"' => some ['"']
  | 'a' => some ['\x07']
  | 'b' => some ['\x08']
  | 'f' => some ['\x0c']
  | 'n' => some ['\n']
  | 'r' => some ['\r']
  | 't' => some ['\t']
  | 'v' => some ['\x0b']
  | _ => none

/-- A piece of the encoding in which backslashes have all their meanings. -/
def next : List UInt8 → Piece
  | [] => .short
  | 0x5C :: rest =>
    match rest with
    | [] => .broken 1
    | b :: more =>
      if 0x30 ≤ b ∧ b ≤ 0x37 then octalPiece rest
      else
        match short? b, b with
        | some cs, _ => .chars cs 2
        | none, 0x78 => hexPiece 2 more
        | none, 0x75 => hexPiece 4 more
        | none, 0x55 => hexPiece 8 more
        | none, 0x4E => namePiece more
        | none, _ => .chars ['\\', Char.ofNat b.toNat] 2
  | b :: _ => .one (Char.ofNat b.toNat) 1

/-- A piece of the encoding in which backslashes only write code points. -/
def nextRaw : List UInt8 → Piece
  | [] => .short
  | 0x5C :: rest =>
    match rest with
    | [] => .one '\\' 1
    | 0x75 :: more => hexPiece 4 more
    | 0x55 :: more => hexPiece 8 more
    | b :: _ => .chars ['\\', Char.ofNat b.toNat] 2
  | b :: _ => .one (Char.ofNat b.toNat) 1

end Backslash
end Text
end ToolGateway
