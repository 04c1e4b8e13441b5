/-
# Chinese encodings

The encodings of simplified characters extend one another: the basic set, the ideographs that it
lacks in the order of their code points, and at last all code points, those without a code of two
octets by four. Those of traditional characters extend another basic set.
-/
import ToolGateway.Text.Charset.ChineseTable
import ToolGateway.Text.Charset.Piece
import ToolGateway.Text.Charset.TaiwaneseTable

namespace ToolGateway
namespace Text
namespace Chinese

/-- The encodings. -/
inductive Scheme where
  | basic
  | extended
  | complete
  | traditional
  | traditionalWindows
  | traditionalHongKong
deriving DecidableEq, Repr

/-- A code of two octets. -/
def codeOf (a b : UInt8) : Nat := a.toNat * 256 + b.toNat

/-- The character of two octets in the basic set. -/
def basicChar? (a b : UInt8) : Option Char :=
  basic.find? ((a ^^^ 0x80).toNat * 256 + (b ^^^ 0x80).toNat)

/-- The ideographs that the basic set lacks, in the order of their code points. -/
def ideographs : Array Char :=
  let known := basic.flatMap (·.chars)
  let seen := known.foldl (fun seen c =>
    if 0x4E00 ≤ c.toNat && c.toNat < 0x9FA6 then
      seen.setIfInBounds (c.toNat - 0x4E00) true
    else seen) (Array.replicate 0x51A6 false)
  (((List.range 0x51A6).filter fun i => !seen[i]?.getD false).map
    fun i => Char.ofNat (0x4E00 + i)).toArray

/-- The place of two octets among the codes of those ideographs: first whole rows, then the fronts
of rows. -/
def ideographPlace? (a b : UInt8) : Option Nat :=
  if b < 0x40 ∨ b = 0x7F ∨ b = 0xFF then none
  else
    let cell := if b < 0x7F then b.toNat - 0x40 else b.toNat - 0x41
    if 0x81 ≤ a ∧ a ≤ 0xA0 then some (190 * (a.toNat - 0x81) + cell)
    else if 0xAA ≤ a ∧ a ≤ 0xFE ∧ cell < 96 then some (6080 + 96 * (a.toNat - 0xAA) + cell)
    else none

/-- The character of two octets in the extended set. Two signs of the basic set have other
forms. -/
def extendedChar? (a b : UInt8) : Option Char :=
  extension.find? (codeOf a b) <|> basicChar? a b
    <|> (ideographPlace? a b).bind fun i => ideographs[i]?

/-- The character of two octets in the complete set. -/
def completeChar? (a b : UInt8) : Option Char :=
  let code := codeOf a b
  let added := completeRuns.findSome? fun run =>
    match run with
    | [first, point, count] =>
      if first ≤ code ∧ code < first + count then some (Char.ofNat (point + (code - first)))
      else none
    | _ => none
  added <|> extendedChar? a b

/-- The code point of four octets. -/
def fourChar? (a b c d : UInt8) : Option Char :=
  if a < 0x81 ∨ 0xFE < a ∨ c < 0x81 ∨ 0xFE < c ∨ d < 0x30 ∨ 0x39 < d then none
  else
    let front := a.toNat - 0x81
    let place (front : Nat) : Nat :=
      ((front * 10 + (b.toNat - 0x30)) * 126 + (c.toNat - 0x81)) * 10 + (d.toNat - 0x30)
    if front < 4 then
      if place front < 39420 then
        (fourStarts.find? fun e => e.head?.any (· ≤ place front)).bind fun e =>
          match e with
          | [first, point] => some (Char.ofNat (point + (place front - first)))
          | _ => none
      else none
    else if 15 ≤ front ∧ 0x10000 + place (front - 15) ≤ 0x10FFFF then
      some (Char.ofNat (0x10000 + place (front - 15)))
    else none

/-- A piece of the complete set: a digit behind the first octet makes a code of four. -/
def nextComplete (octets : List UInt8) : Piece :=
  match octets with
  | a :: b :: rest =>
    if 0x80 ≤ a ∧ 0x30 ≤ b ∧ b ≤ 0x39 then
      match rest with
      | c :: d :: _ => .ofOption ((fourChar? a b c d).map fun c => [c]) 4
      | _ => .short
    else .ofDoubleChar completeChar? octets
  | _ => .ofDoubleChar (fun _ _ => none) octets

/-- The code points of four codes of Hong Kong that stand for two each. -/
def hongKongPairs : List (Nat × List Char) :=
  [(0x8862, ['\u00ca', '\u0304']), (0x8864, ['\u00ca', '\u030c']),
    (0x88A3, ['\u00ea', '\u0304']), (0x88A5, ['\u00ea', '\u030c'])]

/-- The characters of two octets in the set of Hong Kong. A part of the basic set gives way to
it. -/
def hongKong? (a b : UInt8) : Option (List Char) :=
  let code := codeOf a b
  let single := Taiwanese.hongKong.find? code
    <|> if 0xC6A1 ≤ code ∧ code ≤ 0xC8FE then none else Taiwanese.basic.find? code
  single.map (fun c => [c]) <|> (hongKongPairs.find? fun p => p.1 = code).map Prod.snd

/-- A piece of an encoding. -/
def Scheme.next : Scheme → List UInt8 → Piece
  | basic => .ofDoubleChar basicChar?
  | extended => .ofDoubleChar extendedChar?
  | complete => nextComplete
  | traditional => .ofDoubleChar fun a b => Taiwanese.basic.find? (codeOf a b)
  | traditionalWindows => .ofDoubleChar fun a b =>
    Taiwanese.windows.find? (codeOf a b) <|> Taiwanese.basic.find? (codeOf a b)
  | traditionalHongKong => .ofDouble hongKong?

end Chinese
end Text
end ToolGateway
