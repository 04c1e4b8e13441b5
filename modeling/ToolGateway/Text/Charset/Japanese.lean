/-
# Japanese encodings

Two families of encodings share the Japanese sets. In the one a code is moved so that its octets
leave room for single octets that are letters of half width; in the other its octets are set apart
from ASCII by their highest bit, and marks in front lead to letters of half width and to another
set.
-/
import ToolGateway.Text.Charset.JapanesePlanes
import ToolGateway.Text.Charset.JapaneseTable
import ToolGateway.Text.Charset.Piece

namespace ToolGateway
namespace Text
namespace Japanese

/-- The encodings. Of the extended set there is an earlier form, which lacks some characters. -/
inductive Scheme where
  | moved
  | movedWindows
  | movedPlanes (revised : Bool)
  | marked
  | markedPlanes (revised : Bool)
deriving DecidableEq, Repr

/-- The letter of half width that a single octet stands for. -/
def halfWidth? (b : UInt8) : Option Char :=
  if 0xA1 ≤ b ∧ b ≤ 0xDF then some (Char.ofNat (0xFEC0 + b.toNat)) else none

/-- The code of the reverse solidus of full width. -/
def solidusCode : Nat := 0x2140

/-- The code of the tilde of full width. -/
def tildeCode : Nat := 0x2232

/-- The character of a code in the basic set. -/
def basicChar? (code : Nat) : Option Char := basic.find? code

/-- The codes that the earlier form of the extended set lacks. -/
def laterCodes : List Nat :=
  [0x2E21, 0x2F7E, 0x4F54, 0x4F7E, 0x7427, 0x7E7A, 0x7E7B, 0x7E7C, 0x7E7D, 0x7E7E]

/-- The code is lacking in the earlier form. -/
def lacks (revised : Bool) (code : Nat) : Bool := !revised && laterCodes.contains code

/-- The characters of a code in the first plane. -/
def firstPlane? (revised : Bool) (code : Nat) : Option (List Char) :=
  if lacks revised code then none
  else
    ((basicChar? code <|> firstPlane.find? code).map fun c => [c])
      <|> (pairs.find? fun p => p.1 = code).map Prod.snd

/-- The character of a code in the second plane. One of them has another form in the earlier
set. -/
def secondPlane? (revised : Bool) (code : Nat) : Option Char :=
  if !revised && code = 0x7D3B then some '\u9b1d' else secondPlane.find? code

/-! ## Moved codes -/

/-- The row and the cell, both from zero on, of two octets. -/
def movedPlace? (a b : UInt8) : Option (Nat × Nat) :=
  if b < 0x40 ∨ b = 0x7F ∨ 0xFC < b then none
  else
    let front := if a < 0xE0 then a.toNat - 0x81 else a.toNat - 0xC1
    let back := if b < 0x80 then b.toNat - 0x40 else b.toNat - 0x41
    if back < 94 then some (2 * front, back) else some (2 * front + 1, back - 94)

/-- The code of a row and a cell. -/
def codeAt (row cell : Nat) : Nat := (row + 0x21) * 256 + cell + 0x21

/-- An octet that begins a code of two. -/
def isMovedLead (a : UInt8) : Bool := (0x81 ≤ a && a ≤ 0x9F) || (0xE0 ≤ a && a ≤ 0xFC)

/-- A moved code of the basic set. -/
def moved? (a b : UInt8) : Option (List Char) := do
  let (row, cell) ← movedPlace? a b
  let c ← basicChar? (codeAt row cell)
  return [c]

/-- A moved code of the basic set with its extension and with characters of private use. -/
def movedWindows? (a b : UInt8) : Option (List Char) := do
  let (row, cell) ← movedPlace? a b
  let c ← extension.find? (codeAt row cell) <|> basicChar? (codeAt row cell)
    <|> if 0xF0 ≤ a ∧ a ≤ 0xF9 then
        some (Char.ofNat (0xE000 + 94 * (row - 94) + cell))
      else none
  return [c]

/-- The rows of the second plane in the order of their moved codes. -/
def secondRows : List Nat :=
  [1, 8, 3, 4, 5, 12, 13, 14, 15] ++ (List.range 17).map (· + 78)

/-- A moved code of the two planes. -/
def movedPlanes? (revised : Bool) (a b : UInt8) : Option (List Char) := do
  let (row, cell) ← movedPlace? a b
  if row < 94 then
    let code := codeAt row cell
    if code = solidusCode then return ['\\']
    if code = tildeCode then return ['~']
    firstPlane? revised code
  else
    let row ← secondRows[row - 94]?
    let c ← secondPlane? revised (codeAt (row - 1) cell)
    return [c]

/-- A piece of a code of the two planes. A code that is lacking is broken as a whole. -/
def planesPiece (revised : Bool) (code : Nat) (cs : Option (List Char)) : Piece :=
  if lacks revised code then .broken 2 else .ofOption cs 2

/-- A piece of a moved code of the two planes. -/
def movedPlanes (revised : Bool) (a b : UInt8) : Piece :=
  match movedPlace? a b with
  | some (row, cell) =>
    planesPiece (revised || 94 ≤ row) (codeAt row cell) (movedPlanes? revised a b)
  | none => .broken 1

/-- A single octet of the encoding of Windows. -/
def windowsSingle? (a : UInt8) : Option Char :=
  if a ≤ 0x80 then some (Char.ofNat a.toNat)
  else if a = 0xA0 then some '\uf8f0'
  else if 0xFD ≤ a then some (Char.ofNat (0xF8F1 + (a.toNat - 0xFD)))
  else halfWidth? a

/-- A single octet of the encodings of the two planes: two signs of ASCII are others. -/
def planesSingle? (a : UInt8) : Option Char :=
  if a = 0x5C then some '¥'
  else if a = 0x7E then some '‾'
  else if a < 0x80 then some (Char.ofNat a.toNat)
  else halfWidth? a

/-- A piece of moved codes. -/
def nextMoved (single? : UInt8 → Option Char) (double : UInt8 → UInt8 → Piece) :
    List UInt8 → Piece
  | [] => .short
  | a :: rest =>
    match single? a with
    | some c => .one c 1
    | none =>
      if isMovedLead a then
        match rest with
        | [] => .short
        | b :: _ => double a b
      else .broken 1

/-! ## Marked codes -/

/-- The code of two octets with the highest bit. -/
def markedCode (a b : UInt8) : Nat := (a ^^^ 0x80).toNat * 256 + (b ^^^ 0x80).toNat

/-- A piece of marked codes. -/
def nextMarked (double : Nat → Piece) (triple? : Nat → Option (List Char)) :
    List UInt8 → Piece
  | [] => .short
  | a :: rest =>
    if a < 0x80 then .one (Char.ofNat a.toNat) 1
    else
      match rest with
      | [] => .short
      | b :: more =>
        if a = 0x8E then .ofOption ((halfWidth? b).map fun c => [c]) 2
        else if a = 0x8F then
          match more with
          | [] => .short
          | c :: _ => .ofOption (triple? (markedCode b c)) 3
        else double (markedCode a b)

/-- A marked code of the two planes. -/
def markedPlanes? (revised : Bool) (code : Nat) : Option (List Char) :=
  if code = tildeCode then some ['\uff5e'] else firstPlane? revised code

/-- A marked code of the second plane, or else of the supplementary set. -/
def markedSecond? (revised : Bool) (code : Nat) : Option (List Char) :=
  (secondPlane? revised code <|> supplement.find? code).map fun c => [c]

/-- A piece of an encoding. -/
def Scheme.next : Scheme → List UInt8 → Piece
  | moved =>
    nextMoved (fun a => if a < 0x80 then some (Char.ofNat a.toNat) else halfWidth? a)
      fun a b => .ofOption (moved? a b) 2
  | movedWindows => nextMoved windowsSingle? fun a b => .ofOption (movedWindows? a b) 2
  | movedPlanes revised => nextMoved planesSingle? (Japanese.movedPlanes revised)
  | marked =>
    nextMarked (fun code => .ofOption ((basicChar? code).map fun c => [c]) 2)
      (fun code => (supplement.find? code).map fun c => [c])
  | markedPlanes revised =>
    nextMarked (fun code => planesPiece revised code (markedPlanes? revised code))
      (markedSecond? revised)

end Japanese
end Text
end ToolGateway
