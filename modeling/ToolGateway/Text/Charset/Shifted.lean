/-
# Encodings with shifts

Some encodings keep to octets below 128 and change the set of characters on the way. In most of
them an escape begins a choice: it puts a set in one of three places. The first place is in use; a
shift brings the second one into use up to the end of the line, and a character of the third one
follows a mark of its own. Another encoding has tildes in place of escapes.
-/
import ToolGateway.Text.Charset.Chinese
import ToolGateway.Text.Charset.Japanese
import ToolGateway.Text.Charset.Korean

namespace ToolGateway
namespace Text

/-- A set that can be chosen. -/
inductive CodeSet where
  | ascii
  | latin
  | greek
  | roman
  | kana
  | japanese
  | earlyJapanese
  | supplement
  | firstPlane (revised : Bool)
  | secondPlane (revised : Bool)
  | korean
  | chinese
deriving DecidableEq, Repr

namespace CodeSet

/-- Each character has two octets. -/
def isDouble : CodeSet → Bool
  | ascii | latin | greek | roman | kana => false
  | _ => true

/-- The last octet of a choice of the set. -/
def mark : CodeSet → Char
  | ascii | japanese => 'B'
  | latin | chinese => 'A'
  | greek => 'F'
  | roman => 'J'
  | kana => 'I'
  | earlyJapanese => '@'
  | supplement => 'D'
  | firstPlane false => 'O'
  | firstPlane true => 'Q'
  | secondPlane _ => 'P'
  | korean => 'C'

/-- The number of octets of a character. -/
def width (s : CodeSet) : Nat := if s.isDouble then 2 else 1

/-- The characters of an octet. The sets that are chosen for the third place alone have none
here. -/
def single? (s : CodeSet) (a : UInt8) : Option Char :=
  match s with
  | ascii => some (Char.ofNat a.toNat)
  | roman => if a < 0x80 then Japanese.planesSingle? a else none
  | kana => Japanese.halfWidth? (a ^^^ 0x80)
  | _ => none

/-- The characters of a code of two octets. -/
def double? (s : CodeSet) (code : Nat) : Option (List Char) :=
  let plain (c : Option Char) : Option (List Char) := c.map fun c => [c]
  match s with
  | japanese | earlyJapanese => plain (Japanese.basicChar? code)
  | supplement => plain (Japanese.supplement.find? code)
  | firstPlane revised =>
    if code = Japanese.tildeCode then some ['~'] else Japanese.firstPlane? revised code
  | secondPlane _ => plain (Japanese.secondPlane.find? code)
  | korean => plain (Korean.char? code)
  | chinese => plain (Chinese.basic.find? code)
  | _ => none

/-- The characters of an octet in the third place: there it stands for one of the upper half. -/
def upper? (s : CodeSet) (a : UInt8) : Option (Option Char) :=
  match s with
  | latin => some (if a < 0x80 then some (Char.ofNat (a.toNat + 0x80)) else none)
  | greek => some (greekUpper? (a ^^^ 0x80).toNat)
  | ascii => some (if a < 0x80 then some (Char.ofNat a.toNat) else none)
  | _ => none
where
  /-- The characters of the upper half of the Greek set, and what is below. -/
  greekUpper? (n : Nat) : Option Char :=
    if n < 0xA0 then some (Char.ofNat n)
    else if [0xA0, 0xA3, 0xA6, 0xA7, 0xA8, 0xA9, 0xAB, 0xAC, 0xAD, 0xB0, 0xB1, 0xB2, 0xB3, 0xB7,
        0xBB, 0xBD].contains n then some (Char.ofNat n)
    else if 0xB4 ≤ n ∧ n ≤ 0xFE ∧ n ≠ 0xD2 then some (Char.ofNat (0x2D0 + n))
    else if n = 0xA1 then some '\u2018'
    else if n = 0xA2 then some '\u2019'
    else if n = 0xAF then some '\u2015'
    else none

end CodeSet

/-- What an encoding with escapes allows: its sets, shifts, longer choices and the third place. -/
structure ShiftKit where
  sets : List CodeSet
  shifts : Bool
  longer : Bool
  third : Bool
deriving DecidableEq, Repr

namespace ShiftKit

/-- The Korean encoding with shifts. -/
def korean : ShiftKit := ⟨[.korean], true, false, false⟩

/-- A Japanese encoding with escapes and some sets. -/
def japanese (sets : List CodeSet) : ShiftKit := ⟨.japanese :: sets, false, true, false⟩

/-- The sets of several languages. -/
def several : ShiftKit :=
  ⟨[.japanese, .supplement, .korean, .chinese, .roman, .earlyJapanese, .latin, .greek],
    false, true, true⟩

/-- The sets in the three places, whether the second one is in use, and whether an escape that is no
choice goes on. -/
structure State where
  first : CodeSet
  second : CodeSet
  third : CodeSet
  shifted : Bool
  passing : Bool
deriving DecidableEq, Repr

/-- At the start all places hold ASCII. -/
def State.start : State := ⟨.ascii, .ascii, .ascii, false, false⟩

/-- The octet ends a choice. -/
def endsChoice (b : UInt8) : Bool := 0x40 ≤ b && b ≤ 0x5A

/-- The octet behind an escape begins a choice. -/
def beginsChoice (b : UInt8) : Bool := [0x28, 0x29, 0x24, 0x2E, 0x26].contains b

/-- Choices are shorter than this. -/
def choiceLimit : Nat := 16

/-- Where a choice ends. -/
inductive ChoiceEnd where
  | after (length : Nat)
  | unknown
  | nowhere
deriving DecidableEq, Repr

/-- Where a choice ends whose octets from a place on are given. In a longer choice a mark and the
octet behind it are passed over. -/
def choiceEnd (k : ShiftKit) : Nat → Nat → List UInt8 → ChoiceEnd
  | 0, _, _ => .nowhere
  | _ + 1, _, [] => .unknown
  | fuel + 1, place, b :: rest =>
    if choiceLimit ≤ place then .nowhere
    else if endsChoice b then .after (place + 1)
    else if k.longer && b = 0x26 && rest.head? = some 0x40 then
      choiceEnd k (fuel - 2) (place + 3) (rest.drop 2)
    else choiceEnd k fuel (place + 1) rest

/-- A place for a set. -/
inductive Slot where
  | first
  | second
  | third
deriving DecidableEq, Repr

/-- The place, the width and the mark of a choice. -/
def choiceParts? (k : ShiftKit) : List UInt8 → Option (Slot × Bool × UInt8)
  | [_, 0x24, m] => some (.first, true, m)
  | [_, 0x28, m] => some (.first, false, m)
  | [_, 0x29, m] => some (.second, false, m)
  | [_, 0x2E, m] => if k.third then some (.third, false, m) else none
  | [_, 0x24, 0x28, m] => some (.first, true, m)
  | [_, 0x24, 0x29, m] => some (.second, true, m)
  | [_, _, _, 0x1B, 0x24, 0x42] => if k.longer then some (.first, true, 0x42) else none
  | _ => none

/-- The place and the set of a choice. -/
def choice? (k : ShiftKit) (octets : List UInt8) : Option (Slot × CodeSet) := do
  let (slot, double, m) ← k.choiceParts? octets
  let set ← (.ascii :: k.sets).find? fun s => s.isDouble = double && s.mark.toNat = m.toNat
  return (slot, set)

/-- The sets after a choice. -/
def State.put (s : State) : Slot × CodeSet → State
  | (.first, set) => { s with first := set }
  | (.second, set) => { s with second := set }
  | (.third, set) => { s with third := set }

/-- A choice in front of octets. -/
def nextChoice (k : ShiftKit) (s : State) (octets : List UInt8) : Piece × State :=
  match k.choiceEnd choiceLimit 1 (octets.drop 1) with
  | .unknown => (.short, s)
  | .nowhere => (.broken 1, s)
  | .after n =>
    match k.choice? (octets.take n) with
    | some c => (.chars [] n, s.put c)
    | none => (.broken n, s)

/-- A character of a set in front of octets. -/
def nextOf (set : CodeSet) : List UInt8 → Piece
  | a :: b :: _ =>
    match (if set.isDouble then set.double? (a.toNat * 256 + b.toNat)
      else (set.single? a).map fun c => [c]) with
    | some cs => .chars cs set.width
    | none => .broken set.width
  | [a] =>
    if set.isDouble then .short
    else .ofOption ((set.single? a).map fun c => [c]) 1
  | [] => .short

/-- A piece of an encoding. -/
def next (k : ShiftKit) (s : State) : List UInt8 → Piece × State
  | [] => (.short, s)
  | a :: rest =>
    let plain : Piece := .one (Char.ofNat a.toNat) 1
    if s.passing then (plain, { s with passing := !endsChoice a })
    else if a = 0x1B then
      match rest with
      | [] => (.short, s)
      | b :: more =>
        if beginsChoice b then k.nextChoice s (a :: rest)
        else if k.third && b = 0x4E then
          match more with
          | [] => (.short, s)
          | c :: _ =>
            match s.third.upper? c with
            | some (some c) => (.one c 3, s)
            | some none => (.broken 3, s)
            | none => (.refused, s)
        else (plain, { s with passing := true })
    else if k.shifts && a = 0x0F then (.chars [] 1, { s with shifted := false })
    else if k.shifts && a = 0x0E then (.chars [] 1, { s with shifted := true })
    else if a = 0x0A then (plain, { s with shifted := false })
    else if a < 0x20 then (plain, s)
    else if 0x80 ≤ a then (.broken 1, s)
    else (nextOf (if s.shifted then s.second else s.first) (a :: rest), s)

end ShiftKit

/-! ## Tildes -/

/-- A piece of the encoding with tildes; the state tells whether the Chinese set is in use. -/
def nextTilde (chinese : Bool) : List UInt8 → Piece × Bool
  | [] => (.short, chinese)
  | 0x7E :: rest =>
    match rest with
    | [] => (.short, chinese)
    | b :: _ =>
      if chinese then
        if b = 0x7D then (.chars [] 2, false) else (.broken 1, true)
      else if b = 0x7E then (.one '~' 2, false)
      else if b = 0x7B then (.chars [] 2, true)
      else if b = 0x0A then (.chars [] 2, false)
      else (.broken 1, false)
  | a :: rest =>
    if 0x80 ≤ a then (.broken 1, chinese)
    else if !chinese then (.one (Char.ofNat a.toNat) 1, false)
    else
      match rest with
      | [] => (.short, true)
      | b :: _ =>
        (.ofOption ((Chinese.basic.find? (a.toNat * 256 + b.toNat)).map fun c => [c]) 2, true)

end Text
end ToolGateway
