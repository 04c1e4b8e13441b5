/-
# Korean encodings

The Korean set lists the usual syllables. One encoding adds the others in the order of their code
points, another one spells out every syllable by its parts: an initial consonant, a vowel and a
final consonant.
-/
import ToolGateway.Text.Charset.KoreanTable
import ToolGateway.Text.Charset.Piece

namespace ToolGateway
namespace Text
namespace Korean

/-- The encodings. -/
inductive Scheme where
  | basic
  | windows
  | parts
deriving DecidableEq, Repr

/-- The character of two octets with the highest bit. -/
def basicChar? (a b : UInt8) : Option Char :=
  basic.find? ((a ^^^ 0x80).toNat * 256 + (b ^^^ 0x80).toNat)

/-! ## Syllables -/

/-- The number of finals, none among them. -/
def finalCount : Nat := 28

/-- The number of vowels. -/
def vowelCount : Nat := 21

/-- The number of initials. -/
def initialCount : Nat := 19

/-- The number of syllables. -/
def syllableCount : Nat := initialCount * vowelCount * finalCount

/-- The syllable of three parts. -/
def syllable (initial vowel final : Nat) : Char :=
  Char.ofNat (0xAC00 + (initial * vowelCount + vowel) * finalCount + final)

/-- The letters of the initials. -/
def initialLetters : List Char := "ㄱㄲㄴㄷㄸㄹㅁㅂㅃㅅㅆㅇㅈㅉㅊㅋㅌㅍㅎ".toList

/-- The letters of the finals. -/
def finalLetters : List Char := "ㄱㄲㄳㄴㄵㄶㄷㄹㄺㄻㄼㄽㄾㄿㅀㅁㅂㅄㅅㅆㅇㅈㅊㅋㅌㅍㅎ".toList

/-- The letter of a vowel. -/
def vowelLetter (vowel : Nat) : Char := Char.ofNat (0x314F + vowel)

example : syllable 18 0 4 = '한' := by decide
example : initialLetters.length = initialCount := by decide
example : finalLetters.length + 1 = finalCount := by decide

/-! ## Spelled syllables in the basic set -/

/-- The letter of an octet that spells out a part. -/
def spelled? (b : UInt8) : Option Char := basicChar? 0xA4 b

/-- The mark in front of a spelled syllable; it also stands for a final that is not there. -/
def filler : UInt8 := 0xD4

/-- A spelled syllable: the mark and three letters, each behind the same first octet. -/
def spelledSyllable? : List UInt8 → Option Char
  | [_, _, 0xA4, i, 0xA4, v, 0xA4, f] => do
    let initial ← initialLetters.idxOf? (← spelled? i)
    guard (0xBF ≤ v && v ≤ 0xD3)
    let final ←
      if f = filler then pure 0 else do
        let place ← finalLetters.idxOf? (← spelled? f)
        pure (place + 1)
    return syllable initial (v.toNat - 0xBF) final
  | _ => none

/-- A piece of the basic set. -/
def nextBasic : List UInt8 → Piece
  | [] => .short
  | a :: rest =>
    if a < 0x80 then .one (Char.ofNat a.toNat) 1
    else
      match rest with
      | [] => .short
      | b :: _ =>
        if a = 0xA4 ∧ b = filler then
          if rest.length < 7 then .short
          else .ofOption ((spelledSyllable? (a :: rest.take 7)).map fun c => [c]) 8
        else .ofOption ((basicChar? a b).map fun c => [c]) 2

/-! ## All syllables in order -/

/-- The filler as a character. -/
def fillerChar : Char := '\u3164'

/-- The code of the filler. -/
def fillerCode : Nat := 0x2454

/-- The character of a code in the set, the filler included. -/
def char? (code : Nat) : Option Char :=
  if code = fillerCode then some fillerChar else basic.find? code

/-- The syllables that the basic set lacks, in the order of their code points. -/
def syllables : Array Char :=
  let known := basic.flatMap (·.chars)
  let seen := known.foldl (fun seen c => seen.setIfInBounds (c.toNat - 0xAC00) true)
    (Array.replicate syllableCount false)
  (((List.range syllableCount).filter fun i => !seen[i]?.getD false).map
    fun i => Char.ofNat (0xAC00 + i)).toArray

/-- The place of an octet behind the first one of a syllable. -/
def syllableCell? (b : UInt8) : Option Nat :=
  if 0x41 ≤ b ∧ b ≤ 0x5A then some (b.toNat - 0x41)
  else if 0x61 ≤ b ∧ b ≤ 0x7A then some (b.toNat - 0x61 + 26)
  else if 0x81 ≤ b ∧ b ≤ 0xFE then some (b.toNat - 0x81 + 52)
  else none

/-- The place of two octets among the added syllables: whole rows, then the fronts of rows. -/
def syllablePlace? (a b : UInt8) : Option Nat := do
  let cell ← syllableCell? b
  if 0x81 ≤ a ∧ a ≤ 0xA0 then return 178 * (a.toNat - 0x81) + cell
  if 0xA1 ≤ a ∧ a ≤ 0xC6 ∧ cell < 84 then return 5696 + 84 * (a.toNat - 0xA1) + cell
  none

/-- The character of two octets in the set with all syllables. -/
def windowsChar? (a b : UInt8) : Option Char :=
  if a = 0xA4 ∧ b = filler then some fillerChar
  else basicChar? a b <|> (syllablePlace? a b).bind fun i => syllables[i]?

/-! ## Syllables by their parts -/

/-- A part of a syllable, which may be left out. -/
inductive Part where
  | nothing
  | letter (place : Nat)
deriving DecidableEq, Repr

/-- The part in five bits: the value for none, and the runs of values for letters in order. -/
def part? (absent : Nat) (runs : List (Nat × Nat)) (bits : Nat) : Option Part :=
  if bits = absent then some .nothing else go 0 runs
where
  /-- The letter that the bits stand for; `before` counts the letters of the runs before. -/
  go (before : Nat) : List (Nat × Nat) → Option Part
    | [] => none
    | (first, count) :: more =>
      if first ≤ bits ∧ bits < first + count then some (.letter (before + (bits - first)))
      else go (before + count) more

/-- The initial in five bits. -/
def initial? : Nat → Option Part := part? 1 [(2, 19)]

/-- The vowel in five bits. -/
def vowel? : Nat → Option Part := part? 2 [(3, 5), (10, 6), (18, 6), (26, 4)]

/-- The final in five bits. -/
def final? : Nat → Option Part := part? 1 [(2, 16), (19, 11)]

/-- The character of three parts: a syllable or a single letter. -/
def joined? : Part → Part → Part → Option Char
  | .letter i, .letter v, .letter f => some (syllable i v (f + 1))
  | .letter i, .letter v, .nothing => some (syllable i v 0)
  | .letter i, .nothing, .nothing => initialLetters[i]?
  | .nothing, .letter v, .nothing => some (vowelLetter v)
  | .nothing, .nothing, .letter f => finalLetters[f]?
  | .nothing, .nothing, .nothing => some '\u3000'
  | _, _, _ => none

/-- The syllable or letter of two octets. -/
def partsSyllable? (a b : UInt8) : Option Char := do
  let code := a.toNat * 256 + b.toNat
  let i ← initial? (code / 1024 % 32)
  let v ← vowel? (code / 32 % 32)
  let f ← final? (code % 32)
  joined? i v f

/-- The other characters of the basic set, two rows for each first octet. -/
def partsOther? (a b : UInt8) : Option Char :=
  if a < 0xD9 ∨ a = 0xDF ∨ 0xF9 < a ∨ b < 0x31 ∨ (0x80 ≤ b ∧ b < 0x91) ∨ b &&& 0x7F = 0x7F
      ∨ (a = 0xDA ∧ 0xA1 ≤ b ∧ b ≤ 0xD3) then none
  else if a = 0xDA ∧ b = filler then some fillerChar
  else
    let row := if a < 0xE0 then 2 * (a.toNat - 0xD9) else 2 * a.toNat - 0x197
    let cell := if b < 0x91 then b.toNat - 0x31 else b.toNat - 0x43
    let (row, cell) := if cell < 94 then (row, cell) else (row + 1, cell - 94)
    basic.find? ((row + 0x21) * 256 + cell + 0x21)

/-- The character of two octets that spell out parts. -/
def partsChar? (a b : UInt8) : Option Char :=
  if a < 0xD8 then partsSyllable? a b else partsOther? a b

/-- A piece of an encoding. -/
def Scheme.next : Scheme → List UInt8 → Piece
  | basic => nextBasic
  | windows => .ofDoubleChar windowsChar?
  | parts => .ofDoubleChar partsChar?

end Korean
end Text
end ToolGateway
