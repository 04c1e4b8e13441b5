/-
# Labels of host names

A label outside ASCII is checked before it is used: it is in composed form, its hyphens stand
where they may, it begins with no mark, each of its characters may stand where it stands, and its
direction is clear. A label is a list of code points, since one that was read back from its code
may hold what is no character.
-/
import ToolGateway.Http.HostName.Characters
import ToolGateway.Http.HostName.Direction
import ToolGateway.Text.Composition
import ToolGateway.Text.Punycode
import ToolGateway.Value.Text

namespace ToolGateway
namespace Http
namespace HostName

/-- Why a host name is none. Places are counted from one. -/
inductive NameFault where
  | nameTooLong
  | emptyName
  | emptyLabel
  | labelTooLong
  | notComposed
  | innerHyphens
  | outerHyphen
  | leadingMark
  /-- The character may stand in no label. -/
  | character (point place : Nat) (label : List Nat)
  /-- The character does not join what is beside it. -/
  | joiner (point place : Nat) (label : List Nat)
  /-- The character may not stand beside its neighbours. -/
  | neighbours (point place : Nat) (label : List Nat)
  | direction (fault : DirectionFault) (label : List Nat)
  | nothingCoded
  | codedHyphen
  | badCode
deriving DecidableEq, Repr

namespace NameFault

/-- The classes of faults. -/
inductive Family where
  | general
  | direction
  | character
  | context
deriving DecidableEq, Repr

/-- The class of a fault. -/
def family : NameFault → Family
  | character _ _ _ => .character
  | neighbours _ _ _ => .context
  | direction _ _ => .direction
  | _ => .general

/-- The number of a code point. -/
def pointText (n : Nat) : String :=
  let digits := (Nat.toDigits 16 n).map Char.toUpper
  "U+" ++ .ofList (List.replicate (4 - digits.length) '0' ++ digits)

/-- A label inside quotes. Code points that are no characters are escaped. -/
def quotedLabel (label : List Nat) : String :=
  let quote := Text.quoteFor (label.map Char.ofNat)
  .ofList (quote :: label.flatMap (fun n =>
    if n.isValidChar then Text.quotedChar quote (Char.ofNat n)
    else '\\' :: 'u' :: Text.hex 4 n) ++ [quote])

/-- The fault of a direction in words. -/
def directionMessage (label : List Nat) : DirectionFault → String
  | .unknown place =>
    "Unknown directionality in label " ++ quotedLabel label ++ " at position " ++ toString place
  | .first =>
    "First codepoint in label " ++ quotedLabel label ++ " must be directionality L, R or AL"
  | .inRight place =>
    "Invalid direction for codepoint at position " ++ toString place ++ " in a right-to-left label"
  | .inLeft place =>
    "Invalid direction for codepoint at position " ++ toString place ++ " in a left-to-right label"
  | .numbers => "Can not mix numeral types in a right-to-left label"
  | .last => "Label ends with illegal codepoint directionality"

/-- The fault in words. -/
def message : NameFault → String
  | nameTooLong => "Domain too long"
  | emptyName => "Empty domain"
  | emptyLabel => "Empty Label"
  | labelTooLong => "Label too long"
  | notComposed => "Label must be in Normalization Form C"
  | innerHyphens => "Label has disallowed hyphens in 3rd and 4th position"
  | outerHyphen => "Label must not start or end with a hyphen"
  | leadingMark => "Label begins with an illegal combining character"
  | character n place label =>
    "Codepoint " ++ pointText n ++ " at position " ++ toString place ++ " of "
      ++ quotedLabel label ++ " not allowed"
  | joiner n place label =>
    "Unknown codepoint adjacent to joiner " ++ pointText n ++ " at position " ++ toString place
      ++ " in " ++ quotedLabel label
  | neighbours n place label =>
    "Codepoint " ++ pointText n ++ " not allowed at position " ++ toString place ++ " in "
      ++ quotedLabel label
  | direction fault label => directionMessage label fault
  | nothingCoded => "Malformed A-label, no Punycode eligible content found"
  | codedHyphen => "A-label must not end with a hyphen"
  | badCode => "Invalid A-label"

end NameFault

namespace Label

/-! ## Characters that depend on their neighbours -/

/-- The code point, left out those through which letters join, is of a joining kind. -/
def joins (kinds : List Text.Ranges) (ns : List Nat) : Bool :=
  match ns.dropWhile transparentRanges.has with
  | n :: _ => kinds.any (·.has n)
  | [] => false

/-- The joiner joins: a sign is before it that takes a vowel away, or it keeps apart letters that
would join. Of the two joiners only the first can keep letters apart. Behind a character about
which nothing is known neither fits. `before` is in reverse. -/
def joinerFits (n : Nat) (before after : List Nat) : Bool :=
  !before.head?.any Direction.unknownRanges.has
    && (before.head?.any viramaRanges.has
      || n = 0x200C && joins [leftJoiningRanges, dualJoiningRanges] before
        && joins [rightJoiningRanges, dualJoiningRanges] after)

/-- The digits of two Arabic rows, of which a label has only one. -/
def isArabicDigit (n : Nat) : Bool := 0x660 ≤ n && n ≤ 0x669

/-- The digits of the second row. -/
def isExtendedDigit (n : Nat) : Bool := 0x6F0 ≤ n && n ≤ 0x6F9

/-- The characters whose neighbours matter, apart from the joiners. -/
def isContextual (n : Nat) : Bool :=
  n = 0xB7 || n = 0x375 || n = 0x5F3 || n = 0x5F4 || n = 0x30FB || isArabicDigit n
    || isExtendedDigit n

/-- A character whose neighbours matter stands where it may. `before` is in reverse. -/
def contextFits (n : Nat) (before after : List Nat) : Bool :=
  if n = 0xB7 then before.head? == some 0x6C && after.head? == some 0x6C
  else if n = 0x375 then after.head?.any greekRanges.has
  else if n = 0x5F3 || n = 0x5F4 then before.head?.any hebrewRanges.has
  else if n = 0x30FB then
    (before ++ after).any fun m => m != 0x30FB && japaneseRanges.has m
  else if isArabicDigit n then !(before ++ after).any isExtendedDigit
  else !(before ++ after).any isArabicDigit

/-- The fault of a character between those before it, in reverse, and those behind it. -/
def characterFault? (label before after : List Nat) (n : Nat) : Option NameFault :=
  let place := before.length + 1
  if plainRanges.has n then none
  else if n = 0x200C || n = 0x200D then
    if joinerFits n before after then none else some (.joiner n place label)
  else if isContextual n then
    if contextFits n before after then none else some (.neighbours n place label)
  else some (.character n place label)

/-- The fault of the first character that has one. -/
def charactersFault? (label before : List Nat) : List Nat → Option NameFault
  | [] => none
  | n :: rest => characterFault? label before rest n <|> charactersFault? label (n :: before) rest

/-! ## Whole labels -/

/-- The code point of a hyphen. -/
def hyphen : Nat := 0x2D

/-- A label is one that a name may have. -/
def check (label : List Nat) : Except NameFault Unit := do
  if label.isEmpty then throw .emptyLabel
  if !Text.Composition.isComposed label then throw .notComposed
  if (label.drop 2).take 2 = [hyphen, hyphen] then throw .innerHyphens
  if label.head? = some hyphen || label.getLast? = some hyphen then throw .outerHyphen
  if label.head?.any markRanges.has then throw .leadingMark
  if let some f := charactersFault? label [] label then throw f
  (Direction.check label).mapError (.direction · label)

/-- What is in front of the code of a label. -/
def codeMark : List Char := "xn--".toList

/-- A label in ASCII and in lower case is one that a name may have; a code is that of such a
label. -/
def checkAscii (label : List Char) : Except NameFault Unit := do
  if codeMark.isPrefixOf label then
    let code := label.drop codeMark.length
    if code.isEmpty then throw .nothingCoded
    if code.getLast? = some '-' then throw .codedHyphen
    match Text.Punycode.decode? false code with
    | none => throw .badCode
    | some points => check points
  else check (label.map Char.toNat)

/-- The most octets of a label. -/
def octetLimit : Nat := 63

/-- A label in ASCII. -/
def toAscii (label : List Char) : Except NameFault (List Char) := do
  let out ←
    if label.all (·.toNat < 128) then do
      checkAscii label
      pure label
    else do
      let points := label.map Char.toNat
      check points
      pure (codeMark ++ Text.Punycode.encode points)
  if octetLimit < out.length then throw .labelTooLong
  return out

end Label
end HostName
end Http
end ToolGateway
