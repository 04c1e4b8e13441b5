/-
# Whole numbers

Where a whole number is asked for, a truth value counts as one or zero, a float counts if it has no
fraction, and a text counts if it is the numeral of one: blanks may stand around it, zeros in front
of it and after a point, and single underscores between its digits.
-/
import ToolGateway.Check.Shape
import ToolGateway.Decimal.Numeral

namespace ToolGateway
namespace Whole

/-- A character among the zeros in front of a numeral. -/
def isFiller (c : Char) : Bool := c = '0' || c = '_'

/-- Leaves out the zeros in front, with the underscores among them. If no other digit stands before
the point, the last of them stays. -/
def dropZeros (cs : List Char) : List Char :=
  if cs.head? = some '0' then
    let fillers := cs.takeWhile isFiller
    let rest := cs.drop fillers.length
    if rest.head?.all (· = '.') then fillers.getLast?.toList ++ rest else rest
  else cs

/-- Leaves out a point with nothing but zeros behind it. -/
def dropFraction (cs : List Char) : List Char :=
  let whole := cs.takeWhile (· != '.')
  if (cs.drop (whole.length + 1)).all (· = '0') then whole else cs

/-- The digits of an integer without needless zeros, in which a single underscore may stand between
two digits. -/
def digits? (cs : List Char) : Option (List Char) :=
  match Numeral.groupedDigits? (dropFraction cs) with
  | some ds => if ds.head? = some '0' && 1 < ds.length then none else some ds
  | none => none

/-- The sign and the digits of the numeral of a whole number. -/
def signedDigits? (s : String) : Option (Bool × List Char) :=
  match ((s.toList.dropWhile Numeral.isMargin).reverse.dropWhile Numeral.isMargin).reverse with
  | '-' :: cs => (digits? cs).map (true, ·)
  | '+' :: cs => (digits? (dropZeros cs)).map (false, ·)
  | cs => (digits? (dropZeros cs)).map (false, ·)

/-- The whole number that a text stands for. -/
def ofText (s : String) : Except IssueKind Int :=
  match signedDigits? s with
  | none => .error .unreadableInteger
  | some (negative, ds) =>
    if DigitLimit.limit < ds.length then .error .hugeInteger
    else
      let n : Int := Json.digitsNumber ds
      .ok (if negative then -n else n)

/-- The whole number that a float equals; it must fit a word. -/
def ofFloat (x : Binary64) : Except IssueKind Int :=
  match x.integer? with
  | some i => if Step.fitsWord i then .ok i else .error .hugeInteger
  | none => .error (if x.isFinite then .fraction else .notFinite)

/-- The whole number that a value counts as. -/
def ofValue : Value → Except IssueKind Int
  | .int i => .ok i
  | .bool b => .ok (if b then 1 else 0)
  | .float x => ofFloat x
  | .text s => ofText s
  | _ => .error .notInteger

example : (ofText " +007_0.0 ").toOption = some 70 := by decide +kernel
example : (ofText "-07").toOption = none := by decide +kernel

end Whole

namespace Shape

/-- A whole number. -/
def whole : Shape Int := fun v =>
  match Whole.ofValue v with
  | .ok i => .fine i
  | .error kind => .issue kind v

/-- An integer as it stands. -/
def integer : Shape Int
  | .int i => .fine i
  | v => .issue .notInteger v

end Shape
end ToolGateway
