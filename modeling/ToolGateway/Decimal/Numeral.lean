/-
# Numerals in settings

A setting is a text, and a number in it may have blanks around it, a sign, digits of any script,
and single underscores between digits.
-/
import ToolGateway.Decimal.Binary64
import ToolGateway.Decimal.DigitLimit
import ToolGateway.Json.Reader
import ToolGateway.Text.Blank
import ToolGateway.Text.LetterCase

namespace ToolGateway
namespace Numeral

/-- A blank that may stand around a numeral: of the ASCII ones the six common ones only. -/
def isMargin (c : Char) : Bool :=
  if c.toNat < 128 then c = ' ' || (9 ≤ c.toNat && c.toNat ≤ 13) else Text.isBlank c

/-- A digit of any script as an ASCII digit. -/
def plainDigit (c : Char) : Char :=
  match Text.digitValue? c with
  | some d => Char.ofNat (48 + d)
  | none => c

/-- The text without blanks around it and with ASCII digits only. -/
def plain (s : String) : List Char :=
  ((s.toList.dropWhile isMargin).reverse.dropWhile isMargin).reverse.map plainDigit

/-- The digits of a group in which a single underscore may stand between two digits. -/
def groupedDigits? : List Char → Option (List Char)
  | [] => none
  | [c] => if c.isDigit then some [c] else none
  | c :: '_' :: rest => if c.isDigit then (groupedDigits? rest).map (c :: ·) else none
  | c :: rest => if c.isDigit then (groupedDigits? rest).map (c :: ·) else none

/-- A sign at the front: whether it is a minus, and the rest. -/
def signed : List Char → Bool × List Char
  | '-' :: rest => (true, rest)
  | '+' :: rest => (false, rest)
  | cs => (false, cs)

/-- Why a text is no integer. -/
inductive IntegerFault where
  | malformed
  | tooManyDigits (count : Nat)

/-- The integer that a text stands for. -/
def integer (s : String) : Except IntegerFault Int :=
  let (negative, digits) := signed (plain s)
  match groupedDigits? digits with
  | none => .error .malformed
  | some ds =>
    if DigitLimit.limit < ds.length then .error (.tooManyDigits ds.length)
    else
      let n : Int := Json.digitsNumber ds
      .ok (if negative then -n else n)

/-- A group of digits that may be empty. -/
def optionalDigits? (cs : List Char) : Option (List Char) :=
  if cs.isEmpty then some [] else groupedDigits? cs

/-- The parts of a decimal: digits before and behind the point, and the exponent. -/
def decimal? (negative : Bool) (cs : List Char) : Option Binary64 := do
  let mantissa := cs.takeWhile fun c => c != 'e' && c != 'E'
  let exponent ← match cs.drop mantissa.length with
    | [] => some (0 : Int)
    | _ :: rest => do
      let (minus, digits) := signed rest
      let ds ← groupedDigits? digits
      let n : Int := Json.digitsNumber ds
      some (if minus then -n else n)
  let whole := mantissa.takeWhile (· != '.')
  let fraction := (mantissa.drop whole.length).drop 1
  let ds ← optionalDigits? whole
  let fs ← optionalDigits? fraction
  if ds.isEmpty && fs.isEmpty then none
  else some (.ofDecimal negative (Json.digitsNumber (ds ++ fs)) (exponent - fs.length))

/-- The float that a text stands for. -/
def float? (s : String) : Option Binary64 :=
  let (negative, cs) := signed (plain s)
  match Text.asciiLower (.ofList cs) with
  | "inf" | "infinity" => some (.infinity negative)
  | "nan" => some .nan
  | _ => decimal? negative cs

end Numeral
end ToolGateway
