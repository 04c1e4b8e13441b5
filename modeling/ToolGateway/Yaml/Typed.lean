/-
# Scalars by their tags

A scalar is a text with a tag, and the tag says what the text is to be read as. A text that has not
the form of its tag is a fault of the scalar; a tag that is not known makes the document malformed.
-/
import ToolGateway.Decimal.Numeral
import ToolGateway.Text.Front
import ToolGateway.Text.Hexadecimal
import ToolGateway.Value.Basic
import ToolGateway.Yaml.Cursor
import ToolGateway.Yaml.Tag

namespace ToolGateway
namespace Yaml
namespace Typed

/-- Without the underscores that group digits. -/
def ungrouped (s : String) : List Char := s.toList.filter (· != '_')

/-- The parts between colons. -/
def sixtyParts (cs : List Char) : List String := (cs.splitOn ':').map String.ofList

/-! ## Truth values -/

/-- The truth value that a word stands for, whatever its case. -/
def truth (s : String) : Except ScalarFault Bool :=
  match Text.lower s with
  | "yes" | "true" | "on" => .ok true
  | "no" | "false" | "off" => .ok false
  | other => .error (.unknownTruth other)

/-! ## Integers -/

/-- The digits behind the mark of a base, which may be repeated. -/
def withoutMark (base : Nat) : List Char → List Char
  | '0' :: m :: rest =>
    let mark := if base = 2 then 'b' else if base = 8 then 'o' else 'x'
    if m = mark ∨ m = mark.toUpper then rest else '0' :: m :: rest
  | cs => cs

/-- The natural that digits of a base stand for; there is at least one digit. -/
def basedNatural? (base : Nat) (cs : List Char) : Option Nat :=
  if cs.isEmpty then none
  else cs.foldlM (fun n c => do
    let d ← Text.hexValue? c
    if d < base then some (n * base + d) else none) 0

/-- The integer that a text stands for in a base other than ten. -/
def basedInteger (base : Nat) (cs : List Char) : Except ScalarFault Int :=
  let (negative, digits) := Numeral.signed (Numeral.plain (.ofList cs))
  match basedNatural? base (withoutMark base digits) with
  | some n => .ok (if negative then -(n : Int) else n)
  | none => .error (.badInteger (.ofList cs) base)

/-- The integer that a text stands for in base ten. -/
def decimalInteger (s : String) : Except ScalarFault Int :=
  match Numeral.integer s with
  | .ok n => .ok n
  | .error .malformed => .error (.badInteger s 10)
  | .error (.tooManyDigits count) => .error (.tooManyDigits count)

/-- The integer behind the sign: binary, hexadecimal, octal behind a zero, in steps of sixty, or
decimal. -/
def magnitude (cs : List Char) : Except ScalarFault Int :=
  match cs with
  | [] => .error .emptyNumber
  | ['0'] => .ok 0
  | '0' :: 'b' :: rest => basedInteger 2 rest
  | '0' :: 'x' :: rest => basedInteger 16 rest
  | '0' :: rest => basedInteger 8 ('0' :: rest)
  | cs =>
    if cs.contains ':' then do
      let parts ← (sixtyParts cs).mapM decimalInteger
      return parts.foldl (fun n d => n * 60 + d) 0
    else decimalInteger (.ofList cs)

/-- The integer that a scalar stands for. -/
def integer (s : String) : Except ScalarFault Int := do
  let cs := ungrouped s
  if cs.isEmpty then throw .emptyNumber
  let n ← magnitude (Tag.unsigned cs)
  return if cs.head? = some '-' then -n else n

/-! ## Floats -/

/-- The sum of parts in steps of sixty, the last part counting once. -/
def sixtySum (parts : List Binary64) : Except ScalarFault Binary64 := do
  let step (acc : Float × Nat) (d : Binary64) : Except ScalarFault (Float × Nat) :=
    let base := Binary64.ofInt acc.2
    if base.isFinite then
      .ok (acc.1 + Float.ofBits d.bits * Float.ofBits base.bits, acc.2 * 60)
    else .error .tooLarge
  let (sum, _) ← parts.reverse.foldlM step ((0 : Float), 1)
  return ⟨sum.toBits⟩

/-- The number with the other sign. -/
def opposite (x : Binary64) : Binary64 := if x.isNaN then x else ⟨x.bits ^^^ 0x8000000000000000⟩

/-- The float that a text stands for. -/
def plainFloat (s : String) : Except ScalarFault Binary64 :=
  match Numeral.float? s with
  | some x => .ok x
  | none => .error (.badFloat s)

/-- The float behind the sign. -/
def floatMagnitude (cs : List Char) : Except ScalarFault Binary64 :=
  if cs = ".inf".toList then .ok (.infinity false)
  else if cs = ".nan".toList then .ok .nan
  else if cs.contains ':' then do
    let parts ← (sixtyParts cs).mapM plainFloat
    sixtySum parts
  else plainFloat (.ofList cs)

/-- The float that a scalar stands for. -/
def float (s : String) : Except ScalarFault Binary64 := do
  let cs := (Text.lower (.ofList (ungrouped s))).toList
  if cs.isEmpty then throw .emptyNumber
  let x ← floatMagnitude (Tag.unsigned cs)
  return if cs.head? = some '-' then opposite x else x

/-! ## Octets -/

/-- The six bits that a character stands for. -/
def sixBits? (c : Char) : Option Nat :=
  if 'A' ≤ c ∧ c ≤ 'Z' then some (c.toNat - 65)
  else if 'a' ≤ c ∧ c ≤ 'z' then some (c.toNat - 71)
  else if c.isDigit then some (c.toNat + 4)
  else if c = '+' then some 62
  else if c = '/' then some 63
  else none

/-- The octets of characters of six bits. `left` are the bits not yet used by an octet, after
`place` characters of a group of four; `pads` counts the padding seen since. Characters that stand
for nothing are passed over, and padding that completes a group ends the text. -/
def octets? (place left pads : Nat) : List Char → Option (List UInt8)
  | [] => if place = 0 then some [] else none
  | '=' :: rest =>
    if 2 ≤ place then
      if 4 ≤ place + pads + 1 then some [] else octets? place left (pads + 1) rest
    else octets? place left pads rest
  | c :: rest =>
    match sixBits? c with
    | none => octets? place left pads rest
    | some b =>
      match place with
      | 0 => octets? 1 b 0 rest
      | 1 => (octets? 2 (b % 16) 0 rest).map (UInt8.ofNat (left * 4 + b / 16) :: ·)
      | 2 => (octets? 3 (b % 4) 0 rest).map (UInt8.ofNat (left * 16 + b / 4) :: ·)
      | _ => (octets? 0 0 0 rest).map (UInt8.ofNat (left * 64 + b) :: ·)

/-- The octets that a scalar stands for; only ASCII characters may stand in it. -/
def binary (s : String) : Except Fault (List UInt8) :=
  match if s.toList.all (·.toNat < 128) then octets? 0 0 0 s.toList else none with
  | some b => .ok b
  | none => .error .malformed

/-! ## Dates -/

/-- A distance in minutes as days and seconds, in words. -/
def distanceText (minutes : Int) : String :=
  let days := minutes.fdiv 1440
  let seconds := minutes.fmod 1440 * 60
  "datetime.timedelta(days=" ++ toString days
    ++ (if seconds = 0 then "" else ", seconds=" ++ toString seconds) ++ ")"

/-- The distance from universal time of a zone, in minutes; it is less than a day. -/
def zoneOffset (zone : List Char) : Except ScalarFault (Option Int) :=
  match zone with
  | [] => .ok none
  | s :: rest =>
    if s = 'Z' then .ok (some 0)
    else
      let (hours, behind) := rest.span Char.isDigit
      let minutes : Int := Json.digitsNumber hours * 60 + Json.digitsNumber (behind.drop 1)
      let offset := if s = '-' then -minutes else minutes
      if offset.natAbs < 1440 then .ok (some offset)
      else
        .error (.badMoment ("offset must be a timedelta strictly between "
          ++ "-timedelta(hours=24) and timedelta(hours=24), not " ++ distanceText offset ++ "."))

/-- The first six digits behind the point of the seconds, as millionths. -/
def microseconds (fraction : List Char) : Nat :=
  let ds := fraction.take 6
  Json.digitsNumber (ds ++ List.replicate (6 - ds.length) '0')

/-- The date, with its time if there is one, that a scalar stands for. -/
def moment (s : String) : Except ScalarFault Moment := do
  let cs := s.toList
  let some m := Tag.momentText? (if cs.getLast? = some '\n' then cs.dropLast else cs)
    | throw .noMoment
  let n := Json.digitsNumber
  let time ← if m.hour.isEmpty then pure none else do
    let offset ← zoneOffset m.zone
    pure (some ⟨n m.hour, n m.minute, n m.second, microseconds m.fraction, offset⟩)
  let result : Moment := ⟨n m.year, n m.month, n m.day, time⟩
  match result.fault? with
  | some message => throw (.badMoment message)
  | none => return result

/-! ## All tags -/

/-- The value of a scalar with a tag. -/
def value (tag text : String) : Except Fault Value :=
  match Text.behind? Tag.common.toList tag.toList with
  | none => .error .malformed
  | some name =>
    match String.ofList name with
    | "str" => .ok (.text text)
    | "null" => .ok .null
    | "bool" => (truth text).map Value.bool |>.mapError .scalar
    | "int" => (integer text).map Value.int |>.mapError .scalar
    | "float" => (float text).map Value.float |>.mapError .scalar
    | "binary" => (binary text).map Value.bytes
    | "timestamp" => (moment text).map Value.date |>.mapError .scalar
    | _ => .error .malformed

end Typed
end Yaml
end ToolGateway
