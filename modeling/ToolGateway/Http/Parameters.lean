/-
# Parameters of a header

Behind a header's value stand parameters, each a name and a value. A parameter may be cut into parts
with numbers, and a part may be coded: then the value names a charset and a language before the text
itself, whose octets are written in percent codes.
-/
import ToolGateway.Http.Percent
import ToolGateway.Text.Blank
import ToolGateway.Text.Charset

namespace ToolGateway
namespace Http

/-- The value of a parameter. -/
inductive ParameterValue where
  | plain (text : String)
  /-- The characters of the text stand for octets; the charset may be missing. -/
  | coded (charset : String) (text : String)
deriving DecidableEq, Repr

/-- A part of a parameter. -/
structure ParameterPart where
  number : Option Nat
  text : String
  isCoded : Bool
deriving DecidableEq, Repr

namespace Parameters

/-- Cuts a header at semicolons. Those between double quotes do not count, and neither does a
quote behind a backslash. -/
def cut (quoted escaped : Bool) : List Char → List (List Char)
  | [] => [[]]
  | c :: rest =>
    if c = ';' && !quoted then [] :: cut false false rest
    else
      match cut (if c = '"' && !escaped then !quoted else quoted) (c = '\\') rest with
      | part :: parts => (c :: part) :: parts
      | [] => [[c]]

/-- Puts one character in the place of two. -/
def merge (a b : Char) (into : Char) : List Char → List Char
  | c :: d :: rest =>
    if c = a ∧ d = b then into :: merge a b into rest else c :: merge a b into (d :: rest)
  | cs => cs

/-- A value without the double quotes or the angle brackets around it. -/
def bare (cs : List Char) : List Char :=
  match cs.head?, cs.tail.getLast? with
  | some '"', some '"' => merge '\\' '"' '"' (merge '\\' '\\' '\\' cs.tail.dropLast)
  | some '<', some '>' => cs.tail.dropLast
  | _, _ => cs

/-- A text as it stands between double quotes. -/
def escaped (cs : List Char) : List Char :=
  cs.flatMap fun c => if c = '\\' || c = '"' then ['\\', c] else [c]

/-- A value between double quotes, without them. -/
def reread (cs : List Char) : String := .ofList (bare ('"' :: escaped cs ++ ['"']))

/-- The name and the value of a part of a header; a name before an equals sign is in lower case. -/
def nameAndValue (part : List Char) : List Char × List Char :=
  let name := part.takeWhile (· != '=')
  if name.length < part.length then
    ((Text.trim name).map Char.toLower, Text.trim (part.drop (name.length + 1)))
  else (Text.trim part, [])

/-- A character of a name with parts. -/
def isNameChar (c : Char) : Bool := c.isAlphanum || c = '_'

/-- The name without the sign of parts, and the number of the part. -/
def partName? (name : List Char) : Option (List Char × Option Nat) :=
  let front := name.takeWhile isNameChar
  if front.isEmpty then none
  else
    match name.drop front.length with
    | '*' :: rest =>
      let digits := rest.takeWhile Char.isDigit
      let behind := rest.drop digits.length
      if digits.isEmpty then (if rest.isEmpty then some (front, none) else none)
      else if behind.isEmpty ∨ behind = ['*'] then
        some (front, some (digits.foldl (fun n c => n * 10 + (c.toNat - 48)) 0))
      else none
    | _ => none

/-- The order of parts. -/
def partLE (a b : ParameterPart) : Bool :=
  if a.number ≠ b.number then a.number.getD 0 ≤ b.number.getD 0
  else if a.text ≠ b.text then a.text ≤ b.text
  else !a.isCoded || b.isCoded

/-- The kind of a part's number. -/
def numberKind (p : ParameterPart) : String := if p.number.isSome then "int" else "NoneType"

/-- Parts in order. Those with numbers and those without have no order. -/
def sorted (parts : List ParameterPart) : Except Text.CharsetFault (List ParameterPart) :=
  match parts with
  | [] => .ok []
  | first :: rest =>
    match rest.find? fun p => p.number.isSome != first.number.isSome with
    | some p => .error (.mixedParts (numberKind p) (numberKind first))
    | none => .ok (parts.mergeSort partLE)

/-- The text of a part: percent codes are undone, each octet giving a character. -/
def partText (p : ParameterPart) : List Char :=
  if p.isCoded then (Percent.octets p.text.toList).map fun b => Char.ofNat b.toNat
  else p.text.toList

/-- The value of the parts of a parameter. -/
def joined (parts : List ParameterPart) : Except Text.CharsetFault ParameterValue := do
  let parts ← sorted parts
  let cs := escaped (parts.flatMap partText)
  let whole (cs : List Char) : String := .ofList (bare ('"' :: cs ++ ['"']))
  if parts.any (·.isCoded) then
    let charset := cs.takeWhile (· != '\'')
    let behind := cs.drop (charset.length + 1)
    let language := behind.takeWhile (· != '\'')
    if charset.length < cs.length ∧ language.length < behind.length then
      return .coded (.ofList charset) (whole (behind.drop (language.length + 1)))
    else return .coded "" (whole cs)
  else return .plain (whole cs)

/-- The parts of parameters by name, in the order of their first parts. -/
def grouped (parts : List (List Char × ParameterPart)) :
    List (List Char × List ParameterPart) :=
  parts.foldl (fun groups p =>
    if groups.any fun g => g.1 = p.1 then
      groups.map fun g => if g.1 = p.1 then (g.1, g.2 ++ [p.2]) else g
    else groups ++ [(p.1, [p.2])]) []

/-- The parameters behind the first part of a header, those without parts before the others. -/
def behindFirst (params : List (List Char × List Char)) :
    Except Text.CharsetFault (List (List Char × ParameterValue)) := do
  let whole := params.filterMap fun p =>
    if (partName? p.1).isSome then none else some (p.1, .plain (reread (bare p.2)))
  let parts := params.filterMap fun p => do
    let (name, number) ← partName? p.1
    return (name, ⟨number, .ofList (bare p.2), p.1.getLast? = some '*'⟩)
  let joined ← (grouped parts).mapM fun g => do return (g.1, ← joined g.2)
  return whole ++ joined

/-- The parameters of a header; its first part counts as one of them. -/
def ofHeader (h : String) : Except Text.CharsetFault (List (List Char × ParameterValue)) :=
  match (cut false false h.toList).map nameAndValue with
  | [] => .ok []
  | (name, value) :: rest => do
    return (name, .plain (.ofList (bare value))) :: (← behindFirst rest)

/-- The text of a value. Octets that are no text of their charset are taken one by one. -/
def textOf : ParameterValue → Except Text.CharsetFault String
  | .plain s => .ok s
  | .coded charset s =>
    let charset := if charset = "" then "us-ascii" else charset
    let octets := s.toList.map fun c => UInt8.ofNat c.toNat
    if octets.isEmpty then .ok s
    else
      match Text.Charset.named? charset with
      | some (.unusable .zeroInName) => .error .zeroInName
      | some c => .ok ((c.decodeWhole? octets).getD s)
      | none => .ok s

/-- The name of the charset that a header gives, in lower case. A name outside ASCII is none. -/
def charsetName? (h : String) : Except Text.CharsetFault (Option String) := do
  let params ← ofHeader h
  match params.find? fun p => p.1.map Char.toLower = "charset".toList with
  | none => return none
  | some p =>
    let name ← textOf p.2
    if name.toList.all fun c => c.toNat < 128 then return some (Text.asciiLower name)
    return none

example : partName? "charset*12*".toList = some ("charset".toList, some 12) := by decide +kernel
example : partName? "charset".toList = none := by decide +kernel

end Parameters
end Http
end ToolGateway
