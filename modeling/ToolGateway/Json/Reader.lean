/-
# Reading JSON

Beyond the standard the three names of numbers that are none, or infinite, are read. A repeated
key keeps its first place and its last value. A fault is named by its kind and by the characters
left when it was found, from which its place in the text follows.
-/
import ToolGateway.Decimal.DigitLimit
import ToolGateway.Text.Hexadecimal
import ToolGateway.Value.Basic

namespace ToolGateway
namespace Json

/-- What is wrong with a text that is not JSON. -/
inductive Mistake where
  | expectingValue
  | expectingName
  | expectingColon
  | expectingComma
  | extraData
  | byteOrderMark
  | unterminatedText
  | controlCharacter
  | badEscape
  | badHexEscape
deriving DecidableEq, Repr

/-- The mistake in words. -/
def Mistake.message : Mistake → String
  | expectingValue => "Expecting value"
  | expectingName => "Expecting property name enclosed in double quotes"
  | expectingColon => "Expecting ':' delimiter"
  | expectingComma => "Expecting ',' delimiter"
  | extraData => "Extra data"
  | byteOrderMark => "Unexpected UTF-8 BOM (decode using utf-8-sig)"
  | unterminatedText => "Unterminated string starting at"
  | controlCharacter => "Invalid control character at"
  | badEscape => "Invalid \\escape"
  | badHexEscape => "Invalid \\uXXXX escape"

/-- What can be nested. -/
inductive Nesting where
  | array
  | object
deriving DecidableEq, Repr

/-- Why a text gives no value: a mistake with the number of characters left where it was found, an
integer with too many digits to be formed, or arrays and objects nested too deeply. -/
inductive ReadFault where
  | mistake (m : Mistake) (left : Nat)
  | tooManyDigits (count : Nat)
  | tooDeep (kind : Nesting)
deriving DecidableEq, Repr

/-- How deeply arrays and objects may be nested. -/
def nestingLimit : Nat := 975

/-- A mistake found in front of the characters given. -/
def mistakeAt {α : Type} (m : Mistake) (rest : List Char) : Except ReadFault (α × List Char) :=
  .error (.mistake m rest.length)

/-- A blank between the parts of a text. -/
def isSpace (c : Char) : Bool := c = ' ' || c = '\t' || c = '\n' || c = '\r'

/-- The text without the blanks in front. -/
def skipSpace (cs : List Char) : List Char := cs.dropWhile isSpace

/-- The four digits after a `u`, with one more character behind them. -/
def hexUnit? (cs : List Char) : Option (Nat × List Char) :=
  if cs.length ≤ 4 then none
  else (Text.hexNumber? (cs.take 4)).map (·, cs.drop 4)

/-- The character that a letter after a backslash stands for. -/
def simpleEscape? : Char → Option Char
  | '"' => some '"'
  | '\\' => some '\\'
  | '/' => some '/'
  | 'b' => some '\x08'
  | 'f' => some '\x0c'
  | 'n' => some '\n'
  | 'r' => some '\r'
  | 't' => some '\t'
  | _ => none

/-- The unit opens a pair. -/
def isHighUnit (u : Nat) : Bool := 0xD800 ≤ u && u < 0xDC00

/-- The unit closes a pair. -/
def isLowUnit (u : Nat) : Bool := 0xDC00 ≤ u && u < 0xE000

/-- The character of a unit; half a pair has none and gives the replacement character. -/
def unitChar (u : Nat) : Char := if 0xD800 ≤ u && u < 0xE000 then '\ufffd' else Char.ofNat u

/-- The character of a pair of units. -/
def pairChar (high low : Nat) : Char :=
  Char.ofNat (0x10000 + (high - 0xD800) * 1024 + (low - 0xDC00))

/-- The character behind a backslash and `u`. Two escapes that form a pair are one character. -/
def readHexEscape (cs : List Char) : Except ReadFault (Char × List Char) :=
  match hexUnit? cs with
  -- the place of the fault is the `u`
  | none => .error (.mistake .badHexEscape (cs.length + 1))
  | some (u, rest) =>
    match rest with
    | '\\' :: 'u' :: more =>
      if isHighUnit u && 4 < more.length then
        match hexUnit? more with
        | none => .error (.mistake .badHexEscape (more.length + 1))
        | some (v, after) =>
          if isLowUnit v then .ok (pairChar u v, after)
          else .ok (unitChar u, rest)
      else .ok (unitChar u, rest)
    | _ => .ok (unitChar u, rest)

/-- The characters of a text up to its closing quote; `opened` is the number of characters left at
its opening quote. -/
def readCharsFrom (opened : Nat) : Nat → List Char → Except ReadFault (List Char × List Char)
  | 0, cs => mistakeAt .unterminatedText cs
  | fuel + 1, cs =>
    match cs with
    | [] => .error (.mistake .unterminatedText opened)
    | '"' :: rest => .ok ([], rest)
    | '\\' :: rest =>
      match rest with
      | [] => .error (.mistake .unterminatedText opened)
      | 'u' :: digits => do
        let (c, rest) ← readHexEscape digits
        let (cs, rest) ← readCharsFrom opened fuel rest
        return (c :: cs, rest)
      | e :: rest =>
        match simpleEscape? e with
        | none => mistakeAt .badEscape cs
        | some c => do
          let (cs, rest) ← readCharsFrom opened fuel rest
          return (c :: cs, rest)
    | c :: rest =>
      if c.toNat < 32 then mistakeAt .controlCharacter cs
      else do
        let (cs, rest) ← readCharsFrom opened fuel rest
        return (c :: cs, rest)

/-- The text behind an opening quote. -/
def readText (rest : List Char) : Except ReadFault (String × List Char) := do
  let (cs, rest) ← readCharsFrom (rest.length + 1) (rest.length + 1) rest
  return (.ofList cs, rest)

/-- The leading digits and the rest. -/
def spanDigits (cs : List Char) : List Char × List Char := cs.span Char.isDigit

/-- The natural that digits stand for. -/
def digitsNumber (ds : List Char) : Nat := ds.foldl (fun n c => n * 10 + (c.toNat - 48)) 0

/-- The integer part of a number: a zero alone, or digits that begin with another. -/
def wholePart? : List Char → Option (List Char × List Char)
  | '0' :: rest => some (['0'], rest)
  | cs =>
    let (ds, rest) := spanDigits cs
    if ds.isEmpty then none else some (ds, rest)

/-- The digits behind a point, if both are there. -/
def fractionPart : List Char → List Char × List Char
  | '.' :: rest =>
    let (ds, after) := spanDigits rest
    if ds.isEmpty then ([], '.' :: rest) else (ds, after)
  | cs => ([], cs)

/-- The exponent, if the mark has digits behind it. -/
def exponentPart (cs : List Char) : Option Int × List Char :=
  match cs with
  | e :: rest =>
    if e = 'e' || e = 'E' then
      let (negative, digits) := match rest with
        | '-' :: more => (true, more)
        | '+' :: more => (false, more)
        | _ => (false, rest)
      let (ds, after) := spanDigits digits
      if ds.isEmpty then (none, cs)
      else
        let n : Int := digitsNumber ds
        (some (if negative then -n else n), after)
    else (none, cs)
  | [] => (none, [])

/-- A number: an integer unless it has a fraction or an exponent. -/
def readNumber (cs : List Char) : Except ReadFault (Value × List Char) :=
  let (negative, unsigned) := match cs with
    | '-' :: rest => (true, rest)
    | _ => (false, cs)
  match wholePart? unsigned with
  | none => mistakeAt .expectingValue cs
  | some (whole, rest) =>
    let (fraction, rest) := fractionPart rest
    let (exponent, rest) := exponentPart rest
    if fraction.isEmpty && exponent.isNone then
      if DigitLimit.limit < whole.length then .error (.tooManyDigits whole.length)
      else
        let n : Int := digitsNumber whole
        .ok (.int (if negative then -n else n), rest)
    else
      let m := digitsNumber (whole ++ fraction)
      .ok (.float (.ofDecimal negative m (exponent.getD 0 - fraction.length)), rest)

/-- The words that stand for values. -/
def words : List (List Char × Value) :=
  [("null".toList, .null), ("true".toList, .bool true), ("false".toList, .bool false),
   ("NaN".toList, .float .nan), ("Infinity".toList, .float (.infinity false)),
   ("-Infinity".toList, .float (.infinity true))]

/-- A word at the front, with its value. -/
def readWord? (cs : List Char) : Option (Value × List Char) :=
  (words.find? fun w => w.1.isPrefixOf cs).map fun w => (w.2, cs.drop w.1.length)

mutual

/-- A value. The fuel is never exhausted: every nested reading begins behind a bracket. `room` is
how many brackets may still be opened. -/
def readValue (room : Nat) : Nat → List Char → Except ReadFault (Value × List Char)
  | 0, cs => mistakeAt .expectingValue cs
  | fuel + 1, cs =>
    match cs with
    | [] => mistakeAt .expectingValue []
    | '"' :: rest => do
      let (s, rest) ← readText rest
      return (.text s, rest)
    | '{' :: rest =>
      if room = 0 then .error (.tooDeep .object)
      else match skipSpace rest with
      | '}' :: rest => .ok (.map [], rest)
      | rest => do
        let (es, rest) ← readEntries (room - 1) fuel rest
        return (.map (Entries.ofList es), rest)
    | '[' :: rest =>
      if room = 0 then .error (.tooDeep .array)
      else match skipSpace rest with
      | ']' :: rest => .ok (.list [], rest)
      | rest => do
        let (xs, rest) ← readItems (room - 1) fuel rest
        return (.list xs, rest)
    | _ =>
      match readWord? cs with
      | some r => .ok r
      | none => readNumber cs

/-- The items of a list up to its closing bracket. -/
def readItems (room : Nat) : Nat → List Char → Except ReadFault (List Value × List Char)
  | 0, cs => mistakeAt .expectingValue cs
  | fuel + 1, cs => do
    let (x, rest) ← readValue room fuel cs
    match skipSpace rest with
    | ']' :: rest => return ([x], rest)
    | ',' :: rest =>
      let (xs, rest) ← readItems room fuel (skipSpace rest)
      return (x :: xs, rest)
    | rest => mistakeAt .expectingComma rest

/-- The entries of a map up to its closing brace. -/
def readEntries (room : Nat) :
    Nat → List Char → Except ReadFault (List (Value × Value) × List Char)
  | 0, cs => mistakeAt .expectingName cs
  | fuel + 1, cs =>
    match cs with
    | '"' :: rest => do
      let (name, rest) ← readText rest
      match skipSpace rest with
      | ':' :: rest =>
        let (v, rest) ← readValue room fuel (skipSpace rest)
        match skipSpace rest with
        | '}' :: rest => return ([(.text name, v)], rest)
        | ',' :: rest =>
          let (es, rest) ← readEntries room fuel (skipSpace rest)
          return ((.text name, v) :: es, rest)
        | rest => mistakeAt .expectingComma rest
      | rest => mistakeAt .expectingColon rest
    | _ => mistakeAt .expectingName cs

end

/-- The value of a whole text. -/
def readChars (cs : List Char) : Except ReadFault Value :=
  match cs with
  | '\ufeff' :: _ => .error (.mistake .byteOrderMark cs.length)
  | _ => do
    let (v, rest) ← readValue nestingLimit (2 * cs.length + 2) (skipSpace cs)
    match skipSpace rest with
    | [] => return v
    | rest => .error (.mistake .extraData rest.length)

/-- The value of a whole text. -/
def read (s : String) : Except ReadFault Value := readChars s.toList

/-- A mistake in a text with its line, its column and its place, all as messages count them. -/
def placed (s : String) (m : Mistake) (left : Nat) : String :=
  let cs := s.toList
  let place := cs.length - left
  let before := cs.take place
  let line := before.count '\n' + 1
  let column := (before.reverse.takeWhile (· != '\n')).length + 1
  m.message ++ ": line " ++ toString line ++ " column " ++ toString column
    ++ " (char " ++ toString place ++ ")"

/-- The refusal of a text that is nested too deeply, in words. -/
def tooDeepMessage (kind : Nesting) : String :=
  "maximum recursion depth exceeded while decoding a JSON "
    ++ (match kind with
        | .array => "array"
        | .object => "object")
    ++ " from a unicode string"

end Json
end ToolGateway
