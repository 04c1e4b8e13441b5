/-
# Tags of plain scalars

A plain scalar has the tag of the first pattern that it fits: truth values, floats, integers, the
merge mark, nothing, dates, the mark of a default value, and the marks that cannot stand alone. What
fits none is a text.
-/
import ToolGateway.Text.LetterCase

namespace ToolGateway
namespace Yaml
namespace Tag

/-- The front of the common tags. -/
def common : String := "tag:yaml.org,2002:"

/-- The tag of sequences. -/
def seq : String := common ++ "seq"

/-- The tag of mappings. -/
def map : String := common ++ "map"

/-- The tag of dates. -/
def moment : String := common ++ "timestamp"

/-- The tag of texts. -/
def text : String := common ++ "str"

/-- The tag of the merge mark. -/
def merge : String := common ++ "merge"

/-- The tag of the mark of a default value. -/
def value : String := common ++ "value"

/-! ## Patterns

Each reads a text from the front and gives what is left, or nothing if it does not fit. -/

/-- A digit or an underscore. -/
def isDigitOrLow (c : Char) : Bool := c.isDigit || c = '_'

/-- Without a sign in front. -/
def unsigned : List Char → List Char
  | '-' :: rest => rest
  | '+' :: rest => rest
  | cs => cs

/-- One or more numbers below sixty, each behind a colon; the rest must satisfy a test. The digits
before the last colon may be shared out in two ways, so both are tried. -/
def sixtieths (rest? : List Char → Bool) : Nat → List Char → Bool
  | 0, _ => false
  | fuel + 1, cs =>
    match cs with
    | ':' :: a :: more =>
      let short := a.isDigit && (rest? more || sixtieths rest? fuel more)
      let long := match more with
        | b :: after =>
          '0' ≤ a && a ≤ '5' && b.isDigit && (rest? after || sixtieths rest? fuel after)
        | [] => false
      short || long
    | _ => false

/-- An integer: binary, octal, decimal, hexadecimal, or in steps of sixty. -/
def isInteger (whole : List Char) : Bool :=
  match unsigned whole with
  | [] => false
  | '0' :: 'b' :: rest => !rest.isEmpty && rest.all fun c => c = '0' || c = '1' || c = '_'
  | '0' :: 'x' :: rest =>
    !rest.isEmpty && rest.all fun c =>
      c.isDigit || c = '_' || ('a' ≤ c && c ≤ 'f') || ('A' ≤ c && c ≤ 'F')
  | '0' :: rest => rest.all fun c => ('0' ≤ c && c ≤ '7') || c = '_'
  | c :: rest =>
    c.isDigit &&
      (let behind := rest.dropWhile isDigitOrLow
       behind.isEmpty || sixtieths List.isEmpty behind.length behind)

/-- A signed exponent, or nothing. -/
def isExponent : List Char → Bool
  | [] => true
  | e :: s :: rest =>
    (e = 'e' || e = 'E') && (s = '-' || s = '+') && !rest.isEmpty && rest.all Char.isDigit
  | _ => false

/-- A float: with a point, in steps of sixty with a point, infinite, or not a number. -/
def isFloat (whole : List Char) : Bool :=
  let words := [".inf", ".Inf", ".INF"].map String.toList
  let nan := [".nan", ".NaN", ".NAN"].map String.toList
  let cs := unsigned whole
  nan.contains whole || words.contains cs
    || (match whole with
        | '.' :: d :: rest => d.isDigit && isExponent (rest.dropWhile isDigitOrLow)
        | _ => false)
    || (match cs with
        | d :: rest =>
          d.isDigit &&
            (match rest.dropWhile isDigitOrLow with
             | '.' :: behind => isExponent (behind.dropWhile isDigitOrLow)
             | behind =>
               sixtieths (fun r => match r with
                 | '.' :: more => more.all isDigitOrLow
                 | _ => false) behind.length behind)
        | [] => false)

/-- A truth value. -/
def isTruth (s : String) : Bool :=
  ["yes", "Yes", "YES", "no", "No", "NO", "true", "True", "TRUE", "false", "False", "FALSE",
    "on", "On", "ON", "off", "Off", "OFF"].contains s

/-- Nothing. -/
def isNull (s : String) : Bool := ["~", "null", "Null", "NULL", ""].contains s

/-- The parts of a date or a time as texts; an absent part is empty. -/
structure MomentText where
  year : List Char
  month : List Char
  day : List Char
  hour : List Char
  minute : List Char
  second : List Char
  fraction : List Char
  zone : List Char

/-- Digits in front, at least and at most as many as given. -/
def digits? (least most : Nat) (cs : List Char) : Option (List Char × List Char) :=
  let ds := (cs.take most).takeWhile Char.isDigit
  if ds.length < least then none else some (ds, cs.drop ds.length)

/-- A mark in front. -/
def mark? (c : Char) : List Char → Option (List Char)
  | d :: rest => if d = c then some rest else none
  | [] => none

/-- A zone: the letter, or a sign with hours and perhaps minutes. -/
def isZone : List Char → Bool
  | ['Z'] => true
  | s :: rest =>
    (s = '-' || s = '+') &&
      (match digits? 1 2 rest with
       | some (_, []) => true
       | some (_, ':' :: minutes) => minutes.length = 2 && minutes.all Char.isDigit
       | _ => false)
  | [] => false

/-- The parts of a date with or without a time. -/
def momentText? (cs : List Char) : Option MomentText := do
  let (year, cs) ← digits? 4 4 cs
  let cs ← mark? '-' cs
  let (month, cs) ← digits? 1 2 cs
  let cs ← mark? '-' cs
  let (day, cs) ← digits? 1 2 cs
  if cs.isEmpty then return ⟨year, month, day, [], [], [], [], []⟩
  let isBlank (c : Char) : Bool := c = ' ' || c = '\t'
  let cs ← match cs with
    | 'T' :: rest => some rest
    | 't' :: rest => some rest
    | c :: rest => if isBlank c then some (rest.dropWhile isBlank) else none
    | [] => none
  let (hour, cs) ← digits? 1 2 cs
  let cs ← mark? ':' cs
  let (minute, cs) ← digits? 2 2 cs
  let cs ← mark? ':' cs
  let (second, cs) ← digits? 2 2 cs
  let (fraction, cs) := match cs with
    | '.' :: rest => rest.span Char.isDigit
    | _ => ([], cs)
  let zone := cs.dropWhile isBlank
  if zone.isEmpty then
    if cs.isEmpty then return ⟨year, month, day, hour, minute, second, fraction, []⟩ else none
  else if isZone zone then return ⟨year, month, day, hour, minute, second, fraction, zone⟩
  else none

/-- A date; without a time the month and the day have two digits. -/
def isMoment (cs : List Char) : Bool :=
  match momentText? cs with
  | some m => !m.hour.isEmpty || (m.month.length = 2 && m.day.length = 2)
  | none => false

/-- The tag of a plain scalar. One line break at its end is passed over by the patterns. -/
def ofPlain (s : String) : String :=
  let cs := s.toList
  let cs := if cs.getLast? = some '\n' && 1 < cs.length then cs.dropLast else cs
  let s := String.ofList cs
  common ++
    (if isTruth s then "bool"
     else if isFloat cs then "float"
     else if isInteger cs then "int"
     else if s = "<<" then "merge"
     else if isNull s then "null"
     else if isMoment cs then "timestamp"
     else if s = "=" then "value"
     else if s = "!" ∨ s = "&" ∨ s = "*" then "yaml"
     else "str")

end Tag
end Yaml
end ToolGateway
