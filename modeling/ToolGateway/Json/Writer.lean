/-
# Writing JSON

One writer with a record of what the place of use decides: the separators, whether numbers that
JSON lacks are refused, and whether values that JSON lacks are written as texts.
-/
import ToolGateway.Json.Reader
import ToolGateway.Value.Text

namespace ToolGateway
namespace Json

/-- What a place of use decides about the written form. -/
structure Form where
  comma : String
  colon : String
  /-- Infinities and what is not a number are refused. -/
  finiteOnly : Bool
  /-- Octets, dates and sets are written as their texts and not refused. -/
  textForOthers : Bool
deriving DecidableEq, Repr

/-- The form of details in messages. -/
def spaced : Form := ⟨", ", ": ", false, false⟩

/-- The form of results of tool calls. -/
def lenient : Form := ⟨", ", ": ", false, true⟩

/-- The form of request bodies. -/
def compact : Form := ⟨",", ":", true, false⟩

/-- Why a value has no JSON form. -/
inductive WriteFault where
  | notFinite
  | otherKind (kind : String)
  | otherKey (kind : String)
  /-- A value holds itself. -/
  | circle
  /-- An integer has too many digits to be written. -/
  | tooManyDigits
  /-- Lists and maps are nested too deeply. -/
  | tooDeep
deriving DecidableEq, Repr

/-- A character inside a written text: quotes, backslashes and control characters are escaped. -/
def escapeChar (c : Char) : List Char :=
  match c with
  | '"' => ['\\', '"']
  | '\\' => ['\\', '\\']
  | '\n' => ['\\', 'n']
  | '\r' => ['\\', 'r']
  | '\t' => ['\\', 't']
  | '\x08' => ['\\', 'b']
  | '\x0c' => ['\\', 'f']
  | c => if c.toNat < 32 then '\\' :: 'u' :: Text.hex 4 c.toNat else [c]

/-- The written form of a text. -/
def writeText (s : String) : String := .ofList ('"' :: s.toList.flatMap escapeChar ++ ['"'])

/-- The written form of a float. -/
def writeFloat (form : Form) (x : Binary64) : Except WriteFault String :=
  if x.isFinite then .ok x.text
  else if form.finiteOnly then .error .notFinite
  else if x.isNaN then .ok "NaN"
  else .ok (if x.negative then "-Infinity" else "Infinity")

/-- The written form of an integer. -/
def writeInteger (i : Int) : Except WriteFault String :=
  if DigitLimit.allows i then .ok (toString i) else .error .tooManyDigits

/-- The text of a key: numbers and words count as their written forms. -/
def keyText (form : Form) : Value → Except WriteFault String
  | .text s => .ok s
  | .bool b => .ok (if b then "true" else "false")
  | .null => .ok "null"
  | .int i => writeInteger i
  | .float x => writeFloat form x
  | v => .error (.otherKey v.kindName)

mutual

/-- The written form of a value; `room` is how many lists and maps may still be opened. -/
def writeValue (form : Form) (room : Nat) : Value → Except WriteFault String
  | .null => .ok "null"
  | .bool b => .ok (if b then "true" else "false")
  | .int i => writeInteger i
  | .float x => writeFloat form x
  | .text s => .ok (writeText s)
  | .bytes b =>
    if form.textForOthers then .ok (writeText (Value.display (.bytes b)))
    else .error (.otherKind (Value.kindName (.bytes b)))
  | .date m =>
    if form.textForOthers then .ok (writeText (Value.display (.date m)))
    else .error (.otherKind (Value.kindName (.date m)))
  | .set xs =>
    if form.textForOthers then .ok (writeText (Value.display (.set xs)))
    else .error (.otherKind (Value.kindName (.set xs)))
  | .again _ => .error .circle
  | .list xs =>
    if room = 0 then .error .tooDeep
    else do
      let items ← writeItems form (room - 1) xs
      return "[" ++ form.comma.intercalate items ++ "]"
  | .map es =>
    if room = 0 then .error .tooDeep
    else do
      let entries ← writeEntries form (room - 1) es
      return "\x7b" ++ form.comma.intercalate entries ++ "\x7d"

/-- The written forms of the items of a list. -/
def writeItems (form : Form) (room : Nat) : List Value → Except WriteFault (List String)
  | [] => .ok []
  | x :: xs => do
    let t ← writeValue form room x
    let ts ← writeItems form room xs
    return t :: ts

/-- The written forms of the entries of a map. -/
def writeEntries (form : Form) (room : Nat) :
    List (Value × Value) → Except WriteFault (List String)
  | [] => .ok []
  | (k, v) :: rest => do
    let name ← keyText form k
    let t ← writeValue form room v
    let ts ← writeEntries form room rest
    return (writeText name ++ form.colon ++ t) :: ts

end

/-- The written form of a value. -/
def write (form : Form) (v : Value) : Except WriteFault String := writeValue form nestingLimit v

end Json
end ToolGateway
