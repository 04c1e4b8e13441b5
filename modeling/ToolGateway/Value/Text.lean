/-
# The text of a value

A value shown alone is a text as it stands; inside lists and maps texts are quoted. The quote is
the single one unless the text holds single quotes and no double ones.
-/
import ToolGateway.Decimal.DigitLimit
import ToolGateway.Decimal.Shortest
import ToolGateway.Text.Hexadecimal
import ToolGateway.Text.Printable
import ToolGateway.Value.Basic

namespace ToolGateway

namespace Text

/-- A character inside quotes: the quote, the backslash and what is not printable are escaped. -/
def quotedChar (quote c : Char) : List Char :=
  if c = quote ∨ c = '\\' then ['\\', c]
  else if c = '\n' then ['\\', 'n']
  else if c = '\r' then ['\\', 'r']
  else if c = '\t' then ['\\', 't']
  else if isPrintable c then [c]
  else numberEscape c

/-- The quote that encloses a text. -/
def quoteFor (s : List Char) : Char :=
  if s.contains '\'' && !s.contains '"' then '"' else '\''

/-- The text inside quotes. -/
def quoted (s : String) : String :=
  let q := quoteFor s.toList
  .ofList (q :: s.toList.flatMap (quotedChar q) ++ [q])

/-- Octets inside quotes; those outside ASCII are escaped. -/
def quotedBytes (b : List UInt8) : String :=
  let cs := b.map fun x => Char.ofNat x.toNat
  let q := quoteFor cs
  let octet (c : Char) : List Char :=
    if c.toNat < 128 then quotedChar q c else '\\' :: 'x' :: hex 2 c.toNat
  .ofList ('b' :: q :: cs.flatMap octet ++ [q])

example : quoted "it's" = "\"it's\"" := by decide +kernel
example : quoted "a'\"\n" = "'a\\'\"\\n'" := by decide +kernel

end Text

namespace Value

mutual

/-- The text of a value inside a list or a map. -/
def quoted : Value → String
  | null => "None"
  | bool b => if b then "True" else "False"
  | int i => toString i
  | float x => x.text
  | text s => Text.quoted s
  | bytes b => Text.quotedBytes b
  | date m => m.text " "
  | list xs => "[" ++ ", ".intercalate (quotedItems xs) ++ "]"
  | set [] => "set()"
  | set xs => "\x7b" ++ ", ".intercalate (quotedItems xs) ++ "\x7d"
  | again isMap => if isMap then "\x7b...\x7d" else "[...]"
  | map es => "\x7b" ++ ", ".intercalate (quotedEntries es) ++ "\x7d"

/-- The texts of the items of a list. -/
def quotedItems : List Value → List String
  | [] => []
  | x :: xs => quoted x :: quotedItems xs

/-- The texts of the entries of a map. -/
def quotedEntries : List (Value × Value) → List String
  | [] => []
  | (k, v) :: rest => (quoted k ++ ": " ++ quoted v) :: quotedEntries rest

end

mutual

/-- No integer in the value has too many digits to be written. -/
def isWritable : Value → Bool
  | int i => DigitLimit.allows i
  | list xs => areWritable xs
  | set xs => areWritable xs
  | map es => entriesAreWritable es
  | _ => true

/-- No integer in the items has too many digits. -/
def areWritable : List Value → Bool
  | [] => true
  | x :: xs => isWritable x && areWritable xs

/-- No integer in the entries has too many digits. -/
def entriesAreWritable : List (Value × Value) → Bool
  | [] => true
  | (k, v) :: rest => isWritable k && isWritable v && entriesAreWritable rest

end

/-- The text of a value shown alone. -/
def display : Value → String
  | text s => s
  | v => v.quoted

example : display (.list [.int 1, .text "a", .null]) = "[1, 'a', None]" := by decide +kernel

end Value
end ToolGateway
