/-
# Tables of characters by code

A set of characters gives each of them a code of two octets. A table lists runs of characters with
codes in a row: the first code in hexadecimal, a blank, and the characters, each run on a line of
its own. A point stands where a run has no character.
-/
import ToolGateway.Text.Ranges

namespace ToolGateway
namespace Text

/-- Characters with codes in a row. -/
structure CodeRun where
  start : Nat
  chars : Array Char
deriving DecidableEq, Repr

/-- Runs of characters. -/
abbrev CodeTable := Array CodeRun

/-- The run that a line stands for. -/
def CodeRun.ofLine (line : List Char) : CodeRun :=
  let (code, chars) := line.span (· != ' ')
  ⟨ofHexDigits code, (chars.drop 1).toArray⟩

/-- The character of a code in a run. -/
def CodeRun.find? (r : CodeRun) (code : Nat) : Option Char :=
  if r.start ≤ code then
    match r.chars[code - r.start]? with
    | some '.' => none
    | c => c
  else none

namespace CodeTable

/-- The table that a text stands for. -/
def ofText (s : String) : CodeTable :=
  (((s.toList.splitOn '\n').filter (!·.isEmpty)).map CodeRun.ofLine).toArray

/-- The character of a code. -/
def find? (t : CodeTable) (code : Nat) : Option Char := t.findSome? (·.find? code)

example : (ofText "2121 ab.d").find? 0x2122 = some 'b' := by decide +kernel
example : (ofText "2121 ab.d").find? 0x2123 = none := by decide +kernel

end CodeTable
end Text
end ToolGateway
