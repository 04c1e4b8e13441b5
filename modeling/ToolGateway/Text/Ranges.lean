/-
# Tables of code point ranges

A property of characters that a standard fixes by enumeration is kept as an array of closed
ranges of code points. Membership is a scan of the array. A long table is written as a text: the
ends of each range in hexadecimal with a hyphen between them, or a single code point, with blanks
between the ranges.
-/
import ToolGateway.Text.Hexadecimal

namespace ToolGateway
namespace Text

/-- A list of closed ranges of code points. -/
abbrev Ranges := Array (Nat × Nat)

/-- The number that a word of a table stands for. -/
def ofHexDigits (cs : List Char) : Nat := (hexNumber? cs).getD 0

/-- The parts of a text between blanks and line ends. -/
def words (s : String) : List (List Char) :=
  (s.toList.splitOnP fun c => c = ' ' || c = '\n').filter (!·.isEmpty)

namespace Ranges

/-- A range as it is written. -/
def rangeOf (word : List Char) : Nat × Nat :=
  match word.splitOn '-' with
  | [first, last] => (ofHexDigits first, ofHexDigits last)
  | _ => (ofHexDigits word, ofHexDigits word)

/-- The table that a text stands for. -/
def ofText (s : String) : Ranges := ((words s).map rangeOf).toArray

/-- A code point lies in one of the ranges. -/
def has (table : Ranges) (n : Nat) : Bool := table.any fun r => r.1 ≤ n && n ≤ r.2

/-- `c` lies in one of the ranges. -/
def mem (table : Ranges) (c : Char) : Bool := table.has c.toNat

example : ofText "2d 30-39" = #[(0x2d, 0x2d), (0x30, 0x39)] := by decide +kernel

end Ranges
end Text
end ToolGateway
