/-
# The limit of digits

Integers are unbounded, but between an integer and its decimal text there is a limit: longer texts
are not read and longer integers are not written.
-/

namespace ToolGateway
namespace DigitLimit

/-- The greatest number of digits. -/
def limit : Nat := 4300

/-- The integer has a decimal text. -/
def allows (i : Int) : Bool := i.natAbs < Nat.pow 10 limit

/-- The front of both refusals. -/
def front : String :=
  "Exceeds the limit (" ++ toString limit ++ " digits) for integer string conversion"

/-- The end of both refusals. -/
def advice : String := "; use sys.set_int_max_str_digits() to increase the limit"

/-- The refusal of a text with too many digits, in words. -/
def readMessage (count : Nat) : String :=
  front ++ ": value has " ++ toString count ++ " digits" ++ advice

/-- The refusal of an integer with too many digits, in words. -/
def writeMessage : String := front ++ advice

end DigitLimit
end ToolGateway
