/-
# Percent codes

A percent sign and two hexadecimal digits stand for an octet. A percent sign without such digits
behind it stands for itself.
-/
import ToolGateway.Text.Hexadecimal
import ToolGateway.Text.Utf8

namespace ToolGateway
namespace Http
namespace Percent

/-- The octets of a text with percent codes undone. -/
def octets : List Char → List UInt8
  | '%' :: a :: b :: rest =>
    match Text.hexValue? a, Text.hexValue? b with
    | some x, some y => UInt8.ofNat (16 * x + y) :: octets rest
    | _, _ => 37 :: octets (a :: b :: rest)
  | c :: rest => Text.encodeUtf8 (String.singleton c) ++ octets rest
  | [] => []

/-- A text with percent codes undone. -/
def text (cs : List Char) : String := Text.decodeUtf8Replacing (octets cs)

example : text "a%20b%".toList = "a b%" := by decide +kernel

end Percent
end Http
end ToolGateway
