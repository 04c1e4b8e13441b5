/-
# Excerpts

A long text is shown by its front and its end. Its length is counted in octets, but no character is
cut apart.
-/

namespace ToolGateway
namespace Text

/-- The characters at the front that fit into a number of octets. -/
def frontWithin (room : Nat) : List Char → List Char
  | [] => []
  | c :: rest => if c.utf8Size ≤ room then c :: frontWithin (room - c.utf8Size) rest else []

/-- The most octets that are shown as they are. -/
def excerptLimit : Nat := 50

/-- The text, or its front and its end if it is long. -/
def excerpt (s : String) : String :=
  if s.utf8ByteSize ≤ excerptLimit then s
  else
    .ofList (frontWithin 25 s.toList) ++ "..." ++ .ofList (frontWithin 24 s.toList.reverse).reverse

example : frontWithin 3 ['a', 'é', 'b'] = ['a', 'é'] := by decide
example : frontWithin 2 ['a', 'é', 'b'] = ['a'] := by decide

end Text
end ToolGateway
