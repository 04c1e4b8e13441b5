/-
# Query parameters

A query is a list of names and texts in order. A list of values gives one parameter for each item.
Written out, a blank is a plus sign and every other character outside the unreserved ones is
percent-encoded.
-/
import ToolGateway.Text.Utf8
import ToolGateway.Value.Text

namespace ToolGateway
namespace Http

/-- An octet as a percent sign and two hexadecimal digits. -/
def percentOctet (b : UInt8) : List Char :=
  let digit (n : Nat) : Char := if n < 10 then Char.ofNat (48 + n) else Char.ofNat (55 + n)
  ['%', digit (b.toNat / 16), digit (b.toNat % 16)]

/-- A character as its percent-encoded octets. -/
def percentChar (c : Char) : List Char :=
  (Text.encodeUtf8 (String.singleton c)).flatMap percentOctet

/-- The text with the characters outside a class percent-encoded. -/
def percentEncode (keep : Char → Bool) (s : String) : String :=
  .ofList (s.toList.flatMap fun c => if keep c then [c] else percentChar c)

/-- Letters, digits and four marks stand for themselves everywhere. -/
def isUnreserved (c : Char) : Bool :=
  c.isAlphanum || c = '-' || c = '.' || c = '_' || c = '~'

/-- A name or a text of a query, written out. -/
def queryText (s : String) : String :=
  .ofList (s.toList.flatMap fun c =>
    if c = ' ' then ['+'] else if isUnreserved c then [c] else percentChar c)

/-- The text of a single value of a parameter. -/
def parameterText : Value → String
  | .bool b => if b then "true" else "false"
  | .null => ""
  | v => v.display

/-- The parameters that a named value gives. -/
def parameters (name : String) : Value → List (String × String)
  | .list xs => xs.map fun x => (name, parameterText x)
  | v => [(name, parameterText v)]

/-- A query written out. -/
def queryString (query : Table Value) : String :=
  "&".intercalate
    ((query.flatMap fun e => parameters e.1 e.2).map fun p => queryText p.1 ++ "=" ++ queryText p.2)

end Http
end ToolGateway
