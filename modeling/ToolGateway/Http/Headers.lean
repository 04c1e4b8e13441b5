/-
# Headers

A header is sent with an ASCII name and an ASCII value. Names count without regard to case: the
values of one name are joined, and a header that is set takes the place of those it had.
-/
import ToolGateway.Text.Ascii
import ToolGateway.Text.LetterCase
import ToolGateway.Text.Utf8
import ToolGateway.Value.Text

namespace ToolGateway
namespace Http

/-- A header cannot be sent. -/
inductive HeaderFault where
  | notAscii (fault : Text.AsciiFault)
  /-- The name is of a kind that has no octets. -/
  | nameKind (kind : String)
  /-- The value is of a kind that has no octets. -/
  | valueKind (kind : String)
deriving DecidableEq, Repr

/-- The fault in words. -/
def HeaderFault.message : HeaderFault → String
  | notAscii fault => fault.message
  | nameKind kind => "'" ++ kind ++ "' object has no attribute 'encode'"
  | valueKind kind => "Header value must be str or bytes, not <class '" ++ kind ++ "'>"

namespace Headers

/-- A text that can be sent. -/
def sendable (s : String) : Except HeaderFault String :=
  match Text.asciiFault? s with
  | some f => .error (.notAscii f)
  | none => .ok s

/-- The name of a header as it is sent. -/
def sendableName : Value → Except HeaderFault String
  | .text s => sendable s
  | .bytes b => .ok (Text.decodeUtf8Replacing b)
  | v => .error (.nameKind v.kindName)

/-- The value of a header as it is sent. -/
def sendableValue : Value → Except HeaderFault String
  | .text s => sendable s
  | .bytes b => .ok (Text.decodeUtf8Replacing b)
  | v => .error (.valueKind v.kindName)

/-- Headers as they are sent, the name of each before its value. -/
def encode : Entries → Except HeaderFault (List (String × String))
  | [] => .ok []
  | (name, v) :: rest => do
    let n ← sendableName name
    let value ← sendableValue v
    let more ← encode rest
    return (n, value) :: more

/-- Adds a header: its value goes behind those that the name already has. -/
def add (headers : Table String) (name value : String) : Table String :=
  let key := Text.asciiLower name
  headers.put key (match headers.get? key with
    | some before => before ++ ", " ++ value
    | none => value)

/-- Headers by their names in lower case, the values of one name joined. -/
def joined (sent : List (String × String)) : Table String :=
  sent.foldl (fun acc h => add acc h.1 h.2) []

/-! ## User name and password -/

/-- The character of six bits. -/
def sixBits (n : Nat) : Char :=
  if n < 26 then Char.ofNat (65 + n)
  else if n < 52 then Char.ofNat (71 + n)
  else if n < 62 then Char.ofNat (n - 4)
  else if n = 62 then '+'
  else '/'

/-- Octets in characters of six bits, filled up to groups of four. -/
def base64 : List UInt8 → List Char
  | a :: b :: c :: rest =>
    let n := a.toNat * 65536 + b.toNat * 256 + c.toNat
    sixBits (n / 262144) :: sixBits (n / 4096 % 64) :: sixBits (n / 64 % 64) :: sixBits (n % 64)
      :: base64 rest
  | [a, b] =>
    let n := a.toNat * 65536 + b.toNat * 256
    [sixBits (n / 262144), sixBits (n / 4096 % 64), sixBits (n / 64 % 64), '=']
  | [a] => [sixBits (a.toNat / 4), sixBits (a.toNat * 16 % 64), '=', '=']
  | [] => []

/-- The authorization by user name and password. -/
def basic (name password : String) : String :=
  "Basic " ++ .ofList (base64 (Text.encodeUtf8 (name ++ ":" ++ password)))

example : basic "user" "pass" = "Basic dXNlcjpwYXNz" := by decide +kernel

end Headers
end Http
end ToolGateway
