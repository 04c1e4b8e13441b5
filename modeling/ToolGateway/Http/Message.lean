/-
# Requests and replies

A request is kept as it would be sent: method, address, headers with names in lower case, body and
time limit. A reply is a status with headers and a body, or the failure to get one.
-/
import ToolGateway.Http.Parameters
import ToolGateway.Value.Basic

namespace ToolGateway
namespace Http

/-- The methods that operations may have. -/
inductive Method where
  | get
  | post
  | delete
deriving DecidableEq, Repr, Inhabited

/-- The name of a method in documents. -/
def Method.name : Method → String
  | get => "get"
  | post => "post"
  | delete => "delete"

/-- The name of a method in requests. -/
def Method.verb : Method → String
  | get => "GET"
  | post => "POST"
  | delete => "DELETE"

/-- The method with a name; the name is in lower case. -/
def Method.named? (name : String) : Option Method :=
  [get, post, delete].find? fun m => m.name = name

/-- A method is found under its name. -/
theorem Method.named?_name (m : Method) : Method.named? m.name = some m := by
  cases m <;> decide

/-- A request as it is sent. -/
structure Request where
  verb : String
  address : String
  headers : List (String × String)
  body : String
  timeout : Value

/-- A failure to get a reply: its kind and its text. -/
structure TransportFault where
  kind : String
  message : String
deriving DecidableEq, Repr

/-- The failures that are not failures of an exchange but of its use. -/
def TransportFault.outside : List String :=
  ["InvalidURL", "CookieConflict", "StreamError", "StreamConsumed", "StreamClosed",
    "ResponseNotRead", "RequestNotRead"]

/-- A reply as it is delivered: its headers may hold anything, and its body may be coded. -/
structure Delivery where
  status : Int
  headers : Entries
  body : List UInt8

/-- What a request gets. -/
abbrev Reply := Except TransportFault Delivery

/-- A response: a delivery whose headers are texts and whose body is plain. -/
structure Response where
  status : Int
  headers : List (String × String)
  body : List UInt8

namespace Response

/-- The value of a header, found without regard to case; the values of one name are joined. -/
def header? (r : Response) (name : String) : Option String :=
  match r.headers.filter fun h => Text.asciiLower h.1 = name with
  | [] => none
  | found => some (", ".intercalate (found.map Prod.snd))

/-- A status from 400 to 599 is an error. -/
def isError (r : Response) : Bool := 400 ≤ r.status && r.status ≤ 599

/-- The charset of the body; one that is not given or not known is UTF-8. -/
def charset (r : Response) : Except Text.CharsetFault Text.Charset :=
  match r.header? "content-type" with
  | none => .ok (.plain .utf8)
  | some h => do
    let name ← Parameters.charsetName? h
    return (name.bind Text.Charset.named?).getD (.plain .utf8)

/-- The body as a text. Without octets there is nothing to read. -/
def text (r : Response) : Except Text.CharsetFault String :=
  if r.body.isEmpty then .ok "" else do (← r.charset).decode r.body

end Response
end Http
end ToolGateway
