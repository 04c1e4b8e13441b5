/-
# Sending requests

A request is put together from an address, a query, headers and a body. What cannot be sent fails
before anything is sent: first the address, then the headers, then the query, then the body.
-/
import ToolGateway.Outcome

namespace ToolGateway
namespace Http

/-- What a request is put together from. -/
structure Draft where
  verb : String
  address : String
  /-- Parameters that take the place of the address's own query. -/
  query : Option (Table Value)
  headers : Entries
  body : Option Value
  timeout : Value

namespace Draft

/-- The address with its query. -/
def withParameters (u : Url) : Option (Table Value) → Except UrlFault Url
  | none => .ok u
  | some q => u.withQuery (queryString q)

/-- The headers as they are sent. User name and password of the address go first. -/
def sentHeaders (u : Url) (encoded : List (String × String)) : Table String :=
  let headers := Headers.joined encoded
  match u.credentials? with
  | some (name, password) =>
    if name = "" ∧ password = "" then headers
    else headers.put "authorization" (Headers.basic name password)
  | none => headers

/-- The text of the body. -/
def bodyText : Option Value → Except Json.WriteFault String
  | none => .ok ""
  | some v => Json.write Json.compact v

/-- The host can be sent to: it is written in ASCII, where no header names another one, and it is
no broken code of a name. -/
def checkHost (u : Url) (encoded : List (String × String)) : Except Failure Unit := do
  if !encoded.any fun h => Text.asciiLower h.1 = "host" then
    if let some f := Text.asciiFault? u.hostAndPort then throw (.ascii f)
  (HostName.check u.host).mapError .hostName

/-- The request as it is sent. -/
def request (d : Draft) : Except Failure Request := do
  let u ← ((Url.parse d.address).bind Url.rooted).mapError .address
  let encoded ← (Headers.encode d.headers).mapError .header
  let u ← (withParameters u d.query).mapError .address
  let body ← (bodyText d.body).mapError .unwritable
  checkHost u encoded
  return {
    verb := d.verb
    address := u.text
    headers := sentHeaders u encoded
    body
    timeout := d.timeout }

end Draft

/-- The statuses that lead to another address. -/
def redirectStatuses : List Int := [301, 302, 303, 307, 308]

/-- A delivery read: its headers are encoded like those of a request, and the codings of its body
are undone. -/
def Delivery.read (d : Delivery) : Except Failure Response := do
  let headers ← (Headers.encode d.headers).mapError .header
  let r : Response := ⟨d.status, headers, d.body⟩
  r.plain.mapError .coding

/-- A redirect is not followed, but its address must be one. If it has a scheme and no host, it must
be one with the host of the request. A host that it has must be one. -/
def Response.redirectFault? (r : Response) : Option Failure :=
  if redirectStatuses.contains r.status then
    match (r.header? "location").map Url.parse with
    | some (.error f) =>
      some (.transport
        ⟨"RemoteProtocolError", "Invalid URL in location header: " ++ f.message ++ "."⟩)
    | some (.ok u) =>
      if u.scheme ≠ "" ∧ u.host = "" ∧ u.path ≠ "" ∧ u.path.toList.head? ≠ some '/' then
        some (.address .pathWithoutSlash)
      else
        match HostName.check u.host with
        | .error f => some (.hostName f)
        | .ok () => none
    | none => none
  else none

/-- What is wrong with a response to a request: an address without a scheme has no place for what
is kept for later requests, and a redirect may lead nowhere. -/
def Response.fault? (q : Request) (r : Response) : Option Failure :=
  if q.address.toList.head? = some '/' then some (.address (.withoutScheme q.address))
  else r.redirectFault?

/-- Sends a request and gives the response. -/
def exchange (q : Request) : Action Response := do
  let d ← Action.send q
  let r ← Action.ofExcept d.read
  match r.fault? q with
  | some f => Action.fail f
  | none => return r

/-- The value of a response body in JSON, if it is one. A body that is nested too deeply is a
fault. -/
def Response.json? (r : Response) : Except Failure (Option Value) :=
  let (encoding, octets) := Text.Encoding.detect r.body
  match encoding.decode? octets with
  | none => .ok none
  | some s =>
    match Json.read s with
    | .ok v => .ok (some v)
    | .error (.tooDeep kind) => .error (.json s (.tooDeep kind))
    | .error _ => .ok none

/-- The value of a response: nothing, its JSON, or its text. -/
def Response.value (r : Response) : Except Failure Value :=
  if r.body.isEmpty then .ok .null
  else do
    match ← r.json? with
    | some v => return v
    | none => (r.text.map .text).mapError .charset

end Http
end ToolGateway
