/-
# Dispatching calls to the backend

A call is a single request with the headers of the configuration, the headers that every call has,
and those of the credential. Its answer is what the backend replied, whatever the status. This is
`Dispatcher` of `SPEC_FULL.md`, 4.5.
-/
import ToolGateway.Credential
import ToolGateway.Http.Client

namespace ToolGateway
namespace Dispatch

/-- The header of the publishable key. -/
def keyHeader : String := "x-publishable-api-key"

/-- The media type of bodies. -/
def mediaType : Value := .text "application/json"

/-- The items of a value in a list of pairs: those of a list, the characters of a text, the keys of
a map. -/
def pairItems? : Value → Option (List Value)
  | .list xs => some xs
  | .text s => some (s.toList.map fun c => .text (String.singleton c))
  | .map es => some (es.map Prod.fst)
  | _ => none

/-- Entries after the pairs of a list, whose places are counted on from `index`. -/
def putPairs (entries : Entries) (index : Nat) : List Value → Except Failure Entries
  | [] => .ok entries
  | v :: rest =>
    match pairItems? v with
    | none => .error (.setting (.headerItemKind index))
    | some [.list _, _] => .error (.raw (.noKeyKind "list"))
    | some [.map _, _] => .error (.raw (.noKeyKind "dict"))
    | some [name, value] => putPairs (entries.put name value) (index + 1) rest
    | some xs => .error (.setting (.headerItem index xs.length))

/-- The headers of the configuration. Names that are no texts are found out when they are sent. -/
def configuredHeaders (c : Config) : Except Failure Entries :=
  match c.headers with
  | .map es => .ok (es.foldl (fun acc e => Entries.put acc e.1 e.2) [])
  | v =>
    match pairItems? v with
    | some xs => putPairs [] 0 xs
    | none => .error (.raw (.notIterable v.kindName))

/-- The headers that the credential brings. Without a token none is sent, so that the backend
refuses. -/
def credentialHeaders (k : Credential) : Table Value :=
  (if k.token = "" then [] else [("Authorization", .text ("Bearer " ++ k.token))])
    ++ (match k.publishableKey with
        | some key => if key = "" then [] else [(keyHeader, .text key)]
        | none => [])

/-- The headers of a call (`Dispatcher.build_headers`). -/
def headers (c : Config) (k : Credential) : Except Failure Entries := do
  let configured ← configuredHeaders c
  let own := [("Content-Type", mediaType), ("Accept", mediaType)] ++ credentialHeaders k
  return own.foldl (fun acc h => Entries.put acc (.text h.1) h.2) configured

/-- The address of a path below the backend (`Dispatcher.build_url`). -/
def address (c : Config) (path : String) : Except Failure String := do
  let base ← c.backendUrl
  if path = "" then return base
  return base ++ "/" ++ .ofList (path.toList.dropWhile (· = '/'))

/-- What is logged about a call. -/
def fetchingText (m : Http.Method) (path : String) (query : Table Value) : String :=
  "Fetching " ++ path ++ " with " ++ m.verb ++ " " ++ Http.queryString query

/-- A call of the backend (`Dispatcher.dispatch`). A body is not sent with the method that only
reads. -/
def call (c : Config) (m : Http.Method) (path : String) (k : Credential) (query : Table Value)
    (body : Option Value) : Action Value := do
  let address ← Action.ofExcept (address c path)
  let headers ← Action.ofExcept (headers c k)
  Action.note .debug (fetchingText m path query)
  let request ← Action.ofExcept <| Http.Draft.request {
    verb := m.verb
    address
    query := if query.isEmpty then none else some query
    headers
    body := if m = .get then none else body
    timeout := c.value .timeout }
  let response ← Http.exchange request
  Action.ofExcept response.value

end Dispatch
end ToolGateway
