/-
# Answers to messages

The server is asked by messages in JSON: for its tools, for a call of one of them, or for a sign of
life. A call is checked against the published schema first; whatever goes wrong with it is told in
the text of the answer. This is the service at `POST /mcp` of `SPEC_FULL.md`, 6.
-/
import ToolGateway.Schema.Instance
import ToolGateway.Server.Basic
import ToolGateway.Server.Inquiry
import ToolGateway.Server.Place

namespace ToolGateway
namespace Server

/-- The name under which the server introduces itself. -/
def serverName : String := "Medusa Store MCP Server"

/-- The version that the server introduces itself with. -/
def serverVersion : String := "1.0.0"

/-- The newest version of the protocol. -/
def newestVersion : String := "2025-11-25"

/-- The versions of the protocol that are known. -/
def protocolVersions : List String := ["2024-11-05", "2025-03-26", "2025-06-18", newestVersion]

/-- The answer to a message: its status and its body. -/
structure Answer where
  status : Nat
  body : Value

namespace Answer

/-- An answer that tells a detail. -/
def detail (status : Nat) (text : String) : Answer := ⟨status, .ofTable [("detail", .text text)]⟩

/-- Nothing is found at another path. -/
def notFound : Answer := detail 404 "Not Found"

/-- A page takes no messages. -/
def notAllowed : Answer := detail 405 "Method Not Allowed"

/-- The place is found under another path. -/
def moved : Answer := ⟨307, .text ""⟩

/-- A message that needs no answer is accepted. -/
def accepted : Answer := ⟨202, .text ""⟩

/-- Nothing was sent that could be a message. -/
def withoutMessage : Answer := ⟨400, .text "Invalid Content-Type header"⟩

/-- A message with an answer of its own. -/
def reply (status : Nat) (id : Value) (name : String) (v : Value) : Answer :=
  ⟨status, .ofTable [("jsonrpc", .text "2.0"), ("id", id), (name, v)]⟩

/-- A result. -/
def result (id v : Value) : Answer := reply 200 id "result" v

/-- A request that cannot be served. -/
def refused (id : Value) (code : Int) (message : String) (data : Table Value) : Answer :=
  reply 200 id "error" (.ofTable ([("code", .int code), ("message", .text message)] ++ data))

/-- The method is known, but not to this server. -/
def methodNotFound (id : Value) : Answer := refused id (-32601) "Method not found" []

/-- The method is not known at all, or its parameters do not fit. -/
def unfit (id : Value) : Answer :=
  refused id (-32602) "Invalid request parameters" [("data", .text "")]

/-- The message is of no kind. -/
def unreadable (issues : List Issue) : Answer :=
  reply 400 (.text "server-error") "error"
    (.ofTable [("code", .int (-32602)),
      ("message", .text ("Validation error: " ++ Issue.summary "JSONRPCMessage" issues))])

end Answer

/-- A tool as it is listed. -/
def listing (t : Tool) : Value :=
  .ofTable [("name", .text t.name), ("description", .text t.description),
    ("inputSchema", t.inputSchema)]

/-- The content of a call's result. -/
def content (text : String) (isError : Bool) : Value :=
  .ofTable
    [("content", .list [.ofTable [("type", .text "text"), ("text", .text text)]]),
      ("isError", .bool isError)]

/-- What is wrong with the arguments of a call, if the tool is known. -/
def misfitText? (s : Server) (name : String) (arguments : Value) : Option String :=
  ((s.tool? name).bind fun t => Schema.misfit? t.inputSchema arguments).map
    ("Input validation error: " ++ ·)

/-- The content that a call gives; a failure is told in words. -/
def callContent (s : Server) (name : String) (arguments : Value) : Action Value :=
  match s.misfitText? name arguments with
  | some text => pure (content text true)
  | none => do
    match ← (s.call name arguments).attempt with
    | .ok text => return content text false
    | .error f => return content f.message true

/-- The version that is spoken: the one asked for if it is known. -/
def spokenVersion (asked : Option String) : String :=
  match asked with
  | some v => if protocolVersions.contains v then v else newestVersion
  | none => newestVersion

/-- How the server introduces itself. -/
def introduction (asked : Option String) : Value :=
  .ofTable
    [("protocolVersion", .text (spokenVersion asked)),
      ("capabilities", .ofTable
        [("experimental", .map []), ("tools", .ofTable [("listChanged", .bool false)])]),
      ("serverInfo", .ofTable [("name", .text serverName), ("version", .text serverVersion)])]

/-- The answer to a request. -/
def serve (s : Server) (r : Request) : Action Answer :=
  match Inquiry.ofRequest? r with
  | none => pure (.unfit r.id)
  | some .foreign => pure (.methodNotFound r.id)
  | some .life => pure (.result r.id (.map []))
  | some (.introduction asked) => pure (.result r.id (introduction asked))
  | some .tools => pure (.result r.id (.ofTable [("tools", .list (s.registered.map listing))]))
  | some (.call name arguments) => Answer.result r.id <$> s.callContent name (.map arguments)

/-- The answer to a message. -/
def answer (s : Server) : Value → Action Answer
  | .null => pure .withoutMessage
  | v =>
    match Message.read v with
    | .ok (.request r) => s.serve r
    | .ok .heard => pure .accepted
    | .error issues => pure (.unreadable issues)

/-- The answer to a message that is sent to an address. Both have to be such that they can be
sent. -/
def answerAt (s : Server) (address : String) (message : Value) : Action Answer := do
  let path ← Action.ofExcept (Place.pathOf address)
  let _ ← Action.ofExcept ((Json.write Json.compact message).mapError .unwritable)
  match Place.ofPath path with
  | .messages => s.answer message
  | .page => return .notAllowed
  | .moved => return .moved
  | .nowhere => return .notFound

end Server
end ToolGateway
