/-
# Inquiries

A request is an inquiry if its method is known and its parameters fit the method. Each method says
which parameters must be there and which may be; others do not matter. A parameter that may be left
out may also be null.
-/
import ToolGateway.Http.Locator
import ToolGateway.Server.Message

namespace ToolGateway
namespace Server

/-- A test that a parameter has to pass. -/
abbrev Test := Value → Bool

namespace Test

/-- A test by a shape. -/
def ofShape (shape : Shape α) : Test := fun v => (shape v).issues.isEmpty

/-- A text. -/
def text : Test := ofShape Shape.text

/-- A text or a whole number. -/
def textOrWhole : Test := fun v => text v || ofShape Shape.whole v

/-- A text among some. -/
def among (choices : List String) : Test
  | .text s => choices.contains s
  | _ => false

/-- A locator. -/
def locator : Test
  | .text s => Http.isLocator s
  | _ => false

/-- A list of values that pass a test. -/
def listOf (item : Test) : Test
  | .list vs => vs.all item
  | _ => false

/-- A map of values that pass a test. -/
def mapOf (value : Test) : Test
  | .map es => es.all fun e => value e.2
  | _ => false

/-- Any map. -/
def anyMap : Test := mapOf fun _ => true

/-- The entries hold what must be there, and what else may be there fits. -/
def holds (must may : List (String × Test)) (es : Entries) : Bool :=
  must.all (fun f => (Entries.get? es f.1).any f.2)
    && may.all fun f => match Entries.get? es f.1 with
      | none | some .null => true
      | some v => f.2 v

/-- A map with fields that must be there and fields that may be there. -/
def fields (must may : List (String × Test)) : Test
  | .map es => holds must may es
  | _ => false

end Test

/-- A method and its parameters. -/
structure Method where
  name : String
  /-- Without parameters the request fits, too. -/
  bare : Bool
  must : List (String × Test)
  may : List (String × Test)

namespace Method

open Test

/-- What every request may tell about itself. -/
def aside : List (String × Test) :=
  [("_meta", fields [] [("progressToken", textOrWhole)]),
    ("task", fields [] [("ttl", ofShape Shape.integer)])]

/-- A method that can be called without parameters. -/
def free (name : String) : Method := ⟨name, true, [], aside⟩

/-- A method that lists something, page by page. -/
def pages (name : String) : Method := ⟨name, true, [], aside ++ [("cursor", text)]⟩

/-- A method with parameters that must be there. -/
def needing (name : String) (must : List (String × Test)) (may : List (String × Test)) : Method :=
  ⟨name, false, must, aside ++ may⟩

/-- A map that may hold some maps. -/
def maps (names : List String) : Test := fields [] (names.map (·, anyMap))

/-- What a client can do. -/
def capabilities : Test :=
  fields []
    [("experimental", mapOf anyMap), ("sampling", maps ["context", "tools"]),
      ("elicitation", maps ["form", "url"]),
      ("roots", fields [] [("listChanged", ofShape Shape.truth)]),
      ("tasks", fields []
        [("list", anyMap), ("cancel", anyMap),
          ("requests", fields []
            [("sampling", maps ["createMessage"]), ("elicitation", maps ["create"])])])]

/-- A picture that stands for a client. -/
def icon : Test := fields [("src", text)] [("mimeType", text), ("sizes", listOf text)]

/-- Who the client is. -/
def client : Test :=
  fields [("name", text), ("version", text)]
    [("title", text), ("websiteUrl", text), ("icons", listOf icon)]

/-- What a completion is for: a resource or a prompt. -/
def completed : Test := fun v =>
  fields [("type", among ["ref/resource"]), ("uri", text)] [] v
    || fields [("type", among ["ref/prompt"]), ("name", text)] [("title", text)] v

/-- The levels of log entries that a client can ask for. -/
def levels : List String :=
  ["debug", "info", "notice", "warning", "error", "critical", "alert", "emergency"]

/-- All methods that are known. -/
def all : List Method :=
  [free "ping",
    needing "initialize"
      [("protocolVersion", textOrWhole), ("capabilities", capabilities), ("clientInfo", client)] [],
    needing "completion/complete"
      [("ref", completed), ("argument", fields [("name", text), ("value", text)] [])]
      [("context", fields [] [("arguments", mapOf text)])],
    needing "logging/setLevel" [("level", among levels)] [],
    needing "prompts/get" [("name", text)] [("arguments", mapOf text)],
    pages "prompts/list", pages "resources/list", pages "resources/templates/list",
    needing "resources/read" [("uri", locator)] [],
    needing "resources/subscribe" [("uri", locator)] [],
    needing "resources/unsubscribe" [("uri", locator)] [],
    needing "tools/call" [("name", text)] [("arguments", anyMap)],
    pages "tools/list",
    needing "tasks/get" [("taskId", text)] [],
    needing "tasks/result" [("taskId", text)] [],
    needing "tasks/cancel" [("taskId", text)] [],
    pages "tasks/list"]

/-- The parameters fit the method. -/
def accepts (m : Method) (params : Option Entries) : Bool :=
  match params with
  | none => m.bare
  | some es => holds m.must m.may es

/-- The method with a name. -/
def named? (name : String) : Option Method := all.find? fun m => m.name = name

end Method

/-- What is asked for. -/
inductive Inquiry where
  /-- A sign of life. -/
  | life
  /-- An introduction, in a version of the protocol if it is told by name. -/
  | introduction (version : Option String)
  /-- The tools. -/
  | tools
  /-- A call of a tool. -/
  | call (name : String) (arguments : Entries)
  /-- What this server does not serve. -/
  | foreign

namespace Inquiry

/-- A text among the parameters. -/
def textOf? (params : Entries) (name : String) : Option String :=
  match Entries.get? params name with
  | some (.text s) => some s
  | _ => none

/-- A map among the parameters, empty if it is not there. -/
def entriesOf (params : Entries) (name : String) : Entries :=
  match Entries.get? params name with
  | some (.map es) => es
  | _ => []

/-- What a request asks for, if its method is known and its parameters fit. -/
def ofRequest? (r : Request) : Option Inquiry := do
  let m ← Method.named? r.method
  guard (m.accepts r.params)
  let params := r.params.getD []
  match r.method with
  | "ping" => return .life
  | "initialize" => return .introduction (textOf? params "protocolVersion")
  | "tools/list" => return .tools
  | "tools/call" =>
    return .call ((textOf? params "name").getD "") (entriesOf params "arguments")
  | _ => return .foreign

end Inquiry
end Server
end ToolGateway
