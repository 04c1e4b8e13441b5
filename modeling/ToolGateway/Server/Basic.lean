/-
# The server

The server knows all tools that it was given and answers for the first one of each name. A call
gives the JSON text of the tool's result. This is `MedusaMCPServer` of `SPEC_FULL.md`, 6.
-/
import ToolGateway.Tool.Basic

namespace ToolGateway

/-- A server with its tools, and those that it answers for. -/
structure Server where
  tools : List Tool
  registry : Table Tool

namespace Server

/-- What is logged about a tool whose name is taken. -/
def takenText (name : String) : String :=
  "Tool " ++ name ++ " is already registered; later definition ignored"

/-- The first tool of each name, behind those already known. -/
def register (known : Table Tool) : List Tool → Table Tool
  | [] => known
  | t :: rest => register (if known.has t.name then known else known ++ [(t.name, t)]) rest

/-- The log of the registration. -/
def registrationLog (known : Table Tool) : List Tool → List LogEntry
  | [] => []
  | t :: rest =>
    if known.has t.name then ⟨.warning, takenText t.name⟩ :: registrationLog known rest
    else registrationLog (known ++ [(t.name, t)]) rest

/-- A server for tools. -/
def make (tools : List Tool) : Outcome Server :=
  ⟨registrationLog [] tools, .ok ⟨tools, register [] tools⟩⟩

/-- The tool that answers for a name (`MedusaMCPServer.get_tool`). -/
def tool? (s : Server) (name : String) : Option Tool := s.registry.get? name

/-- The tools that the server answers for. -/
def registered (s : Server) : List Tool := s.registry.map Prod.snd

/-- The text of a result. -/
def resultText (result : Value) : Except Failure String :=
  (Json.write Json.lenient result).mapError .unwritable

/-- Calls the tool of a name and gives its result as a text (`MedusaMCPServer.call_tool`). -/
def call (s : Server) (name : String) (arguments : Value) : Action String :=
  match s.tool? name with
  | none => Action.fail (.toolNotFound name)
  | some t => do
    let result ← t.invoke arguments
    Action.ofExcept (resultText result)

/-- A name without a tool is refused, and nothing is sent. -/
theorem call_of_tool?_eq_none {s : Server} {name : String} (h : s.tool? name = none)
    (arguments : Value) (replies : List Http.Reply) :
    (s.call name arguments).run replies = ⟨[], [], replies, .error (.toolNotFound name)⟩ := by
  unfold call
  rw [h]
  rfl

end Server
end ToolGateway
