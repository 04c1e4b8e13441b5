/-
# Compiling documents to tools

Every path of a document with an operation becomes a tool, in the order of the document. Of several
methods of a path the preferred one counts and the others are passed over. The arguments of the tool
are the parameters of path and query and, for the method that creates, the fields of the body. This
is `ToolCompiler` of `SPEC_FULL.md`, 4.4.
-/
import ToolGateway.Dispatch
import ToolGateway.Schema.Compile
import ToolGateway.Tool.Basic
import ToolGateway.Tool.Routing
import ToolGateway.Tool.Surface

namespace ToolGateway
namespace Tool

/-- What tools are compiled for: the surface, its credential, and the backend. -/
structure Target where
  surface : Surface
  credential : Credential
  config : Config

/-- The tool's method and path, and where its arguments go. -/
structure Plan where
  method : Http.Method
  router : Router

/-- The handler of a plan: it routes the arguments and calls the backend. -/
def handlerOf (target : Target) (plan : Plan) (arguments : Table Value) : Action Value := do
  let routed ← Action.ofOutcome (plan.router.route arguments)
  Dispatch.call target.config plan.method routed.path target.credential routed.query
    (if plan.method = .get then none else some (.ofTable routed.body))

/-- What is logged about a path without an operation. -/
def skippedText (path : String) : String := "No supported operation on " ++ path ++ "; skipped"

/-- What is logged about methods that are passed over. -/
def ignoredText (path : String) (m : Http.Method) (others : List Http.Method) : String :=
  path ++ " exposes " ++ m.name ++ " only; ignored: " ++ ", ".intercalate (others.map (·.name))

/-- The schema of the fields of a body. Only the method that creates has a body of its own. -/
def bodyProperties (schemas : Schema.Schemas) (m : Http.Method) (o : Operation) :
    Outcome Value := do
  let schema ← if m = .post then Schema.resolve schemas o.bodySchema else pure none
  return (((schema.bind (·.get? "properties"))).bind Value.given?).getD (.map [])

/-- The validator of a parameter; without a description of its own it has that of the parameter. -/
def compileParameter (schemas : Schema.Schemas) (p : Parameter) :
    Outcome (String × Validator) := do
  let v ← Schema.compile schemas (p.schema.getD .null) true
  let own := p.description.filter (· ≠ "")
  return (p.name, if v.description.isNone then { v with description := own.map .text } else v)

/-- The validators of an operation's parameters; of two with one name the last one counts. -/
def compileParameters (schemas : Schema.Schemas) (ps : List Parameter) :
    Outcome (Table Validator) := do
  return Table.ofList (← ps.mapM (compileParameter schemas))

/-- Fields under raw keys, behind those of a table. -/
def addRaw (fields : Table Validator) (raw : List (Value × Validator)) : List (Value × Validator) :=
  let put (acc : List (Value × Validator)) (e : Value × Validator) : List (Value × Validator) :=
    if acc.any fun f => f.1.sameKey e.1 then
      acc.map fun f => if f.1.sameKey e.1 then (f.1, e.2) else f
    else acc ++ [e]
  raw.foldl put (fields.map fun f => (.text f.1, f.2))

/-- The text keys of a map. -/
def textKeys : Value → List String
  | .map es => es.filterMap fun e => match e.1 with
    | .text s => some s
    | _ => none
  | _ => []

/-- The tool of an operation (`ToolCompiler.compile_tool`). -/
def ofOperation (schemas : Schema.Schemas) (target : Target) (path : String) (m : Http.Method)
    (o : Operation) : Outcome Tool := do
  let operationId ← match o.operationId.filter (· ≠ "") with
    | some id => pure id
    | none => Outcome.fail (.missingOperationId path m.name)
  let parameters := Parameter.inputs o.parameters
  let body ← bodyProperties schemas m o
  let parameterFields ← compileParameters schemas parameters
  let bodyFields ← Schema.compileFields schemas body
  let description ← Outcome.ofExcept
    ((target.surface.describe o.description).mapError .template)
  let fields ← Schema.properties "Tool" "input_schema" (addRaw parameterFields bodyFields)
  return {
    name := target.surface.toolName operationId
    description
    fields
    handler := handlerOf target ⟨m, ⟨path, parameters, textKeys body⟩⟩
    method := some m
    path := some path
    surface := some target.surface.name }

/-- The tool of a path, if it has an operation. -/
def ofPath (schemas : Schema.Schemas) (target : Target) (path : String) (item : PathItem) :
    Outcome (Option Tool) :=
  match item.selected? with
  | none => do
    Outcome.note .debug (skippedText path)
    return none
  | some (m, o) => do
    let others := item.others m
    if !others.isEmpty then Outcome.note .debug (ignoredText path m others)
    some <$> ofOperation schemas target path m o

/-- The tools of a document, in its order (`ToolCompiler.compile_document`). -/
def ofDocument (d : Document) (target : Target) : Outcome (List Tool) := do
  let tools ← d.paths.mapM fun p => ofPath d.schemas target p.1 p.2
  return tools.filterMap id

end Tool
end ToolGateway
