/-
# Routing arguments

The arguments of a call are flat. Each goes to the place of the first parameter of its name, which
may be the path or the query; else to the body, if it is one of the body's fields; else nowhere.
These are `ParameterClassifier` and `ArgumentRouter` of `SPEC_FULL.md`, 4.3.
-/
import ToolGateway.Document.Basic
import ToolGateway.Outcome

namespace ToolGateway

/-- The parts of a request that arguments are routed to. -/
structure Routed where
  path : String
  query : Table Value
  body : Table Value

namespace Routed

/-- The fields of routed parts. -/
def fields (es : Entries) : Checked Routed :=
  Routed.mk
    <$> Shape.required es ⟨"path", "path"⟩ Shape.text
    <*> Shape.withDefault es ⟨"query", "query"⟩ Shape.object []
    <*> Shape.withDefault es ⟨"body", "body"⟩ Shape.object []

/-- Routed parts read from a map. -/
def shape : Shape Routed := Shape.record "RoutedRequest" fields

end Routed

/-- The places of a request that take arguments, and the lack of one. -/
inductive Destination where
  | path
  | query
  | body
  | nowhere
deriving DecidableEq, Repr

namespace Parameter

/-- The location of parameters that stand in the path. -/
def inPath : String := "path"

/-- The location of parameters that stand in the query. -/
def inQuery : String := "query"

/-- Parameters elsewhere, such as in headers, are no arguments of the tool. -/
def isInput (p : Parameter) : Bool := p.location == inPath || p.location == inQuery

/-- The parameters that are arguments of the tool (`ParameterClassifier.input_parameters`). -/
def inputs (ps : List Parameter) : List Parameter := ps.filter isInput

/-- The first parameter of a name (`ParameterClassifier.find`). -/
def find? (ps : List Parameter) (name : String) : Option Parameter :=
  List.find? (fun p => p.name = name) ps

end Parameter

/-- How the arguments of an operation are routed. -/
structure Router where
  path : String
  parameters : List Parameter
  bodyFields : List String

namespace Router

/-- Where an argument goes. -/
def destination (r : Router) (name : String) : Destination :=
  let location := (Parameter.find? r.parameters name).map (·.location)
  if location = some Parameter.inPath then .path
  else if location = some Parameter.inQuery then .query
  else if r.bodyFields.contains name then .body
  else .nowhere

/-- The arguments that go to a destination, in their order. -/
def share (r : Router) (d : Destination) (arguments : Table Value) : Table Value :=
  arguments.filter fun a => r.destination a.1 = d

/-- The text of a value in a path. -/
def pathText : Value → String
  | .bool b => if b then "true" else "false"
  | v => v.display

/-- The mark of a name in a path. -/
def mark (name : String) : List Char := '\x7b' :: name.toList ++ ['\x7d']

/-- The text with the first occurrence of a part replaced. -/
def replaceFirst (part new : List Char) : List Char → List Char
  | [] => if part.isEmpty then new else []
  | c :: rest =>
    if part.isPrefixOf (c :: rest) then new ++ (c :: rest).drop part.length
    else c :: replaceFirst part new rest

/-- The path with the first mark of each argument replaced by its text, one after the other
(`ArgumentRouter.render_path`). -/
def renderPath (path : String) (arguments : Table Value) : String :=
  .ofList (arguments.foldl (fun cs a => replaceFirst (mark a.1) (pathText a.2).toList cs)
    path.toList)

/-- What is logged about arguments that go nowhere. -/
def unusedText (r : Router) (names : List String) : String :=
  "Unused arguments for " ++ r.path ++ ": " ++ ", ".intercalate names

/-- The parts of a request that arguments make. -/
def parts (r : Router) (arguments : Table Value) : Routed :=
  ⟨renderPath r.path (r.share .path arguments), r.share .query arguments, r.share .body arguments⟩

/-- Routes arguments; those that go nowhere are logged (`ArgumentRouter.route`). -/
def route (r : Router) (arguments : Table Value) : Outcome Routed := do
  let dropped := (r.share .nowhere arguments).names
  if !dropped.isEmpty then Outcome.note .debug (r.unusedText dropped)
  return r.parts arguments

/-- Raw arguments as a table; what does not count as given has none. -/
def rawArguments (v : Value) : Except RawFault (Table Value) :=
  if v.isGiven then do
    let es ← v.entries
    return Table.ofList (es.map fun e => (e.1.display, e.2))
  else .ok []

end Router
end ToolGateway
