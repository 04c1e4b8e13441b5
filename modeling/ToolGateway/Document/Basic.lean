/-
# Interface documents

Of an interface document four things are kept: the paths with the operations of three methods, the
parameters of each operation, its request body, and the table of schemas. The paths and the schemas
keep the order of the document. This is `InterfaceDocument` of `SPEC_FULL.md`, 3.
-/
import ToolGateway.Check.Shape
import ToolGateway.Failure
import ToolGateway.Schema.Reference

namespace ToolGateway

/-- A parameter of an operation. -/
structure Parameter where
  name : String
  location : String
  schema : Option Value
  description : Option String
  required : Bool

/-- An operation of a path. -/
structure Operation where
  operationId : Option String
  summary : Option String
  description : Option String
  parameters : List Parameter
  requestBody : Option Value

/-- The operations of a path, at most one for each method. -/
structure PathItem where
  get : Option Operation
  post : Option Operation
  delete : Option Operation

/-- An interface document. -/
structure Document where
  paths : Table PathItem
  schemas : Schema.Schemas

/-- A map with text keys, kept as a value. -/
def Shape.mapping : Shape Value := fun v => (Shape.object v).map Value.ofTable

namespace Parameter

/-- Where a parameter stands if the document does not say it. -/
def defaultLocation : String := "query"

/-- The fields of a parameter. -/
def fields (es : Entries) : Checked Parameter :=
  Parameter.mk
    <$> Shape.required es ⟨"name", "name"⟩ Shape.text
    <*> Shape.withDefault es ⟨"in", "location"⟩ Shape.text defaultLocation
    <*> Shape.withDefault es ⟨"schema", "param_schema"⟩ (Shape.orNull Shape.mapping) none
    <*> Shape.withDefault es ⟨"description", "description"⟩ (Shape.orNull Shape.text) none
    <*> Shape.withDefault es ⟨"required", "required"⟩ Shape.truth false

/-- A parameter read from a map. -/
def shape : Shape Parameter := Shape.record "Parameter" fields

end Parameter

namespace Operation

/-- The fields of an operation. -/
def fields (es : Entries) : Checked Operation :=
  Operation.mk
    <$> Shape.withDefault es ⟨"operationId", "operation_id"⟩ (Shape.orNull Shape.text) none
    <*> Shape.withDefault es ⟨"summary", "summary"⟩ (Shape.orNull Shape.text) none
    <*> Shape.withDefault es ⟨"description", "description"⟩ (Shape.orNull Shape.text) none
    <*> Shape.withDefault es ⟨"parameters", "parameters"⟩ (Shape.list Parameter.shape) []
    <*> Shape.withDefault es ⟨"requestBody", "request_body"⟩ (Shape.orNull Shape.mapping) none

/-- An operation read from a map. -/
def shape : Shape Operation := Shape.record "Operation" fields

/-- The schema of a JSON body (`Operation.json_body_schema`). Bodies of other types are not known. -/
def bodySchema (o : Operation) : Value :=
  ((o.requestBody.bind (·.at? ["content", "application/json", "schema"]))).getD .null

end Operation

namespace PathItem

/-- The fields of a path item. -/
def fields (es : Entries) : Checked PathItem :=
  PathItem.mk
    <$> Shape.withDefault es ⟨"get", "get"⟩ (Shape.orNull Operation.shape) none
    <*> Shape.withDefault es ⟨"post", "post"⟩ (Shape.orNull Operation.shape) none
    <*> Shape.withDefault es ⟨"delete", "delete"⟩ (Shape.orNull Operation.shape) none

/-- A path item read from a map. -/
def shape : Shape PathItem := Shape.record "PathItem" fields

/-- The operation of a method. -/
def operation? (item : PathItem) : Http.Method → Option Operation
  | .get => item.get
  | .post => item.post
  | .delete => item.delete

/-- The order in which the methods of a path are preferred. -/
def precedence : List Http.Method := [.get, .post, .delete]

/-- The preferred operation with its method (`ToolCompiler.select_operation`). -/
def selected? (item : PathItem) : Option (Http.Method × Operation) :=
  precedence.findSome? fun m => (item.operation? m).map (m, ·)

/-- The methods with an operation other than the one given. -/
def others (item : PathItem) (selected : Http.Method) : List Http.Method :=
  precedence.filter fun m => m != selected && (item.operation? m).isSome

end PathItem

namespace Document

/-- The table of schemas of a map of components. -/
def schemasOf : Shape Schema.Schemas :=
  Shape.record "Components" fun es =>
    Shape.withDefault es ⟨"schemas", "schemas"⟩ (Shape.table Shape.mapping) []

/-- The fields of a document. -/
def fields (es : Entries) : Checked Document :=
  Document.mk
    <$> Shape.withDefault es ⟨"paths", "paths"⟩ (Shape.table PathItem.shape) []
    <*> Shape.withDefault es ⟨"components", "components"⟩ schemasOf []

/-- A document read from a map in which every path is to be an item. -/
def shape : Shape Document := Shape.record "InterfaceDocument" fields

/-- The failure of a document with issues; if they have no written form, that is the failure. -/
def invalid (issues : List Issue) : Failure :=
  let failure := Failure.documentInvalid issues
  match failure.report? with
  | some (.error fault) => .report fault
  | _ => failure

/-- The part of a raw document that is checked: path items that are maps, and the schemas. -/
def relevant (es : Entries) : Except RawFault Value := do
  let paths ← (Schema.keyword es "paths" (.map [])).entries
  let items := paths.filter fun e => e.2.isMap
  let schemas := (((Value.map es).at? ["components", "schemas"]).bind Value.given?).getD (.map [])
  return .ofTable [("paths", .map items), ("components", .ofTable [("schemas", schemas)])]

/-- The document of a raw map (`InterfaceDocument.from_dict`). Path items that are no maps are
passed over. -/
def ofEntries (es : Entries) : Except Failure Document := do
  let raw ← (relevant es).mapError .raw
  match shape raw with
  | .fine d => return d
  | .flawed issues => .error (invalid issues)

end Document
end ToolGateway
