/-
# Tools

A tool has a name, a description, validators for its arguments, and a handler that is given the
arguments once they are found fine. This is `Tool` of `SPEC_FULL.md`, 3.
-/
import ToolGateway.Outcome
import ToolGateway.Schema.Validator

namespace ToolGateway

/-- A tool that can be called. -/
structure Tool where
  name : String
  description : String
  fields : Table Validator
  handler : Table Value → Action Value
  method : Option Http.Method
  path : Option String
  surface : Option String

namespace Tool

/-- The schema of the tool's arguments (`Tool.input_json_schema`). -/
def inputSchema (t : Tool) : Value := Validator.objectSchema t.fields

/-- The name of the place of the arguments. -/
def argumentsName (t : Tool) : String := t.name ++ "Args"

/-- The name of the model of the arguments. -/
def modelName (t : Tool) : String := Validator.modelName t.argumentsName

/-- Checks arguments; arguments that are not given count as none at all. -/
def checkArguments (t : Tool) (arguments : Value) : Checked (Table Value) :=
  if arguments.isGiven then
    match arguments with
    | .map es => Validator.checkFields t.fields t.argumentsName es
    | v => .issue (.notModel t.modelName) v
  else Validator.checkFields t.fields t.argumentsName []

/-- The arguments that are declared, each as it was given (`Tool.validate_arguments`). -/
def validate (t : Tool) (arguments : Value) : Except Failure (Table Value) :=
  match t.checkArguments arguments with
  | .fine args => .ok args
  | .flawed issues => .error (.invalid t.modelName issues)

/-- Checks the arguments and calls the handler. -/
def invoke (t : Tool) (arguments : Value) : Action Value := do
  let args ← Action.ofExcept (t.validate arguments)
  t.handler args

/-- Arguments that are refused send nothing. -/
theorem invoke_of_error {t : Tool} {arguments : Value} {f : Failure}
    (h : t.validate arguments = .error f) (replies : List Http.Reply) :
    (t.invoke arguments).run replies = ⟨[], [], replies, .error f⟩ := by
  unfold invoke
  rw [h]
  rfl

end Tool
end ToolGateway
