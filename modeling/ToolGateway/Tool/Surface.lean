/-
# Surfaces

A surface is a part of the backend with tools of its own. It gives their names a front and lays out
their descriptions; apart from that all surfaces are compiled alike. This is `Surface` of
`SPEC_FULL.md`, 4.4.
-/
import ToolGateway.Failure

namespace ToolGateway

/-- A part of the backend. -/
structure Surface where
  name : String
  front : String
  template : String
deriving DecidableEq, Repr

namespace Surface

/-- A template that is the description alone. -/
def plainTemplate : String := "\x7bdescription\x7d"

/-- The fields of a surface. -/
def fields (es : Entries) : Checked Surface :=
  Surface.mk
    <$> Shape.required es ⟨"name", "name"⟩ Shape.text
    <*> Shape.withDefault es ⟨"toolNamePrefix", "tool_name_prefix"⟩ Shape.text ""
    <*> Shape.withDefault es ⟨"descriptionTemplate", "description_template"⟩ Shape.text
          plainTemplate

/-- A surface read from a map. -/
def shape : Shape Surface := Shape.record "Surface" fields

/-- The surface of customers. -/
def store : Surface := ⟨"store", "", plainTemplate⟩

/-- The surface of administrators. -/
def admin : Surface :=
  ⟨"admin", "Admin", "This tool helps store administrators. " ++ plainTemplate⟩

/-- The name of the tool of an operation (`Surface.tool_name`). -/
def toolName (s : Surface) (operationId : String) : String := s.front ++ operationId

/-- The description of a tool; without one the template stands alone (`Surface.describe`). -/
def describe (s : Surface) (description : Option String) : Except Template.Fault String :=
  Template.render s.template (description.getD "")

end Surface
end ToolGateway
