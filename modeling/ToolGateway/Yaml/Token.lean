/-
# Tokens of a YAML text

Brackets, marks and scalars as they stand in the text, and the starts and ends of blocks that
follow from the indentation. The last token is the end of the text or the fault that ended it.
-/
import ToolGateway.Yaml.Cursor

namespace ToolGateway
namespace Yaml

/-- A directive in front of a document. -/
inductive Directive where
  | version (major : Nat)
  | tag (handle front : String)
  | other
deriving DecidableEq, Repr

/-- A token. -/
inductive Token where
  | streamEnd
  | fault (f : Fault)
  | directive (d : Directive)
  | documentStart
  | documentEnd
  | blockSequenceStart
  | blockMappingStart
  | blockEnd
  | flowSequenceStart
  | flowSequenceEnd
  | flowMappingStart
  | flowMappingEnd
  | flowEntry
  | blockEntry
  | key
  | value
  | alias_ (name : String)
  | anchor (name : String)
  | tag (handle : Option String) (suffix : String)
  | scalar (plain : Bool) (text : String)
deriving DecidableEq, Repr

end Yaml
end ToolGateway
