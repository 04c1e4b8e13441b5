/-
# Loading documents

A document comes from a map as it stands, from a text or octets that hold JSON or YAML, or from a
file with such a text. A text is taken for the path of a file if it is a single line that ends like
the name of one. What is not JSON is read as YAML. This is the document loader of `SPEC_FULL.md`, 6.
-/
import ToolGateway.Document.Basic
import ToolGateway.Files
import ToolGateway.Yaml.Value

namespace ToolGateway
namespace Document

/-- What a document is loaded from. -/
inductive Source where
  | value (v : Value)
  | path (p : String)

namespace Source

/-- The ends of the names of document files. -/
def fileEnds : List String := [".json", ".yaml", ".yml"]

/-- A text that is taken for the path of a file. -/
def looksLikePath (s : String) : Bool :=
  let trimmed := Text.trimEnd s.toList
  (fileEnds.any fun e => e.toList.isSuffixOf trimmed) && !s.toList.contains '\n'

/-- The text of the file at a path. -/
def textAt (files : Files) (path : String) : Except Failure String := do
  match ← files.read? path with
  | some s => return s
  | none => throw (.documentNotFound (Files.shortPath path))

/-- The value of a document text: JSON, or else YAML. -/
def parseText (s : String) : Except Failure Value :=
  if s = "" then .error .documentEmpty
  else
    match Json.read s with
    | .ok v => .ok v
    | .error (.tooManyDigits n) => .error (.json s (.tooManyDigits n))
    | .error (.tooDeep kind) => .error (.json s (.tooDeep kind))
    | .error (.mistake _ _) =>
      match Yaml.read s with
      | .ok v => .ok v
      | .error .malformed => .error .documentUnreadable
      | .error (.scalar f) => .error (.scalar f)
      | .error .tooDeep => .error .tooDeep

/-- The entries of a loaded value, which must be a map. -/
def entriesOf : Value → Except Failure Entries
  | .map es => .ok es
  | _ => .error .documentNotMap

/-- The entries of a document text. -/
def parseEntries (s : String) : Except Failure Entries := do
  entriesOf (← parseText s)

/-- The entries of the raw document. -/
def raw (files : Files) : Source → Except Failure Entries
  | path p => do parseEntries (← textAt files p)
  | value (.map es) => .ok es
  | value (.text s) => do
    parseEntries (← if looksLikePath s then textAt files s else .ok s)
  | value (.bytes b) =>
    match Text.decodeUtf8 b with
    | .ok s => parseEntries s
    | .error f => .error (.utf8 f)
  | value v => if v.isGiven then .error (.documentKind v.kindName) else .error .documentEmpty

end Source

/-- The document of a source (`load_document`). -/
def load (files : Files) (source : Source) : Except Failure Document := do
  ofEntries (← source.raw files)

end Document
end ToolGateway
