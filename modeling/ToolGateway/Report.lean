/-
# Reports

What the gateway itself refuses is reported with a headline and details. The text is the headline
followed by the details in JSON. Reports of some kinds make their own headline and details from what
they are about; the parts are values, since a caller may put anything there. The families are those
of `SPEC_FULL.md`, 7, with `MedusaMCPError` at the root.
-/
import ToolGateway.Json.Writer
import ToolGateway.Text.Blank

namespace ToolGateway

/-- What a report is about. -/
inductive ReportKind where
  | general
  | documentLoad
  | toolCompile
  | missingOperationId (path method : Value)
  | schemaCycle (chain : List Value)
  | duplicateTools (names : List Value)
  | toolNotFound (name : Value)
  | login (status : Value)

/-- The families of reports; each but the first lies within another. -/
inductive ReportFamily where
  | general
  | documentLoad
  | toolCompile
  | missingOperationId
  | schemaCycle
  | duplicateTools
  | toolNotFound
  | login
deriving DecidableEq, Repr

/-- The family around a family. -/
def ReportFamily.around? : ReportFamily → Option ReportFamily
  | general => none
  | missingOperationId | schemaCycle => some toolCompile
  | documentLoad | toolCompile | duplicateTools | toolNotFound | login => some general

/-- The family of a kind. -/
def ReportKind.family : ReportKind → ReportFamily
  | general => .general
  | documentLoad => .documentLoad
  | toolCompile => .toolCompile
  | missingOperationId _ _ => .missingOperationId
  | schemaCycle _ => .schemaCycle
  | duplicateTools _ => .duplicateTools
  | toolNotFound _ => .toolNotFound
  | login _ => .login

/-- A report: its kind, its headline, its details, and the text it was opened with. -/
structure Report where
  kind : ReportKind
  headline : Value
  details : Table Value
  opening : Value

/-- Why a report cannot be made or shown. -/
inductive ReportFault where
  /-- The details have no JSON form. -/
  | details (fault : Json.WriteFault)
  /-- An item to be joined is not a text. -/
  | joined (index : Nat) (kind : String)
  /-- The headline cannot be extended by the details. -/
  | extended (kind : String)
  /-- The headline shown alone is not a text. -/
  | shown (kind : String)
  /-- A detail has the name of the family. -/
  | ownDetail
deriving DecidableEq

namespace ReportFault

/-- The fault in words. -/
def message : ReportFault → String
  | details .notFinite => "Out of range float values are not JSON compliant"
  | details (.otherKind kind) => "'" ++ kind ++ "' object has no attribute '__dict__'"
  | details .circle => "Circular reference detected"
  | details .tooManyDigits => DigitLimit.writeMessage
  | details .tooDeep => "maximum recursion depth exceeded while encoding a JSON object"
  | details (.otherKey kind) => "keys must be str, int, float, bool or None, not " ++ kind
  | joined i kind =>
    "sequence item " ++ toString i ++ ": expected str instance, " ++ kind ++ " found"
  | extended kind => "unsupported operand type(s) for +=: '" ++ kind ++ "' and 'str'"
  | shown kind => "__str__ returned non-string (type " ++ kind ++ ")"
  | ownDetail => "MedusaMCPError.kwargs_str() got multiple values for argument 'cls'"

end ReportFault

namespace Report

/-- The name of the family among details, which no detail has. -/
def ownName : String := "cls"

/-- The details in JSON; no details are no text. -/
def detailsText (details : Table Value) : Except ReportFault String :=
  if details.isEmpty then .ok ""
  else if details.has ownName then .error .ownDetail
  else (Json.write Json.spaced (.ofTable details)).mapError .details

/-- A report with a headline and details. The opening text is the headline, or nothing, with the
details behind it. -/
def make (kind : ReportKind) (headline : Value) (details : Table Value) :
    Except ReportFault Report := do
  let base := if headline.isGiven then headline else .text ""
  if details.isEmpty then return ⟨kind, headline, details, base⟩
  let extra := " " ++ (← detailsText details)
  match base with
  | .text s => return ⟨kind, headline, details, .text (s ++ extra)⟩
  | .list xs =>
    let longer := Value.list (xs ++ extra.toList.map fun c => .text (String.singleton c))
    return ⟨kind, longer, details, longer⟩
  | v => .error (.extended v.kindName)

/-- Texts joined by a separator; the first item that is none is a fault. -/
def join (separator : String) (items : List Value) : Except ReportFault String := do
  let texts ← items.zipIdx.mapM fun (v, i) =>
    match v with
    | .text s => .ok s
    | v => .error (ReportFault.joined i v.kindName)
  return separator.intercalate texts

/-- A path without a name for its tool. -/
def missingOperationId (path method : Value) : Except ReportFault Report :=
  make (.missingOperationId path method) (.text ("No name found for path: " ++ path.display))
    [("path", path), ("method", method)]

/-- References that lead back to one of themselves. -/
def schemaCycle (chain : List Value) : Except ReportFault Report := do
  let links ← join " -> " chain
  make (.schemaCycle chain) (.text ("Cyclic schema reference: " ++ links)) []

/-- Names that more than one tool has. -/
def duplicateTools (names : List Value) : Except ReportFault Report := do
  let listed ← join ", " names
  make (.duplicateTools names) (.text ("Duplicate tool names: " ++ listed)) []

/-- A name that no tool has. -/
def toolNotFound (name : Value) : Except ReportFault Report :=
  make (.toolNotFound name) (.text ("Tool '" ++ name.display ++ "' not found.")) []

/-- A login that gave no token; the status is a detail if there is one. -/
def login (headline status : Value) (details : Table Value) : Except ReportFault Report :=
  make (.login status) headline
    (match status with
     | .null => details
     | s => details.put "status_code" s)

/-- The text of a report: the headline, with the details behind it if there are any. -/
def text (r : Report) : Except ReportFault String := do
  if r.details.isEmpty then
    match r.headline with
    | .text s => return s
    | v => .error (.shown v.kindName)
  else return r.headline.display ++ " " ++ (← detailsText r.details)

/-- The families that a report belongs to, its own first. -/
def families (r : Report) : List ReportFamily :=
  let own := r.kind.family
  match own.around? with
  | none => [own]
  | some outer =>
    match outer.around? with
    | none => [own, outer]
    | some outermost => [own, outer, outermost]

end Report
end ToolGateway
