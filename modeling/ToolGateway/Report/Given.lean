/-
# Reports from given parts

A report of a family can be asked for by its parts, given in order, by name, or both. Parts that do
not fit the family are refused before anything is made of them. Some families take further named
parts as details.
-/
import ToolGateway.Report
import ToolGateway.Value.Membership

namespace ToolGateway

namespace ReportFamily

/-- All families, the outermost first. -/
def all : List ReportFamily :=
  [general, documentLoad, toolCompile, missingOperationId, schemaCycle, duplicateTools,
    toolNotFound, login]

/-- The name of a family. -/
def name : ReportFamily → String
  | general => "MedusaMCPError"
  | documentLoad => "DocumentLoadError"
  | toolCompile => "ToolCompileError"
  | missingOperationId => "MissingOperationIdError"
  | schemaCycle => "SchemaCycleError"
  | duplicateTools => "DuplicateToolError"
  | toolNotFound => "ToolNotFoundError"
  | login => "AuthenticationError"

/-- The family with a name. -/
def named? (name : String) : Option ReportFamily := all.find? fun k => k.name = name

/-- The names of the parts of a family in order. The first one is needed. -/
def partNames : ReportFamily → List String
  | general | documentLoad | toolCompile => ["message"]
  | missingOperationId => ["path", "method"]
  | schemaCycle => ["chain"]
  | duplicateTools => ["names"]
  | toolNotFound => ["name"]
  | login => ["message", "status_code"]

/-- Further named parts are details. -/
def takesDetails : ReportFamily → Bool
  | general | documentLoad | toolCompile | login => true
  | missingOperationId | schemaCycle | duplicateTools | toolNotFound => false

/-- The family that says which parts fit: families without parts of their own have those of all
reports. -/
def maker : ReportFamily → ReportFamily
  | documentLoad | toolCompile => general
  | k => k

end ReportFamily

/-- The parts that a report is asked for with. -/
structure GivenParts where
  inOrder : List Value
  named : Table Value

/-- Why given parts make no report. -/
inductive GivenFault where
  /-- A part is given in order and by name. -/
  | twice (family : ReportFamily) (part : String)
  /-- The family has no part of this name. -/
  | unknown (family : ReportFamily) (part : String)
  /-- More parts are given in order than the family has. -/
  | tooMany (family : ReportFamily) (count : Nat)
  /-- The part that is needed is not given. -/
  | missing (family : ReportFamily) (part : String)
  /-- A part does not have the items that it is asked for. -/
  | raw (fault : RawFault)
  /-- The report cannot be made. -/
  | report (fault : ReportFault)

namespace GivenFault

/-- How many parts fit, the report itself counted. -/
def capacity (family : ReportFamily) : String :=
  match family.partNames.length with
  | 1 => "2"
  | n => "from 2 to " ++ toString (n + 1)

/-- The fault of parts in words, behind the name of what takes them. -/
def located (family : ReportFamily) (words : String) : String :=
  family.maker.name ++ ".__init__() " ++ words

/-- The fault in words. -/
def message : GivenFault → String
  | twice k part => located k ("got multiple values for argument '" ++ part ++ "'")
  | unknown k part => located k ("got an unexpected keyword argument '" ++ part ++ "'")
  | tooMany k count =>
    located k ("takes " ++ capacity k ++ " positional arguments but " ++ toString (count + 1)
      ++ " were given")
  | missing k part => located k ("missing 1 required positional argument: '" ++ part ++ "'")
  | raw fault => fault.message
  | report fault => fault.message

end GivenFault

namespace GivenParts

/-- The name of the report itself, which no part has. -/
def ownName : String := "self"

/-- The first named part that does not fit. -/
def misnamed? (g : GivenParts) (k : ReportFamily) : Option GivenFault :=
  g.named.names.findSome? fun n =>
    if (ownName :: k.partNames.take g.inOrder.length).contains n then some (.twice k n)
    else if k.takesDetails || k.partNames.contains n then none
    else some (.unknown k n)

/-- What does not fit a family: first a named part, then the number of parts, then a part that is
needed and not given. -/
def misfit? (g : GivenParts) (k : ReportFamily) : Option GivenFault :=
  let count := g.inOrder.length
  g.misnamed? k
    <|> (if k.partNames.length < count then some (.tooMany k count) else none)
    <|> (((k.partNames.take 1).drop count).find? fun n => !g.named.has n).map (.missing k)

/-- A part by its place and its name; one that is not given is nothing. -/
def part (g : GivenParts) (place : Nat) (name : String) : Value :=
  (g.inOrder[place]?).getD ((g.named.get? name).getD .null)

/-- The named parts that are details of a family. -/
def details (g : GivenParts) (k : ReportFamily) : Table Value :=
  g.named.filter fun e => !k.partNames.contains e.1

/-- The items of a part. -/
def items (v : Value) : Except GivenFault (List Value) :=
  match v with
  | .list xs => .ok xs
  | .text s => .ok (s.toList.map fun c => .text (String.singleton c))
  | .map es => .ok (es.map Prod.fst)
  | v => .error (.raw (.notIterable v.kindName))

/-- The report of a family that the parts make if they fit. -/
def fitting (g : GivenParts) (k : ReportFamily) : Except GivenFault Report :=
  let plain (kind : ReportKind) : Except GivenFault Report :=
    (Report.make kind (g.part 0 "message") (g.details k)).mapError .report
  match k with
  | .general => plain .general
  | .documentLoad => plain .documentLoad
  | .toolCompile => plain .toolCompile
  | .missingOperationId =>
    (Report.missingOperationId (g.part 0 "path") (g.part 1 "method")).mapError .report
  | .schemaCycle => do
    let chain ← items (g.part 0 "chain")
    (Report.schemaCycle chain).mapError .report
  | .duplicateTools => do
    let names ← items (g.part 0 "names")
    (Report.duplicateTools names).mapError .report
  | .toolNotFound => (Report.toolNotFound (g.part 0 "name")).mapError .report
  | .login =>
    (Report.login (g.part 0 "message") (g.part 1 "status_code") (g.details k)).mapError .report

/-- The report of a family that given parts make. -/
def report (g : GivenParts) (k : ReportFamily) : Except GivenFault Report :=
  match g.misfit? k with
  | some fault => .error fault
  | none => g.fitting k

end GivenParts
end ToolGateway
