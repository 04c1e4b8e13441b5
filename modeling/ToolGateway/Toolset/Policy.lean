/-
# Tools of one name

Tools of several surfaces may have one name. A policy says whether all of them are kept, the first
one of each name, or none at all because the names must differ. This is `DuplicateToolPolicy` of
`SPEC_FULL.md`, 4.6.
-/
import ToolGateway.Tool.Basic

namespace ToolGateway

/-- What is done with tools of one name. -/
inductive Policy where
  | keep
  | first
  | error
deriving DecidableEq, Repr

namespace Policy

/-- The name of a policy. -/
def name : Policy → String
  | keep => "keep"
  | first => "first"
  | error => "error"

/-- The policy of a name. -/
def read (v : Value) : Except Failure Policy :=
  match v with
  | .text "keep" => .ok keep
  | .text "first" => .ok first
  | .text "error" => .ok error
  | v => .error (.setting (.unknownPolicy v))

/-- The names that occur more than once, in the order of their first occurrence. -/
def repeatedNames (names : List String) : List String :=
  names.eraseDups.filter fun n => 1 < names.count n

/-- The names that more than one tool has (`duplicate_names`). -/
def duplicateNames (tools : List Tool) : List String := repeatedNames (tools.map (·.name))

/-- The first tool of each name; names that were seen before do not count. -/
def firstOf (seen : List String) : List Tool → List Tool
  | [] => []
  | t :: rest =>
    if t.name ∈ seen then firstOf seen rest else t :: firstOf (t.name :: seen) rest

/-- What is logged if all tools are kept. -/
def keptText (names : List String) : String :=
  "Duplicate tool names across surfaces: " ++ ", ".intercalate names

/-- What is logged if the first of each name is kept. -/
def firstText (names : List String) : String :=
  "Duplicate tool names, keeping first occurrence: " ++ ", ".intercalate names

/-- Applies the policy to the tools of all surfaces. -/
def resolve (p : Policy) (tools : List Tool) : Outcome (List Tool) :=
  let names := duplicateNames tools
  if names.isEmpty then pure tools
  else
    match p with
    | .error => .fail (.duplicateTools names)
    | .first => ⟨[⟨.warning, firstText names⟩], .ok (firstOf [] tools)⟩
    | .keep => ⟨[⟨.warning, keptText names⟩], .ok tools⟩

/-- The tools of several sets, one set after the other, by the policy (`ToolSetAssembler.merge`). -/
def merge (p : Policy) (sets : List (List Tool)) : Outcome (List Tool) := p.resolve sets.flatten

end Policy
end ToolGateway
