/-
# Allow-lists

An allow-list names the tools that may be called. It has an effect only if it does not allow all
tools and names at least one. This is `AllowList` of `SPEC_FULL.md`, 4.6 and 6.
-/
import ToolGateway.Files
import ToolGateway.Outcome
import ToolGateway.Tool.Basic

namespace ToolGateway

/-- An allow-list. -/
structure AllowList where
  allowsAll : Bool
  names : List String
deriving DecidableEq, Repr

namespace AllowList

/-- The list that allows everything. -/
def everything : AllowList := ⟨true, []⟩

/-- The fields of an allow-list. -/
def fields (es : Entries) : Checked AllowList :=
  AllowList.mk
    <$> Shape.withDefault es ⟨"allowAllTools", "allow_all_tools"⟩ Shape.truth true
    <*> Shape.withDefault es ⟨"allowedTools", "allowed_tools"⟩ (Shape.list Shape.text) []

/-- An allow-list read from a map. -/
def shape : Shape AllowList := Shape.record "AllowList" fields

/-- The allow-list of a value. -/
def read (v : Value) : Except Failure AllowList :=
  match shape v with
  | .fine a => .ok a
  | .flawed issues => .error (.invalid "AllowList" issues)

/-- The list has an effect. -/
def enabled (a : AllowList) : Bool := !a.allowsAll && !a.names.isEmpty

/-- The allow-list of a JSON text. -/
def ofText (s : String) : Except Failure AllowList :=
  match Json.read s with
  | .ok v => read v
  | .error f => .error (.json s f)

/-- What is logged about a file that is not there. -/
def notFoundText (path : String) : String :=
  "Allow-list file " ++ path ++ " not found; all tools allowed"

/-- The allow-list of a file; without the file everything is allowed (`AllowList.from_file`). -/
def ofFile (files : Files) (path : String) : Outcome AllowList := do
  match ← Outcome.ofExcept (files.read? path) with
  | some s => Outcome.ofExcept (ofText s)
  | none =>
    Outcome.note .debug (notFoundText (Files.shortPath path))
    return everything

/-- The allow-list of the file that a setting names. -/
def ofSetting (files : Files) : Value → Outcome AllowList
  | .text path => ofFile files path
  | v => .fail (.setting (.noPath v.kindName))

/-! ## Filtering tools -/

/-- How many of the names that are filtered out are logged. -/
def previewLength : Nat := 5

/-- What is logged if there is no effective list. -/
def allEnabledText (total : Nat) : String :=
  "All tools enabled: " ++ toString total ++ " tools available"

/-- What is logged about the tools that are kept. -/
def keptText (kept total : Nat) : String :=
  "Tool filtering enabled: " ++ toString kept ++ "/" ++ toString total ++ " tools allowed"

/-- What is logged about the tools that are filtered out. -/
def disabledText (names : List String) : String :=
  "Disabled tools (" ++ toString names.length ++ "): "
    ++ ", ".intercalate (names.take previewLength)
    ++ (if previewLength < names.length then
          " ... and " ++ toString (names.length - previewLength) ++ " more"
        else "")

/-- The list lets a tool through. -/
def allows (a : AllowList) (t : Tool) : Bool := !a.enabled || a.names.contains t.name

/-- The log of a filtering. -/
def filterLog (a : AllowList) (tools : List Tool) : List LogEntry :=
  if a.enabled then
    let disabled := (tools.filter fun t => !a.allows t).map (·.name)
    ⟨.info, keptText (tools.filter a.allows).length tools.length⟩
      :: (if disabled.isEmpty then [] else [⟨.info, disabledText disabled⟩])
  else [⟨.info, allEnabledText tools.length⟩]

/-- The tools that the list lets through, in their order (`ToolSetAssembler.filter_allowed`). -/
def filter (a : AllowList) (tools : List Tool) : Outcome (List Tool) :=
  ⟨a.filterLog tools, .ok (tools.filter a.allows)⟩

/-- A list without an effect lets everything through. -/
theorem allows_of_not_enabled {a : AllowList} (h : a.enabled = false) (t : Tool) :
    a.allows t = true := by
  simp [allows, h]

/-- An effective list lets through exactly the tools that it names. -/
theorem allows_eq_contains {a : AllowList} (h : a.enabled = true) (t : Tool) :
    a.allows t = a.names.contains t.name := by
  simp [allows, h]

end AllowList
end ToolGateway
