/-
# Assembling a set of tools

The documents of all surfaces are compiled one after the other, their tools are merged by the policy
for equal names, and the allow-list is applied to the result. This is `ToolSetAssembler` of
`SPEC_FULL.md`, 4.6.
-/
import ToolGateway.Tool.Compile
import ToolGateway.Toolset.AllowList
import ToolGateway.Toolset.Policy

namespace ToolGateway
namespace Toolset

/-- A surface with its document and its credential. -/
structure Source where
  document : Document
  surface : Surface
  credential : Credential

/-- What is logged about a compiled document. -/
def compiledText (count : Nat) (surface : Surface) : String :=
  "Compiled " ++ toString count ++ " " ++ surface.name ++ " tools"

/-- The tools of a source. -/
def compileSource (config : Config) (s : Source) : Outcome (List Tool) := do
  let tools ← Tool.ofDocument s.document ⟨s.surface, s.credential, config⟩
  Outcome.note .debug (compiledText tools.length s.surface)
  return tools

/-- The tools of all sources, merged and filtered (`ToolSetAssembler.assemble`). -/
def assemble (config : Config) (policy : Policy) (sources : List Source) (allowed : AllowList) :
    Outcome (List Tool) := do
  let sets ← sources.mapM (compileSource config)
  let merged ← policy.merge sets
  allowed.filter merged

end Toolset
end ToolGateway
