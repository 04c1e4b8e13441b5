/-
# Which log entries are shown

The environment says from which importance on log entries are shown: by the name of a level, or by
marks of a development environment. These are the levels of `SPEC_FULL.md`, 10.
-/
import ToolGateway.Config
import ToolGateway.Outcome

namespace ToolGateway
namespace LogThreshold

/-- The importance of ordinary information. -/
def info : Nat := 20

/-- The importance of details for developers. -/
def debug : Nat := 10

/-- The importance that a level stands for, by its name in capitals. -/
def named? : String → Option Nat
  | "CRITICAL" | "FATAL" => some 50
  | "ERROR" => some 40
  | "WARNING" | "WARN" => some 30
  | "INFO" => some info
  | "DEBUG" => some debug
  | "NOTSET" => some 0
  | _ => none

/-- The variable that names the level. -/
def levelVariable : String := "MEDUSA_MCP_LOG_LEVEL"

/-- The variables that are read. -/
def variableNames : List String := [levelVariable, "DEBUG", "NODE_ENV"]

/-- The least importance of the entries that are shown. -/
def ofEnvironment (env : Environment) : Nat :=
  let level := (env.get? levelVariable).getD ""
  if level ≠ "" then (named? (Text.upperAscii level)).getD info
  else if (env.get? "DEBUG").getD "" ≠ "" ∨ env.get? "NODE_ENV" = some "development" then debug
  else info

end LogThreshold

/-- The importance of an entry's level. -/
def LogLevel.importance : LogLevel → Nat
  | debug => 10
  | info => 20
  | warning => 30
  | error => 40

/-- The name of a level. -/
def LogLevel.name : LogLevel → String
  | debug => "DEBUG"
  | info => "INFO"
  | warning => "WARNING"
  | error => "ERROR"

end ToolGateway
