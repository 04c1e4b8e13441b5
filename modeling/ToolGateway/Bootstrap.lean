/-
# Starting up

Starting up loads the store's document, logs in as administrator, loads the administration's
document if that succeeded, reads the allow-list, and assembles the tools of the surfaces. A login
that fails leaves the tools of the store. This is the process bootstrap of `SPEC_FULL.md`, 2, with
the degradation of 7.
-/
import ToolGateway.Document.Source
import ToolGateway.Login
import ToolGateway.Server.Protocol
import ToolGateway.Toolset.Assemble

namespace ToolGateway
namespace Bootstrap

/-- The document that a setting leads to. -/
def document (files : Files) (c : Config) (s : Setting) : Action Document :=
  Action.ofExcept (Document.load files (.value (c.value s)))

/-- The source of the store's tools. -/
def storeSource (files : Files) (c : Config) : Action Toolset.Source := do
  let d ← document files c .storeOasPath
  let k ← Action.ofExcept (Credential.store c)
  return ⟨d, Surface.store, k⟩

/-- What is logged about a login that failed. -/
def loginFailureText (f : Failure) : String :=
  "Error initializing Medusa Admin Services: " ++ f.message

/-- The source of the administration's tools, if the login succeeds. Only failures of the login
itself are passed over. -/
def adminSource? (files : Files) (c : Config) : Action (Option Toolset.Source) := do
  match ← (Login.run c).attempt with
  | .ok k => return some ⟨← document files c .adminOasPath, Surface.admin, k⟩
  | .error f =>
    if f.isLoginFailure then
      Action.note .error (loginFailureText f)
      return none
    else Action.fail f

/-- The tools of a configuration (`build_tools`). -/
def buildTools (files : Files) (c : Config) : Action (List Tool) := do
  let policy ← Action.ofExcept (c.duplicateTools >>= fun name => Policy.read (.text name))
  let store ← storeSource files c
  let admin ← adminSource? files c
  let allowed ← Action.ofOutcome (AllowList.ofSetting files (c.value .allowedToolsPath))
  Action.ofOutcome (Toolset.assemble c policy (store :: admin.toList) allowed)

/-- The server of a configuration (`create_server`). -/
def createServer (files : Files) (c : Config) : Action Server := do
  let tools ← buildTools files c
  Action.ofOutcome (Server.make tools)

/-- Where and how a started server listens. -/
structure Launch where
  server : Server
  host : Value
  port : Value
  logLevel : String

/-- What is logged at the very start. -/
def startingText : String := "Starting Medusa Store MCP Server..."

/-- What is logged about a server that listens. -/
def runningText (host port : Value) : String :=
  "Medusajs MCP Server running on http://" ++ host.display ++ ":" ++ port.display
    ++ Server.Place.messagePath

/-- Starts the server of an environment. -/
def start (env : Environment) (files : Files) : Action Launch := do
  Action.note .info startingText
  let c ← Action.ofExcept ((Config.make env []).mapError .setting)
  let server ← createServer files c
  Action.note .info (runningText c.host c.port)
  return ⟨server, c.host, c.port, "info"⟩

end Bootstrap
end ToolGateway
