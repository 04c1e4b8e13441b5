/-
# The command

The command starts the server of the environment, writes the log to the error stream, and answers
one message in each line of the input. It has no connection to a backend of its own. This is the
process of `SPEC_FULL.md`, 2.
-/
import ToolGateway.Bootstrap
import ToolGateway.LogThreshold

namespace ToolGateway
namespace Command

/-- The variables of the environment that are read. -/
def variableNames : List String :=
  LogThreshold.variableNames ++ Setting.all.flatMap Setting.variableNames

/-- The environment, as far as it is read. -/
def environment : IO Environment := do
  let entries ← variableNames.mapM fun name => do
    return (← IO.getEnv name).map (name, ·)
  return entries.filterMap id

/-- The file at a path, if it can be read. -/
def file? (path : String) : IO (Option (String × FileEntry)) := do
  try
    let octets ← IO.FS.readBinFile path
    let fromRoot := Files.root path ≠ ""
    let names := (Files.steps path).foldl (Files.goOn fromRoot) []
    return some (Files.nameOf fromRoot names, .file octets.toList)
  catch _ => return none

/-- The files that the configuration names. -/
def files (env : Environment) : IO Files := do
  let paths := [Setting.storeOasPath, .adminOasPath, .allowedToolsPath].map (Config.ambientText env)
  return (← paths.mapM file?).filterMap id

/-- Writes the entries of a log that are shown. -/
def showLog (env : Environment) (log : List LogEntry) : IO Unit := do
  let threshold := LogThreshold.ofEnvironment env
  for e in log do
    if threshold ≤ e.level.importance then
      IO.eprintln ("[" ++ e.level.name ++ "] " ++ e.text)

/-- The answer to a line of the input. -/
def answerLine (server : Server) (line : String) : Action String :=
  match Json.read line with
  | .error _ => pure ""
  | .ok message => do
    let answer ← server.answer message
    return (Server.resultText answer.body).toOption.getD ""

/-- Answers the lines of the input. -/
partial def listen (env : Environment) (server : Server) (input : IO.FS.Stream) : IO Unit := do
  let line ← input.getLine
  if line.isEmpty then return
  let run := (answerLine server line).run []
  showLog env run.log
  match run.result with
  | .ok text => IO.println text
  | .error f => IO.eprintln f.message
  listen env server input

/-- Starts the server and answers messages. -/
def run : IO UInt32 := do
  let env ← environment
  let run := (Bootstrap.start env (← files env)).run []
  showLog env run.log
  match run.result with
  | .error f =>
    IO.eprintln f.message
    return 1
  | .ok launch =>
    listen env launch.server (← IO.getStdin)
    return 0

end Command
end ToolGateway

/-- The command. -/
def main : IO UInt32 := ToolGateway.Command.run
