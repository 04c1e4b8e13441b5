/-
# Configuration

A configuration gives a value to each of twelve settings. A setting that is not given comes from the
environment, or else has a default. Configurations are merged setting by setting: what is not
nothing replaces what was there, and header maps are united. The settings are those of
`SPEC_FULL.md`, 9.
-/
import ToolGateway.Decimal.Numeral
import ToolGateway.Failure
import ToolGateway.Value.Masked

namespace ToolGateway

/-- The settings. -/
inductive Setting where
  | backendUrl
  | username
  | password
  | publishableKey
  | storeOasPath
  | adminOasPath
  | allowedToolsPath
  | duplicateTools
  | host
  | port
  | timeout
  | headers
deriving DecidableEq, Repr

namespace Setting

/-- All settings in order. -/
def all : List Setting :=
  [backendUrl, username, password, publishableKey, storeOasPath, adminOasPath, allowedToolsPath,
    duplicateTools, host, port, timeout, headers]

/-- The name under which a setting is given. -/
def name : Setting → String
  | backendUrl => "backend_url"
  | username => "username"
  | password => "password"
  | publishableKey => "publishable_key"
  | storeOasPath => "store_oas_path"
  | adminOasPath => "admin_oas_path"
  | allowedToolsPath => "allowed_tools_path"
  | duplicateTools => "duplicate_tools"
  | host => "host"
  | port => "port"
  | timeout => "timeout"
  | headers => "headers"

/-- The variables of the environment that a setting comes from, the preferred one first. -/
def variableNames : Setting → List String
  | backendUrl => ["MEDUSA_BACKEND_URL"]
  | username => ["MEDUSA_USERNAME"]
  | password => ["MEDUSA_PASSWORD"]
  | publishableKey => ["PUBLISHABLE_KEY", "NEXT_PUBLIC_MEDUSA_PUBLISHABLE_KEY"]
  | storeOasPath => ["MEDUSA_STORE_OAS_PATH"]
  | adminOasPath => ["MEDUSA_ADMIN_OAS_PATH"]
  | allowedToolsPath => ["MEDUSA_ALLOWED_TOOLS_PATH"]
  | duplicateTools => ["MEDUSA_DUPLICATE_TOOLS"]
  | host => ["HOST"]
  | port => ["PORT"]
  | timeout => ["MEDUSA_TIMEOUT"]
  | headers => []

/-- The text of a setting that is given nowhere. -/
def default : Setting → String
  | backendUrl => "http://localhost:9000"
  | username => "medusa_user"
  | password => "medusa_pass"
  | storeOasPath => "oas/store.json"
  | adminOasPath => "oas/admin.json"
  | allowedToolsPath => "allowed-tools.json"
  | duplicateTools => "keep"
  | host => "0.0.0.0"
  | port => "3000"
  | publishableKey | timeout | headers => ""

end Setting

/-- The variables of the environment. -/
abbrev Environment := Table String

/-- The first of some variables that is set, or a default. -/
def Environment.lookUp (env : Environment) (default : String) (names : List String) :
    String :=
  (names.findSome? env.get?).getD default

/-- A configuration. -/
structure Config where
  value : Setting → Value

namespace Config

/-! ## From given settings and the environment -/

/-- The text that the environment gives for a setting, or the default. -/
def ambientText (env : Environment) (s : Setting) : String := env.lookUp s.default s.variableNames

/-- The integer of a setting's text. -/
def readInteger (text : String) : Except SettingFault Value :=
  match Numeral.integer text with
  | .ok n => .ok (.int n)
  | .error .malformed => .error (.badInteger text)
  | .error (.tooManyDigits n) => .error (.tooManyDigits n)

/-- The number of a setting's text; an empty text is nothing. -/
def readNumber (text : String) : Except SettingFault Value :=
  if text = "" then .ok .null
  else
    match Numeral.float? text with
    | some x => .ok (.float x)
    | none => .error (.badFloat text)

/-- A value, or another one where it does not count as given. -/
def orElse (v other : Value) : Value := if v.isGiven then v else other

/-- The value given for a setting; nothing counts as not given. -/
def given? (given : Table Value) (s : Setting) : Option Value :=
  match given.get? s.name with
  | some .null => none
  | v => v

/-- The value of the port. -/
def portOf (env : Environment) (given : Table Value) : Except SettingFault Value :=
  match given? given .port with
  | some v => .ok v
  | none => readInteger (ambientText env .port)

/-- The value of the time limit. -/
def timeoutOf (env : Environment) (given : Table Value) : Except SettingFault Value :=
  match given? given .timeout with
  | some v => .ok v
  | none => readNumber (ambientText env .timeout)

/-- The value of the headers; without any they are an empty map. -/
def headersOf (given : Table Value) : Value := orElse ((given? given .headers).getD .null) (.map [])

/-- The value of a setting that is a text if it comes from the environment. -/
def textOrGiven (env : Environment) (given : Table Value) (s : Setting) : Value :=
  (given? given s).getD (.text (ambientText env s))

/-- The name of the configuration itself, which no setting has. -/
def ownName : String := "self"

/-- The configuration of given settings in an environment. -/
def make (env : Environment) (given : Table Value) : Except SettingFault Config := do
  if let some name := given.names.find? fun n => !(Setting.all.map Setting.name).contains n then
    throw (if name = ownName then .ownName else .unknownSetting name)
  let port ← portOf env given
  let timeout ← timeoutOf env given
  return ⟨fun s =>
    match s with
    | .port => port
    | .timeout => timeout
    | .headers => headersOf given
    | s => textOrGiven env given s⟩

/-! ## Merging -/

/-- A value after a newer one: nothing changes nothing, entries are added to entries, and all else
replaces. -/
def mergeValue (old new : Value) : Value :=
  match new, old with
  | .null, old => old
  | .map es, .map fs => .map (es.foldl (fun acc e => Entries.put acc e.1 e.2) fs)
  | .map _, old => old
  | new, _ => new

/-- The configuration after a newer one. -/
def merge (a b : Config) : Config := ⟨fun s => mergeValue (a.value s) (b.value s)⟩

/-- Entries cannot be added to what is no map. -/
def clashAt? (a b : Config) (s : Setting) : Option RawFault :=
  match b.value s, a.value s with
  | .map _, .map _ => none
  | .map _, old => some (.noMember old.kindName "update")
  | _, _ => none

/-- A merge that stopped at a setting: the fault, and the configuration reached. -/
structure UpdateFault where
  fault : RawFault
  reached : Config

/-- The fault of a merge, if it has one. The settings before the one that clashes are merged. -/
def updateFault? (a b : Config) : Option UpdateFault :=
  Setting.all.findSome? fun s =>
    (a.clashAt? b s).map fun fault =>
      let earlier := Setting.all.takeWhile (· ≠ s)
      ⟨fault, ⟨fun t => if t ∈ earlier then (a.merge b).value t else a.value t⟩⟩

/-- The configuration after newer ones, of which some may be missing (`Config.update`). -/
def update (c : Config) : List (Option Config) → Except UpdateFault Config
  | [] => .ok c
  | none :: rest => c.update rest
  | some d :: rest =>
    match c.updateFault? d with
    | some f => .error f
    | none => (c.merge d).update rest

/-! ## Reading settings -/

/-- The text of a setting's value, which is asked for `member`. -/
def textOf (v : Value) (member : String) : Except RawFault String :=
  match v with
  | .text s => .ok s
  | v => .error (.noMember v.kindName member)

/-- The address of the backend without slashes at its end. -/
def backendUrl (c : Config) : Except Failure String :=
  if (c.value .backendUrl).isGiven then do
    let s ← (textOf (c.value .backendUrl) "rstrip").mapError .raw
    return .ofList (s.toList.reverse.dropWhile (· = '/')).reverse
  else .error (.setting .noBackend)

/-- The publishable key, or an empty text. -/
def publishableKey (c : Config) : Value := orElse (c.value .publishableKey) (.text "")

/-- What is done with tools of one name, in lower case. -/
def duplicateTools (c : Config) : Except Failure String := do
  let s ← (textOf (orElse (c.value .duplicateTools) (.text "keep")) "lower").mapError .raw
  return Text.lower s

/-- The host to listen at. -/
def host (c : Config) : Value := orElse (c.value .host) (.text "0.0.0.0")

/-- The port to listen at. -/
def port (c : Config) : Value := orElse (c.value .port) (.int 3000)

/-- The headers that are sent with every request of a tool. -/
def headers (c : Config) : Value := orElse (c.value .headers) (.map [])

/-- The password with stars in it. -/
def maskedPassword (c : Config) : Except RawFault String := (c.value .password).masked

/-- A setting as it is shown; the password is masked. -/
def shown (c : Config) (s : Setting) : Except RawFault String := do
  let text ← if s = .password then c.maskedPassword else .ok (c.value s).display
  return "\"_" ++ s.name ++ "\": \"" ++ text ++ "\""

/-- All settings in one text. -/
def text (c : Config) : Except RawFault String := do
  let items ← Setting.all.mapM c.shown
  return "Config\x7b" ++ ", ".intercalate items ++ "\x7d"

end Config
end ToolGateway
