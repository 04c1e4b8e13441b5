/-
# The administrator's login

The credential of the administration comes from a login with user name and password. The response
must be no error and hold a token. This is the admin login of `SPEC_FULL.md`, 6.
-/
import ToolGateway.Credential
import ToolGateway.Http.Client

namespace ToolGateway
namespace Login

/-- The path of the login below the backend. -/
def path : String := "/auth/user/emailpass"

/-- The media type of bodies. -/
def mediaType : Value := .text "application/json"

/-- The token that a response body gives, if it gives one. -/
def token? (body : Option Value) : Option String :=
  match body.bind (·.get? "token") with
  | some (.text s) => if s = "" then none else some s
  | _ => none

/-- The credential that a response brings. -/
def credential (r : Http.Response) : Except Failure Credential :=
  if r.isError then do
    let body ← r.text.mapError .charset
    .error (.loginRefused r.status body)
  else do
    match token? (← r.json?) with
    | some token => .ok ⟨token, none⟩
    | none => .error (.loginWithoutToken r.status)

/-- What is logged about a login; the password is masked. -/
def loggingText (url : String) (username : Value) (mask : String) : String :=
  "Logging in to " ++ url ++ " as " ++ username.display ++ " (password " ++ mask ++ ")"

/-- Logs in as the configured user (`admin_login`). -/
def run (c : Config) : Action Credential := do
  let base ← Action.ofExcept c.backendUrl
  let url := base ++ path
  let mask ← Action.ofExcept (c.maskedPassword.mapError .raw)
  Action.note .debug (loggingText url (c.value .username) mask)
  let request ← Action.ofExcept <| Http.Draft.request {
    verb := Http.Method.post.verb
    address := url
    query := none
    headers := [(.text "Content-Type", mediaType), (.text "Accept", mediaType)]
    body := some (.ofTable
      [("email", c.value .username), ("password", c.value .password)])
    timeout := c.value .timeout }
  let response ← Http.exchange request
  Action.ofExcept (credential response)

end Login
end ToolGateway
