/-
# Messages

A message to the server is a map of one of four kinds. A request has a method and an identity and
wants an answer; a notification has a method only; a response tells the result of a request, and a
fault tells why there is none. A message of no kind is told what it lacks for each of them.
-/
import ToolGateway.Check.Whole

namespace ToolGateway
namespace Server

/-- A request: it is answered under its identity. -/
structure Request where
  id : Value
  method : String
  params : Option Entries

/-- What a message asks for. -/
inductive Message where
  | request (r : Request)
  /-- Notifications, responses and faults are heard and not answered. -/
  | heard

namespace Message

/-- A field of a message. -/
def field (es : Entries) (name : String) (shape : Shape α) : Checked α :=
  Shape.required es ⟨name, name⟩ shape

/-- The version of the messages. -/
def version : Shape Unit
  | .text "2.0" => .fine ()
  | v => .issue (.notThis "2.0") v

/-- A value of one of two shapes; the issues of each stand under its name. -/
def either (left right : String × Shape Unit) : Shape Unit := fun v =>
  match left.2 v, right.2 v with
  | .fine (), _ | _, .fine () => .fine ()
  | .flawed is, .flawed js =>
    .flawed (is.map (Issue.under (.name left.1)) ++ js.map (Issue.under (.name right.1)))

/-- A shape whose value does not matter. -/
def bare (shape : Shape α) : Shape Unit := fun v => (shape v).map fun _ => ()

/-- The identity of a request: an integer or a text. -/
def identity : Shape Value := fun v =>
  (either ("int", bare Shape.integer) ("str", bare Shape.text) v).map fun () => v

/-- The identity in a fault: a text or a whole number. -/
def looseIdentity : Shape Unit := either ("str", bare Shape.text) ("int", bare Shape.whole)

/-- A map as it stands. -/
def entries : Shape Entries
  | .map es => .fine es
  | v => .issue .notMap v

/-- The parameters, which may be left out. -/
def parameters (es : Entries) : Checked (Option Entries) :=
  Shape.withDefault es ⟨"params", "params"⟩ (Shape.orNull entries) none

/-- A request. -/
def requestShape : Shape Request :=
  Shape.record "JSONRPCRequest" fun es =>
    (fun method params () id => ⟨id, method, params⟩)
      <$> field es "method" Shape.text <*> parameters es
      <*> field es "jsonrpc" version <*> field es "id" identity

/-- A notification. -/
def notificationShape : Shape Unit :=
  Shape.record "JSONRPCNotification" fun es =>
    (fun _ _ () => ())
      <$> field es "method" Shape.text <*> parameters es <*> field es "jsonrpc" version

/-- A response. -/
def responseShape : Shape Unit :=
  Shape.record "JSONRPCResponse" fun es =>
    (fun () _ _ => ())
      <$> field es "jsonrpc" version <*> field es "id" identity <*> field es "result" entries

/-- What a fault tells: a number and a text. -/
def faultDetails : Shape Unit :=
  Shape.record "ErrorData" fun es =>
    (fun _ _ => ()) <$> field es "code" Shape.whole <*> field es "message" Shape.text

/-- A fault. -/
def faultShape : Shape Unit :=
  Shape.record "JSONRPCError" fun es =>
    (fun () () () => ())
      <$> field es "jsonrpc" version <*> field es "id" looseIdentity
      <*> field es "error" faultDetails

/-- The message that a value is. What is a fault is no request, even if it has a method. -/
def read (v : Value) : Except (List Issue) Message :=
  match requestShape v, notificationShape v, responseShape v, faultShape v with
  | _, _, _, .fine () => .ok .heard
  | .fine r, _, _, _ => .ok (.request r)
  | _, .fine (), _, _ | _, _, .fine (), _ => .ok .heard
  | a, b, c, d =>
    .error ([("JSONRPCRequest", a.issues), ("JSONRPCNotification", b.issues),
        ("JSONRPCResponse", c.issues), ("JSONRPCError", d.issues)].flatMap
      fun kind => kind.2.map (Issue.under (.name kind.1)))

end Message
end Server
end ToolGateway
