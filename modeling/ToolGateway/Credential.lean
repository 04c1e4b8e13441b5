/-
# Credentials

A credential is a token, sent as a bearer token, and perhaps a publishable key. The store's
credential uses the publishable key of the configuration for both. This is `Credential` of
`SPEC_FULL.md`, 3.
-/
import ToolGateway.Config

namespace ToolGateway

/-- What requests to a surface are authorized with. -/
structure Credential where
  token : String
  publishableKey : Option String
deriving DecidableEq, Repr

namespace Credential

/-- The fields of a credential. -/
def fields (es : Entries) : Checked Credential :=
  Credential.mk
    <$> Shape.withDefault es ⟨"token", "token"⟩ Shape.text ""
    <*> Shape.withDefault es ⟨"publishableKey", "publishable_key"⟩ (Shape.orNull Shape.text) none

/-- A credential read from a map. -/
def shape : Shape Credential := Shape.record "Credential" fields

/-- The credential of a value. -/
def read (v : Value) : Except Failure Credential :=
  match shape v with
  | .fine c => .ok c
  | .flawed issues => .error (.invalid "Credential" issues)

/-- The credential of the store (`store_credential`). -/
def store (c : Config) : Except Failure Credential :=
  let key := c.publishableKey
  read (.ofTable [("token", key), ("publishable_key", Config.orElse key .null)])

end Credential
end ToolGateway
