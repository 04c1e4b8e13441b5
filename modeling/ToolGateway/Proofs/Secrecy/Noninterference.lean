/-
# Secrets do not flow

The password, the token and the publishable key do not show in logs, in tools or in results.  What
is said is said of two runs: with another secret the program does the same, but for the body of the
login or for two headers of a call (`secrets_do_not_flow`).
-/

import ToolGateway.Proofs.Secrecy.Credentials
import ToolGateway.Proofs.Secrecy.Password
import ToolGateway.Proofs.Tool.Delivery

namespace ToolGateway
namespace Secrecy

open Http Credential Tool

/-- **Secrets do not flow into logs, tools or results.**  With another password that is masked
alike, a configuration has the same text and starts up with the same log, to the same tools or the
same failure, and sends nothing but the login, which differs in the body only.  With another token and
another key, a document is compiled into tools that look alike, or with the same failure, and every
session of calls with these tools has the same log and the same results, and sends requests that
differ in the headers of the token and the key only. -/
theorem secrets_do_not_flow :
    (∀ (files : Files) (c c' : Config), c.SameButPassword c' →
      c.text = c'.text ∧
      Action.Alike SameButBody Eq (Bootstrap.buildTools files c) (Bootstrap.buildTools files c') ∧
      (Bootstrap.buildTools files c).Sends (Login.IsRequest c)) ∧
    ∀ (d : Document) (surface : Surface) (config : Config) (k k' : Credential),
      k.SameButSecrets k' →
        Outcome.Alike (List.Forall₂ LooksLike) (ofDocument d ⟨surface, k, config⟩)
          (ofDocument d ⟨surface, k', config⟩) ∧
        ∀ tools tools', (ofDocument d ⟨surface, k, config⟩).result = .ok tools →
          (ofDocument d ⟨surface, k', config⟩).result = .ok tools' →
          ∀ calls, Action.Alike (SameButHeaders IsSecretHeader) Eq (session tools calls)
            (session tools' calls) := by
  refine ⟨fun files c c' h => ⟨Config.text_eq h, Bootstrap.alike_buildTools h,
    Bootstrap.sends_buildTools files c⟩, fun d surface config k k' h => ?_⟩
  have htwins := @alike_ofDocument ⟨surface, k, config⟩ ⟨surface, k', config⟩ d rfl
  refine ⟨htwins.imp fun _ _ hts => hts.imp fun _ _ => Twins.looksLike,
    fun tools tools' ht ht' calls => ?_⟩
  have hends := htwins.ends
  rw [ht, ht'] at hends
  cases hends with
  | ok hts => exact alike_session h hts calls

/-- The settings of a shop with a password. -/
def shopConfig (password : String) : Config :=
  ⟨fun s => if s = .password then .text password else shopTarget.config.value s⟩

/-- Two passwords that are masked alike, and two credentials with a token and a key each. -/
theorem shop_secrets_do_not_flow :
    (shopConfig "supersecret").text = (shopConfig "sunnystreet").text ∧
    (∀ files, Action.Alike SameButBody Eq (Bootstrap.buildTools files (shopConfig "supersecret"))
      (Bootstrap.buildTools files (shopConfig "sunnystreet"))) ∧
    ∃ t t', (ofDocument (orderDocument (.text "note")) ⟨.store, ⟨"own", some "key"⟩,
          shopTarget.config⟩).result = .ok [t] ∧
      (ofDocument (orderDocument (.text "note")) ⟨.store, ⟨"other", some "lock"⟩,
          shopTarget.config⟩).result = .ok [t'] ∧
      LooksLike t t' ∧
      Action.Alike (SameButHeaders IsSecretHeader) Eq
        (session [t] [(0, .ofTable orderArguments), (0, .null)])
        (session [t'] [(0, .ofTable orderArguments), (0, .null)]) := by
  have hpassword : (shopConfig "supersecret").SameButPassword (shopConfig "sunnystreet") := by
    refine ⟨fun s hs => ?_, ⟨Or.inr ⟨_, rfl⟩, Or.inr ⟨_, rfl⟩⟩, by decide +kernel⟩
    unfold shopConfig
    dsimp only
    rw [if_neg hs, if_neg hs]
  have hsecrets : Credential.SameButSecrets ⟨"own", some "key"⟩ ⟨"other", some "lock"⟩ := by
    refine ⟨.both ?_ ?_ ?_ ?_, .some (.both ?_ ?_ ?_ ?_)⟩
    all_goals decide +kernel
  have htool := fun k => congrArg Outcome.result
    (ofDocument_order (Or.inl rfl : Value.text "note" = .text "note" ∨ _) k shopTarget.config)
  obtain ⟨hstart, hcalls⟩ := secrets_do_not_flow
  obtain ⟨_, hsessions⟩ :=
    hcalls (orderDocument (.text "note")) .store shopTarget.config _ _ hsecrets
  exact ⟨(hstart [] _ _ hpassword).1, fun files => (hstart files _ _ hpassword).2.1,
    _, _, htool _, htool _, ⟨_, rfl⟩, hsessions _ _ (htool _) (htool _) _⟩

end Secrecy
end ToolGateway
