/-
# The password shows in the body of the login only

Two configurations that differ in the password only, where both passwords look the same with stars
in them, start up alike (`alike_buildTools`): the password is read by the login and by the text of
the configuration alone, both show the mask, and the rest of the program reads other settings.
-/

import ToolGateway.Bootstrap
import ToolGateway.Proofs.Login.Run
import ToolGateway.Proofs.Tool.Twins

namespace ToolGateway

open Http

/-- The configurations are the same but for the password, which is masked alike. -/
structure Config.SameButPassword (c c' : Config) : Prop where
  others : ∀ s, s ≠ .password → c.value s = c'.value s
  password : (c.value .password).IsTextOrNull ∧ (c'.value .password).IsTextOrNull
  mask : c.maskedPassword = c'.maskedPassword

variable {c c' : Config}

/-! ### Settings -/

namespace Config

theorem backendUrl_eq (h : c.SameButPassword c') : c.backendUrl = c'.backendUrl := by
  unfold backendUrl
  rw [h.others .backendUrl (by decide)]

theorem publishableKey_eq (h : c.SameButPassword c') : c.publishableKey = c'.publishableKey := by
  unfold publishableKey
  rw [h.others .publishableKey (by decide)]

theorem duplicateTools_eq (h : c.SameButPassword c') : c.duplicateTools = c'.duplicateTools := by
  unfold duplicateTools
  rw [h.others .duplicateTools (by decide)]

theorem headers_eq (h : c.SameButPassword c') : c.headers = c'.headers := by
  unfold headers
  rw [h.others .headers (by decide)]

theorem shown_eq (h : c.SameButPassword c') (s : Setting) : c.shown s = c'.shown s := by
  unfold shown
  split
  · rw [h.mask]
  · rename_i hs
    rw [h.others s hs]

/-- **The text of a configuration shows the mask only.** -/
theorem text_eq (h : c.SameButPassword c') : c.text = c'.text := by
  unfold text
  rw [show c.shown = c'.shown from funext (shown_eq h)]

end Config

/-! ### Tools -/

theorem Dispatch.call_eq_of_sameButPassword (h : c.SameButPassword c') :
    Dispatch.call c = Dispatch.call c' := by
  funext m path k query body
  unfold Dispatch.call Dispatch.address Dispatch.headers Dispatch.configuredHeaders
  rw [Config.backendUrl_eq h, Config.headers_eq h, h.others .timeout (by decide)]

theorem Tool.ofDocument_eq_of_sameButPassword (h : c.SameButPassword c') (d : Document)
    (surface : Surface) (k : Credential) :
    ofDocument d ⟨surface, k, c⟩ = ofDocument d ⟨surface, k, c'⟩ := by
  have hhandler : handlerOf ⟨surface, k, c⟩ = handlerOf ⟨surface, k, c'⟩ := by
    funext plan args
    unfold handlerOf
    rw [Dispatch.call_eq_of_sameButPassword h]
  have halike := @alike_ofDocument ⟨surface, k, c⟩ ⟨surface, k, c'⟩ d rfl
  refine (halike.imp fun ts us htu => ?_).eq
  rw [← List.forall₂_eq_eq_eq]
  refine htu.imp fun t u => ?_
  rintro ⟨plan, ht, rfl⟩
  rw [← hhandler, ← ht]

theorem Toolset.assemble_eq_of_sameButPassword (h : c.SameButPassword c') :
    assemble c = assemble c' := by
  have hcompile : compileSource c = compileSource c' := by
    funext s
    unfold compileSource
    rw [Tool.ofDocument_eq_of_sameButPassword h]
  funext policy sources allowed
  unfold assemble
  rw [hcompile]

theorem Credential.store_eq_of_sameButPassword (h : c.SameButPassword c') :
    Credential.store c = Credential.store c' := by
  unfold Credential.store
  rw [Config.publishableKey_eq h]

/-! ### The login -/

namespace Login

/-- A password can be written, wherever it stands. -/
theorem exists_write_of_isTextOrNull {v : Value} (h : v.IsTextOrNull) (room : Nat) :
    ∃ s, Json.writeValue Json.compact room v = .ok s := by
  rcases h with rfl | ⟨s, rfl⟩
  · exact ⟨_, by rw [Json.writeValue]⟩
  · exact ⟨_, by rw [Json.writeValue]⟩

/-- Whether the body can be written depends on the user name alone. -/
theorem endAlike_bodyText (h : c.SameButPassword c') :
    EndAlike (fun _ _ => True) (Draft.bodyText (some (body c)))
      (Draft.bodyText (some (body c'))) := by
  obtain ⟨s, hs⟩ := exists_write_of_isTextOrNull h.password.1 (Json.nestingLimit - 1)
  obtain ⟨s', hs'⟩ := exists_write_of_isTextOrNull h.password.2 (Json.nestingLimit - 1)
  have hbody : ∀ c : Config, Draft.bodyText (some (body c)) = (do
      let email ← Json.writeValue Json.compact (Json.nestingLimit - 1) (c.value .username)
      let password ← Json.writeValue Json.compact (Json.nestingLimit - 1) (c.value .password)
      return "\x7b" ++ ",".intercalate
        [Json.writeText "email" ++ ":" ++ email, Json.writeText "password" ++ ":" ++ password]
        ++ "\x7d") := by
    intro c
    have hroom : Json.nestingLimit ≠ 0 := by decide
    unfold Draft.bodyText body Value.ofTable Json.write
    simp only [List.map, Json.writeValue, if_neg hroom, Json.writeEntries, Json.keyText]
    cases Json.writeValue Json.compact (Json.nestingLimit - 1) (c.value .username) with
    | error f => rfl
    | ok email =>
      cases Json.writeValue Json.compact (Json.nestingLimit - 1) (c.value .password) with
      | error f => rfl
      | ok password => rfl
  rw [hbody, hbody, ← h.others .username (by decide), hs, hs']
  exact EndAlike.bind_congr fun _ => .ok trivial

/-- **Logins with two passwords are alike**, but for the body of the request. -/
theorem alike_run (h : c.SameButPassword c') :
    Action.Alike SameButBody Eq (run c) (run c') := by
  have hrefl := SameButBody.refl
  have hdraft : ∀ base, draft c' base = { draft c base with body := some (body c') } := by
    intro base
    unfold draft
    rw [h.others .timeout (by decide)]
  rw [run_eq, run_eq, ← Config.backendUrl_eq h, ← h.mask, ← h.others .username (by decide)]
  refine Action.Alike.bind_congr hrefl fun base => ?_
  refine Action.Alike.bind_congr hrefl fun mask => ?_
  refine Action.Alike.bind_congr hrefl fun _ => ?_
  rw [hdraft base]
  have hrequest := endAlike_request_of_body (draft c base) (endAlike_bodyText h)
  refine (Action.Alike.ofExcept hrequest).bind fun q q' hq => ?_
  refine (alike_exchange hq hq.address).bind fun r _ hr => hr ▸ ?_
  exact Action.Alike.refl hrefl (fun _ => rfl) _

end Login

/-! ### Starting up -/

namespace Bootstrap

variable {files : Files}

theorem document_eq (h : c.SameButPassword c') {s : Setting} (hs : s ≠ .password) :
    document files c s = document files c' s := by
  unfold document
  rw [h.others s hs]

theorem storeSource_eq (h : c.SameButPassword c') : storeSource files c = storeSource files c' := by
  unfold storeSource
  rw [document_eq h (by decide), Credential.store_eq_of_sameButPassword h]

theorem alike_adminSource? (h : c.SameButPassword c') :
    Action.Alike SameButBody Eq (adminSource? files c) (adminSource? files c') := by
  have hrefl := SameButBody.refl
  unfold adminSource?
  refine (Login.alike_run h).attempt.bind fun r r' hr => ?_
  obtain rfl := EndAlike.eq_iff.1 hr
  rw [document_eq h (by decide)]
  exact Action.Alike.refl hrefl (fun _ => rfl) _

/-- **Two configurations that differ in the password start up alike**, but for the body of the
login. -/
theorem alike_buildTools (h : c.SameButPassword c') :
    Action.Alike SameButBody Eq (buildTools files c) (buildTools files c') := by
  have hrefl := SameButBody.refl
  unfold buildTools
  rw [Config.duplicateTools_eq h, storeSource_eq h, h.others .allowedToolsPath (by decide),
    Toolset.assemble_eq_of_sameButPassword h]
  refine Action.Alike.bind_congr hrefl fun policy => ?_
  refine Action.Alike.bind_congr hrefl fun store => ?_
  refine (alike_adminSource? h).bind fun admin _ ha => ha ▸ ?_
  exact Action.Alike.refl hrefl (fun _ => rfl) _

/-- Nothing but the request of the login is sent. -/
theorem sends_buildTools (files : Files) (c : Config) :
    (buildTools files c).Sends (Login.IsRequest c) := by
  have hstore : (storeSource files c).Sends (Login.IsRequest c) :=
    (Action.Sends.ofOutcome _ _).bind fun _ _ => (Action.Sends.ofOutcome _ _).bind fun _ _ =>
      .pure _ _
  have hadmin : (adminSource? files c).Sends (Login.IsRequest c) := by
    refine (Login.sends_run c).attempt.bind fun r _ => ?_
    cases r with
    | ok k => exact (Action.Sends.ofOutcome _ _).bind fun _ _ => .pure _ _
    | error f =>
      dsimp only
      split
      · exact (Action.Sends.ofOutcome _ _).bind fun _ _ => .pure _ _
      · exact .ofOutcome _ _
  refine (Action.Sends.ofOutcome _ _).bind fun policy _ => ?_
  exact hstore.bind fun _ _ => hadmin.bind fun _ _ => (Action.Sends.ofOutcome _ _).bind fun _ _ =>
    .ofOutcome _ _

end Bootstrap
end ToolGateway
