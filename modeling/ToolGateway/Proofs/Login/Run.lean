/-
# What a login does

A login whose address is given and whose password can be masked is logged with the mask; its request
is sent once if it can be made, and what is received is read for a credential (`run_run`).  If the
reply can be read, then a login without a credential is one that failed
(`isLoginFailure_of_readable`).  A failure of the exchange can be read, and so can every status with
every body, if it has no headers and its JSON is not nested too deeply (`readable_of_fault`,
`readable_of_delivery`).
-/

import ToolGateway.Login
import ToolGateway.Proofs.Http.Exchange

namespace ToolGateway

/-- A text, or nothing. -/
def Value.IsTextOrNull (v : Value) : Prop := v = .null ∨ ∃ s, v = .text s

/-- Texts can be masked, and so can nothing. -/
theorem Value.IsTextOrNull.exists_masked {v : Value} (h : v.IsTextOrNull) :
    ∃ mask, v.masked = .ok mask := by
  rcases h with rfl | ⟨s, rfl⟩
  · exact ⟨_, masked_null⟩
  · exact ⟨_, rfl⟩

namespace Login

open Http

variable {c : Config} {base mask : String}

/-- The body of a login. -/
def body (c : Config) : Value :=
  .ofTable [("email", c.value .username), ("password", c.value .password)]

/-- What a login at the address of a backend is made into. -/
def draft (c : Config) (base : String) : Draft where
  verb := Method.post.verb
  address := base ++ path
  query := none
  headers := [(.text "Content-Type", mediaType), (.text "Accept", mediaType)]
  body := some (body c)
  timeout := c.value .timeout

/-- What is logged about a login. -/
def loggingEntry (c : Config) (base mask : String) : LogEntry :=
  ⟨.debug, loggingText (base ++ path) (c.value .username) mask⟩

theorem run_eq (c : Config) :
    run c = (do
      let base ← Action.ofExcept c.backendUrl
      let mask ← Action.ofExcept (c.maskedPassword.mapError .raw)
      Action.note .debug (loggingText (base ++ path) (c.value .username) mask)
      let request ← Action.ofExcept (draft c base).request
      let response ← exchange request
      Action.ofExcept (credential response)) := rfl

/-- A login that can be sent is logged, sent once, and ends as what is received says. -/
theorem run_run (hbase : c.backendUrl = .ok base) (hmask : c.maskedPassword = .ok mask)
    {q : Request} (hq : (draft c base).request = .ok q) (replies : List Reply) :
    (run c).run replies =
      ⟨[loggingEntry c base mask], [q], replies.tail,
        received q (nextReply replies) >>= credential⟩ := by
  rw [run_eq, hbase, hmask, Action.ofExcept_ok_bind]
  show (Action.note .debug _ >>= fun _ => Action.ofExcept (draft c base).request >>= fun request =>
    exchange request >>= fun response => Action.ofExcept (credential response)).run replies = _
  rw [Action.bind_run_of_ok rfl, hq, Action.ofExcept_ok_bind, exchange_bind_run]
  rfl

/-- The request is that of the login. -/
def IsRequest (c : Config) (q : Request) : Prop :=
  ∃ base, c.backendUrl = .ok base ∧ (draft c base).request = .ok q

/-- A login sends nothing but its request. -/
theorem sends_run (c : Config) : (run c).Sends (IsRequest c) := by
  rw [run_eq]
  refine (Action.Sends.ofOutcome _ _).bind fun base hbase => ?_
  refine (Action.Sends.ofOutcome _ _).bind fun mask _ => ?_
  refine (Action.Sends.ofOutcome _ _).bind fun _ _ => ?_
  refine (Action.Sends.ofOutcome _ _).bind fun q hq => ?_
  refine Action.Sends.bind (fun replies r hr => ?_) fun _ _ => Action.Sends.ofOutcome _ _
  obtain ⟨_, hbase⟩ := hbase
  obtain ⟨_, hq⟩ := hq
  exact ⟨base, hbase, sends_exchange q replies r hr ▸ hq⟩

/-! ### Replies that can be read -/

/-- What is received can be read: without a response the exchange failed, the text of a refusal is
one of its charset, and a body that should hold a token is not nested too deeply. -/
structure Readable (q : Request) (reply : Reply) : Prop where
  failure : ∀ f, received q reply = .error f → f.isLoginFailure = true
  refusal : ∀ r, received q reply = .ok r → r.isError = true → ∃ s, r.text = .ok s
  body : ∀ r, received q reply = .ok r → r.isError = false → ∃ v, r.json? = .ok v

/-- A login without a credential is a failed login, if the reply can be read. -/
theorem isLoginFailure_of_readable {q : Request} {reply : Reply} (h : Readable q reply)
    {f : Failure} (hf : received q reply >>= credential = .error f) : f.isLoginFailure = true := by
  cases hr : received q reply with
  | error g =>
    rw [hr] at hf
    cases hf
    exact h.failure f hr
  | ok r =>
    rw [hr] at hf
    have hc : credential r = .error f := hf
    unfold credential at hc
    cases he : r.isError with
    | true =>
      obtain ⟨s, hs⟩ := h.refusal r hr he
      rw [if_pos he, hs] at hc
      cases hc
      rfl
    | false =>
      obtain ⟨v, hv⟩ := h.body r hr he
      have hv' : r.json? = pure v := hv
      rw [if_neg (by rw [he]; exact Bool.false_ne_true), hv', pure_bind] at hc
      cases ht : token? v with
      | some token =>
        rw [ht] at hc
        cases hc
      | none =>
        rw [ht] at hc
        cases hc
        rfl

/-- A failure of the exchange can be read. -/
theorem readable_of_fault (q : Request) {fault : TransportFault}
    (h : fault.kind ∉ TransportFault.outside) : Readable q (.error fault) where
  failure f hf := by
    cases hf
    show (!TransportFault.outside.contains fault.kind) = true
    simpa using h
  refusal r hr := nomatch hr
  body r hr := nomatch hr

/-- Without headers a response is received as it is. -/
theorem received_of_delivery {q : Request} (hq : q.address.toList.head? ≠ some '/') (status : Int)
    (body : List UInt8) :
    received q (.ok ⟨status, [], body⟩) = .ok ⟨status, [], body⟩ := by
  have hfault : (⟨status, [], body⟩ : Response).fault? q = none := by
    unfold Response.fault? Response.redirectFault?
    rw [if_neg hq]
    split <;> rfl
  exact Delivery.responseTo_eq_ok (d := ⟨status, [], body⟩) rfl hfault

/-- Every status with every body can be read, if it has no headers and is not nested too deeply. -/
theorem readable_of_delivery {q : Request} (hq : q.address.toList.head? ≠ some '/') {status : Int}
    {body : List UInt8} (hbody : ∃ v, (⟨status, [], body⟩ : Response).json? = .ok v) :
    Readable q (.ok ⟨status, [], body⟩) := by
  have hr := received_of_delivery hq status body
  refine ⟨fun f hf => ?_, fun r hr' _ => ?_, fun r hr' _ => ?_⟩
  · cases hr.symm.trans hf
  · cases hr.symm.trans hr'
    unfold Response.text
    split
    · exact ⟨_, rfl⟩
    · exact ⟨_, rfl⟩
  · cases hr.symm.trans hr'
    exact hbody

end Login
end ToolGateway
