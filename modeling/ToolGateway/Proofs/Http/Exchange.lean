/-
# One request and its reply

A draft is made into a request or it is not, and a request that is sent is sent once, takes one
reply and ends as the reply says.  What a request is made of (`Draft.request_eq_ok`) and what an
exchange does (`exchange_run`) is all that the callers need to know.  Two drafts of which only the
body differs, or only some headers, are made into requests that differ in no more
(`endAlike_request_of_body`, `endAlike_request_of_headers`), and the exchange takes no notice of it
(`alike_exchange`).
-/

import ToolGateway.Proofs.Http.Headers

namespace ToolGateway
namespace Http

/-! ### Exchanges -/

/-- The reply that comes next; without one there is no connection. -/
def nextReply (replies : List Reply) : Reply := replies.headD (.error Action.noReply)

/-- The response that a delivery brings to a request. -/
def Delivery.responseTo (q : Request) (d : Delivery) : Except Failure Response := do
  let r ← d.read
  match r.fault? q with
  | some f => .error f
  | none => .ok r

/-- A delivery that is read to a response without a fault brings this response. -/
theorem Delivery.responseTo_eq_ok {q : Request} {d : Delivery} {r : Response}
    (hr : d.read = .ok r) (hf : r.fault? q = none) : d.responseTo q = .ok r := by
  have hr' : d.read = pure r := hr
  unfold responseTo
  rw [hr', pure_bind, hf]

/-- What a request gets from a reply. -/
def received (q : Request) (reply : Reply) : Except Failure Response := do
  (← reply.mapError .transport).responseTo q

theorem exchange_eq (q : Request) :
    exchange q = (do
      let d ← Action.send q
      Action.ofExcept (d.responseTo q)) := by
  unfold exchange Delivery.responseTo
  refine congrArg (Action.send q >>= ·) (funext fun d => ?_)
  cases d.read with
  | error f => rfl
  | ok r =>
    show (match r.fault? q with | some f => Action.fail f | none => pure r)
      = Action.ofExcept (match r.fault? q with | some f => .error f | none => .ok r)
    cases r.fault? q <;> rfl

/-- An exchange sends the request, takes one reply and logs nothing. -/
theorem exchange_run (q : Request) (replies : List Reply) :
    (exchange q).run replies = ⟨[], [q], replies.tail, received q (nextReply replies)⟩ := by
  rw [exchange_eq]
  cases replies with
  | nil => rfl
  | cons reply rest => cases reply <;> rfl

/-- What is made of the response is made of what is received. -/
theorem exchange_bind_run {α : Type} (q : Request) (f : Response → Except Failure α)
    (replies : List Reply) :
    (exchange q >>= fun r => Action.ofExcept (f r)).run replies =
      ⟨[], [q], replies.tail, received q (nextReply replies) >>= f⟩ := by
  have he := exchange_run q replies
  cases hr : received q (nextReply replies) with
  | error e =>
    rw [hr] at he
    exact Action.bind_run_of_error he
  | ok r =>
    rw [hr] at he
    exact Action.bind_run_of_ok he

theorem sends_exchange (q : Request) : (exchange q).Sends (· = q) := by
  intro replies r hr
  rw [exchange_run] at hr
  exact List.mem_singleton.1 hr

/-- Of a request only the address counts for what it gets. -/
theorem received_congr {q q' : Request} (h : q.address = q'.address) (reply : Reply) :
    received q reply = received q' reply := by
  unfold received Delivery.responseTo Response.fault?
  rw [h]

/-- Requests with one address get the same. -/
theorem alike_exchange {S : Request → Request → Prop} {q q' : Request} (h : S q q')
    (ha : q.address = q'.address) : Action.Alike S Eq (exchange q) (exchange q') := by
  intro replies
  rw [exchange_run, exchange_run, received_congr ha]
  exact ⟨rfl, .cons h .nil, rfl, EndAlike.eq_iff.2 rfl⟩

/-! ### Requests -/

namespace Draft

/-- What a request is made of. -/
theorem request_eq_ok {d : Draft} {q : Request} (h : d.request = .ok q) :
    ∃ u v encoded, (Url.parse d.address).bind Url.rooted = .ok u ∧
      withParameters u d.query = .ok v ∧ Headers.encode d.headers = .ok encoded ∧
      bodyText d.body = .ok q.body ∧ q.verb = d.verb ∧ q.address = v.text ∧
      q.headers = sentHeaders v encoded ∧ q.timeout = d.timeout := by
  unfold request at h
  obtain ⟨u, hu, h⟩ := exists_of_bind_eq_ok h
  obtain ⟨encoded, he, h⟩ := exists_of_bind_eq_ok h
  obtain ⟨v, hv, h⟩ := exists_of_bind_eq_ok h
  obtain ⟨body, hb, h⟩ := exists_of_bind_eq_ok h
  obtain ⟨_, _, h⟩ := exists_of_bind_eq_ok h
  cases h
  exact ⟨u, v, encoded, eq_ok_of_mapError hu, eq_ok_of_mapError hv, eq_ok_of_mapError he,
    eq_ok_of_mapError hb, rfl, rfl, rfl, rfl⟩

end Draft

/-! ### Requests that differ in the body -/

/-- The requests are the same but for the body. -/
structure SameButBody (q q' : Request) : Prop where
  verb : q.verb = q'.verb
  address : q.address = q'.address
  headers : q.headers = q'.headers
  timeout : q.timeout = q'.timeout

theorem SameButBody.refl (q : Request) : SameButBody q q := ⟨rfl, rfl, rfl, rfl⟩

/-- Drafts with bodies that can both be written differ in nothing but the body of the request. -/
theorem endAlike_request_of_body (d : Draft) {body body' : Option Value}
    (h : EndAlike (fun _ _ => True) (Draft.bodyText body) (Draft.bodyText body')) :
    EndAlike SameButBody { d with body }.request { d with body := body' }.request := by
  unfold Draft.request
  refine EndAlike.bind_congr fun u => ?_
  refine EndAlike.bind_congr fun encoded => ?_
  refine EndAlike.bind_congr fun v => ?_
  refine (h.mapError Failure.unwritable).bind fun _ _ _ => ?_
  refine EndAlike.bind_congr fun _ => ?_
  exact .ok ⟨rfl, rfl, rfl, rfl⟩

/-! ### Requests that differ in headers -/

/-- The requests are the same but for the values of headers under some names. -/
structure SameButHeaders (P : String → Prop) (q q' : Request) : Prop where
  verb : q.verb = q'.verb
  address : q.address = q'.address
  headers : Headers.AgreeBut P q.headers q'.headers
  body : q.body = q'.body
  timeout : q.timeout = q'.timeout

variable {P : String → Prop}

theorem SameButHeaders.refl (P : String → Prop) (q : Request) : SameButHeaders P q q :=
  ⟨rfl, rfl, .refl P _, rfl, rfl⟩

theorem agreeBut_sentHeaders {encoded encoded' : List (String × String)}
    (h : Headers.AgreeBut (fun n => P (Text.asciiLower n)) encoded encoded') (u : Url) :
    Headers.AgreeBut P (Draft.sentHeaders u encoded) (Draft.sentHeaders u encoded') := by
  unfold Draft.sentHeaders
  dsimp only
  split
  · split
    · exact h.joined
    · exact h.joined.put (Or.inr rfl)
  · exact h.joined

theorem checkHost_congr {encoded encoded' : List (String × String)}
    (h : Headers.AgreeBut P encoded encoded') (u : Url) :
    Draft.checkHost u encoded = Draft.checkHost u encoded' := by
  unfold Draft.checkHost
  rw [h.any_eq fun n => Text.asciiLower n = "host"]

/-- Drafts with headers that are alike differ in nothing but headers of the request. -/
theorem endAlike_request_of_headers (d : Draft) {headers headers' : Entries}
    (h : List.Forall₂ (Headers.EntryAlike fun n => P (Text.asciiLower n)) headers headers') :
    EndAlike (SameButHeaders P) { d with headers }.request
      { d with headers := headers' }.request := by
  unfold Draft.request
  refine EndAlike.bind_congr fun u => ?_
  refine ((Headers.endAlike_encode h).mapError _).bind fun encoded encoded' he => ?_
  refine EndAlike.bind_congr fun v => ?_
  refine EndAlike.bind_congr fun body => ?_
  rw [checkHost_congr he]
  refine EndAlike.bind_congr fun _ => ?_
  exact .ok ⟨rfl, rfl, agreeBut_sentHeaders he v, rfl, rfl⟩

end Http
end ToolGateway
