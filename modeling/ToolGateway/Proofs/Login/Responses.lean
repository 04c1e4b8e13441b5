/-
# What a response makes of a login

A login that can be sent is sent once, and then the response decides.  Its status and its body say
whether there is a token (`credential_eq_ok_iff`), and every other end should tell the status.  That
is so but for two kinds of responses, which `Escapes` names: those that cannot be taken as an answer
at all, and refusals whose text cannot be read by their charset.  `responses_are_classified` says all
of it for every response, and `refusal_is_not_told` gives one of the second kind.
-/

import ToolGateway.Proofs.Login.Run

namespace ToolGateway

open Http

/-- The status of the response that a failed login has got. -/
def Failure.loginStatus? : Failure → Option Int
  | loginRefused status _ | loginWithoutToken status => some status
  | _ => none

/-- A backend that is given has an address. -/
theorem Config.exists_backendUrl {c : Config} {url : String}
    (h : c.value .backendUrl = .text url) (hne : url ≠ "") : ∃ base, c.backendUrl = .ok base := by
  have hgiven : (c.value .backendUrl).isGiven = true := by
    rw [h]
    exact bne_iff_ne.2 hne
  unfold backendUrl
  rw [if_pos hgiven, h]
  exact ⟨_, rfl⟩

namespace Http

variable {d : Delivery} {r : Response}

/-- The delivery brings the response: its headers are texts that can be read, and there is no coding
to be undone. -/
structure Delivery.Brings (d : Delivery) (r : Response) : Prop where
  status : r.status = d.status
  headers : Headers.encode d.headers = .ok r.headers
  body : r.body = d.body
  uncoded : r.header? "content-encoding" = none

theorem Delivery.Brings.read_eq (h : d.Brings r) : d.read = .ok r := by
  obtain ⟨code, entries, octets⟩ := d
  obtain ⟨code', sent, octets'⟩ := r
  obtain ⟨rfl, hheaders, rfl, huncoded⟩ := h
  unfold read
  rw [hheaders]
  show (Response.plain ⟨_, sent, _⟩).mapError Failure.coding = _
  unfold Response.plain Response.codings
  rw [huncoded]
  rfl

/-- What is received is the response, unless it cannot be taken as an answer to the request. -/
theorem Delivery.Brings.received_eq (h : d.Brings r) (q : Request) :
    received q (.ok d) = match r.fault? q with
      | some f => .error f
      | none => .ok r := by
  have hread : d.read = pure r := h.read_eq
  show d.responseTo q = _
  unfold responseTo
  rw [hread]
  rfl

/-- The JSON of a body is nested no more deeply than it may be. -/
def Response.Shallow (r : Response) : Prop :=
  ∀ s kind, r.json? ≠ .error (.json s (.tooDeep kind))

/-- A body that is not nested too deeply has a value in JSON, or none. -/
theorem Response.Shallow.exists_json? (h : r.Shallow) : ∃ v, r.json? = .ok v := by
  cases hj : r.json? with
  | ok v => exact ⟨v, rfl⟩
  | error f =>
    have hj' := hj
    unfold json? at hj'
    dsimp only at hj'
    split at hj'
    · cases hj'
    · split at hj'
      · cases hj'
      · cases hj'
        exact absurd hj (h _ _)
      · cases hj'

end Http

namespace Login

variable {c : Config} {base mask : String} {q : Request} {r : Response}

/-! ### What a response says -/

/-- The body of the response is a JSON object that has a text under `token`, which is not empty. -/
def HoldsToken (r : Response) (token : String) : Prop :=
  ∃ es, r.json? = .ok (some (.map es)) ∧ Entries.get? es "token" = some (.text token) ∧
    token ≠ ""

theorem token?_eq_some_iff {v : Option Value} {token : String} :
    token? v = some token ↔
      ∃ es, v = some (.map es) ∧ Entries.get? es "token" = some (.text token) ∧ token ≠ "" := by
  constructor
  · intro h
    unfold token? at h
    split at h
    · rename_i s hs
      split at h
      · cases h
      · cases h
        obtain ⟨value, rfl, hget⟩ := Option.bind_eq_some_iff.1 hs
        cases value with
        | map es => exact ⟨es, rfl, hget, ‹_›⟩
        | _ => cases hget
    · cases h
  · rintro ⟨es, rfl, hget, hne⟩
    have hvalue : (some (Value.map es)).bind (·.get? "token") = some (.text token) := hget
    unfold token?
    rw [hvalue]
    exact if_neg hne

theorem holdsToken_iff {token : String} :
    HoldsToken r token ↔ r.json?.toOption.bind token? = some token := by
  unfold HoldsToken
  cases r.json? with
  | error f => simp [Except.toOption]
  | ok v => simp [Except.toOption, token?_eq_some_iff]

/-- A response that is no error gives its token, or is said to have none. -/
theorem credential_of_success {v : Option Value} (he : r.isError = false) (hj : r.json? = .ok v) :
    credential r = match token? v with
      | some token => .ok ⟨token, none⟩
      | none => .error (.loginWithoutToken r.status) := by
  have hj' : r.json? = pure v := hj
  unfold credential
  rw [if_neg (by rw [he]; exact Bool.false_ne_true), hj']
  rfl

/-- A refusal is told with its text, if it has one. -/
theorem credential_of_refusal (he : r.isError = true) :
    credential r = match r.text with
      | .ok body => .error (.loginRefused r.status body)
      | .error fault => .error (.charset fault) := by
  unfold credential
  rw [if_pos he]
  cases r.text <;> rfl

/-- **A credential is what a token gives.**  A response gives a credential exactly if its status is
no error and its body holds a token; the credential is this token, and has no key. -/
theorem credential_eq_ok_iff (hr : r.Shallow) {k : Credential} :
    credential r = .ok k ↔ r.isError = false ∧ ∃ token, HoldsToken r token ∧ k = ⟨token, none⟩ := by
  obtain ⟨v, hj⟩ := hr.exists_json?
  cases he : r.isError with
  | true =>
    rw [credential_of_refusal he]
    cases r.text <;> simp
  | false =>
    rw [credential_of_success he hj]
    simp only [holdsToken_iff, hj, Except.toOption, Option.bind_some]
    cases token? v with
    | none => simp
    | some token => simp [eq_comm]

/-! ### What escapes -/

/-- A login ends with a failure that does not tell the status: because the response cannot be taken as
an answer to the request, or because it is a refusal and its text cannot be read by its charset. -/
inductive Escapes (q : Request) (r : Response) : Failure → Prop
  | noAnswer {f : Failure} (h : r.fault? q = some f) : Escapes q r f
  | charset {fault : Text.CharsetFault} (hf : r.fault? q = none) (he : r.isError = true)
      (ht : r.text = .error fault) : Escapes q r (.charset fault)

/-- How a login ends with a response. -/
def answer (q : Request) (r : Response) : Except Failure Credential :=
  match r.fault? q with
  | some f => .error f
  | none => credential r

theorem answer_of_escapes {f : Failure} (h : Escapes q r f) : answer q r = .error f := by
  unfold answer
  cases h with
  | noAnswer h => rw [h]
  | charset hf he ht =>
    rw [hf]
    dsimp only
    rw [credential_of_refusal he, ht]

/-- Where nothing escapes the response is an answer, and the text of a refusal can be read. -/
theorem answer_of_not_escapes (h : ∀ f, ¬ Escapes q r f) :
    answer q r = credential r ∧ (r.isError = true → ∃ body, r.text = .ok body) := by
  have hfault : r.fault? q = none := by
    cases hf : r.fault? q with
    | none => rfl
    | some f => exact absurd (.noAnswer hf) (h f)
  refine ⟨?_, fun he => ?_⟩
  · unfold answer
    rw [hfault]
  · cases ht : r.text with
    | ok body => exact ⟨body, rfl⟩
    | error fault => exact absurd (.charset hfault he ht) (h _)

/-- Where nothing escapes, a login without a credential tells the status. -/
theorem loginStatus?_of_credential (hr : r.Shallow)
    (ht : r.isError = true → ∃ body, r.text = .ok body) {f : Failure} (h : credential r = .error f) :
    f.loginStatus? = some r.status := by
  obtain ⟨v, hj⟩ := hr.exists_json?
  cases he : r.isError with
  | true =>
    obtain ⟨body, hbody⟩ := ht he
    rw [credential_of_refusal he, hbody] at h
    cases h
    rfl
  | false =>
    rw [credential_of_success he hj] at h
    split at h
    · cases h
    · cases h
      rfl

/-! ### The theorem -/

/-- A login of which no request can be made is logged, and sends nothing. -/
theorem run_of_no_request (hbase : c.backendUrl = .ok base) (hmask : c.maskedPassword = .ok mask)
    {f : Failure} (hf : (draft c base).request = .error f) (replies : List Reply) :
    (run c).run replies = ⟨[loggingEntry c base mask], [], replies, .error f⟩ := by
  rw [run_eq, hbase, hmask, Action.ofExcept_ok_bind]
  show (Action.note .debug _ >>= fun _ => Action.ofExcept (draft c base).request >>= _).run
    replies = _
  rw [hf, Action.ofExcept_error_bind]
  rfl

/-- **Every response is classified.**  Let a backend be given, and a password that is a text.  Then a
login of which no request can be made sends nothing.  Otherwise it sends one request, whatever the
response; and unless something escapes, it ends with a credential exactly if the status is no error
and the body is a JSON object with a text under `token` that is not empty: the credential is this
text and has no key.  In all other cases it fails and tells the status.  What escapes is how the
login ends, so nothing else does. -/
theorem responses_are_classified {url : String} (hurl : c.value .backendUrl = .text url)
    (hne : url ≠ "") (hpassword : (c.value .password).IsTextOrNull) :
    ∃ base mask, c.backendUrl = .ok base ∧ c.maskedPassword = .ok mask ∧
      (∀ f, (draft c base).request = .error f → ∀ replies,
        (run c).run replies = ⟨[loggingEntry c base mask], [], replies, .error f⟩) ∧
      ∀ q, (draft c base).request = .ok q →
        ∀ (d : Delivery) (r : Response), d.Brings r → r.Shallow → ∀ replies,
          ∃ answer, (run c).run (.ok d :: replies)
              = ⟨[loggingEntry c base mask], [q], replies, answer⟩ ∧
            ((∀ f, ¬ Escapes q r f) →
              (∀ k, answer = .ok k ↔
                r.isError = false ∧ ∃ token, HoldsToken r token ∧ k = ⟨token, none⟩) ∧
              ∀ f, answer = .error f → f.loginStatus? = some d.status) ∧
            ∀ f, Escapes q r f → answer = .error f := by
  obtain ⟨base, hbase⟩ := Config.exists_backendUrl hurl hne
  obtain ⟨mask, hmask⟩ := hpassword.exists_masked
  refine ⟨base, mask, hbase, hmask, fun f hf => run_of_no_request hbase hmask hf,
    fun q hq d r hd hr replies => ⟨answer q r, ?_, fun hno => ?_, fun f => answer_of_escapes⟩⟩
  · have hanswer : received q (.ok d) >>= credential = answer q r := by
      rw [hd.received_eq]
      unfold answer
      cases r.fault? q <;> rfl
    rw [run_run hbase hmask hq, ← hanswer]
    rfl
  · obtain ⟨heq, htext⟩ := answer_of_not_escapes hno
    rw [heq]
    exact ⟨fun k => credential_eq_ok_iff hr,
      fun f hf => hd.status ▸ loginStatus?_of_credential hr htext hf⟩

/-- The settings of a shop of which only the login matters. -/
def deskConfig : Config where
  value
    | .backendUrl => .text "http://h/"
    | .username => .text "u"
    | .password => .text "p"
    | _ => .null

/-- The request of the login is made, and its address has a scheme. -/
theorem exists_desk_request :
    ∃ q, (draft deskConfig "http://h").request = .ok q ∧ q.address.toList.head? ≠ some '/' := by
  have hrequest : (draft deskConfig "http://h").request.toOption.map (·.address)
      = some "http://h/auth/user/emailpass" := by decide +kernel
  obtain ⟨q, hq, haddress⟩ := Option.map_eq_some_iff.1 hrequest
  exact ⟨q, eq_ok_of_toOption hq, by rw [haddress]; decide⟩

/-- A response without headers is brought as it is. -/
theorem brings_bare (status : Int) (body : List UInt8) :
    Delivery.Brings ⟨status, [], body⟩ ⟨status, [], body⟩ := ⟨rfl, rfl, rfl, rfl⟩

/-- Of a response without headers nothing escapes. -/
theorem not_escapes_bare (hq : q.address.toList.head? ≠ some '/') (status : Int)
    (body : List UInt8) (f : Failure) : ¬ Escapes q ⟨status, [], body⟩ f := by
  have hreceived := ((brings_bare status body).received_eq q).symm.trans
    (received_of_delivery hq status body)
  intro h
  cases h with
  | noAnswer h =>
    rw [h] at hreceived
    cases hreceived
  | charset _ _ ht =>
    unfold Response.text at ht
    split at ht
    · cases ht
    · cases ht

/-- A token is taken, a list is none, and a refusal is none even if it holds one; the last two tell
their status. -/
theorem desk_responses_are_classified :
    let grant : Delivery := ⟨201, [], Text.encodeUtf8 "\x7b\"token\": \"t\"\x7d"⟩
    let list : Delivery := ⟨302, [], Text.encodeUtf8 "\x7b\"token\": [\"t\"]\x7d"⟩
    let refusal : Delivery := ⟨401, [], grant.body⟩
    deskConfig.value .backendUrl = .text "http://h/" ∧ (deskConfig.value .password).IsTextOrNull ∧
    ∃ q, (draft deskConfig "http://h").request = .ok q ∧
      ((run deskConfig).run [.ok grant]).requests = [q] ∧
      ((run deskConfig).run [.ok grant]).result = .ok ⟨"t", none⟩ ∧
      (∃ f, ((run deskConfig).run [.ok list]).result = .error f ∧ f.loginStatus? = some 302) ∧
      ∃ f, ((run deskConfig).run [.ok refusal]).result = .error f ∧ f.loginStatus? = some 401 := by
  intro grant list refusal
  obtain ⟨q, hq, haddress⟩ := exists_desk_request
  obtain ⟨base, mask, hbase, _, _, hclassified⟩ :=
    responses_are_classified (c := deskConfig) rfl (by decide) (Or.inr ⟨"p", rfl⟩)
  obtain rfl : "http://h" = base :=
    Except.ok.inj ((eq_ok_of_toOption (by decide +kernel)).symm.trans hbase)
  -- What a response without headers does is decided by the token that is read from it.
  have hbare : ∀ status body, (⟨status, [], body⟩ : Response).json?.toOption.isSome →
      ∃ answer, (run deskConfig).run [.ok ⟨status, [], body⟩]
          = ⟨[loggingEntry deskConfig "http://h" mask], [q], [], answer⟩ ∧
        (∀ k, answer = .ok k ↔ (⟨status, [], body⟩ : Response).isError = false ∧
          ∃ token, (⟨status, [], body⟩ : Response).json?.toOption.bind token? = some token ∧
            k = ⟨token, none⟩) ∧
        ∀ f, answer = .error f → f.loginStatus? = some status := by
    intro status body hjson
    obtain ⟨v, hv⟩ := Option.isSome_iff_exists.1 hjson
    have hshallow : (⟨status, [], body⟩ : Response).Shallow := by
      intro s kind h
      rw [h] at hv
      cases hv
    obtain ⟨answer, hrun, hanswer, _⟩ :=
      hclassified q hq _ _ (brings_bare status body) hshallow []
    obtain ⟨hok, herror⟩ := hanswer (not_escapes_bare haddress status body)
    simp only [holdsToken_iff] at hok
    exact ⟨answer, hrun, hok, herror⟩
  obtain ⟨granted, hgrant, hgranted, _⟩ := hbare 201 grant.body (by decide +kernel)
  obtain ⟨listed, hlist, hlisted, hlistStatus⟩ := hbare 302 list.body (by decide +kernel)
  obtain ⟨refused, hrefusal, hrefused, hrefusalStatus⟩ := hbare 401 grant.body (by decide +kernel)
  have hnone : (⟨302, [], list.body⟩ : Response).json?.toOption.bind token? = none := by
    decide +kernel
  rw [hgrant, hlist, hrefusal]
  refine ⟨rfl, Or.inr ⟨"p", rfl⟩, q, hq, rfl,
    (hgranted _).2 ⟨by decide, "t", by decide +kernel, rfl⟩, ?_, ?_⟩
  · cases listed with
    | error f => exact ⟨f, rfl, hlistStatus f rfl⟩
    | ok k =>
      obtain ⟨_, token, htoken, _⟩ := (hlisted k).1 rfl
      cases hnone.symm.trans htoken
  · cases refused with
    | error f => exact ⟨f, rfl, hrefusalStatus f rfl⟩
    | ok k => cases ((hrefused k).1 rfl).1

/-- **A refusal is not always told.**  The charset of this one has a part with a number and a part
without, which have no order; so the login ends with a failure of the charset, and the status is
lost. -/
theorem refusal_is_not_told :
    let refusal : Delivery := ⟨401,
      [(.text "content-type", .text "text/plain; charset*0=a; charset*=b")], Text.encodeUtf8 "no"⟩
    ∃ q r, (draft deskConfig "http://h").request = .ok q ∧ refusal.Brings r ∧ r.Shallow ∧
      r.isError = true ∧ ((run deskConfig).run [.ok refusal]).requests = [q] ∧
      ∃ f, ((run deskConfig).run [.ok refusal]).result = .error f ∧ f.loginStatus? = none := by
  intro refusal
  obtain ⟨q, hq, haddress⟩ := exists_desk_request
  let r : Response :=
    ⟨401, [("content-type", "text/plain; charset*0=a; charset*=b")], Text.encodeUtf8 "no"⟩
  let fault : Text.CharsetFault := .mixedParts "NoneType" "int"
  have hbrings : refusal.Brings r := ⟨rfl, rfl, rfl, by decide +kernel⟩
  have htext : r.text = .error fault := by decide +kernel
  have hjson : r.json?.toOption.isSome := by decide +kernel
  have hfault : r.fault? q = none := by
    unfold Response.fault?
    rw [if_neg haddress]
    rfl
  have hbase : deskConfig.backendUrl = .ok "http://h" := eq_ok_of_toOption (by decide +kernel)
  have hmask : deskConfig.maskedPassword = .ok "*" := rfl
  have hrun := run_run hbase hmask hq [.ok refusal]
  have hanswer : received q (.ok refusal) >>= credential = .error (.charset fault) := by
    rw [hbrings.received_eq, hfault]
    show credential r = _
    rw [credential_of_refusal rfl, htext]
  refine ⟨q, r, hq, hbrings, fun s kind h => ?_, rfl, congrArg Run.requests hrun,
    .charset fault, (congrArg Run.result hrun).trans hanswer, rfl⟩
  rw [h] at hjson
  cases hjson

end Login
end ToolGateway
