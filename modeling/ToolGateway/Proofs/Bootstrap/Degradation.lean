/-
# A start without the administration

A start logs in once.  If this gives a token, the tools are those of store and administration, and
if not, those of the store alone, whatever the document of the administration is
(`start_degrades_to_the_store`).
-/

import ToolGateway.Bootstrap
import ToolGateway.Proofs.Json.Nesting
import ToolGateway.Proofs.Login.Run
import ToolGateway.Proofs.Toolset.Log
import ToolGateway.Proofs.Toolset.Ownership

namespace ToolGateway

open Http
open Tool (shopTarget)

/-- A key that is a text, or nothing, gives the credential of the store. -/
theorem Credential.exists_store {c : Config} (h : (c.value .publishableKey).IsTextOrNull) :
    ∃ k, Credential.store c = .ok k := by
  obtain ⟨s, hs⟩ : ∃ s, c.publishableKey = .text s := by
    unfold Config.publishableKey Config.orElse
    split
    · rename_i hgiven
      rcases h with hnull | ⟨s, hs⟩
      · rw [hnull] at hgiven
        cases hgiven
      · exact ⟨s, hs⟩
    · exact ⟨"", rfl⟩
  unfold Credential.store Config.orElse
  rw [hs]
  dsimp only
  split
  · exact ⟨_, rfl⟩
  · exact ⟨_, rfl⟩

namespace Bootstrap

variable {files : Files} {c : Config} {policy : Policy} {store : Toolset.Source}

/-! ### What a start does -/

/-- The tools of sources, as the allow-list of the configuration lets them through. -/
def toolsOf (files : Files) (c : Config) (policy : Policy) (sources : List Toolset.Source) :
    Outcome (List Tool) := do
  let allowed ← AllowList.ofSetting files (c.value .allowedToolsPath)
  Toolset.assemble c policy sources allowed

/-- What is logged about a login that failed. -/
def loginFailureEntry (f : Failure) : LogEntry := ⟨.error, loginFailureText f⟩

/-- The document of the administration. -/
def adminDocument (files : Files) (c : Config) : Except Failure Document :=
  Document.load files (.value (c.value .adminOasPath))

/-- The source of the administration's tools after a login. -/
def sourceAfter (files : Files) (c : Config) :
    Except Failure Credential → Outcome (Option Toolset.Source)
  | .ok k => .ofExcept ((adminDocument files c).map fun d => some ⟨d, .admin, k⟩)
  | .error f => if f.isLoginFailure then ⟨[loginFailureEntry f], .ok none⟩ else .fail f

/-- The tools after a login. -/
def toolsAfter (files : Files) (c : Config) (policy : Policy) (store : Toolset.Source)
    (login : Except Failure Credential) : Outcome (List Tool) := do
  let admin ← sourceAfter files c login
  toolsOf files c policy (store :: admin.toList)

theorem adminSource?_eq (files : Files) (c : Config) :
    adminSource? files c = (do
      let login ← (Login.run c).attempt
      Action.ofOutcome (sourceAfter files c login)) := by
  unfold adminSource? sourceAfter document adminDocument
  refine congrArg ((Login.run c).attempt >>= ·) (funext fun login => ?_)
  cases login with
  | ok k => cases Document.load files (.value (c.value .adminOasPath)) <;> rfl
  | error f => cases hf : f.isLoginFailure <;> simp only [hf] <;> rfl

/-- Behind the login of a start there are only outcomes. -/
theorem buildTools_eq (files : Files) (c : Config) :
    buildTools files c = (do
      let policy ← Action.ofExcept (c.duplicateTools >>= fun name => Policy.read (.text name))
      let store ← storeSource files c
      let login ← (Login.run c).attempt
      Action.ofOutcome (toolsAfter files c policy store login)) := by
  unfold buildTools toolsAfter toolsOf
  simp only [adminSource?_eq, Action.bind_assoc, Action.ofOutcome_bind]

/-- **A start does what its login allows.**  It logs and sends what the login does, and nothing is
sent after it. -/
theorem buildTools_run
    (hpolicy : (c.duplicateTools >>= fun name => Policy.read (.text name)) = .ok policy)
    (hstore : storeSource files c = pure store) {replies left : List Reply} {log : List LogEntry}
    {requests : List Request} {login : Except Failure Credential}
    (h : (Login.run c).run replies = ⟨log, requests, left, login⟩) :
    (buildTools files c).run replies =
      ⟨log ++ (toolsAfter files c policy store login).log, requests, left,
        (toolsAfter files c policy store login).result⟩ := by
  rw [← Action.attempt_bind_run h, buildTools_eq, hpolicy, hstore, Action.ofExcept_ok_bind]
  rfl

/-! ### After the login -/

/-- After a failed login the tools are those of the store. -/
theorem toolsAfter_loginFailure {f : Failure} (hf : f.isLoginFailure = true) :
    toolsAfter files c policy store (.error f) =
      let tools := toolsOf files c policy [store]
      ⟨loginFailureEntry f :: tools.log, tools.result⟩ := by
  unfold toolsAfter sourceAfter
  dsimp only
  rw [if_pos hf]
  rfl

/-- Another failure of the login is that of the start. -/
theorem toolsAfter_otherFailure {f : Failure} (hf : f.isLoginFailure = false) :
    toolsAfter files c policy store (.error f) = .fail f := by
  unfold toolsAfter sourceAfter
  dsimp only
  rw [if_neg (by rw [hf]; exact Bool.false_ne_true)]
  rfl

/-- With a credential the tools are those of store and administration. -/
theorem toolsAfter_ok (k : Credential) {d : Document} (hd : adminDocument files c = .ok d) :
    toolsAfter files c policy store (.ok k) = toolsOf files c policy [store, ⟨d, .admin, k⟩] := by
  unfold toolsAfter sourceAfter
  rw [hd]
  rfl

/-- A document of the administration that does not load ends a start with a credential. -/
theorem toolsAfter_unloadable (k : Credential) {f : Failure}
    (hf : adminDocument files c = .error f) :
    toolsAfter files c policy store (.ok k) = .fail f := by
  unfold toolsAfter sourceAfter
  rw [hf]
  rfl

/-! ### The tools of a start -/

/-- The tools of the store are the first ones, whatever comes behind. -/
theorem toolsOf_prefix {more : List Toolset.Source} {tools tools' : List Tool}
    (h : (toolsOf files c policy [store]).result = .ok tools)
    (h' : (toolsOf files c policy (store :: more)).result = .ok tools') : tools <+: tools' := by
  obtain ⟨allowed, ha, h⟩ := Outcome.bind_result_eq_ok.1 h
  obtain ⟨allowed', ha', h'⟩ := Outcome.bind_result_eq_ok.1 h'
  cases ha.symm.trans ha'
  obtain ⟨sets, hsets, rfl⟩ := Toolset.assemble_eq_ok h
  obtain ⟨sets', hsets', rfl⟩ := Toolset.assemble_eq_ok h'
  obtain ⟨set, _, hset, hnil, rfl⟩ := List.forall₂_cons_left_iff.1 hsets
  obtain ⟨set', rest, hset', _, rfl⟩ := List.forall₂_cons_left_iff.1 hsets'
  cases hnil
  cases hset.symm.trans hset'
  rw [List.flatten_cons, List.flatten_cons, List.flatten_nil, List.append_nil]
  exact (policy.selected_prefix set rest.flatten).filter _

/-- The tools of sources log no errors. -/
theorem calm_toolsOf (sources : List Toolset.Source) :
    Outcome.Logs LogEntry.Calm (toolsOf files c policy sources) :=
  (AllowList.calm_ofSetting _ _).bind fun _ _ => Toolset.calm_assemble _ _ _ _

/-! ### The theorem -/

/-- A start comes to its login: the settings of the login are of their kinds, its request can be
made, the policy is known, and the document of the store loads. -/
structure Ready (files : Files) (c : Config) (base : String) (q : Request) (policy : Policy)
    (d : Document) : Prop where
  backend : c.backendUrl = .ok base
  password : (c.value .password).IsTextOrNull
  publishableKey : (c.value .publishableKey).IsTextOrNull
  request : (Login.draft c base).request = .ok q
  policy : (c.duplicateTools >>= fun name => Policy.read (.text name)) = .ok policy
  store : Document.load files (.value (c.value .storeOasPath)) = .ok d

theorem Ready.storeSource_eq {base : String} {q : Request} {d : Document} {k : Credential}
    (h : Ready files c base q policy d) (hk : Credential.store c = .ok k) :
    storeSource files c = pure ⟨d, .store, k⟩ := by
  unfold storeSource document
  rw [h.store, hk]
  rfl

/-- **Without the administration a start is one of the store alone.**  A start that comes to its
login sends one request.  If the reply can be read and gives no token, the start ends as the
assembly of the store's tools ends, whatever the source of the administration is, and logs one
error.  If it gives a token, the start ends as the assembly of store and administration ends, or
with the failure to load the document of the administration.  The tools of the store are the first
ones of whatever is assembled from the store and more. -/
theorem start_degrades_to_the_store {base : String} {q : Request} {d : Document}
    (h : Ready files c base q policy d) :
    ∃ mask k, c.maskedPassword = .ok mask ∧ Credential.store c = .ok k ∧
      (∀ replies, Login.Readable q (nextReply replies) →
        let login := Login.loggingEntry c base mask
        let answer := received q (nextReply replies) >>= Login.credential
        (∀ f, answer = .error f →
          let tools := toolsOf files c policy [⟨d, .store, k⟩]
          let log := login :: loginFailureEntry f :: tools.log
          (buildTools files c).run replies = ⟨log, [q], replies.tail, tools.result⟩ ∧
          log.filter (fun e => e.level = .error) = [loginFailureEntry f]) ∧
        ∀ token, answer = .ok token →
          (∀ f, adminDocument files c = .error f →
            (buildTools files c).run replies = ⟨[login], [q], replies.tail, .error f⟩) ∧
          ∀ a, adminDocument files c = .ok a →
            let tools := toolsOf files c policy [⟨d, .store, k⟩, ⟨a, .admin, token⟩]
            (buildTools files c).run replies
              = ⟨login :: tools.log, [q], replies.tail, tools.result⟩) ∧
      ∀ more tools tools', (toolsOf files c policy [⟨d, .store, k⟩]).result = .ok tools →
        (toolsOf files c policy (⟨d, .store, k⟩ :: more)).result = .ok tools' →
        tools <+: tools' := by
  obtain ⟨mask, hmask⟩ := h.password.exists_masked
  obtain ⟨k, hk⟩ := Credential.exists_store h.publishableKey
  refine ⟨mask, k, hmask, hk, fun replies hreadable => ?_,
    fun more tools tools' ht ht' => toolsOf_prefix ht ht'⟩
  have hrun := buildTools_run h.policy (h.storeSource_eq hk)
    (Login.run_run h.backend hmask h.request replies)
  refine ⟨fun f hf => ⟨?_, ?_⟩, fun token ht => ⟨fun f hf => ?_, fun a ha => ?_⟩⟩
  · rw [hrun, hf, toolsAfter_loginFailure (Login.isLoginFailure_of_readable hreadable hf)]
    rfl
  · have hcalm : (toolsOf files c policy [⟨d, .store, k⟩]).log.filter
        (fun e => e.level = .error) = [] :=
      List.filter_eq_nil_iff.2 fun e he hl => calm_toolsOf _ e he (of_decide_eq_true hl)
    exact congrArg (loginFailureEntry f :: ·) hcalm
  · rw [hrun, ht, toolsAfter_unloadable token hf]
    rfl
  · rw [hrun, ht, toolsAfter_ok token ha]
    rfl

/-- A file with a document of one operation. -/
def operationFile (id : String) : FileEntry :=
  .file (Text.encodeUtf8
    ("\x7b\"paths\": \x7b\"/p\": \x7b\"get\": \x7b\"operationId\": \"" ++ id
      ++ "\"\x7d\x7d\x7d\x7d"))

/-- The files of a shop; there is no allow-list. -/
def shopFiles : Files :=
  [("oas/store.json", operationFile "products"), ("oas/admin.json", operationFile "orders")]

/-- A reply without headers. -/
def bareReply (status : Int) (body : String) : Reply := .ok ⟨status, [], Text.encodeUtf8 body⟩

/-- The names of the tools in which a start ends, or what went wrong. -/
def namesOrMessage (result : Except Failure (List Tool)) : Except String (List String) :=
  (result.map fun tools => tools.map (·.name)).mapError Failure.message

theorem exists_ready_shop :
    ∃ q d, Ready shopFiles shopTarget.config "http://localhost:9000" q .keep d ∧
      q.address = "http://localhost:9000/auth/user/emailpass" := by
  have hrequest : (Login.draft shopTarget.config "http://localhost:9000").request.toOption.map
      (·.address) = some "http://localhost:9000/auth/user/emailpass" := by decide +kernel
  have hstore : (Document.load shopFiles (.value (.text "oas/store.json"))).toOption.isSome := by
    decide +kernel
  obtain ⟨q, hq, haddress⟩ := Option.map_eq_some_iff.1 hrequest
  obtain ⟨d, hd⟩ := Option.isSome_iff_exists.1 hstore
  refine ⟨q, d, ⟨?_, Or.inr ⟨_, rfl⟩, Or.inr ⟨_, rfl⟩, eq_ok_of_toOption hq, ?_,
    eq_ok_of_toOption hd⟩, haddress⟩
  · exact eq_ok_of_toOption (by decide +kernel)
  · exact eq_ok_of_toOption (by decide +kernel)

/-- A shop whose login is refused has the tools of the store, and one with a token those of the
administration behind them. -/
theorem shop_degrades_to_the_store :
    let config := shopTarget.config
    let refusal := bareReply 401 "no"
    let grant := bareReply 200 "\x7b\"token\": \"t\"\x7d"
    ∃ q d k a, Ready shopFiles config "http://localhost:9000" q .keep d ∧
      Login.Readable q refusal ∧ Login.Readable q grant ∧
      ((buildTools shopFiles config).run [refusal]).requests = [q] ∧
      ((buildTools shopFiles config).run [refusal]).result
        = (toolsOf shopFiles config .keep [⟨d, .store, k⟩]).result ∧
      ((buildTools shopFiles config).run [grant]).requests = [q] ∧
      ((buildTools shopFiles config).run [grant]).result
        = (toolsOf shopFiles config .keep [⟨d, .store, k⟩, ⟨a, .admin, ⟨"t", none⟩⟩]).result ∧
      namesOrMessage ((buildTools shopFiles config).run [refusal]).result = .ok ["products"] ∧
      namesOrMessage ((buildTools shopFiles config).run [grant]).result
        = .ok ["products", "Adminorders"] := by
  intro config refusal grant
  obtain ⟨q, d, hready, haddress⟩ := exists_ready_shop
  have hplace : q.address.toList.head? ≠ some '/' := by
    rw [haddress]
    decide
  have hrefusal := Login.received_of_delivery hplace 401 (Text.encodeUtf8 "no")
  have hgrant := Login.received_of_delivery hplace 200
    (Text.encodeUtf8 "\x7b\"token\": \"t\"\x7d")
  have hreadable : ∀ status body,
      (⟨status, [], Text.encodeUtf8 body⟩ : Response).json?.toOption.isSome →
        Login.Readable q (bareReply status body) := fun status body h =>
    Login.readable_of_delivery hplace
      ((Option.isSome_iff_exists.1 h).imp fun v hv => eq_ok_of_toOption hv)
  obtain ⟨a, ha⟩ := Option.isSome_iff_exists.1
    (by decide +kernel : (adminDocument shopFiles config).toOption.isSome)
  obtain ⟨_, k, _, _, hstart, _⟩ := start_degrades_to_the_store hready
  have hr := hreadable 401 "no" (by decide +kernel)
  have hg := hreadable 200 "\x7b\"token\": \"t\"\x7d" (by decide +kernel)
  obtain ⟨f, hf⟩ : ∃ f, received q refusal >>= Login.credential = .error f := by
    show ∃ f, received q (.ok ⟨401, [], Text.encodeUtf8 "no"⟩) >>= Login.credential = .error f
    rw [hrefusal]
    exact exists_eq_error_of_toOption (by decide +kernel)
  have hk : received q grant >>= Login.credential = .ok ⟨"t", none⟩ := by
    show received q (.ok ⟨200, [], _⟩) >>= Login.credential = _
    rw [hgrant]
    exact eq_ok_of_toOption (by decide +kernel)
  have hrun := ((hstart [refusal] hr).1 f hf).1
  have hrun' := ((hstart [grant] hg).2 _ hk).2 a (eq_ok_of_toOption ha)
  exact ⟨q, d, k, a, hready, hr, hg, congrArg Run.requests hrun, congrArg Run.result hrun,
    congrArg Run.requests hrun', congrArg Run.result hrun', by decide +kernel, by decide +kernel⟩

/-- **An answer that is nested too deeply ends a start.**  It gives no token, but it is no failed
login either. -/
theorem start_fails_on_brackets {base : String} {q : Request} {d : Document}
    (h : Ready files c base q policy d) (hq : q.address.toList.head? ≠ some '/') {n : Nat}
    (hn : Json.nestingLimit < n) :
    let answer : Reply := .ok ⟨200, [], List.replicate n 0x5B⟩
    let failure : Failure := .json (.ofList (Json.brackets n)) (.tooDeep .array)
    ∃ mask,
      (Login.run c).run [answer] = ⟨[Login.loggingEntry c base mask], [q], [], .error failure⟩ ∧
      (buildTools files c).run [answer]
        = ⟨[Login.loggingEntry c base mask], [q], [], .error failure⟩ := by
  intro answer failure
  obtain ⟨mask, hmask⟩ := h.password.exists_masked
  obtain ⟨k, hk⟩ := Credential.exists_store h.publishableKey
  have hcredential : Login.credential ⟨200, [], List.replicate n 0x5B⟩ = .error failure := by
    unfold Login.credential
    rw [json?_brackets 200 hn]
    rfl
  have hanswer : received q answer >>= Login.credential = .error failure := by
    rw [Login.received_of_delivery hq]
    exact hcredential
  have hlogin := Login.run_run h.backend hmask h.request [answer]
  rw [show nextReply [answer] = answer from rfl, hanswer] at hlogin
  have hrun := buildTools_run h.policy (h.storeSource_eq hk) hlogin
  rw [toolsAfter_otherFailure rfl] at hrun
  exact ⟨mask, hlogin, hrun⟩

/-- **A login without a token is not always degraded.**  An answer of many brackets gives no token,
and the tools of the store could be assembled, but the start fails and logs no error. -/
theorem brackets_are_not_degraded :
    let config := shopTarget.config
    let answer : Reply := .ok ⟨200, [], List.replicate 3000 0x5B⟩
    (∃ store, ((storeSource shopFiles config).run []).result = .ok store ∧
      namesOrMessage (toolsOf shopFiles config .keep [store]).result = .ok ["products"]) ∧
    (∀ token, ((Login.run config).run [answer]).result ≠ .ok token) ∧
    namesOrMessage ((buildTools shopFiles config).run [answer]).result
      = .error (Json.tooDeepMessage .array) ∧
    ((buildTools shopFiles config).run [answer]).log.filter (fun e => e.level = .error) = [] := by
  intro config answer
  have hstore : (((storeSource shopFiles config).run []).result.toOption.map fun store =>
        namesOrMessage (toolsOf shopFiles config .keep [store]).result)
      = some (.ok ["products"]) := by
    decide +kernel
  obtain ⟨store, hs, ht⟩ := Option.map_eq_some_iff.1 hstore
  obtain ⟨q, d, hready, haddress⟩ := exists_ready_shop
  obtain ⟨mask, hlogin, hrun⟩ := start_fails_on_brackets (n := 3000) hready
    (by rw [haddress]; decide) (by decide)
  refine ⟨⟨store, eq_ok_of_toOption hs, ht⟩, fun token ht => ?_, ?_, ?_⟩
  · rw [hlogin] at ht
    cases ht
  · rw [hrun]
    rfl
  · rw [hrun]
    rfl

end Bootstrap
end ToolGateway
