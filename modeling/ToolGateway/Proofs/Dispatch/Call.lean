/-
# Calls of the backend

A call is made into a draft, which is logged, made into a request, sent once and answered.
`call_run` says what a call does in each case; the rest is read off it.  A request carries the token
and the key of the credential; a user whom the address of the backend names takes the place of the
token (`sends_credential`).
-/

import ToolGateway.Dispatch
import ToolGateway.Proofs.Http.UserInformation

namespace ToolGateway

open Http

/-- The request carries the token of a credential as a bearer token, and the publishable key.  A
token or a key that is empty is not sent.  If there is a user, the request is authorized by the name
and the password, in the place of the token. -/
structure Http.Request.CarriesCredential (q : Request) (user : Option (String × String))
    (k : Credential) : Prop where
  token : user = none → k.token ≠ "" →
    Headers.Carries q.headers "authorization" ("Bearer " ++ k.token)
  basic : ∀ name password, user = some (name, password) →
    Table.get? q.headers "authorization" = some (Headers.basic name password)
  key : ∀ key, k.publishableKey = some key → key ≠ "" →
    Headers.Carries q.headers Dispatch.keyHeader key

namespace Config

variable {c : Config} {base : String}

/-- The user whom the address of the backend names. -/
def user? (c : Config) : Option (String × String) :=
  match c.backendUrl with
  | .ok base => Url.user? base
  | .error _ => none

/-- The address of a backend does not end in a slash. -/
theorem getLast?_backendUrl (h : c.backendUrl = .ok base) : base.toList.getLast? ≠ some '/' := by
  unfold backendUrl at h
  split at h
  · obtain ⟨s, _, h⟩ := exists_of_bind_eq_ok h
    cases h
    rw [String.toList_ofList, List.getLast?_reverse]
    intro hslash
    have hnot := List.head?_dropWhile_not (· = '/') s.toList.reverse
    rw [hslash] at hnot
    simp at hnot
  · cases h

end Config

namespace Dispatch

variable {c : Config} {m : Method} {path : String} {k : Credential} {query : Table Value}
  {body : Option Value}

/-! ### What a call does -/

/-- What a call is made into. -/
def draft (c : Config) (m : Method) (path : String) (k : Credential) (query : Table Value)
    (body : Option Value) : Except Failure Draft := do
  let address ← address c path
  let headers ← headers c k
  return {
    verb := m.verb
    address
    query := if query.isEmpty then none else some query
    headers
    body := if m = .get then none else body
    timeout := c.value .timeout }

/-- What is logged about a call. -/
def fetchingEntry (m : Method) (path : String) (query : Table Value) : LogEntry :=
  ⟨.debug, fetchingText m path query⟩

theorem call_eq (c : Config) (m : Method) (path : String) (k : Credential) (query : Table Value)
    (body : Option Value) :
    call c m path k query body = (do
      let d ← Action.ofExcept (draft c m path k query body)
      Action.note .debug (fetchingText m path query)
      let request ← Action.ofExcept d.request
      let response ← exchange request
      Action.ofExcept response.value) := by
  unfold call draft
  cases address c path with
  | error f => rfl
  | ok a =>
    cases headers c k with
    | error f => rfl
    | ok hs => rfl

/-- A call without a draft does nothing, one without a request is logged, and else one request is
sent and answered. -/
theorem call_run (replies : List Reply) :
    (call c m path k query body).run replies =
      match draft c m path k query body with
      | .error f => ⟨[], [], replies, .error f⟩
      | .ok d =>
        match d.request with
        | .error f => ⟨[fetchingEntry m path query], [], replies, .error f⟩
        | .ok q =>
          ⟨[fetchingEntry m path query], [q], replies.tail,
            received q (nextReply replies) >>= Response.value⟩ := by
  rw [call_eq]
  cases draft c m path k query body with
  | error f => rfl
  | ok d =>
    rw [Action.ofExcept_ok_bind]
    dsimp only
    cases d.request with
    | error f => rfl
    | ok q =>
      rw [Action.ofExcept_ok_bind,
        Action.bind_run_of_ok (rfl : (Action.note .debug _).run replies = _), exchange_bind_run]
      rfl

/-- A call logs nothing but that it is made. -/
theorem eq_fetchingEntry_of_mem_log {replies : List Reply} {e : LogEntry}
    (h : e ∈ ((call c m path k query body).run replies).log) : e = fetchingEntry m path query := by
  rw [call_run] at h
  split at h
  · cases h
  · split at h
    · exact List.mem_singleton.1 h
    · exact List.mem_singleton.1 h

/-- A call sends at most one request. -/
theorem length_requests_le_one (replies : List Reply) :
    ((call c m path k query body).run replies).requests.length ≤ 1 := by
  rw [call_run]
  split
  · exact Nat.zero_le 1
  · split
    · exact Nat.zero_le 1
    · exact Nat.le_refl 1

/-- What is sent is made from the draft. -/
theorem sends_call :
    (call c m path k query body).Sends fun q =>
      ∃ d, draft c m path k query body = .ok d ∧ d.request = .ok q := by
  intro replies q hq
  rw [call_run] at hq
  split at hq
  · cases hq
  · rename_i d hd
    split at hq
    · cases hq
    · rename_i q' hr
      exact ⟨d, hd, List.mem_singleton.1 hq ▸ hr⟩

/-- What the draft of a call is made of. -/
theorem draft_eq_ok {d : Draft} (h : draft c m path k query body = .ok d) :
    ∃ a hs, address c path = .ok a ∧ headers c k = .ok hs ∧
      d = ⟨m.verb, a, if query.isEmpty then none else some query, hs,
        if m = .get then none else body, c.value .timeout⟩ := by
  unfold draft at h
  obtain ⟨a, ha, h⟩ := exists_of_bind_eq_ok h
  obtain ⟨hs, hh, h⟩ := exists_of_bind_eq_ok h
  cases h
  exact ⟨a, hs, ha, hh, rfl⟩

/-- A request has the verb of the call, and its body is the body of the call in JSON; with the
method that only reads it is empty. -/
theorem sends_verb_and_body :
    (call c m path k query body).Sends fun q =>
      q.verb = m.verb ∧ Draft.bodyText (if m = .get then none else body) = .ok q.body := by
  intro replies q hq
  obtain ⟨d, hd, hr⟩ := sends_call replies q hq
  obtain ⟨a, hs, _, _, rfl⟩ := draft_eq_ok hd
  obtain ⟨_, _, _, _, _, _, hbody, hverb, _⟩ := Draft.request_eq_ok hr
  exact ⟨hverb, hbody⟩

/-! ### The credential of a request -/

theorem get?_headers_token {hs : Entries} (h : headers c k = .ok hs) (ht : k.token ≠ "") :
    hs.get? "Authorization" = some (.text ("Bearer " ++ k.token)) := by
  unfold headers at h
  obtain ⟨configured, _, h⟩ := exists_of_bind_eq_ok h
  cases h
  unfold credentialHeaders
  rw [if_neg ht]
  split
  · split <;> simp [Entries.get?_put, keyHeader]
  · simp [Entries.get?_put]

theorem get?_headers_key {hs : Entries} (h : headers c k = .ok hs) {key : String}
    (hk : k.publishableKey = some key) (hne : key ≠ "") :
    hs.get? keyHeader = some (.text key) := by
  unfold headers at h
  obtain ⟨configured, _, h⟩ := exists_of_bind_eq_ok h
  cases h
  unfold credentialHeaders
  rw [hk]
  dsimp only
  rw [if_neg hne]
  simp [Entries.get?_put]

theorem asciiLower_authorization : Text.asciiLower "Authorization" = "authorization" := by
  decide +kernel

theorem asciiLower_keyHeader : Text.asciiLower keyHeader = keyHeader := by decide +kernel

/-- The path of a call changes nothing about who is named in the address. -/
theorem user?_address {a : String} {u : Url} (ha : address c path = .ok a)
    (hu : Url.parse a = .ok u) : Url.user? a = c.user? := by
  unfold address at ha
  obtain ⟨base, hbase, ha⟩ := exists_of_bind_eq_ok ha
  have huser : c.user? = Url.user? base := by
    unfold Config.user?
    rw [hbase]
  rw [huser]
  split at ha
  · cases ha
    rfl
  · cases ha
    refine Url.user?_append (Config.getLast?_backendUrl hbase) ?_ hu
    intro hslash
    have hnot := List.head?_dropWhile_not (· = '/') path.toList
    rw [String.toList_ofList] at hslash
    rw [hslash] at hnot
    simp at hnot

/-- A request has the headers of its call, and those of the user whom the backend's address names. -/
theorem sends_authorized :
    (call c m path k query body).Sends fun q =>
      ∃ hs sent, headers c k = .ok hs ∧ Headers.encode hs = .ok sent ∧
        q.headers = Headers.authorized c.user? (Headers.joined sent) := by
  intro replies q hq
  obtain ⟨d, hd, hr⟩ := sends_call replies q hq
  obtain ⟨a, hs, ha, hh, rfl⟩ := draft_eq_ok hd
  obtain ⟨u, sent, hu, hsent, hheaders⟩ := Draft.headers_of_request hr
  exact ⟨hs, sent, hh, hsent, hheaders.trans (by rw [user?_address ha hu])⟩

/-- **A request carries the credential of its call.** -/
theorem sends_credential :
    (call c m path k query body).Sends fun q => q.CarriesCredential c.user? k := by
  intro replies q hq
  obtain ⟨hs, sent, hh, hsent, hheaders⟩ := sends_authorized replies q hq
  refine ⟨fun hnone ht => ?_, fun name password huser => ?_, fun key hk hne => ?_⟩
  · have hm := Headers.mem_of_encode hsent (Entries.mem_of_get? (get?_headers_token hh ht))
    have hc := Headers.carries_joined hm
    rw [asciiLower_authorization] at hc
    rw [hheaders, hnone]
    exact hc
  · rw [hheaders, huser]
    exact (Table.get?_put _ _ _ _).trans (if_pos rfl)
  · have hm := Headers.mem_of_encode hsent (Entries.mem_of_get? (get?_headers_key hh hk hne))
    obtain ⟨before, after, hc⟩ := Headers.carries_joined hm
    rw [asciiLower_keyHeader] at hc
    refine ⟨before, after, ?_⟩
    rw [hheaders]
    unfold Headers.authorized
    split
    · exact hc
    · rw [Table.get?_put, if_neg (by decide), hc]

end Dispatch
end ToolGateway
