/-
# Credentials show in two headers only

Two credentials that differ in what is secret, a token and a publishable key, are compiled into
tools that look alike, and these tools do the same: they log the same, give the same results and the
same failures, and send the same requests but for two headers (`alike_session`).  A secret must be a
text that can be sent, and an empty one counts as none; so a secret is set against another of this
kind (`SecretAlike`).
-/

import ToolGateway.Proofs.Dispatch.Call
import ToolGateway.Proofs.Tool.Twins

namespace ToolGateway

open Http

/-! ### Secrets -/

/-- The text can be sent as a header. -/
def Text.IsAscii (s : String) : Prop := ∀ c ∈ s.toList, c.toNat < 128

instance (s : String) : Decidable (Text.IsAscii s) :=
  List.decidableBAll (fun c : Char => c.toNat < 128) s.toList

/-- Two secrets: the same, or two texts that can be sent and are not empty. -/
inductive SecretAlike : String → String → Prop where
  | same (s : String) : SecretAlike s s
  | both {s s' : String} (h : s ≠ "") (h' : s' ≠ "") (ha : Text.IsAscii s) (ha' : Text.IsAscii s') :
    SecretAlike s s'

namespace Credential

/-- The credentials are the same but for their secrets. -/
structure SameButSecrets (k k' : Credential) : Prop where
  token : SecretAlike k.token k'.token
  key : Option.Rel SecretAlike k.publishableKey k'.publishableKey

/-- The headers in which credentials are sent. -/
def IsSecretHeader (name : String) : Prop := name = "authorization" ∨ name = Dispatch.keyHeader

end Credential

/-! ### Headers -/

namespace Dispatch

open Credential (IsSecretHeader)

/-- Two headers under one name with values that are the same, or secrets. -/
def HeaderAlike (h h' : String × Value) : Prop :=
  h.1 = h'.1 ∧ Headers.EntryAlike (fun n => IsSecretHeader (Text.asciiLower n))
    (.text h.1, h.2) (.text h'.1, h'.2)

theorem HeaderAlike.refl (h : String × Value) : HeaderAlike h h := ⟨rfl, .same _⟩

theorem headerAlike_token {s s' : String} (ha : Text.IsAscii s) (ha' : Text.IsAscii s') :
    HeaderAlike ("Authorization", .text ("Bearer " ++ s))
      ("Authorization", .text ("Bearer " ++ s')) := by
  have hbearer : Text.IsAscii "Bearer " := by decide +kernel
  have hb : ∀ s, Text.IsAscii s → Text.asciiFault? ("Bearer " ++ s) = none := by
    intro s hs
    refine Text.asciiFault?_eq_none fun c hc => ?_
    rw [String.toList_append, List.mem_append] at hc
    exact hc.elim (hbearer c) (hs c)
  exact ⟨rfl, .secret (Or.inl asciiLower_authorization) (hb s ha) (hb s' ha')⟩

theorem headerAlike_key {s s' : String} (ha : Text.IsAscii s) (ha' : Text.IsAscii s') :
    HeaderAlike (keyHeader, .text s) (keyHeader, .text s') :=
  ⟨rfl, .secret (Or.inr asciiLower_keyHeader) (Text.asciiFault?_eq_none ha)
    (Text.asciiFault?_eq_none ha')⟩

variable {k k' : Credential}

theorem forall₂_credentialHeaders (h : k.SameButSecrets k') :
    List.Forall₂ HeaderAlike (credentialHeaders k) (credentialHeaders k') := by
  obtain ⟨token, key⟩ := k
  obtain ⟨token', key'⟩ := k'
  obtain ⟨ht, hk⟩ := h
  unfold credentialHeaders
  refine List.rel_append ?_ ?_
  · cases ht with
    | same => exact List.forall₂_same.2 fun h _ => .refl h
    | both h h' ha ha' =>
      rw [if_neg h, if_neg h']
      exact .cons (headerAlike_token ha ha') .nil
  · cases hk with
    | none => exact .nil
    | some hk =>
      cases hk with
      | same => exact List.forall₂_same.2 fun h _ => .refl h
      | both h h' ha ha' =>
        dsimp only
        rw [if_neg h, if_neg h']
        exact .cons (headerAlike_key ha ha') .nil

theorem forall₂_foldl_put {own own' : Table Value} (h : List.Forall₂ HeaderAlike own own')
    {es es' : Entries}
    (he : List.Forall₂ (Headers.EntryAlike fun n => IsSecretHeader (Text.asciiLower n)) es es') :
    List.Forall₂ (Headers.EntryAlike fun n => IsSecretHeader (Text.asciiLower n))
      (own.foldl (fun acc h => Entries.put acc (.text h.1) h.2) es)
      (own'.foldl (fun acc h => Entries.put acc (.text h.1) h.2) es') := by
  induction h generalizing es es' with
  | nil => exact he
  | @cons a b _ _ hab _ ih =>
    obtain ⟨n, v⟩ := a
    obtain ⟨n', v'⟩ := b
    obtain ⟨rfl, hv⟩ : n = n' ∧ _ := hab
    exact ih (Headers.forall₂_put he hv)

theorem endAlike_headers (c : Config) (h : k.SameButSecrets k') :
    EndAlike (List.Forall₂ (Headers.EntryAlike fun n => IsSecretHeader (Text.asciiLower n)))
      (headers c k) (headers c k') := by
  unfold headers
  refine EndAlike.bind_congr fun configured => ?_
  refine .ok (forall₂_foldl_put (List.rel_append ?_ (forall₂_credentialHeaders h)) ?_)
  · exact List.forall₂_same.2 fun h _ => .refl h
  · exact List.forall₂_same.2 fun e _ => .same e

/-! ### Calls -/

/-- The drafts of a call with two credentials differ in headers that hold secrets. -/
theorem endAlike_draft (c : Config) (m : Method) (path : String) (query : Table Value)
    (body : Option Value) (h : k.SameButSecrets k') :
    EndAlike (fun d d' =>
        List.Forall₂ (Headers.EntryAlike fun n => IsSecretHeader (Text.asciiLower n))
          d.headers d'.headers ∧ d' = { d with headers := d'.headers })
      (draft c m path k query body) (draft c m path k' query body) := by
  unfold draft
  refine EndAlike.bind_congr fun a => ?_
  exact (endAlike_headers c h).bind fun hs hs' hh => .ok ⟨hh, rfl⟩

/-- **A call does the same with two credentials**, but for the headers that hold secrets. -/
theorem alike_call (c : Config) (m : Method) (path : String) (query : Table Value)
    (body : Option Value) (h : k.SameButSecrets k') :
    Action.Alike (SameButHeaders IsSecretHeader) Eq (call c m path k query body)
      (call c m path k' query body) := by
  have hrefl := SameButHeaders.refl IsSecretHeader
  rw [call_eq, call_eq]
  refine (Action.Alike.ofExcept (endAlike_draft c m path query body h)).bind fun d d' hd => ?_
  obtain ⟨hheaders, hd'⟩ := hd
  refine Action.Alike.bind_congr hrefl fun _ => ?_
  have hrequest := endAlike_request_of_headers d hheaders
  rw [← hd'] at hrequest
  refine (Action.Alike.ofExcept hrequest).bind fun q q' hq => ?_
  refine (alike_exchange hq hq.address).bind fun r _ hr => hr ▸ ?_
  exact Action.Alike.refl hrefl (fun _ => rfl) _

end Dispatch

/-! ### Sessions -/

namespace Tool

open Credential (IsSecretHeader)

/-- Calls one after the other, each of the tool at a place with arguments.  A call that fails is no
end of the session, and a place without a tool is passed over. -/
def session (tools : List Tool) : List (Nat × Value) → Action (List (Except Failure Value))
  | [] => pure []
  | (place, arguments) :: rest =>
    match tools[place]? with
    | none => session tools rest
    | some t => do
      let result ← (t.invoke arguments).attempt
      let results ← session tools rest
      return result :: results

variable {k k' : Credential} {surface : Surface} {config : Config} {tools tools' : List Tool}

theorem alike_invoke {t u : Tool} (h : k.SameButSecrets k')
    (htu : Twins ⟨surface, k, config⟩ ⟨surface, k', config⟩ t u) (arguments : Value) :
    Action.Alike (SameButHeaders IsSecretHeader) Eq (t.invoke arguments) (u.invoke arguments) := by
  have hrefl := SameButHeaders.refl IsSecretHeader
  obtain ⟨plan, ht, rfl⟩ := htu
  unfold invoke
  rw [ht]
  refine Action.Alike.bind_congr hrefl fun args => ?_
  refine Action.Alike.bind_congr hrefl fun routed => ?_
  exact Dispatch.alike_call _ _ _ _ _ h

theorem rel_getElem? {R : Tool → Tool → Prop} (h : List.Forall₂ R tools tools') (i : Nat) :
    Option.Rel R tools[i]? tools'[i]? := by
  induction h generalizing i with
  | nil => exact .none
  | cons htu _ ih =>
    cases i with
    | zero => exact .some htu
    | succ i => exact ih i

/-- **Sessions with two credentials are alike**, but for the headers that hold secrets. -/
theorem alike_session (h : k.SameButSecrets k')
    (ht : List.Forall₂ (Twins ⟨surface, k, config⟩ ⟨surface, k', config⟩) tools tools')
    (calls : List (Nat × Value)) :
    Action.Alike (SameButHeaders IsSecretHeader) Eq (session tools calls)
      (session tools' calls) := by
  induction calls with
  | nil => exact .pure rfl
  | cons call rest ih =>
    obtain ⟨place, arguments⟩ := call
    have hrel := rel_getElem? ht place
    unfold session
    generalize tools[place]? = t, tools'[place]? = u at hrel ⊢
    cases hrel with
    | none => exact ih
    | some htu =>
      refine (alike_invoke h htu arguments).attempt.bind fun r r' hr => ?_
      obtain rfl := EndAlike.eq_iff.1 hr
      exact ih.bind fun rs _ hrs => hrs ▸ .pure rfl

end Tool
end ToolGateway
