/-
# Headers of a call's own

A call has headers of its own: the media type twice, the token and the key.  They are put over those
of the configuration by their names as they are spelled, but headers are sent without regard to case,
and the values of one name are joined.  So the headers of one name are followed through both steps
(`named_union`, `valuesOf_joined`).  What arrives is told by `own_headers_are_sent`: the headers of
the configuration as they are given, and each of the call's own alone, unless the configuration
spells its name in another case; then the value of the configuration goes in front of it.
-/

import ToolGateway.Proofs.Dispatch.Call
import Mathlib.Data.List.Nodup

namespace ToolGateway

open Http

namespace Text

theorem toLower_toLower (c : Char) : c.toLower.toLower = c.toLower := by
  have hsmall : ¬ (c.toLower.val ≥ 'A'.val ∧ c.toLower.val ≤ 'Z'.val) := by
    unfold Char.toLower
    split
    · rename_i hc
      simp [UInt32.le_iff_toNat_le] at hc ⊢
      omega
    · assumption
  exact dif_neg hsmall

theorem asciiLower_asciiLower (s : String) : asciiLower (asciiLower s) = asciiLower s := by
  unfold asciiLower
  rw [String.map_map]
  exact congrArg (s.map ·) (funext toLower_toLower)

end Text

namespace Http.Headers

/-! ### The headers of one name -/

/-- The headers of a name, without regard to case. -/
def named (headers : Table String) (name : String) : Table String :=
  headers.filter fun h => Text.asciiLower h.1 = name

/-- The names differ also without regard to case. -/
def Distinct (headers : Table String) : Prop := (headers.map fun h => Text.asciiLower h.1).Nodup

instance (headers : Table String) : Decidable (Distinct headers) :=
  inferInstanceAs (Decidable (List.Nodup _))

theorem valuesOf_eq (headers : Table String) (name : String) :
    valuesOf headers name = (named headers name).map Prod.snd := rfl

theorem named_cons (h : String × String) (headers : Table String) (name : String) :
    named (h :: headers) name =
      if Text.asciiLower h.1 = name then h :: named headers name else named headers name := by
  simp [named, List.filter_cons]

/-- A put header changes the headers of its own name only. -/
theorem named_put (headers : Table String) (n v name : String) :
    named (headers.put n v) name =
      if Text.asciiLower n = name then (named headers name).put n v else named headers name := by
  induction headers with
  | nil => exact named_cons (n, v) [] name
  | cons h rest ih =>
    obtain ⟨k, w⟩ := h
    rw [show Table.put ((k, w) :: rest) n v
      = if k = n then (k, v) :: rest else (k, w) :: Table.put rest n v from rfl]
    by_cases hk : k = n
    · subst hk
      rw [if_pos rfl, named_cons, named_cons]
      by_cases hn : Text.asciiLower k = name <;> simp [hn, Table.put]
    · rw [if_neg hk, named_cons, named_cons, ih]
      by_cases hn : Text.asciiLower n = name
      · by_cases hkn : Text.asciiLower k = name <;> simp [hn, hkn, hk, Table.put]
      · simp [hn]

/-- The headers of a name in a union are those of the two parts. -/
theorem named_union (headers more : Table String) (name : String) :
    named (headers.union more) name = (named headers name).union (named more name) := by
  unfold Table.union
  induction more generalizing headers with
  | nil => rfl
  | cons h rest ih =>
    rw [List.foldl_cons, ih, named_put, named_cons]
    split <;> rfl

theorem named_eq_nil {headers : Table String} {name : String}
    (h : ∀ e ∈ headers, Text.asciiLower e.1 ≠ name) : named headers name = [] :=
  List.filter_eq_nil_iff.2 fun e he => by simpa using h e he

/-- If the names are distinct, a header is the only one of its name. -/
theorem named_of_mem {headers : Table String} (hd : Distinct headers) {n v : String}
    (h : (n, v) ∈ headers) : named headers (Text.asciiLower n) = [(n, v)] := by
  induction headers with
  | nil => cases h
  | cons e rest ih =>
    obtain ⟨hnew, hrest⟩ := List.nodup_cons.1 hd
    rw [named_cons]
    rcases List.mem_cons.1 h with rfl | h
    · have hnone : ∀ e ∈ rest, Text.asciiLower e.1 ≠ Text.asciiLower n :=
        fun e he heq => hnew (List.mem_map.2 ⟨e, he, heq⟩)
      rw [if_pos rfl, named_eq_nil hnone]
    · have hother : Text.asciiLower e.1 ≠ Text.asciiLower n :=
        fun heq => hnew (List.mem_map.2 ⟨(n, v), h, heq.symm⟩)
      rw [if_neg hother, ih hrest h]

/-- The headers of a name, joined: one header with all values that are sent under the name. -/
theorem named_joined (sent : List (String × String)) (name : String) :
    named (joined sent) name =
      if valuesOf sent name = [] then []
      else [(name, ", ".intercalate (valuesOf sent name))] := by
  induction sent using List.reverseRecOn with
  | nil => rfl
  | append_singleton sent h ih =>
    obtain ⟨w, hw⟩ : ∃ w, joined (sent ++ [h]) = (joined sent).put (Text.asciiLower h.1) w :=
      ⟨_, joined_concat sent h⟩
    have hget := get?_joined (sent ++ [h]) name
    rw [hw, Table.get?_put] at hget
    rw [hw, named_put, Text.asciiLower_asciiLower]
    by_cases hn : Text.asciiLower h.1 = name
    · rw [if_pos hn] at hget
      rw [if_pos hn, ih, hn]
      split at hget
      · cases hget
      · rename_i hvalues
        cases hget
        rw [if_neg hvalues]
        split <;> simp [Table.put]
    · have hvalues : valuesOf (sent ++ [h]) name = valuesOf sent name := by simp [valuesOf, hn]
      rw [if_neg hn, ih, hvalues]

/-- Joined headers have one value under a name: all values that are sent under it. -/
theorem valuesOf_joined (sent : List (String × String)) (name : String) :
    valuesOf (joined sent) name =
      if valuesOf sent name = [] then [] else [", ".intercalate (valuesOf sent name)] := by
  rw [valuesOf_eq, named_joined]
  split <;> rfl

/-! ### Headers put over others -/

variable {headers own : Table String} {n v x : String}

/-- The headers have the name in another spelling, with this value. -/
def Respells (headers : Table String) (n x : String) : Prop :=
  ∃ other, (other, x) ∈ headers ∧ Text.asciiLower other = Text.asciiLower n ∧ other ≠ n

/-- A header that is put over others takes the place of the one that is spelled like it. -/
theorem valuesOf_union_of_not_respelled (hd : Distinct headers) (ho : Distinct own)
    (hm : (n, v) ∈ own) (h : ∀ x, ¬ Respells headers n x) :
    valuesOf (headers.union own) (Text.asciiLower n) = [v] := by
  rw [valuesOf_eq, named_union, named_of_mem ho hm]
  by_cases hother : ∃ e ∈ headers, Text.asciiLower e.1 = Text.asciiLower n
  · obtain ⟨⟨k, w⟩, he, hk⟩ := hother
    have hspelled : k = n := by
      by_contra hne
      exact h w ⟨k, he, hk, hne⟩
    rw [← hk, named_of_mem hd he]
    simp [Table.union, Table.put, hspelled]
  · rw [named_eq_nil fun e he hk => hother ⟨e, he, hk⟩]
    rfl

/-- One that is spelled otherwise keeps its place in front of it. -/
theorem valuesOf_union_of_respelled (hd : Distinct headers) (ho : Distinct own)
    (hm : (n, v) ∈ own) (h : Respells headers n x) :
    valuesOf (headers.union own) (Text.asciiLower n) = [x, v] := by
  obtain ⟨other, he, hk, hne⟩ := h
  rw [valuesOf_eq, named_union, named_of_mem ho hm, ← hk, named_of_mem hd he]
  simp [Table.union, Table.put, hne]

/-- Others stay as they are. -/
theorem valuesOf_union_of_mem (hd : Distinct headers) (hm : (n, v) ∈ headers)
    (h : ∀ e ∈ own, Text.asciiLower e.1 ≠ Text.asciiLower n) :
    valuesOf (headers.union own) (Text.asciiLower n) = [v] := by
  rw [valuesOf_eq, named_union, named_of_mem hd hm, named_eq_nil h]
  rfl

/-- Headers as a configuration gives them. -/
def given (headers : Table String) : Entries := headers.map fun h => (.text h.1, .text h.2)

theorem foldl_put_given (headers more : Table String) :
    more.foldl (fun acc h => Entries.put acc (.text h.1) (.text h.2)) (given headers)
      = given (headers.union more) :=
  Entries.foldl_put_map .text headers more

/-- Texts are sent as they are. -/
theorem eq_of_encode_given {sent : List (String × String)}
    (h : encode (given headers) = .ok sent) : sent = headers := by
  induction headers generalizing sent with
  | nil =>
    cases h
    rfl
  | cons e rest ih =>
    change encode ((.text e.1, .text e.2) :: given rest) = .ok sent at h
    rw [encode] at h
    obtain ⟨n, hn, h⟩ := exists_of_bind_eq_ok h
    obtain ⟨v, hv, h⟩ := exists_of_bind_eq_ok h
    obtain ⟨more, hmore, h⟩ := exists_of_bind_eq_ok h
    cases h
    rw [eq_of_sendable hn, eq_of_sendable hv, ih hmore]

end Http.Headers

namespace Dispatch

open Headers

variable {c : Config} {m : Method} {path : String} {k : Credential} {query : Table Value}
  {body : Option Value} {extra : Table String} {key : String}

/-- The headers of a call's own. -/
def ownHeaders (token key : String) : Table String :=
  [("Content-Type", "application/json"), ("Accept", "application/json"),
    ("Authorization", "Bearer " ++ token), (keyHeader, key)]

theorem distinct_ownHeaders (token key : String) : Distinct (ownHeaders token key) := by
  have : Distinct (ownHeaders "" "") := by decide +kernel
  exact this

theorem headers_eq (hextra : c.headers = .map (given extra)) (hd : Distinct extra)
    (ht : k.token ≠ "") (hk : k.publishableKey = some key) (hne : key ≠ "") :
    headers c k = .ok (given (extra.union (ownHeaders k.token key))) := by
  have hconfigured : configuredHeaders c = .ok (given extra) := by
    have hnames : extra.names.Nodup := by
      refine List.Nodup.of_map Text.asciiLower ?_
      rw [Table.names, List.map_map]
      exact hd
    unfold configuredHeaders
    rw [hextra]
    dsimp only
    rw [given, List.foldl_map]
    exact congrArg Except.ok ((foldl_put_given [] extra).trans
      (congrArg given (Table.ofList_eq_self hnames)))
  have hown : [("Content-Type", mediaType), ("Accept", mediaType)] ++ credentialHeaders k
      = (ownHeaders k.token key).map fun h => (h.1, .text h.2) := by
    unfold credentialHeaders
    rw [if_neg ht, hk]
    dsimp only
    rw [if_neg hne]
    rfl
  unfold headers
  rw [hconfigured]
  show Except.ok _ = _
  rw [hown, List.foldl_map, foldl_put_given]

/-- A request has the call's own headers, put over those of the configuration. -/
theorem sends_headers (hextra : c.headers = .map (given extra)) (hd : Distinct extra)
    (ht : k.token ≠ "") (hk : k.publishableKey = some key) (hne : key ≠ "")
    (hbase : ∀ base, c.backendUrl = .ok base → Url.NamesNobody base) :
    (call c m path k query body).Sends fun q =>
      q.headers = joined (extra.union (ownHeaders k.token key)) := by
  intro replies q hq
  obtain ⟨hs, sent, hh, hsent, hheaders⟩ := sends_authorized replies q hq
  have hnobody : c.user? = none := by
    unfold Config.user?
    split
    · rename_i base hb
      exact (hbase base hb).user?_eq
    · rfl
  rw [headers_eq hextra hd ht hk hne] at hh
  cases hh
  rw [hheaders, hnobody, eq_of_encode_given hsent]
  rfl

/-- **What is configured does not take the place of what a call sends itself.**  Let the headers of
the configuration be texts whose names differ also without regard to case, let the credential have a
token and a key, and let the address of the backend name no user.  Then every request has each of the
call's own headers once, with its own value alone, if the configuration has its name in this spelling
or not at all; otherwise the value of the configuration stands in front of it, with a comma.  All
other headers of the configuration are sent once, with their values. -/
theorem own_headers_are_sent (hextra : c.headers = .map (given extra)) (hd : Distinct extra)
    (ht : k.token ≠ "") (hk : k.publishableKey = some key) (hne : key ≠ "")
    (hbase : ∀ base, c.backendUrl = .ok base → Url.NamesNobody base) :
    (call c m path k query body).Sends fun q =>
      (∀ h ∈ ownHeaders k.token key,
        ((∀ x, ¬ Respells extra h.1 x) → valuesOf q.headers (Text.asciiLower h.1) = [h.2]) ∧
        ∀ x, Respells extra h.1 x →
          valuesOf q.headers (Text.asciiLower h.1) = [x ++ ", " ++ h.2]) ∧
      ∀ h ∈ extra, (∀ o ∈ ownHeaders k.token key, Text.asciiLower o.1 ≠ Text.asciiLower h.1) →
        valuesOf q.headers (Text.asciiLower h.1) = [h.2] := by
  intro replies q hq
  have ho := distinct_ownHeaders k.token key
  rw [sends_headers hextra hd ht hk hne hbase replies q hq]
  refine ⟨fun h hm => ⟨fun hnone => ?_, fun x hx => ?_⟩, fun h hm hother => ?_⟩
  · rw [valuesOf_joined, valuesOf_union_of_not_respelled hd ho hm hnone]
    rfl
  · rw [valuesOf_joined, valuesOf_union_of_respelled hd ho hm hx]
    rfl
  · rw [valuesOf_joined, valuesOf_union_of_mem hd hm hother]
    rfl

/-- The headers of a shop: one of its own, and two under names that calls use themselves, in another
spelling and in the same. -/
def shopHeaders : Table String :=
  [("X-Trace", "1"), ("authorization", "evil"), ("Accept", "text/html")]

theorem distinct_shopHeaders : Distinct shopHeaders := by decide +kernel

theorem respells_authorization : Respells shopHeaders "Authorization" "evil" :=
  ⟨"authorization", by decide, by decide +kernel, by decide⟩

/-- The settings of the shop. -/
def shopConfig : Config where
  value
    | .backendUrl => .text "http://h/"
    | .headers => .map (given shopHeaders)
    | _ => .null

theorem namesNobody_shop {base : String} (h : shopConfig.backendUrl = .ok base) :
    Url.NamesNobody base := by
  obtain rfl : "http://h" = base :=
    Except.ok.inj ((eq_ok_of_toOption (by decide +kernel)).symm.trans h)
  decide +kernel

/-- The requests of a call of the shop. -/
def shopRequests : List Request :=
  ((call shopConfig .get "/p" ⟨"t", some "k"⟩ [] none).run []).requests

theorem exists_shop_request : ∃ q, q ∈ shopRequests :=
  List.exists_mem_of_ne_nil _ (List.ne_nil_of_length_pos (by decide +kernel))

/-- The shop's own header is sent, the one in the same spelling is replaced, and the one in another
spelling stands in front of the token. -/
theorem shop_headers_are_sent :
    shopConfig.headers = .map (given shopHeaders) ∧ Distinct shopHeaders ∧ "t" ≠ "" ∧ "k" ≠ "" ∧
    (∀ base, shopConfig.backendUrl = .ok base → Url.NamesNobody base) ∧
    ∃ q ∈ shopRequests, valuesOf q.headers "x-trace" = ["1"] ∧
      valuesOf q.headers "accept" = ["application/json"] ∧
      valuesOf q.headers "authorization" = ["evil, Bearer t"] := by
  have hspelled : ∀ e ∈ shopHeaders, Text.asciiLower e.1 = Text.asciiLower "Accept" →
      e.1 = "Accept" := by decide +kernel
  have hother : ∀ o ∈ ownHeaders "t" "k", Text.asciiLower o.1 ≠ Text.asciiLower "X-Trace" := by
    decide +kernel
  obtain ⟨q, hq⟩ := exists_shop_request
  obtain ⟨hown, hextra⟩ := own_headers_are_sent (c := shopConfig) (k := ⟨"t", some "k"⟩)
    rfl distinct_shopHeaders (by decide) rfl (by decide) (fun _ => namesNobody_shop) [] q hq
  refine ⟨rfl, distinct_shopHeaders, by decide, by decide, fun _ => namesNobody_shop, q, hq,
    ?_, ?_, ?_⟩
  · rw [show "x-trace" = Text.asciiLower "X-Trace" by decide +kernel]
    exact hextra ("X-Trace", "1") (by decide) hother
  · rw [show "accept" = Text.asciiLower "Accept" by decide +kernel]
    exact (hown ("Accept", "application/json") (by decide)).1 fun x ⟨other, hm, hl, hne⟩ =>
      hne (hspelled (other, x) hm hl)
  · rw [← asciiLower_authorization]
    exact (hown ("Authorization", "Bearer t") (by decide)).2 "evil" respells_authorization

/-- **A header in another spelling is not kept out.**  The shop's `authorization` is no other name
than that of the token, and yet the request does not have the token alone. -/
theorem other_spelling_comes_in_front :
    Distinct shopHeaders ∧ (∀ base, shopConfig.backendUrl = .ok base → Url.NamesNobody base) ∧
    ∃ q ∈ shopRequests, valuesOf q.headers "authorization" = ["evil, Bearer t"] := by
  obtain ⟨q, hq⟩ := exists_shop_request
  have hheaders := sends_headers (c := shopConfig) (k := ⟨"t", some "k"⟩)
    rfl distinct_shopHeaders (by decide) rfl (by decide) (fun _ => namesNobody_shop) [] q hq
  refine ⟨distinct_shopHeaders, fun _ => namesNobody_shop, q, hq, ?_⟩
  rw [hheaders, valuesOf_joined, ← asciiLower_authorization,
    valuesOf_union_of_respelled distinct_shopHeaders (distinct_ownHeaders "t" "k")
      (show ("Authorization", "Bearer t") ∈ ownHeaders "t" "k" by decide) respells_authorization]
  rfl

end Dispatch
end ToolGateway
