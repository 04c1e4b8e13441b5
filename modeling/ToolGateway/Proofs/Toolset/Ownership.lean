/-
# A tool uses the credential of its own source

The tools of all sources are merged, filtered and found by name only.  Behind a name stands the
first tool of the first source that has one of the name (`find?_flatten_iff`), and the handler of
this tool was made for the credential of this source.  So a call carries this credential, and no
other credential has any effect on it, also where tools of several sources have one name
(`tools_use_their_own_credential`).
-/

import ToolGateway.Proofs.Server.Registry
import ToolGateway.Proofs.Tool.Delivery
import ToolGateway.Proofs.Toolset.Selection

namespace ToolGateway

open Tool (LooksLike orderDocument orderTool orderArguments shopTarget)

variable {tools tools' : List Tool} {name : String} {t : Tool} {config : Config}

/-! ### Servers of tools that look alike -/

namespace Server

/-- Two registries have the same names with tools that look alike. -/
def RegistryAlike (known known' : Table Tool) : Prop :=
  List.Forall₂ (fun p p' => p.1 = p'.1 ∧ LooksLike p.2 p'.2) known known'

theorem RegistryAlike.has_eq {known known' : Table Tool} (h : RegistryAlike known known')
    (name : String) : known'.has name = known.has name := by
  unfold Table.has
  induction h with
  | nil => rfl
  | @cons p p' _ _ hp _ ih =>
    obtain ⟨k, t⟩ := p
    obtain ⟨k', t'⟩ := p'
    obtain rfl : k = k' := hp.1
    rw [Table.get?_cons, Table.get?_cons]
    split
    · rfl
    · exact ih

theorem RegistryAlike.register {known known' : Table Tool} (h : RegistryAlike known known')
    (ht : List.Forall₂ LooksLike tools tools') :
    RegistryAlike (register known tools) (register known' tools') := by
  induction ht generalizing known known' with
  | nil => exact h
  | cons htu _ ih =>
    rw [Server.register, Server.register, htu.name_eq, h.has_eq]
    refine ih ?_
    split
    · exact h
    · exact List.rel_append h (.cons ⟨rfl, htu⟩ .nil)

/-- Tools that look alike are listed alike. -/
theorem listings_eq (h : List.Forall₂ LooksLike tools tools') :
    (ofTools tools').listings = (ofTools tools).listings := by
  have hr : RegistryAlike (register [] tools) (register [] tools') := RegistryAlike.register .nil h
  unfold listings registered ofTools
  dsimp only
  generalize register [] tools = known, register [] tools' = known' at hr
  induction hr with
  | nil => rfl
  | cons hp _ ih =>
    obtain ⟨_, handler, hu⟩ := hp
    simp only [List.map_cons, hu, ih]
    rfl

end Server

/-! ### Handlers and credentials -/

namespace Tool

/-- A handler sends nothing but calls with the credential that it was made for. -/
theorem sends_handlerOf (target : Target) (plan : Plan) (args : Table Value) :
    (handlerOf target plan args).Sends fun q =>
      q.CarriesCredential target.config.user? target.credential :=
  (Action.Sends.ofOutcome _ _).bind fun _ _ => Dispatch.sends_credential

/-- So does a tool that is made of an operation. -/
theorem sends_invoke {d : Document} {target : Target}
    (hd : (ofDocument d target).result = .ok tools) (ht : t ∈ tools) (arguments : Value) :
    (t.invoke arguments).Sends fun q =>
      q.CarriesCredential target.config.user? target.credential := by
  obtain ⟨path, item, m, o, _, _, ho⟩ := exists_operation hd ht
  obtain ⟨_, body, _, _, _, _, _, _, _, _, _, _, rfl⟩ := ofOperation_eq_ok ho
  exact (Action.Sends.ofOutcome _ _).bind fun args _ => sends_handlerOf _ _ args

end Tool

namespace Toolset

variable {policy : Policy} {allowed : AllowList} {sources sources' : List Source}

/-! ### Sources -/

/-- The sources differ in the credential at most. -/
def SameButCredential (s s' : Source) : Prop := ∃ credential, s' = { s with credential }

theorem compileSource_eq_ok {s : Source} {set : List Tool}
    (h : (compileSource config s).result = .ok set) :
    (Tool.ofDocument s.document ⟨s.surface, s.credential, config⟩).result = .ok set := by
  unfold compileSource at h
  obtain ⟨tools, ht, h⟩ := Outcome.bind_result_eq_ok.1 h
  cases h
  exact ht

theorem alike_compileSource {s s' : Source} (h : SameButCredential s s') :
    Outcome.Alike (List.Forall₂ LooksLike) (compileSource config s) (compileSource config s') := by
  obtain ⟨credential, rfl⟩ := h
  have hcompile := @Tool.alike_ofDocument ⟨s.surface, s.credential, config⟩
    ⟨s.surface, credential, config⟩ s.document rfl
  unfold compileSource
  refine hcompile.bind fun ts us htu => ?_
  rw [htu.length_eq]
  refine Outcome.Alike.bind_congr fun _ => .pure ?_
  exact htu.imp fun _ _ => Tool.Twins.looksLike

/-- The credentials make no difference to what is assembled, handlers apart. -/
theorem alike_assemble (policy : Policy) (allowed : AllowList)
    (h : List.Forall₂ SameButCredential sources sources') :
    Outcome.Alike (List.Forall₂ LooksLike) (assemble config policy sources allowed)
      (assemble config policy sources' allowed) := by
  unfold assemble
  refine Outcome.Alike.bind (Outcome.Alike.lifting.mapM (h.imp fun _ _ => alike_compileSource))
    fun sets sets' hsets => ?_
  refine (policy.alike_resolve (List.rel_flatten hsets)).bind fun ts us htu => ?_
  exact allowed.alike_filter htu

/-- What is assembled is selected from the tools of all sources. -/
theorem assemble_eq_ok (h : (assemble config policy sources allowed).result = .ok tools) :
    ∃ sets, List.Forall₂ (fun s set => (compileSource config s).result = .ok set) sources sets ∧
      tools = (policy.selected sets.flatten).filter allowed.allows := by
  unfold assemble at h
  obtain ⟨sets, hsets, h⟩ := Outcome.bind_result_eq_ok.1 h
  obtain ⟨merged, hm, h⟩ := Outcome.bind_result_eq_ok.1 h
  cases h
  obtain rfl := Policy.resolve_eq_ok hm
  exact ⟨sets, Outcome.mapM_result_eq_ok_iff.1 hsets, rfl⟩

/-! ### The source of a name -/

/-- Behind the sources in front, the source is the first to have a tool of the name, which is this
one. -/
structure Owns (config : Config) (front : List Source) (s : Source) (name : String) (t : Tool) :
    Prop where
  first : ∀ s' ∈ front, ∀ set, (compileSource config s').result = .ok set →
    ∀ u ∈ set, u.name ≠ name
  compiled : ∃ set, (compileSource config s).result = .ok set ∧
    set.find? (fun t => t.name = name) = some t

/-- The first tool of a name among those of all sources is that of the source that owns the name. -/
theorem find?_flatten_iff {sets : List (List Tool)}
    (h : List.Forall₂ (fun s set => (compileSource config s).result = .ok set) sources sets) :
    sets.flatten.find? (fun t => t.name = name) = some t ↔
      ∃ front s rest, sources = front ++ s :: rest ∧ Owns config front s name t := by
  induction h with
  | nil => simp
  | @cons s set sources sets hs _ ih =>
    rw [List.flatten_cons, List.find?_append]
    cases hset : set.find? fun t => t.name = name with
    | some u =>
      rw [Option.some_or]
      constructor
      · rintro ⟨⟩
        exact ⟨[], s, sources, rfl, fun _ h => absurd h List.not_mem_nil, set, hs, hset⟩
      · rintro ⟨front, s', rest, he, ho⟩
        cases front with
        | nil =>
          cases he
          obtain ⟨set', hs', ht⟩ := ho.compiled
          cases hs.symm.trans hs'
          exact hset.symm.trans ht
        | cons s'' front =>
          cases he
          exact absurd (by simpa using List.find?_some hset)
            (ho.first s List.mem_cons_self set hs u (List.mem_of_find?_eq_some hset))
    | none =>
      rw [Option.none_or, ih]
      constructor
      · rintro ⟨front, s', rest, rfl, ho⟩
        refine ⟨s :: front, s', rest, rfl, fun s'' hs'' set' hset' u hu => ?_, ho.compiled⟩
        rcases List.mem_cons.1 hs'' with rfl | hs''
        · cases hs.symm.trans hset'
          simpa using List.find?_eq_none.1 hset u hu
        · exact ho.first s'' hs'' set' hset' u hu
      · rintro ⟨front, s', rest, he, ho⟩
        cases front with
        | nil =>
          cases he
          obtain ⟨set', hs', ht⟩ := ho.compiled
          cases hs.symm.trans hs'
          cases hset.symm.trans ht
        | cons s'' front =>
          cases he
          exact ⟨front, s', rest, rfl,
            fun s'' hs'' => ho.first s'' (List.mem_cons_of_mem _ hs''), ho.compiled⟩

/-- Which source owns a name does not depend on the credentials of those in front. -/
theorem Owns.congr {front front' : List Source} {s : Source}
    (h : List.Forall₂ SameButCredential front front') (ho : Owns config front s name t) :
    Owns config front' s name t := by
  refine ⟨fun s' hs' set' hset' u' hu' => ?_, ho.compiled⟩
  obtain ⟨s'', hs'', hsame⟩ := Schema.exists_mem_of_forall₂ h.flip s' hs'
  have hends := (@alike_compileSource config _ _ hsame).ends
  rw [hset'] at hends
  cases hset : (compileSource config s'').result with
  | error f =>
    rw [hset] at hends
    cases hends
  | ok set =>
    rw [hset] at hends
    obtain ⟨hts⟩ := hends
    obtain ⟨u, hu, huu⟩ := Schema.exists_mem_of_forall₂ hts.flip u' hu'
    rw [LooksLike.name_eq huu]
    exact ho.first s'' hs'' set hset u hu

/-- The tools of a name that are selected and let through. -/
theorem find?_assemble {sets : List (List Tool)}
    (h : tools = (policy.selected sets.flatten).filter allowed.allows) (name : String) :
    tools.find? (fun t => t.name = name) =
      (sets.flatten.find? fun t => t.name = name).filter allowed.allows := by
  rw [h, AllowList.find?_filter, Policy.find?_selected]

/-! ### Orders of several customers -/

/-- The orders of a store, with a credential. -/
def orders (k : Credential) : Source := ⟨orderDocument (.text "note"), .store, k⟩

/-- The tools of such orders: one for each credential, all of one name. -/
def orderTools (config : Config) (ks : List Credential) : List Tool :=
  ks.map fun k => orderTool (.text "note") k config

theorem compileSource_orders (config : Config) (k : Credential) :
    (compileSource config (orders k)).result = .ok [orderTool (.text "note") k config] := by
  unfold compileSource orders
  rw [Tool.ofDocument_order (Or.inl rfl)]
  rfl

theorem assemble_orders (config : Config) (ks : List Credential) :
    (assemble config .keep (ks.map orders) .everything).result = .ok (orderTools config ks) := by
  have hsets : ((ks.map orders).mapM (compileSource config)).result
      = .ok (ks.map fun k => [orderTool (.text "note") k config]) := by
    rw [Outcome.mapM_result_eq_ok_iff, List.forall₂_map_left_iff, List.forall₂_map_right_iff]
    exact List.forall₂_same.2 fun k _ => compileSource_orders config k
  have hflatten : (ks.map fun k => [orderTool (.text "note") k config]).flatten
      = orderTools config ks := by
    clear hsets
    induction ks with
    | nil => rfl
    | cons k rest ih =>
      rw [List.map_cons, List.flatten_cons, ih]
      rfl
  unfold assemble Policy.merge
  refine Outcome.bind_result_eq_ok.2 ⟨_, hsets, Outcome.bind_result_eq_ok.2
    ⟨_, Policy.resolve_keep_result _, ?_⟩⟩
  rw [AllowList.filter_everything_result, hflatten]

/-- The headers of the requests of a call, if no replies are to come. -/
def orderHeaders (config : Config) (ks : List Credential) : List (Table String) :=
  (((Server.ofTools (orderTools config ks)).call "order" (.ofTable orderArguments)).run
    []).requests.map (·.headers)

/-! ### The theorem -/

/-- A call goes by the tool that answers for the name. -/
theorem call_congr {server server' : Server} (h : server'.tool? name = server.tool? name)
    (arguments : Value) : server'.call name arguments = server.call name arguments := by
  unfold Server.call
  rw [h]

/-- With the other sources the same tools are assembled and listed, handlers apart, the same is
logged, and a call of the name does the same. -/
def SameService (config : Config) (policy : Policy) (allowed : AllowList)
    (sources sources' : List Source) (name : String) : Prop :=
  ∃ tools tools' server server',
    (assemble config policy sources allowed).result = .ok tools ∧
    (assemble config policy sources' allowed).result = .ok tools' ∧
    (Server.make tools).result = .ok server ∧ (Server.make tools').result = .ok server' ∧
    (assemble config policy sources' allowed).log = (assemble config policy sources allowed).log ∧
    List.Forall₂ LooksLike tools tools' ∧ server'.listings = server.listings ∧
    ∀ arguments, server'.call name arguments = server.call name arguments

/-- The service is the same if the same tool answers for the name. -/
theorem sameService_of_find?_eq (ha : (assemble config policy sources allowed).result = .ok tools)
    (h : List.Forall₂ SameButCredential sources sources')
    (hf : ∀ tools', (assemble config policy sources' allowed).result = .ok tools' →
      tools'.find? (fun t => t.name = name) = tools.find? fun t => t.name = name) :
    SameService config policy allowed sources sources' name := by
  have halike := @alike_assemble config _ _ policy allowed h
  have hends := halike.ends
  rw [ha] at hends
  cases ha' : (assemble config policy sources' allowed).result with
  | error f =>
    rw [ha'] at hends
    cases hends
  | ok tools' =>
    rw [ha'] at hends
    obtain ⟨hlook⟩ := hends
    refine ⟨tools, tools', _, _, ha, ha', Server.make_result tools, Server.make_result tools',
      halike.log.symm, hlook, Server.listings_eq hlook, call_congr ?_⟩
    rw [Server.tool?_ofTools, Server.tool?_ofTools, hf tools' ha']

/-- **Each tool uses only the credential of its own source.**  Let a server be made of what is
assembled from sources, with any policy and any allow-list.  Every request of a call carries the
credential of the source whose compilation gave the tool of the name, which is the first source that
has a tool of the name, or in the place of its token the authorization of the user whom the address of
the backend names; and other credentials for the other sources change neither the tools nor the call.
A call of a name without a tool does not depend on any credential. -/
theorem tools_use_their_own_credential {server : Server}
    (ha : (assemble config policy sources allowed).result = .ok tools)
    (hs : (Server.make tools).result = .ok server) (name : String) :
    (∀ t, server.tool? name = some t →
      ∃ front s rest, sources = front ++ s :: rest ∧ Owns config front s name t ∧
        (∀ arguments, (server.call name arguments).Sends fun q =>
          q.CarriesCredential config.user? s.credential) ∧
        ∀ front' rest', List.Forall₂ SameButCredential front front' →
          List.Forall₂ SameButCredential rest rest' →
          SameService config policy allowed sources (front' ++ s :: rest') name) ∧
    (server.tool? name = none → ∀ sources', List.Forall₂ SameButCredential sources sources' →
      SameService config policy allowed sources sources' name) := by
  obtain ⟨sets, hsets, htools⟩ := assemble_eq_ok ha
  obtain rfl : Server.ofTools tools = server := Except.ok.inj hs
  rw [Server.tool?_ofTools]
  refine ⟨fun t ht => ?_, fun hnone sources' hsame => ?_⟩
  · have hsets' := ht
    rw [find?_assemble htools, Option.filter_eq_some_iff] at hsets'
    obtain ⟨hfound, hallowed⟩ := hsets'
    obtain ⟨front, s, rest, rfl, ho⟩ := (find?_flatten_iff hsets).1 hfound
    refine ⟨front, s, rest, rfl, ho, fun arguments => ?_, fun front' rest' hfront hrest => ?_⟩
    · obtain ⟨set, hset, hmem⟩ := ho.compiled
      unfold Server.call
      rw [Server.tool?_ofTools, ht]
      exact (Tool.sends_invoke (compileSource_eq_ok hset) (List.mem_of_find?_eq_some hmem)
        arguments).bind fun _ _ => .ofOutcome _ _
    · refine sameService_of_find?_eq ha (List.rel_append hfront (.cons ⟨s.credential, rfl⟩ hrest))
        fun tools' ha' => ?_
      obtain ⟨sets', hsets', htools'⟩ := assemble_eq_ok ha'
      rw [find?_assemble htools', ht, Option.filter_eq_some_iff]
      exact ⟨(find?_flatten_iff hsets').2 ⟨front', s, rest', rfl, ho.congr hfront⟩, hallowed⟩
  · refine sameService_of_find?_eq ha hsame fun tools' ha' => ?_
    have hlook := (@alike_assemble config _ _ policy allowed hsame).ends
    rw [ha, ha'] at hlook
    obtain ⟨hlook⟩ := hlook
    rw [hnone, List.find?_eq_none]
    intro u hu
    obtain ⟨t, ht, htu⟩ := Schema.exists_mem_of_forall₂ hlook.flip u hu
    rw [LooksLike.name_eq htu]
    exact List.find?_eq_none.1 hnone t ht

/-- The first customer's orders come first, so they are made with the first customer's credential:
nobody is named in the address of the shop. -/
theorem orders_use_their_own_credential :
    let own : Credential := ⟨"own", some "key"⟩
    let config := shopTarget.config
    config.user? = none ∧ ∃ tools server,
      (assemble config .keep ([own, ⟨"other", none⟩].map orders) .everything).result = .ok tools ∧
      (Server.make tools).result = .ok server ∧
      (∀ arguments, (server.call "order" arguments).Sends fun q =>
        q.CarriesCredential config.user? own) ∧
      (∀ k, SameService config .keep .everything ([own, ⟨"other", none⟩].map orders)
        ([own, k].map orders) "order") ∧
      orderHeaders config [own, ⟨"other", none⟩] =
        [[("content-type", "application/json"), ("accept", "application/json"),
          ("authorization", "Bearer own"), (Dispatch.keyHeader, "key")]] := by
  intro own config
  have ha := assemble_orders config [own, ⟨"other", none⟩]
  have hs := Server.make_result (orderTools config [own, ⟨"other", none⟩])
  obtain ⟨front, s, rest, he, ho, hcalls, hsame⟩ :=
    (tools_use_their_own_credential ha hs "order").1 _ rfl
  -- The first source has a tool of the name, so no other one owns it.
  obtain ⟨rfl, rfl, rfl⟩ : front = [] ∧ s = orders own ∧ rest = [orders ⟨"other", none⟩] := by
    cases front with
    | nil =>
      cases he
      exact ⟨rfl, rfl, rfl⟩
    | cons s' front =>
      obtain rfl : s' = orders own := (List.cons.inj he).1.symm
      exact absurd rfl
        (ho.first _ List.mem_cons_self _ (compileSource_orders _ _) _ List.mem_cons_self)
  have hnobody : config.user? = none := by decide +kernel
  refine ⟨hnobody, _, _, ha, hs, hcalls,
    fun k => hsame [] [orders k] .nil (.cons ⟨k, rfl⟩ .nil), ?_⟩
  decide +kernel

/-- A backend whose address names a user. -/
def userConfig : Config :=
  ⟨fun s => if s = .backendUrl then .text "http://user:pass@h" else shopTarget.config.value s⟩

/-- **The token is not always carried.**  A credential without one sends no authorization at all,
and if the address of the backend names a user, the request is authorized by this user and not by
the token. -/
theorem token_is_not_always_carried :
    (∃ tools server,
      (assemble shopTarget.config .keep ([⟨"", none⟩].map orders) .everything).result = .ok tools ∧
      (Server.make tools).result = .ok server ∧
      ¬ (server.call "order" (.ofTable orderArguments)).Sends fun q =>
        Http.Headers.Carries q.headers "authorization" ("Bearer " ++ "")) ∧
    userConfig.user? = some ("user", "pass") ∧ ∃ tools server,
      (assemble userConfig .keep ([⟨"own", some "key"⟩].map orders) .everything).result
        = .ok tools ∧
      (Server.make tools).result = .ok server ∧
      ∃ q ∈ ((server.call "order" (.ofTable orderArguments)).run []).requests,
        Table.get? q.headers "authorization" = some (Http.Headers.basic "user" "pass") ∧
        ¬ Http.Headers.Carries q.headers "authorization" ("Bearer " ++ "own") := by
  constructor
  · refine ⟨_, _, assemble_orders _ _, Server.make_result _, fun hsends => ?_⟩
    have hheaders : orderHeaders shopTarget.config [⟨"", none⟩] =
        [[("content-type", "application/json"), ("accept", "application/json")]] := by
      decide +kernel
    obtain ⟨q, hq, hqh⟩ := List.mem_map.1 (hheaders ▸ List.mem_cons_self)
    obtain ⟨before, after, hcarried⟩ := hsends [] q hq
    rw [hqh] at hcarried
    cases hcarried
  · refine ⟨by decide +kernel, _, _, assemble_orders _ _, Server.make_result _, ?_⟩
    have hheaders : orderHeaders userConfig [⟨"own", some "key"⟩] =
        [[("content-type", "application/json"), ("accept", "application/json"),
          ("authorization", "Basic dXNlcjpwYXNz"), (Dispatch.keyHeader, "key")]] := by
      decide +kernel
    obtain ⟨q, hq, hqh⟩ := List.mem_map.1 (hheaders ▸ List.mem_cons_self)
    have hbasic : Table.get? q.headers "authorization" = some "Basic dXNlcjpwYXNz" := by
      rw [hqh]
      rfl
    have hspelled : Http.Headers.basic "user" "pass" = "Basic dXNlcjpwYXNz" := by decide +kernel
    refine ⟨q, hq, hspelled ▸ hbasic, fun hcarried => ?_⟩
    exact absurd (hcarried.subset hbasic) (by decide +kernel)

end Toolset
end ToolGateway
