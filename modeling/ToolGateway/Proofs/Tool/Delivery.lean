/-
# Every argument is delivered

The arguments that a tool accepts are shared out to the path, the query and the body of one call of
the backend.  What goes nowhere is named by octets in the body of the document
(`eq_octets_of_mem_nowhere`); if all fields of the body are named by texts, nothing does, and the
call is made with all arguments and no other (`arguments_are_delivered`).  A field that is named by
octets is published and accepted under the text of the octets, and then lost (`octets_are_lost`).
-/

import ToolGateway.Proofs.Dispatch.Call
import ToolGateway.Proofs.Tool.Origin
import Mathlib.Data.List.Perm.Basic

namespace ToolGateway

/-! ### Shares of arguments -/

/-- Where the argument of a parameter of path or query is put. -/
def Parameter.place (p : Parameter) : Destination :=
  if p.location = Parameter.inPath then .path else .query

namespace Router

variable {r : Router} {d d' : Destination} {arguments : Table Value} {name : String}

theorem share_cons (r : Router) (d : Destination) (a : String × Value) (rest : Table Value) :
    r.share d (a :: rest) =
      if r.destination a.1 = d then a :: r.share d rest else r.share d rest := by
  unfold share
  rw [List.filter_cons]
  simp

theorem destination_of_mem_share (h : name ∈ (r.share d arguments).names) :
    r.destination name = d := by
  obtain ⟨a, ha, rfl⟩ := List.mem_map.1 h
  simpa using (List.mem_filter.1 ha).2

theorem mem_names_of_mem_share (h : name ∈ (r.share d arguments).names) :
    name ∈ arguments.names := by
  obtain ⟨a, ha, rfl⟩ := List.mem_map.1 h
  exact List.mem_map.2 ⟨a, (List.mem_filter.1 ha).1, rfl⟩

/-- What goes to a destination is found in its share. -/
theorem get?_share (h : r.destination name = d) (arguments : Table Value) :
    (r.share d arguments).get? name = arguments.get? name := by
  induction arguments with
  | nil => rfl
  | cons a rest ih =>
    obtain ⟨k, v⟩ := a
    rw [share_cons, Table.get?_cons]
    by_cases hk : k = name
    · subst hk
      rw [if_pos h, Table.get?_cons, if_pos rfl, if_pos rfl]
    · rw [if_neg hk]
      split
      · rw [Table.get?_cons, if_neg hk]
        exact ih
      · exact ih

theorem nodup_names_share (hn : arguments.names.Nodup) (d : Destination) :
    (r.share d arguments).names.Nodup :=
  (List.filter_sublist.map Prod.fst).nodup hn

/-- No name goes to two destinations. -/
theorem disjoint_shares (h : d ≠ d') :
    List.Disjoint (r.share d arguments).names (r.share d' arguments).names :=
  fun _ hd hd' => h ((destination_of_mem_share hd).symm.trans (destination_of_mem_share hd'))

/-- Every argument goes to one of four destinations, as it is. -/
theorem perm_shares (r : Router) (arguments : Table Value) :
    arguments.Perm (r.share .path arguments ++ r.share .query arguments ++ r.share .body arguments
      ++ r.share .nowhere arguments) := by
  induction arguments with
  | nil => exact .nil
  | cons a rest ih =>
    simp only [share_cons]
    refine (ih.cons a).trans ?_
    cases r.destination a.1 with
    | path => exact .refl _
    | query => simpa [List.append_assoc] using List.perm_middle.symm
    | body =>
      have := @List.perm_middle _ a (r.share .path rest ++ r.share .query rest)
        (r.share .body rest ++ r.share .nowhere rest)
      simpa [List.append_assoc] using this.symm
    | nowhere =>
      have := @List.perm_middle _ a
        (r.share .path rest ++ r.share .query rest ++ r.share .body rest) (r.share .nowhere rest)
      simpa [List.append_assoc] using this.symm

/-- What parameters take goes to the place of the first one of its name. -/
theorem destination_of_find? {p : Parameter} {ps : List Parameter}
    (hr : r.parameters = Parameter.inputs ps)
    (hp : Parameter.find? (Parameter.inputs ps) name = some p) : r.destination name = p.place := by
  have hi : p.isInput = true := (List.mem_filter.1 (List.mem_of_find?_eq_some hp)).2
  unfold destination Parameter.place
  rw [hr, hp]
  unfold Parameter.isInput at hi
  by_cases hpath : p.location = Parameter.inPath
  · simp [hpath]
  · have hquery : p.location = Parameter.inQuery := by simpa [hpath] using hi
    simp [hquery, Parameter.inPath, Parameter.inQuery]

/-- The first parameter of a name is an argument of path or query, so what is named like one goes
there. -/
theorem destination_of_parameter {p : Parameter} {ps : List Parameter}
    (hr : r.parameters = Parameter.inputs ps) (hp : p ∈ Parameter.inputs ps) :
    r.destination p.name = .path ∨ r.destination p.name = .query := by
  obtain ⟨q, hq⟩ : ∃ q, Parameter.find? (Parameter.inputs ps) p.name = some q :=
    Option.isSome_iff_exists.1 (List.find?_isSome.2 ⟨p, hp, decide_eq_true rfl⟩)
  rw [destination_of_find? hr hq]
  unfold Parameter.place
  split
  · exact Or.inl rfl
  · exact Or.inr rfl

/-- What is named like a field of the body goes somewhere. -/
theorem destination_ne_nowhere_of_bodyField (h : name ∈ r.bodyFields) :
    r.destination name ≠ .nowhere := by
  unfold destination
  dsimp only
  split
  · exact fun h => (nomatch h)
  · split
    · exact fun h => (nomatch h)
    · rw [if_pos (List.contains_iff_mem.2 h)]
      exact fun h => (nomatch h)

/-- Routing succeeds, whatever goes nowhere. -/
theorem route_result (r : Router) (arguments : Table Value) :
    (r.route arguments).result = .ok (r.parts arguments) := by
  unfold route
  dsimp only
  split
  · rfl
  · rfl

/-- If nothing goes nowhere, routing logs nothing. -/
theorem route_eq_pure (h : r.share .nowhere arguments = []) :
    r.route arguments = pure (r.parts arguments) := by
  unfold route
  rw [h]
  rfl

end Router

namespace Validator

/-- Checked fields are declared fields, in the order of their declaration. -/
theorem sublist_of_checkFields {ps : List (String × Validator)} {name : String} {es : Entries}
    {args : Table Value} (h : checkFields ps name es = .fine args) :
    args.names.Sublist (Table.names ps) := by
  induction ps generalizing args with
  | nil =>
    cases h
    exact .slnil
  | cons p rest ih =>
    obtain ⟨key, v⟩ := p
    rw [checkFields] at h
    split at h
    · obtain ⟨a, args', ha, hrest, rfl⟩ := Checked.cons_eq_fine h
      obtain ⟨y, _, rfl⟩ := Checked.exists_of_map_eq_fine ha
      exact (ih hrest).cons_cons key
    · split at h
      · exact (ih h).cons key
      · obtain ⟨a, args', ha, hrest, rfl⟩ := Checked.cons_eq_fine h
        cases ha

end Validator

namespace Tool

variable {t : Tool} {arguments : Value} {args : Table Value}

/-- The arguments that are accepted are declared fields, in the order of their declaration. -/
theorem sublist_of_validate (h : t.validate arguments = .ok args) :
    args.names.Sublist t.fields.names := by
  unfold validate at h
  split at h
  · rename_i args' hc
    cases h
    unfold checkArguments at hc
    split at hc
    · split at hc
      · exact Validator.sublist_of_checkFields hc
      · cases hc
    · exact Validator.sublist_of_checkFields hc
  · cases h

/-- Arguments that are accepted are handed to the handler. -/
theorem invoke_of_ok (h : t.validate arguments = .ok args) :
    t.invoke arguments = t.handler args := by
  unfold invoke
  rw [h, Action.ofExcept_ok_bind]

/-- If nothing goes nowhere, a handler is a single call of the backend. -/
theorem handlerOf_eq_call {target : Target} {plan : Plan}
    (h : plan.router.share .nowhere args = []) :
    handlerOf target plan args =
      Dispatch.call target.config plan.method
        (Router.renderPath plan.router.path (plan.router.share .path args)) target.credential
        (plan.router.share .query args)
        (if plan.method = .get then none else some (.ofTable (plan.router.share .body args))) := by
  unfold handlerOf
  rw [Router.route_eq_pure h]
  rfl

/-! ### Delivery -/

/-- All fields of a body are named by texts. -/
def NamedByTexts (body : Value) : Prop := ∀ es e, body = .map es → e ∈ es → ∃ s, e.1 = .text s

/-- The action delivers the arguments as the plan says. -/
structure Delivers (target : Target) (plan : Plan) (args : Table Value) (x : Action Value) :
    Prop where
  distinct : args.names.Nodup
  /-- Path, query and body together get every argument, as it is. -/
  complete : args.Perm (plan.router.share .path args ++ plan.router.share .query args
    ++ plan.router.share .body args)
  path_query : List.Disjoint (plan.router.share .path args).names
    (plan.router.share .query args).names
  path_body : List.Disjoint (plan.router.share .path args).names
    (plan.router.share .body args).names
  query_body : List.Disjoint (plan.router.share .query args).names
    (plan.router.share .body args).names
  nothing_lost : plan.router.share .nowhere args = []
  /-- There is one call of the backend, with no body if the method only reads and else with an
  object. -/
  call : x = Dispatch.call target.config plan.method
    (Router.renderPath plan.router.path (plan.router.share .path args)) target.credential
    (plan.router.share .query args)
    (if plan.method = .get then none else some (.ofTable (plan.router.share .body args)))
  /-- Nothing is logged but this call. -/
  log : ∀ replies, ∀ e ∈ (x.run replies).log, e = Dispatch.fetchingEntry plan.method
    (Router.renderPath plan.router.path (plan.router.share .path args))
    (plan.router.share .query args)
  once : ∀ replies, (x.run replies).requests.length ≤ 1
  sent : x.Sends fun q => q.verb = plan.method.verb ∧
    if plan.method = .get then q.body = ""
    else Json.write Json.compact (.ofTable (plan.router.share .body args)) = .ok q.body

/-- A handler that drops nothing delivers the arguments. -/
theorem delivers_handlerOf {target : Target} {plan : Plan} (hn : args.names.Nodup)
    (h : plan.router.share .nowhere args = []) :
    Delivers target plan args (handlerOf target plan args) := by
  have hcall := @handlerOf_eq_call args target plan h
  refine ⟨hn, ?_, Router.disjoint_shares (by decide), Router.disjoint_shares (by decide),
    Router.disjoint_shares (by decide), h, hcall, fun replies e he => ?_, fun replies => ?_,
    fun replies q hq => ?_⟩
  · have hp := plan.router.perm_shares args
    rwa [h, List.append_nil] at hp
  · rw [hcall] at he
    exact Dispatch.eq_fetchingEntry_of_mem_log he
  · rw [hcall]
    exact Dispatch.length_requests_le_one replies
  · rw [hcall] at hq
    obtain ⟨hverb, hbody⟩ := Dispatch.sends_verb_and_body replies q hq
    refine ⟨hverb, ?_⟩
    by_cases hm : plan.method = .get
    · rw [if_pos hm] at hbody ⊢
      exact (Except.ok.inj hbody).symm
    · rw [if_neg hm] at hbody ⊢
      rw [if_neg hm] at hbody
      exact hbody

variable {schemas : Schema.Schemas} {target : Target} {path : String} {m : Http.Method}
  {o : Operation}

/-- What goes nowhere is a field of the body that is named by octets. -/
theorem eq_octets_of_mem_nowhere (h : (ofOperation schemas target path m o).result = .ok t)
    {body : Value} (hbody : (bodyProperties schemas m o).result = .ok body)
    (hv : t.validate arguments = .ok args) {name : String}
    (hn : name ∈ ((routerOf path o body).share .nowhere args).names) :
    ∃ es e octets, body = .map es ∧ e ∈ es ∧ e.1 = .bytes octets ∧
      Text.decodeUtf8 octets = .ok name := by
  have hnowhere := Router.destination_of_mem_share hn
  have hfield : name ∈ t.fields.names :=
    (sublist_of_validate hv).subset (Router.mem_names_of_mem_share hn)
  rcases name_cases h hbody hfield with ⟨p, hp, rfl⟩ | hkey | hoctets
  · rcases Router.destination_of_parameter (r := routerOf path o body) rfl hp with hd | hd
    · cases hnowhere.symm.trans hd
    · cases hnowhere.symm.trans hd
  · exact absurd hnowhere (Router.destination_ne_nowhere_of_bodyField hkey)
  · exact hoctets

/-! ### Orders -/

/-- The schema of a text. -/
def textSchema : Value := .map [(.text "type", .text "string")]

/-- An operation with an argument in the path, one in the query and one in the body.  A header has
the name of the field of the body. -/
def orderOperation (key : Value) : Operation :=
  ⟨some "order", none, none,
    [⟨"id", "path", none, none, true⟩, ⟨"limit", "query", none, none, false⟩,
      ⟨"note", "header", none, none, false⟩],
    some (.ofTable [("content", .ofTable [("application/json", .ofTable [("schema", .ofTable
      [("type", .text "object"), ("properties", .map [(key, textSchema)])])])])])⟩

/-- The path of orders. -/
def orderPath : String := "/orders/\x7bid\x7d"

/-- A document with the path of orders alone; the field of the body stands under the key. -/
def orderDocument (key : Value) : Document :=
  ⟨[(orderPath, ⟨none, some (orderOperation key), none⟩)], []⟩

/-- The fields of the tool, whatever the key of the last one. -/
def orderFields : Table Validator :=
  [("id", .any true), ("limit", .any true), ("note", ⟨.string, true, none, none, none⟩)]

/-- Where the arguments of an order go. -/
def orderPlan (key : Value) : Plan :=
  ⟨.post, routerOf orderPath (orderOperation key) (.map [(key, textSchema)])⟩

/-- The tool of the document, as it is for a store. -/
def orderTool (key : Value) (k : Credential) (c : Config) : Tool :=
  ⟨"order", "", orderFields, handlerOf ⟨.store, k, c⟩ (orderPlan key), some .post, some orderPath,
    some "store"⟩

/-- Under a text and under its octets the field has the same name. -/
theorem ofDocument_order {key : Value}
    (hk : key = .text "note" ∨ key = .bytes [0x6e, 0x6f, 0x74, 0x65]) (k : Credential)
    (c : Config) :
    ofDocument (orderDocument key) ⟨.store, k, c⟩ = pure [orderTool key k c] := by
  have htext : Schema.compile [] textSchema true = pure ⟨.string, true, none, none, none⟩ :=
    Schema.compileOn_of_plain rfl
  have hnull : Schema.compile [] .null true = pure (Validator.any true) :=
    Schema.compileOn_of_notSchema rfl
  have hparams : compileParameters [] (Parameter.inputs (orderOperation key).parameters)
      = pure [("id", .any true), ("limit", .any true)] := by
    unfold compileParameters
    show (do return Table.ofList (← [_, _].mapM (compileParameter []))) = _
    simp only [List.mapM_cons, List.mapM_nil, compileParameter, Option.getD_none, hnull]
    rfl
  have hbody : Schema.compileFields [] (.map [(key, textSchema)])
      = pure [(key, ⟨.string, true, none, none, none⟩)] := by
    unfold Schema.compileFields Schema.stepFields
    simp only [List.mapM_cons, List.mapM_nil, htext]
    rfl
  have hfields : Schema.properties "Tool" "input_schema"
      (addRaw [("id", .any true), ("limit", .any true)]
        [(key, ⟨.string, true, none, none, none⟩)]) = pure orderFields := by
    rcases hk with rfl | rfl <;> rfl
  have hproperties : bodyProperties [] .post (orderOperation key)
      = pure (.map [(key, textSchema)]) := rfl
  have htool : ofOperation [] ⟨.store, k, c⟩ orderPath .post (orderOperation key)
      = pure (orderTool key k c) :=
    ofOperation_of_parts rfl hproperties hparams hbody describe_store_none hfields
  exact ofDocument_of_operation rfl rfl htool

/-- An order. -/
def orderArguments : Table Value :=
  [("id", .int 7), ("limit", .bool false), ("note", .text "soon")]

theorem validate_order (key : Value) (k : Credential) (c : Config) :
    (orderTool key k c).validate (.ofTable orderArguments) = .ok orderArguments := by
  rfl

/-! ### The theorem -/

/-- **No argument is lost, duplicated or altered.**  Every tool of a document is made of the
preferred operation of one of its paths, and has its method and its path.  Arguments that are
refused send nothing.  If the fields of the body are named by texts, arguments that are accepted are
delivered. -/
theorem arguments_are_delivered {d : Document} {tools : List Tool}
    (hd : (ofDocument d target).result = .ok tools) (ht : t ∈ tools) :
    ∃ path item m o body, (path, item) ∈ d.paths ∧ item.selected? = some (m, o) ∧
      (bodyProperties d.schemas m o).result = .ok body ∧
      t.method = some m ∧ t.path = some path ∧ ∀ arguments,
        (∀ f, t.validate arguments = .error f → ∀ replies,
          (t.invoke arguments).run replies = ⟨[], [], replies, .error f⟩) ∧
        (NamedByTexts body → ∀ args, t.validate arguments = .ok args →
          Delivers target ⟨m, routerOf path o body⟩ args (t.invoke arguments)) := by
  obtain ⟨path, item, m, o, hp, hs, ho⟩ := exists_operation hd ht
  obtain ⟨_, body, _, _, _, _, _, hbody, _, _, _, _, rfl⟩ := ofOperation_eq_ok ho
  refine ⟨path, item, m, o, body, hp, hs, hbody, rfl, rfl, fun arguments =>
    ⟨fun f hf => invoke_of_error hf, fun hnamed args hv => ?_⟩⟩
  rw [invoke_of_ok hv]
  refine delivers_handlerOf ((sublist_of_validate hv).nodup (nodup_names_fields ho)) ?_
  refine List.eq_nil_iff_forall_not_mem.2 fun a ha => ?_
  obtain ⟨es, e, octets, hes, he, hoctets, _⟩ :=
    eq_octets_of_mem_nowhere ho hbody hv (List.mem_map.2 ⟨a, ha, rfl⟩)
  obtain ⟨s, htext⟩ := hnamed es e hes he
  cases hoctets.symm.trans htext

/-- A store with a token and the default settings. -/
def shopTarget : Target :=
  ⟨.store, ⟨"token", none⟩, ⟨fun s => if s = .headers then .map [] else .text s.default⟩⟩

/-- An order has one argument for each destination, although a header has the name of one. -/
theorem orderDocument_delivered :
    ∃ t, (ofDocument (orderDocument (.text "note")) shopTarget).result = .ok [t] ∧
      t.validate (.ofTable orderArguments) = .ok orderArguments ∧
      Delivers shopTarget (orderPlan (.text "note")) orderArguments
        (t.invoke (.ofTable orderArguments)) := by
  have hd : (ofDocument (orderDocument (.text "note")) shopTarget).result = .ok [_] :=
    congrArg Outcome.result (ofDocument_order (Or.inl rfl) _ _)
  obtain ⟨path, item, m, o, body, hp, hs, hbody, _, _, h⟩ :=
    arguments_are_delivered hd List.mem_cons_self
  cases List.mem_singleton.1 hp
  cases hs
  cases hbody
  refine ⟨_, hd, validate_order _ _ _, (h _).2 ?_ _ (validate_order _ _ _)⟩
  rintro es e ⟨⟩ he
  exact ⟨"note", congrArg Prod.fst (List.mem_singleton.1 he)⟩

/-- **A field that is named by octets is lost.**  It is accepted like the others, and then neither
sent nor passed over in silence. -/
theorem octets_are_lost :
    ∃ t, (ofDocument (orderDocument (.bytes [0x6e, 0x6f, 0x74, 0x65])) shopTarget).result
        = .ok [t] ∧
      t.validate (.ofTable orderArguments) = .ok orderArguments ∧
      t.invoke (.ofTable orderArguments) = (do
        Action.note .debug "Unused arguments for /orders/\x7bid\x7d: note"
        Dispatch.call shopTarget.config .post "/orders/7" shopTarget.credential
          [("limit", .bool false)] (some (.map []))) := by
  refine ⟨_, congrArg Outcome.result (ofDocument_order (Or.inr rfl) _ _), validate_order _ _ _, ?_⟩
  rw [invoke_of_ok (validate_order _ _ _)]
  rfl

end Tool
end ToolGateway
