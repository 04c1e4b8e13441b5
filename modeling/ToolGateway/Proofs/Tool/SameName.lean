/-
# Parameters of one name

An operation may declare a name twice, once for the path and once for the query.  The tool has one
field of the name, and its argument goes to one place.  The place is that of the first parameter of
the name, and the field that of the last one (`get?_fields_of_parameter`), since it is put over
those before.  So the argument is checked as it is sent if both say the same of its values
(`arguments_are_checked_as_sent`), and else need not be.
-/

import ToolGateway.Proofs.Schema.WellShaped
import ToolGateway.Proofs.Schema.Regular
import ToolGateway.Proofs.Tool.Delivery
import ToolGateway.Proofs.Validator.Projection

namespace ToolGateway

namespace Table

variable {α : Type}

/-- An entry is found if it stands in the table and no other stands under its name. -/
theorem get?_of_unique {t : Table α} {name : String} {v : α} (hm : (name, v) ∈ t)
    (hu : ∀ w, (name, w) ∈ t → w = v) : t.get? name = some v := by
  cases h : t.get? name with
  | none => exact absurd (List.mem_map.2 ⟨_, hm, rfl⟩) ((get?_eq_none_iff t name).1 h)
  | some w => rw [hu w (mem_of_get? h)]

end Table

namespace Tool

variable {schemas : Schema.Schemas} {target : Target} {path : String} {m : Http.Method}
  {o : Operation} {t : Tool} {name : String}

/-! ### Fields that the body leaves alone -/

/-- No other key is the same as one that counts as a text. -/
theorem eq_of_sameKey {k k' : Value} (hk : Shape.text k = .fine name)
    (h : k.sameKey k' = true) : k' = k := by
  rcases key_cases hk with rfl | ⟨octets, rfl, _⟩ <;>
    cases k' <;> simp_all [Value.sameKey, Value.integer?]

/-- A field whose key is not among the raw ones is there if it was there before. -/
theorem mem_addRaw_iff {fields : Table Validator} {raw : List (Value × Validator)}
    {f : Value × Validator} (h : ∀ e ∈ raw, f.1 ≠ e.1 ∧ f.1.sameKey e.1 = false) :
    f ∈ addRaw fields raw ↔ f ∈ fields.keyed := by
  unfold addRaw
  show f ∈ List.foldl _ fields.keyed raw ↔ _
  generalize fields.keyed = acc
  induction raw generalizing acc with
  | nil => rfl
  | cons e rest ih =>
    obtain ⟨⟨hne, hsame⟩, hrest⟩ := List.forall_mem_cons.1 h
    rw [List.foldl_cons, ih hrest]
    split
    · rw [List.mem_map]
      constructor
      · rintro ⟨g, hg, hgf⟩
        split at hgf
        · rename_i hs
          rw [← hgf, hs] at hsame
          cases hsame
        · exact hgf ▸ hg
      · exact fun hf => ⟨f, hf, by rw [hsame]; rfl⟩
    · rw [List.mem_append, List.mem_singleton, or_iff_left]
      rintro rfl
      exact hne rfl

/-- If no key of the body counts as a name, the fields under such keys are those of parameters. -/
theorem mem_addRaw_iff_of_not_mem_body {body : Value} {fields : Table Validator}
    {bodyFields : List (Value × Validator)}
    (hcompiled : (Schema.compileFields schemas body).result = .ok bodyFields)
    (hb : ∀ es, body = .map es → ∀ e ∈ es, Shape.text e.1 ≠ .fine name)
    {f : Value × Validator} (hf : Shape.text f.1 = .fine name) :
    f ∈ addRaw fields bodyFields ↔ f ∈ fields.keyed := by
  refine mem_addRaw_iff fun e he => ?_
  obtain ⟨es, e', rfl, he', hee⟩ := exists_bodyField hcompiled he
  have hne : Shape.text e.1 ≠ .fine name := hee ▸ hb es rfl e' he'
  refine ⟨fun hfe => hne (hfe ▸ hf), Bool.eq_false_iff.2 fun hs => hne ?_⟩
  rw [eq_of_sameKey hf hs]
  exact hf

/-- A name that no key of the body counts as is a field only by the parameters. -/
theorem get?_fields_of_not_mem_body
    (h : (ofOperation schemas target path m o).result = .ok t) {body : Value}
    (hbody : (bodyProperties schemas m o).result = .ok body)
    (hb : ∀ es, body = .map es → ∀ e ∈ es, Shape.text e.1 ≠ .fine name)
    {parameterFields : Table Validator}
    (hpf : (compileParameters schemas (Parameter.inputs o.parameters)).result
      = .ok parameterFields) {v : Validator} (hv : parameterFields.get? name = some v) :
    t.fields.get? name = some v := by
  obtain ⟨_, body', pf, bf, _, fields, _, hbody', hpf', hbf, _, hf, rfl⟩ := ofOperation_eq_ok h
  cases hbody.symm.trans hbody'
  cases hpf.symm.trans hpf'
  obtain ⟨named, hnamed, rfl⟩ := Schema.properties_eq_ok_iff.1 hf
  have hfields := Schema.forall₂_nameFields hnamed
  show (Table.ofList named).get? name = some v
  rw [Table.get?_ofList]
  refine Table.get?_of_unique (List.mem_reverse.2 ?_) fun w hw => ?_
  · have hm : (Value.text name, v) ∈ parameterFields.keyed :=
      List.mem_map.2 ⟨(name, v), Table.mem_of_get? hv, rfl⟩
    obtain ⟨⟨n, w⟩, hw, hn, hwv⟩ :=
      Schema.exists_mem_of_forall₂ hfields _ ((mem_addRaw_iff_of_not_mem_body hbf hb rfl).2 hm)
    cases hn
    obtain rfl : w = v := hwv
    exact hw
  · obtain ⟨f, hfm, hfn, hwf⟩ :=
      Schema.exists_mem_of_forall₂ hfields.flip _ (List.mem_reverse.1 hw)
    obtain ⟨⟨n, u⟩, hu, rfl⟩ :=
      List.mem_map.1 ((mem_addRaw_iff_of_not_mem_body hbf hb hfn).1 hfm)
    cases hfn
    obtain rfl : w = u := hwf
    have hw : parameterFields.get? name = some w :=
      Table.get?_of_mem (nodup_names_of_compileParameters hpf) hu
    exact Option.some.inj (hw.symm.trans hv)

/-! ### The first and the last parameter of a name -/

/-- A validator is compiled from each parameter, under its name. -/
theorem name_eq_of_compileParameter {p : Parameter} {f : String × Validator}
    (h : (compileParameter schemas p).result = .ok f) : f.1 = p.name := by
  obtain ⟨_, _, h⟩ := Outcome.bind_result_eq_ok.1 h
  cases h
  rfl

/-- The first parameter of a name and the first validator under it belong together. -/
theorem exists_get?_of_find? {ps : List Parameter} {found : List (String × Validator)}
    (h : List.Forall₂ (fun p f => (compileParameter schemas p).result = .ok f) ps found)
    {p : Parameter} (hp : Parameter.find? ps name = some p) :
    ∃ v, (compileParameter schemas p).result = .ok (name, v) ∧ Table.get? found name = some v := by
  unfold Parameter.find? at hp
  induction h with
  | nil => cases hp
  | @cons q f ps found hf _ ih =>
    obtain ⟨n, v⟩ := f
    obtain rfl : n = q.name := name_eq_of_compileParameter hf
    rw [Table.get?_cons]
    rw [List.find?_cons] at hp
    by_cases hq : q.name = name
    · rw [decide_eq_true hq] at hp
      cases hp
      subst hq
      exact ⟨v, hf, if_pos rfl⟩
    · rw [decide_eq_false hq] at hp
      rw [if_neg hq]
      exact ih hp

/-- **The field of a name is that of its last parameter**, if the body has none of the name. -/
theorem get?_fields_of_parameter (h : (ofOperation schemas target path m o).result = .ok t)
    {body : Value} (hbody : (bodyProperties schemas m o).result = .ok body)
    (hb : ∀ es, body = .map es → ∀ e ∈ es, Shape.text e.1 ≠ .fine name) {p : Parameter}
    (hp : Parameter.find? (Parameter.inputs o.parameters).reverse name = some p) :
    ∃ v, (compileParameter schemas p).result = .ok (name, v) ∧ t.fields.get? name = some v := by
  obtain ⟨_, _, pf, _, _, _, _, _, hpf, _⟩ := ofOperation_eq_ok h
  have hpf' := hpf
  obtain ⟨found, hfound, hpf'⟩ := Outcome.bind_result_eq_ok.1 hpf'
  cases hpf'
  have hfound := Outcome.mapM_result_eq_ok_iff.1 hfound
  obtain ⟨v, hv, hget⟩ := exists_get?_of_find? (List.rel_reverse hfound) hp
  refine ⟨v, hv, get?_fields_of_not_mem_body h hbody hb hpf ?_⟩
  rw [Table.get?_ofList]
  exact hget

/-! ### The theorem -/

/-- **An argument is checked against the parameter that it is sent as.**  Let a name be that of a
parameter of path or query and of no field of the body, and let its first and its last parameter
have the same schema and description.  Then the field of the tool has the validator of the parameter
by which the router finds the place of the argument, and what is supplied is put there as this
validator lets it through. -/
theorem arguments_are_checked_as_sent (h : (ofOperation schemas target path m o).result = .ok t)
    {body : Value} (hbody : (bodyProperties schemas m o).result = .ok body)
    (hb : ∀ es, body = .map es → ∀ e ∈ es, Shape.text e.1 ≠ .fine name)
    (hdeclared : ∃ p ∈ Parameter.inputs o.parameters, p.name = name)
    (hsame : ∀ p q, Parameter.find? (Parameter.inputs o.parameters) name = some p →
      Parameter.find? (Parameter.inputs o.parameters).reverse name = some q →
      q.schema = p.schema ∧ q.description = p.description) :
    ∃ p v, Parameter.find? (Parameter.inputs o.parameters) name = some p ∧
      t.handler = handlerOf target ⟨m, routerOf path o body⟩ ∧
      (routerOf path o body).destination name = p.place ∧
      (compileParameter schemas p).result = .ok (name, v) ∧ t.fields.get? name = some v ∧
      ∀ es args, t.validate (.map es) = .ok args → ∀ x, Entries.get? es name = some x →
        ((routerOf path o body).share p.place args).get? name = some (v.project x) := by
  obtain ⟨q, hq, hname⟩ := hdeclared
  obtain ⟨first, hfirst⟩ : ∃ p, Parameter.find? (Parameter.inputs o.parameters) name = some p :=
    Option.isSome_iff_exists.1 (List.find?_isSome.2 ⟨q, hq, decide_eq_true hname⟩)
  obtain ⟨last, hlast⟩ :
      ∃ p, Parameter.find? (Parameter.inputs o.parameters).reverse name = some p :=
    Option.isSome_iff_exists.1
      (List.find?_isSome.2 ⟨q, List.mem_reverse.2 hq, decide_eq_true hname⟩)
  obtain ⟨v, hv, hfield⟩ := get?_fields_of_parameter h hbody hb hlast
  have hcompile : compileParameter schemas first = compileParameter schemas last := by
    obtain ⟨hschema, hdescription⟩ := hsame first last hfirst hlast
    have hfn : first.name = name := by simpa using List.find?_some hfirst
    have hln : last.name = name := by simpa using List.find?_some hlast
    unfold compileParameter
    rw [hschema, hdescription, hfn, hln]
  have hplace : (routerOf path o body).destination name = first.place :=
    Router.destination_of_find? rfl hfirst
  refine ⟨first, v, hfirst, ?_, hplace, hcompile ▸ hv, hfield, fun es args hargs x hx => ?_⟩
  · obtain ⟨_, body', _, _, _, _, _, hbody', _, _, _, _, rfl⟩ := ofOperation_eq_ok h
    cases hbody.symm.trans hbody'
    rfl
  · rw [Router.get?_share hplace, eq_projectFields_of_validate hargs,
      Validator.get?_projectFields, hfield, hx]
    rfl

/-- The schema of an integer. -/
def integerSchema : Value := .map [(.text "type", .text "integer")]

/-- An operation with an id in the path, which is a text, and one in the query. -/
def pairOperation (second : Value) : Operation :=
  ⟨some "list", none, none,
    [⟨"id", "path", some textSchema, none, true⟩, ⟨"id", "query", some second, none, false⟩], none⟩

/-- The validator of a plain schema. -/
def plainValidator (kind : Kind) : Validator := ⟨kind, true, none, none, none⟩

theorem compileParameter_plain {p : Parameter} {node : Value} {kind : Kind}
    (hp : p.schema = some node) (hd : p.description = none) (hv : Schema.view node = .plain kind)
    (hnd : Schema.description? node = none) :
    compileParameter schemas p = pure (p.name, plainValidator kind) := by
  unfold compileParameter Schema.compile
  rw [hp, hd, Option.getD_some, Schema.compileOn_of_plain hv, hnd]
  rfl

/-- The tool of the operation has the field of the second id. -/
theorem ofOperation_pair (second : Value) (kind : Kind) (hv : Schema.view second = .plain kind)
    (hd : Schema.description? second = none) :
    ofOperation [] shopTarget orderPath .get (pairOperation second)
      = pure ⟨"list", "", [("id", plainValidator kind)],
        handlerOf shopTarget ⟨.get, routerOf orderPath (pairOperation second) (.map [])⟩, some .get,
        some orderPath, some "store"⟩ := by
  have hparams : compileParameters [] (Parameter.inputs (pairOperation second).parameters)
      = pure [("id", plainValidator kind)] := by
    unfold compileParameters
    show (do return Table.ofList (← [_, _].mapM (compileParameter []))) = _
    rw [List.mapM_cons, List.mapM_cons, List.mapM_nil,
      compileParameter_plain (show _ = some textSchema from rfl) rfl rfl rfl,
      compileParameter_plain (show _ = some second from rfl) rfl hv hd]
    rfl
  have hbody : bodyProperties [] .get (pairOperation second) = pure (.map []) := rfl
  have hcompiled : Schema.compileFields [] (.map []) = pure [] := rfl
  have hdescription : shopTarget.surface.describe (pairOperation second).description = .ok "" :=
    describe_store_none
  have hfields : Schema.properties "Tool" "input_schema"
      (addRaw [("id", plainValidator kind)] []) = pure [("id", plainValidator kind)] := rfl
  exact ofOperation_of_parts rfl hbody hparams hcompiled hdescription hfields

/-- Two ids that are texts: the one in the path is checked and sent as a text. -/
theorem text_id_is_checked_as_sent :
    ∃ t, (ofOperation [] shopTarget orderPath .get (pairOperation textSchema)).result = .ok t ∧
      t.fields.get? "id" = some (plainValidator .string) ∧
      ∀ args, t.validate (.map [(.text "id", .text "A7")]) = .ok args →
        ((routerOf orderPath (pairOperation textSchema) (.map [])).share .path args).get? "id"
          = some (.text "A7") := by
  have htool := congrArg Outcome.result (ofOperation_pair textSchema .string rfl rfl)
  have hbody : (bodyProperties [] .get (pairOperation textSchema)).result = .ok (.map []) := rfl
  have hb : ∀ es, Value.map [] = .map es → ∀ e ∈ es, Shape.text e.1 ≠ .fine "id" := by
    rintro es ⟨⟩ e ⟨⟩
  have hsame : ∀ p q, Parameter.find? (Parameter.inputs (pairOperation textSchema).parameters) "id"
      = some p → Parameter.find? (Parameter.inputs (pairOperation textSchema).parameters).reverse
        "id" = some q → q.schema = p.schema ∧ q.description = p.description := by
    rintro p q ⟨⟩ ⟨⟩
    exact ⟨rfl, rfl⟩
  obtain ⟨p, v, hp, _, _, _, hfield, hsent⟩ :=
    arguments_are_checked_as_sent htool hbody hb ⟨_, List.mem_cons_self, rfl⟩ hsame
  cases hp
  cases hfield
  exact ⟨_, htool, rfl, fun args hargs => hsent _ args hargs _ rfl⟩

/-- **An argument is not checked as it is sent**, if the last parameter of its name has another
schema: the id is put in the path, which takes texts, and is checked as the number that the query
takes. -/
theorem text_id_is_checked_as_number :
    ∃ t p, (ofOperation [] shopTarget orderPath .get (pairOperation integerSchema)).result
        = .ok t ∧
      Parameter.find? (Parameter.inputs (pairOperation integerSchema).parameters) "id" = some p ∧
      (routerOf orderPath (pairOperation integerSchema) (.map [])).destination "id" = p.place ∧
      (compileParameter [] p).result = .ok ("id", plainValidator .string) ∧
      t.fields.get? "id" = some (plainValidator .number) ∧
      (∃ f, t.validate (.map [(.text "id", .text "A7")]) = .error f) ∧
      t.invoke (.map [(.text "id", .int 7)])
        = Dispatch.call shopTarget.config .get "/orders/7" shopTarget.credential [] none := by
  have htool := congrArg Outcome.result (ofOperation_pair integerSchema .number rfl rfl)
  have hfirst := congrArg Outcome.result
    (@compileParameter_plain [] ⟨"id", "path", some textSchema, none, true⟩ _ _ rfl rfl rfl rfl)
  refine ⟨_, _, htool, rfl, by decide, hfirst, rfl, ⟨_, rfl⟩, ?_⟩
  rw [invoke_of_ok (show validate _ _ = .ok [("id", .int 7)] from rfl)]
  rfl

end Tool
end ToolGateway
