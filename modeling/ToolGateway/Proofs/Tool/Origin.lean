/-
# Where a tool comes from

A tool of a document is made of the preferred operation of one of its paths (`exists_operation`),
and of nothing else: its handler routes by the path, the parameters and the text keys of the body,
and calls the backend with the credential of the target (`ofOperation_eq_ok`).  The names of its
fields come from the parameters that are arguments and from the keys of the body (`name_cases`).
-/

import ToolGateway.Proofs.Check.Follows
import ToolGateway.Proofs.Effect.Alike
import ToolGateway.Proofs.Schema.Compiled
import ToolGateway.Proofs.Tool.Description
import ToolGateway.Tool.Compile

namespace ToolGateway

namespace Tool

variable {schemas : Schema.Schemas} {target : Target} {path : String} {m : Http.Method}
  {o : Operation} {t : Tool}

/-! ### Tools and operations -/

/-- Where the arguments of an operation go, given the fields of its body. -/
def routerOf (path : String) (o : Operation) (body : Value) : Router :=
  ⟨path, Parameter.inputs o.parameters, textKeys body⟩

/-- The tool of an operation whose id is known. -/
def ofNamedOperation (schemas : Schema.Schemas) (target : Target) (path : String)
    (m : Http.Method) (o : Operation) (id : String) : Outcome Tool := do
  let body ← bodyProperties schemas m o
  let parameterFields ← compileParameters schemas (Parameter.inputs o.parameters)
  let bodyFields ← Schema.compileFields schemas body
  let description ← Outcome.ofExcept
    ((target.surface.describe o.description).mapError .template)
  let fields ← Schema.properties "Tool" "input_schema" (addRaw parameterFields bodyFields)
  return ⟨target.surface.toolName id, description, fields,
    handlerOf target ⟨m, routerOf path o body⟩, some m, some path, some target.surface.name⟩

theorem ofOperation_eq :
    ofOperation schemas target path m o = match o.operationId.filter (· ≠ "") with
      | none => .fail (.missingOperationId path m.name)
      | some id => ofNamedOperation schemas target path m o id := by
  unfold ofOperation
  cases o.operationId.filter (· ≠ "") <;> rfl

/-- What the tool of an operation is made of. -/
theorem ofOperation_eq_ok (h : (ofOperation schemas target path m o).result = .ok t) :
    ∃ id body parameterFields bodyFields description fields,
      o.operationId.filter (· ≠ "") = some id ∧
      (bodyProperties schemas m o).result = .ok body ∧
      (compileParameters schemas (Parameter.inputs o.parameters)).result = .ok parameterFields ∧
      (Schema.compileFields schemas body).result = .ok bodyFields ∧
      target.surface.describe o.description = .ok description ∧
      (Schema.properties "Tool" "input_schema" (addRaw parameterFields bodyFields)).result
        = .ok fields ∧
      t = ⟨target.surface.toolName id, description, fields,
        handlerOf target ⟨m, routerOf path o body⟩, some m, some path,
        some target.surface.name⟩ := by
  rw [ofOperation_eq] at h
  split at h
  · cases h
  · rename_i id hid
    unfold ofNamedOperation at h
    obtain ⟨body, hbody, h⟩ := Outcome.bind_result_eq_ok.1 h
    obtain ⟨pf, hpf, h⟩ := Outcome.bind_result_eq_ok.1 h
    obtain ⟨bf, hbf, h⟩ := Outcome.bind_result_eq_ok.1 h
    obtain ⟨description, hd, h⟩ := Outcome.bind_result_eq_ok.1 h
    obtain ⟨fields, hf, h⟩ := Outcome.bind_result_eq_ok.1 h
    cases h
    exact ⟨id, body, pf, bf, description, fields, hid, hbody, hpf, hbf, eq_ok_of_mapError hd, hf,
      rfl⟩

/-- A tool is compiled where the parts that it is made of are, whatever they log. -/
theorem ofOperation_result_of_parts {id description : String} {body : Value}
    {parameterFields fields : Table Validator} {bodyFields : List (Value × Validator)}
    (hid : o.operationId.filter (· ≠ "") = some id)
    (hbody : (bodyProperties schemas m o).result = .ok body)
    (hparameters : (compileParameters schemas (Parameter.inputs o.parameters)).result
      = .ok parameterFields)
    (hcompiled : (Schema.compileFields schemas body).result = .ok bodyFields)
    (hdescription : target.surface.describe o.description = .ok description)
    (hfields : (Schema.properties "Tool" "input_schema"
      (addRaw parameterFields bodyFields)).result = .ok fields) :
    (ofOperation schemas target path m o).result
      = .ok ⟨target.surface.toolName id, description, fields,
        handlerOf target ⟨m, routerOf path o body⟩, some m, some path,
        some target.surface.name⟩ := by
  rw [ofOperation_eq, hid]
  show (ofNamedOperation _ _ _ _ _ id).result = _
  unfold ofNamedOperation
  refine Outcome.bind_result_eq_ok.2 ⟨_, hbody, Outcome.bind_result_eq_ok.2 ⟨_, hparameters, ?_⟩⟩
  refine Outcome.bind_result_eq_ok.2 ⟨_, hcompiled, Outcome.bind_result_eq_ok.2 ⟨description, ?_, ?_⟩⟩
  · rw [hdescription]
    rfl
  · exact Outcome.bind_result_eq_ok.2 ⟨_, hfields, rfl⟩

/-- Where all the parts are compiled without a log entry, so is the tool. -/
theorem ofOperation_of_parts {id description : String} {body : Value}
    {parameterFields fields : Table Validator} {bodyFields : List (Value × Validator)}
    (hid : o.operationId.filter (· ≠ "") = some id)
    (hbody : bodyProperties schemas m o = pure body)
    (hparameters : compileParameters schemas (Parameter.inputs o.parameters)
      = pure parameterFields)
    (hcompiled : Schema.compileFields schemas body = pure bodyFields)
    (hdescription : target.surface.describe o.description = .ok description)
    (hfields : Schema.properties "Tool" "input_schema" (addRaw parameterFields bodyFields)
      = pure fields) :
    ofOperation schemas target path m o = pure ⟨target.surface.toolName id, description, fields,
      handlerOf target ⟨m, routerOf path o body⟩, some m, some path,
      some target.surface.name⟩ := by
  rw [ofOperation_eq, hid]
  show ofNamedOperation _ _ _ _ _ id = _
  unfold ofNamedOperation
  rw [hbody, pure_bind, hparameters, pure_bind, hcompiled, pure_bind, hdescription]
  show (do let fields ← Schema.properties _ _ _; _) = _
  rw [hfields]
  rfl

/-- On the surface of a store an operation without a description has none. -/
theorem describe_store_none : Surface.store.describe none = .ok "" := Surface.describe_store none

/-- The tool of a path is that of its preferred operation. -/
theorem ofPath_eq_ok {item : PathItem} {found : Option Tool}
    (h : (ofPath schemas target path item).result = .ok found) (ht : found = some t) :
    ∃ m o, item.selected? = some (m, o) ∧
      (ofOperation schemas target path m o).result = .ok t := by
  unfold ofPath at h
  split at h
  · cases h
    cases ht
  · rename_i m o hs
    refine ⟨m, o, hs, ?_⟩
    have hmap : (some <$> ofOperation schemas target path m o).result = .ok found := by
      dsimp only at h
      split at h
      · exact h
      · exact h
    rw [map_eq_pure_bind, Outcome.bind_result_eq_ok] at hmap
    obtain ⟨t', ht', he⟩ := hmap
    cases he
    cases ht
    exact ht'

/-- A tool of a document is that of the preferred operation of one of its paths. -/
theorem exists_operation {d : Document} {tools : List Tool}
    (h : (ofDocument d target).result = .ok tools) (ht : t ∈ tools) :
    ∃ path item m o, (path, item) ∈ d.paths ∧ item.selected? = some (m, o) ∧
      (ofOperation d.schemas target path m o).result = .ok t := by
  unfold ofDocument at h
  obtain ⟨found, hfound, h⟩ := Outcome.bind_result_eq_ok.1 h
  cases h
  obtain ⟨t', ht', he⟩ := List.mem_filterMap.1 ht
  obtain rfl : t' = some t := he
  obtain ⟨⟨path, item⟩, hp, hpath⟩ :=
    Schema.exists_mem_of_forall₂ (Outcome.mapM_result_eq_ok_iff.1 hfound).flip _ ht'
  obtain ⟨m, o, hs, ho⟩ := ofPath_eq_ok hpath rfl
  exact ⟨path, item, m, o, hp, hs, ho⟩

/-- The document of one path has the tool of its operation. -/
theorem ofDocument_of_operation {item : PathItem} (hs : item.selected? = some (m, o))
    (hothers : item.others m = []) (h : ofOperation schemas target path m o = pure t) :
    ofDocument ⟨[(path, item)], schemas⟩ target = pure [t] := by
  have hpath : ofPath schemas target path item = pure (some t) := by
    unfold ofPath
    rw [hs]
    dsimp only
    rw [hothers, h]
    rfl
  unfold ofDocument
  rw [List.mapM_cons, List.mapM_nil, hpath]
  rfl

/-! ### The names of the fields -/

/-- Validators of parameters stand under the names of the parameters. -/
theorem exists_parameter {ps : List Parameter} {fields : Table Validator}
    (h : (compileParameters schemas ps).result = .ok fields) {name : String}
    (hn : name ∈ fields.names) : ∃ p ∈ ps, p.name = name := by
  unfold compileParameters at h
  obtain ⟨found, hfound, h⟩ := Outcome.bind_result_eq_ok.1 h
  cases h
  obtain ⟨v, hv⟩ := Table.mem_names_ofList.1 hn
  obtain ⟨p, hp, hc⟩ :=
    Schema.exists_mem_of_forall₂ (Outcome.mapM_result_eq_ok_iff.1 hfound).flip _ hv
  unfold compileParameter at hc
  obtain ⟨w, _, hc⟩ := Outcome.bind_result_eq_ok.1 hc
  cases hc
  exact ⟨p, hp, rfl⟩

/-- Validators of parameters stand under distinct names. -/
theorem nodup_names_of_compileParameters {ps : List Parameter} {fields : Table Validator}
    (h : (compileParameters schemas ps).result = .ok fields) : fields.names.Nodup := by
  obtain ⟨found, _, h⟩ := Outcome.bind_result_eq_ok.1 h
  cases h
  exact Table.nodup_names_ofList found

/-- Validators of body fields stand under the keys of the body. -/
theorem exists_bodyField {body : Value} {fields : List (Value × Validator)}
    (h : (Schema.compileFields schemas body).result = .ok fields) {f : Value × Validator}
    (hf : f ∈ fields) : ∃ es e, body = .map es ∧ e ∈ es ∧ e.1 = f.1 := by
  unfold Schema.compileFields Schema.stepFields at h
  dsimp only at h
  split at h
  · rename_i es
    obtain ⟨e, he, hc⟩ :=
      Schema.exists_mem_of_forall₂ (Outcome.mapM_result_eq_ok_iff.1 h).flip _ hf
    obtain ⟨w, _, hc⟩ := Outcome.bind_result_eq_ok.1 hc
    cases hc
    exact ⟨es, e, rfl, he, rfl⟩
  · split at h
    · cases h
    · cases h
      cases hf

/-- If every step keeps the parts that are there and adds at most that of its entry, the parts at the
end are those at the start and those of the entries. -/
theorem part_of_mem_foldl {β : Type} {part : Value × Validator → β}
    {put : List (Value × Validator) → Value × Validator → List (Value × Validator)}
    (hput : ∀ acc e f, f ∈ put acc e → (∃ g ∈ acc, part f = part g) ∨ part f = part e)
    {raw acc : List (Value × Validator)} {f : Value × Validator} (hf : f ∈ raw.foldl put acc) :
    (∃ g ∈ acc, part f = part g) ∨ ∃ e ∈ raw, part f = part e := by
  induction raw generalizing acc with
  | nil => exact Or.inl ⟨f, hf, rfl⟩
  | cons e rest ih =>
    rcases ih hf with ⟨g, hg, hfg⟩ | ⟨e', he', hfe⟩
    · rcases hput acc e g hg with ⟨g', hg', hgg⟩ | hge
      · exact Or.inl ⟨g', hg', hfg.trans hgg⟩
      · exact Or.inr ⟨e, List.mem_cons_self, hfg.trans hge⟩
    · exact Or.inr ⟨e', List.mem_cons_of_mem _ he', hfe⟩

/-- The key of a field is that of a parameter or of a raw field, and so is its validator. -/
theorem parts_of_mem_addRaw {fields : Table Validator} {raw : List (Value × Validator)}
    {f : Value × Validator} (hf : f ∈ addRaw fields raw) :
    ((∃ p ∈ fields, f.1 = .text p.1) ∨ ∃ e ∈ raw, f.1 = e.1) ∧
      ((∃ p ∈ fields, f.2 = p.2) ∨ ∃ e ∈ raw, f.2 = e.2) := by
  -- a raw field replaces the validator behind its key, or is added at the end
  have hput (acc : List (Value × Validator)) (e g : Value × Validator)
      (hg : g ∈ if acc.any fun h => h.1.sameKey e.1 then
        acc.map fun h => if h.1.sameKey e.1 then (h.1, e.2) else h else acc ++ [e]) :
      ((∃ h ∈ acc, g.1 = h.1) ∨ g.1 = e.1) ∧ ((∃ h ∈ acc, g.2 = h.2) ∨ g.2 = e.2) := by
    split at hg
    · obtain ⟨h, hh, rfl⟩ := List.mem_map.1 hg
      split
      · exact ⟨Or.inl ⟨h, hh, rfl⟩, Or.inr rfl⟩
      · exact ⟨Or.inl ⟨h, hh, rfl⟩, Or.inl ⟨h, hh, rfl⟩⟩
    · rcases List.mem_append.1 hg with hg | hg
      · exact ⟨Or.inl ⟨g, hg, rfl⟩, Or.inl ⟨g, hg, rfl⟩⟩
      · obtain rfl := List.mem_singleton.1 hg
        exact ⟨Or.inr rfl, Or.inr rfl⟩
  unfold addRaw at hf
  constructor
  · refine (part_of_mem_foldl (fun acc e g hg => (hput acc e g hg).1) hf).imp_left ?_
    rintro ⟨g, hg, hfg⟩
    obtain ⟨p, hp, rfl⟩ := List.mem_map.1 hg
    exact ⟨p, hp, hfg⟩
  · refine (part_of_mem_foldl (fun acc e g hg => (hput acc e g hg).2) hf).imp_left ?_
    rintro ⟨g, hg, hfg⟩
    obtain ⟨p, hp, rfl⟩ := List.mem_map.1 hg
    exact ⟨p, hp, hfg⟩

/-- A field is named by the key that it stands under. -/
theorem exists_key_of_nameFields {fields : List (Value × Validator)} {named : Table Validator}
    (h : Schema.nameFields fields = .fine named) {name : String} {v : Validator}
    (hn : (name, v) ∈ named) : ∃ f ∈ fields, Shape.text f.1 = .fine name := by
  induction fields generalizing named with
  | nil =>
    cases h
    cases hn
  | cons f rest ih =>
    obtain ⟨k, w⟩ := f
    obtain ⟨p, named', hp, hrest, rfl⟩ := Checked.cons_eq_fine h
    obtain ⟨n, hk, rfl⟩ := Checked.exists_of_map_eq_fine hp
    rcases List.mem_cons.1 hn with he | hn
    · cases he
      exact ⟨_, List.mem_cons_self, Checked.eq_fine_of_under (Checked.eq_fine_of_under hk)⟩
    · obtain ⟨f, hf, hkey⟩ := ih hrest hn
      exact ⟨f, List.mem_cons_of_mem _ hf, hkey⟩

/-- A key counts as a text if it is one, or if it is the octets of one. -/
theorem key_cases {k : Value} {name : String} (h : Shape.text k = .fine name) :
    k = .text name ∨ ∃ octets, k = .bytes octets ∧ Text.decodeUtf8 octets = .ok name := by
  unfold Shape.text at h
  split at h
  · cases h
    exact Or.inl rfl
  · rename_i octets
    split at h
    · rename_i s hs
      cases h
      exact Or.inr ⟨octets, rfl, hs⟩
    · cases h
  · cases h

/-- **The name of a field** is that of a parameter that is an argument, or a key of the body: a
text, or the octets of one. -/
theorem name_cases (h : (ofOperation schemas target path m o).result = .ok t) {body : Value}
    (hbody : (bodyProperties schemas m o).result = .ok body) {name : String}
    (hn : name ∈ t.fields.names) :
    (∃ p ∈ Parameter.inputs o.parameters, p.name = name) ∨ name ∈ textKeys body ∨
      ∃ es e octets, body = .map es ∧ e ∈ es ∧ e.1 = .bytes octets ∧
        Text.decodeUtf8 octets = .ok name := by
  obtain ⟨_, body', pf, bf, _, fields, _, hbody', hpf, hbf, _, hf, rfl⟩ := ofOperation_eq_ok h
  obtain rfl : body' = body := by
    rw [hbody] at hbody'
    cases hbody'
    rfl
  obtain ⟨named, hnamed, rfl⟩ := Schema.properties_eq_ok_iff.1 hf
  obtain ⟨v, hv⟩ := Table.mem_names_ofList.1 hn
  obtain ⟨f, hfm, hkey⟩ := exists_key_of_nameFields hnamed hv
  rcases (parts_of_mem_addRaw hfm).1 with ⟨p, hp, hfp⟩ | ⟨e, he, hfe⟩
  · rw [hfp] at hkey
    cases hkey
    exact Or.inl (exists_parameter hpf (List.mem_map_of_mem hp))
  · obtain ⟨es, e', rfl, he', hee⟩ := exists_bodyField hbf he
    rcases key_cases hkey with hk | ⟨octets, hk, hd⟩
    · refine Or.inr (Or.inl (List.mem_filterMap.2 ⟨e', he', ?_⟩))
      rw [hee, ← hfe, hk]
    · exact Or.inr (Or.inr ⟨es, e', octets, rfl, he', hee.trans (hfe.symm.trans hk), hd⟩)

/-- The names of the fields are distinct. -/
theorem nodup_names_fields (h : (ofOperation schemas target path m o).result = .ok t) :
    t.fields.names.Nodup := by
  obtain ⟨_, _, _, _, _, fields, _, _, _, _, _, hf, rfl⟩ := ofOperation_eq_ok h
  obtain ⟨named, _, rfl⟩ := Schema.properties_eq_ok_iff.1 hf
  exact Table.nodup_names_ofList named

end Tool
end ToolGateway
