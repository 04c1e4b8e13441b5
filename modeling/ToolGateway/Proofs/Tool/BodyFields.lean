/-
# The fields of a body

The schema of a body is read twice.  A tool finds the fields of its body on its own: it looks up a
reference once, and takes what stands under the keyword of properties.  The compiler, which reads
the same schema wherever else it is used, goes on until a reference leads to no other.

`view_eq_of_compile_object` goes from the compiled object back to the keywords of the schema that it
comes of, and `exists_resolved` from the schema that is referred to forth to it, so that both
readings meet in one schema.  There the fields of the tool are the compiled properties, each made
optional (`bodyProperties_eq_compiled`), and the tool publishes, accepts and sends them as such
(`CarriesBody`).  Where a reference leads to another the readings differ.
-/

import ToolGateway.Proofs.Tool.Delivery
import ToolGateway.Proofs.Schema.Regular
import ToolGateway.Proofs.Schema.WellShaped
import ToolGateway.Proofs.Validator.Projection

namespace ToolGateway

namespace Table

variable {α : Type}

/-- Under names that are all different, putting changes the entry of the name wherever it stands. -/
theorem put_eq_map {t : Table α} (h : t.names.Nodup) {name : String} (hm : name ∈ t.names) (v : α) :
    t.put name v = t.map fun e => if e.1 = name then (e.1, v) else e := by
  induction t with
  | nil => cases hm
  | cons e rest ih =>
    obtain ⟨k, w⟩ := e
    obtain ⟨hk, hr⟩ := List.nodup_cons.1 h
    unfold put
    by_cases hn : k = name
    · subst hn
      have hrest : rest.map (fun e => if e.1 = k then (e.1, v) else e) = rest := by
        refine (List.map_congr_left fun e he => if_neg ?_).trans (List.map_id _)
        rintro rfl
        exact hk (List.mem_map.2 ⟨e, he, rfl⟩)
      rw [if_pos rfl, List.map_cons, if_pos rfl, hrest]
    · have hm : name ∈ names rest := (List.mem_cons.1 hm).resolve_left (Ne.symm hn)
      rw [if_neg hn, List.map_cons, if_neg hn, ih hr hm]

end Table

namespace Schema

variable {schemas : Schemas} {stack : List String} {node : Value} {optional : Bool}
  {w : Validator}

/-! ### The compiler's reading -/

theorem keyword_eq_getD (es : Entries) (name : String) (absent : Value) :
    keyword es name absent = ((Entries.get? es name).bind Value.given?).getD absent := by
  unfold keyword Value.given?
  cases Entries.get? es name with
  | none => rfl
  | some v => cases hg : v.isGiven <;> simp [hg]

/-- The optional flag is set last: asked for another one, a schema yields the same but for it. -/
theorem Yields.withOptional (h : Yields schemas node optional w) (flag : Bool) :
    Yields schemas node flag { w with optional := flag } := by
  induction h using Yields.induct with
  | notSchema node optional hv _ =>
    refine ⟨[], ?_⟩
    rw [compileOn_of_notSchema hv]
    rfl
  | unresolved node optional ref hv ht _ =>
    refine ⟨[], ?_⟩
    rw [compileOn_of_unresolved hv List.not_mem_nil ht]
    rfl
  | target node optional ref target w hv ht _ _ ih => exact (yields_reference_iff hv ht).2 ih
  | plain node optional kind hv _ =>
    refine ⟨[], ?_⟩
    rw [compileOn_of_plain hv]
    rfl
  | array node optional items item hv hi _ _ =>
    obtain ⟨stack, hi⟩ := hi
    refine ⟨stack, ?_⟩
    rw [compileOn_of_array hv]
    exact Outcome.bind_result_eq_ok.2 ⟨item, hi, rfl⟩
  | object node optional required ps fields named hv _ _ h =>
    obtain ⟨stack, h⟩ := h
    refine ⟨stack, ?_⟩
    rw [compileOn_of_object hv] at h ⊢
    obtain ⟨fields', hf, h⟩ := Outcome.bind_result_eq_ok.1 h
    obtain ⟨ps', hp, h⟩ := Outcome.bind_result_eq_ok.1 h
    cases h
    exact Outcome.bind_result_eq_ok.2 ⟨fields', hf, Outcome.bind_result_eq_ok.2 ⟨_, hp, rfl⟩⟩

theorem compileOn_withOptional (h : (compileOn schemas stack node optional).result = .ok w)
    (flag : Bool) : (compileOn schemas stack node flag).result = .ok { w with optional := flag } :=
  have ⟨hy, hc⟩ := compileOn_eq_ok_iff.1 h
  compileOn_of_yields (hy.withOptional flag) hc

/-- An object comes of a schema that has the keywords of one. -/
theorem view_eq_of_compile_object (h : (compile schemas node optional).result = .ok w)
    (hk : w.kind = .object) (href : refOf? node = none) :
    ∃ required ps fields named, view node = .object required (.map ps) ∧
      (compileEntries schemas [] required ps).result = .ok fields ∧
      nameFields fields = .fine named ∧ w.properties = some (Table.ofList named) := by
  unfold compile at h
  cases hv : view node with
  | notSchema =>
    rw [compileOn_of_notSchema hv] at h
    cases h
    cases hk
  | reference ref =>
    cases href.symm.trans (view_eq_reference_iff.1 hv)
  | plain kind =>
    rw [compileOn_of_plain hv] at h
    cases h
    obtain ⟨_, _, _, _, _, rfl⟩ := view_eq_plain_iff.1 hv
    exact absurd hk (plainKind_ne _).2
  | array items =>
    rw [compileOn_of_array hv] at h
    obtain ⟨_, _, h⟩ := Outcome.bind_result_eq_ok.1 h
    cases h
    cases hk
  | object required properties =>
    by_cases hm : ∃ ps, properties = .map ps
    · obtain ⟨ps, rfl⟩ := hm
      rw [compileOn_of_object hv] at h
      obtain ⟨fields, hf, h⟩ := Outcome.bind_result_eq_ok.1 h
      obtain ⟨_, hp, h⟩ := Outcome.bind_result_eq_ok.1 h
      obtain ⟨named, hn, rfl⟩ := properties_eq_ok_iff.1 hp
      cases h
      exact ⟨required, ps, fields, named, rfl, hf, hn, rfl⟩
    · rw [compileOn_of_noMap hv (by simpa using hm)] at h
      cases h

theorem resolve_of_ne_null (h : node ≠ .null) :
    resolve schemas node = match refOf? node with
      | none => pure (some node)
      | some ref => lookUp schemas ref := by
  unfold resolve
  cases node with
  | null => exact absurd rfl h
  | _ => rfl

/-- What a schema stands for, if its reference leads to no other. -/
theorem exists_resolved (h : (compile schemas node optional).result = .ok w)
    (hk : w.kind = .object)
    (hdirect : ∀ ref target, refOf? node = some ref → target? schemas ref = some target →
      refOf? target = none) :
    ∃ target, (resolve schemas node).result = .ok (some target) ∧ refOf? target = none ∧
      (compile schemas target optional).result = .ok w := by
  cases href : refOf? node with
  | none =>
    have hnode : node ≠ .null := by
      rintro rfl
      rw [compile, compileOn_of_notSchema rfl] at h
      cases h
      cases hk
    refine ⟨node, ?_, href, h⟩
    rw [resolve_of_ne_null hnode, href]
    rfl
  | some ref =>
    have hv : view node = .reference ref := view_eq_reference_iff.2 href
    unfold compile at h
    cases ht : target? schemas ref with
    | none =>
      rw [compileOn_of_unresolved hv List.not_mem_nil ht] at h
      cases h
      cases hk
    | some target =>
      rw [compileOn_of_target hv List.not_mem_nil ht] at h
      obtain ⟨hy, hc⟩ := compileOn_eq_ok_iff.1 h
      refine ⟨target, ?_, hdirect ref target href ht, compileOn_of_yields hy hc.of_stack⟩
      have hnode : node ≠ .null := by
        rintro rfl
        cases href
      rw [resolve_of_ne_null hnode, href]
      dsimp only
      rw [lookUp, ht]
      rfl

end Schema

namespace Tool

variable {schemas : Schema.Schemas} {target : Target} {path : String} {o : Operation} {t : Tool}

/-- Validators under names, each made optional. -/
def madeOptional (ps : Table Validator) : Table Validator :=
  ps.map fun p => (p.1, { p.2 with optional := true })

theorem names_madeOptional (ps : Table Validator) : (madeOptional ps).names = ps.names := by
  simp [madeOptional, Table.names]

/-! ### The fields of the body -/

/-- The keys of a table are its names. -/
theorem textKeys_ofTable (t : Table Value) : textKeys (.ofTable t) = t.names := by
  unfold textKeys Value.ofTable Table.names
  dsimp only
  rw [List.filterMap_map]
  exact congrFun (@List.filterMap_eq_map _ _ Prod.fst) t

/-- **The fields of a body are the properties that its schema is compiled to**, one by one and in
their order. -/
theorem bodyProperties_eq_compiled {w : Validator} {optional : Bool}
    (h : (Schema.compile schemas o.bodySchema optional).result = .ok w) (hk : w.kind = .object)
    (hdirect : ∀ ref target, Schema.refOf? o.bodySchema = some ref →
      Schema.target? schemas ref = some target → Schema.refOf? target = none)
    (hkeys : ∀ body, (bodyProperties schemas .post o).result = .ok body →
      ∃ t : Table Value, t.names.Nodup ∧ body = .ofTable t) :
    ∃ body ps, w.properties = some ps ∧ (Table.names ps).Nodup ∧
      (bodyProperties schemas .post o).result = .ok body ∧ textKeys body = Table.names ps ∧
      (∃ t, body = .ofTable t) ∧
      (Schema.compileFields schemas body).result = .ok (madeOptional ps).keyed := by
  obtain ⟨node, hres, href, h⟩ := Schema.exists_resolved h hk hdirect
  obtain ⟨required, es, fields, named, hv, hf, hn, hps⟩ :=
    Schema.view_eq_of_compile_object h hk href
  have hbody : (bodyProperties schemas .post o).result = .ok (.map es) := by
    obtain ⟨es', rfl, _, _, _, hes⟩ := Schema.view_eq_object_iff.1 hv
    refine Outcome.bind_result_eq_ok.2 ⟨some (.map es'), hres, ?_⟩
    rw [hes, Schema.keyword_eq_getD]
    rfl
  obtain ⟨t, ht, hes⟩ := hkeys _ hbody
  obtain rfl : es = t.keyed := by
    cases hes
    rfl
  obtain ⟨ps, rfl, hfields⟩ := Schema.exists_named (Schema.compileEntries_eq_ok_iff.1 hf)
  have hnames : Table.names ps = t.names := Schema.names_eq_of_forall₂ hfields
  have hnodup : (Table.names ps).Nodup := hnames ▸ ht
  obtain rfl : ps = named := Checked.fine.inj ((Schema.nameFields_keyed ps).symm.trans hn)
  rw [Table.ofList_eq_self hnodup] at hps
  refine ⟨_, ps, hps, hnodup, hbody, ?_, ⟨t, rfl⟩, ?_⟩
  · rw [hnames]
    exact textKeys_ofTable t
  · refine Outcome.mapM_result_eq_ok_iff.2 ?_
    unfold Table.keyed madeOptional
    rw [List.map_map, List.forall₂_map_left_iff, List.forall₂_map_right_iff]
    refine hfields.imp fun e f ⟨hk, _, _, hw⟩ => ?_
    refine Outcome.bind_result_eq_ok.2 ⟨_, Schema.compileOn_withOptional hw true, ?_⟩
    simp [hk]

/-! ### The tool of the operation -/

/-- Fields under texts are put behind those of a table like another table. -/
theorem addRaw_keyed {fields : Table Validator} (h : fields.names.Nodup) (u : Table Validator) :
    addRaw fields u.keyed = (fields.union u).keyed := by
  unfold addRaw Table.union
  show List.foldl _ fields.keyed u.keyed = _
  induction u generalizing fields with
  | nil => rfl
  | cons e rest ih =>
    obtain ⟨name, v⟩ := e
    rw [List.foldl_cons, ← ih (Table.nodup_names_put h name v)]
    show List.foldl _ _ (Table.keyed rest) = _
    congr 1
    have hany : (fields.keyed.any fun f => f.1.sameKey (.text name)) = true ↔
        name ∈ fields.names := by
      simp [Table.keyed, Table.names, Value.sameKey]
    dsimp only
    by_cases hm : name ∈ fields.names
    · rw [if_pos (hany.2 hm), Table.put_eq_map h hm]
      unfold Table.keyed
      rw [List.map_map, List.map_map]
      refine List.map_congr_left fun f _ => ?_
      by_cases hf : f.1 = name <;> simp [Value.sameKey, hf]
    · rw [if_neg fun ha => hm (hany.1 ha), Table.put_of_not_mem hm]
      simp [Table.keyed]

/-- So the fields of a tool are a table put behind that of the parameters. -/
theorem eq_union_of_properties {fields u named : Table Validator} (h : fields.names.Nodup)
    (hn : (Schema.properties "Tool" "input_schema" (addRaw fields u.keyed)).result = .ok named) :
    named = fields.union u := by
  rw [addRaw_keyed h, Schema.properties_keyed (Table.nodup_names_union h u)] at hn
  cases hn
  rfl

/-- Behind other fields, those that are made optional are found. -/
theorem get?_union_madeOptional {ps : Table Validator} (hn : ps.names.Nodup)
    {p : String × Validator} (hp : p ∈ ps) (fields : Table Validator) :
    (fields.union (madeOptional ps)).get? p.1 = some { p.2 with optional := true } := by
  have hmem : (p.1, { p.2 with optional := true }) ∈ madeOptional ps :=
    List.mem_map.2 ⟨p, hp, rfl⟩
  have hnodup : (madeOptional ps).names.Nodup := by rwa [names_madeOptional]
  rw [Table.get?_union_of_nodup hnodup, Table.get?_of_mem hnodup hmem]
  rfl

/-- Where the arguments go, given the fields of the body. -/
def bodyPlan (path : String) (o : Operation) (ps : Table Validator) : Plan :=
  ⟨.post, ⟨path, Parameter.inputs o.parameters, ps.names⟩⟩

/-- The tool carries the fields of a body. -/
structure CarriesBody (schemas : Schema.Schemas) (target : Target) (path : String) (o : Operation)
    (ps : Table Validator) (t : Tool) : Prop where
  /-- The fields are those of the parameters and behind them, in their order, those of the body. -/
  fields : ∃ parameterFields,
    (compileParameters schemas (Parameter.inputs o.parameters)).result = .ok parameterFields ∧
      t.fields = parameterFields.union (madeOptional ps)
  /-- Under the name of a field of the body stands its validator, made optional. -/
  field : ∀ p ∈ ps, t.fields.get? p.1 = some { p.2 with optional := true }
  /-- The call is made by the plan for these fields. -/
  delivers : ∀ arguments args, t.validate arguments = .ok args →
    Delivers target (bodyPlan path o ps) args (t.invoke arguments)
  /-- What is supplied for a field of the body is sent in it, as its validator lets it through,
  unless a parameter has the same name. -/
  reaches : ∀ es args, t.validate (.map es) = .ok args → ∀ p ∈ ps,
    (∀ q ∈ Parameter.inputs o.parameters, q.name ≠ p.1) →
    ∀ x, Entries.get? es p.1 = some x →
      ((bodyPlan path o ps).router.share .body args).get? p.1
        = some (({ p.2 with optional := true } : Validator).project x)

/-- What no parameter takes and the body has a field for, goes to the body. -/
theorem destination_of_bodyField {r : Router} {name : String}
    (hp : ∀ q ∈ r.parameters, q.name ≠ name) (hb : name ∈ r.bodyFields) :
    r.destination name = .body := by
  have hfind : Parameter.find? r.parameters name = none :=
    List.find?_eq_none.2 fun q hq => by simpa using hp q hq
  unfold Router.destination
  rw [hfind]
  simpa using hb

/-- Of a body whose fields are named by texts no argument is lost. -/
theorem share_nowhere_eq_nil (h : (ofOperation schemas target path .post o).result = .ok t)
    {u : Table Value} (hbody : (bodyProperties schemas .post o).result = .ok (.ofTable u))
    {arguments : Value} {args : Table Value} (hv : t.validate arguments = .ok args) :
    (routerOf path o (.ofTable u)).share .nowhere args = [] := by
  refine List.eq_nil_iff_forall_not_mem.2 fun a ha => ?_
  obtain ⟨es, e, octets, hes, he, hoctets, _⟩ :=
    eq_octets_of_mem_nowhere h hbody hv (List.mem_map.2 ⟨a, ha, rfl⟩)
  cases hes
  obtain ⟨a', _, rfl⟩ := List.mem_map.1 he
  cases hoctets

/-- A tool carries the fields that are compiled from a body whose fields are named by texts. -/
theorem carriesBody_of_fields (h : (ofOperation schemas target path .post o).result = .ok t)
    {body : Value} {ps : Table Validator} (hn : ps.names.Nodup)
    (hbody : (bodyProperties schemas .post o).result = .ok body) (hkeys : textKeys body = ps.names)
    (htable : ∃ u, body = .ofTable u)
    (hcompiled : (Schema.compileFields schemas body).result = .ok (madeOptional ps).keyed) :
    CarriesBody schemas target path o ps t := by
  obtain ⟨_, body', pf, bf, _, fields, _, hbody', hpf, hbf, _, hf, ht⟩ := ofOperation_eq_ok h
  cases hbody.symm.trans hbody'
  cases hcompiled.symm.trans hbf
  have hfields : t.fields = pf.union (madeOptional ps) := by
    rw [ht]
    exact eq_union_of_properties (nodup_names_of_compileParameters hpf) hf
  have hfield : ∀ p ∈ ps, t.fields.get? p.1 = some { p.2 with optional := true } :=
    fun p hp => hfields ▸ get?_union_madeOptional hn hp pf
  have hplan : t.handler = handlerOf target (bodyPlan path o ps) := by
    rw [ht, bodyPlan, ← hkeys]
    rfl
  have hrouter : (bodyPlan path o ps).router = routerOf path o body := by
    rw [bodyPlan, ← hkeys]
    rfl
  refine ⟨⟨pf, hpf, hfields⟩, hfield, fun arguments args hv => ?_,
    fun es args hv p hp hq x hx => ?_⟩
  · rw [invoke_of_ok hv, hplan]
    refine delivers_handlerOf ((sublist_of_validate hv).nodup (nodup_names_fields h)) ?_
    obtain ⟨u, rfl⟩ := htable
    rw [hrouter]
    exact share_nowhere_eq_nil h hbody hv
  · have hdest : (bodyPlan path o ps).router.destination p.1 = .body :=
      destination_of_bodyField hq (List.mem_map.2 ⟨p, hp, rfl⟩)
    rw [Router.get?_share hdest, eq_projectFields_of_validate hv, Validator.get?_projectFields,
      hfield p hp, hx]
    rfl

/-- **The fields of a body agree with its compiled schema.**  If the schema of the body is compiled
to an object, with no reference that leads to another, and its properties stand under distinct
texts, then the fields of the body are the properties of this object, in their order, and are
compiled to its validators, each made optional; and every tool that is compiled carries them. -/
theorem bodies_have_the_compiled_fields {w : Validator} {optional : Bool}
    (h : (Schema.compile schemas o.bodySchema optional).result = .ok w) (hk : w.kind = .object)
    (hdirect : ∀ ref target, Schema.refOf? o.bodySchema = some ref →
      Schema.target? schemas ref = some target → Schema.refOf? target = none)
    (hkeys : ∀ body, (bodyProperties schemas .post o).result = .ok body →
      ∃ t : Table Value, t.names.Nodup ∧ body = .ofTable t) :
    ∃ body ps, w.properties = some ps ∧
      (bodyProperties schemas .post o).result = .ok body ∧ textKeys body = Table.names ps ∧
      (Schema.compileFields schemas body).result = .ok (madeOptional ps).keyed ∧
      ∀ t, (ofOperation schemas target path .post o).result = .ok t →
        CarriesBody schemas target path o ps t := by
  obtain ⟨body, ps, hps, hn, hbody, hnames, htable, hcompiled⟩ :=
    bodyProperties_eq_compiled h hk hdirect hkeys
  exact ⟨body, ps, hps, hbody, hnames, hcompiled,
    fun t ht => carriesBody_of_fields ht hn hbody hnames htable hcompiled⟩

/-- The fields of a memo, whose content stands under the key. -/
def memoFields (key : Value) : Value := .map [(key, textSchema)]

/-- The schema of a memo, which must have its content. -/
def memoSchema (key : Value) : Value :=
  .map [(.text "type", .text "object"), (.text "required", .list [key]),
    (.text "properties", memoFields key)]

/-- A reference. -/
def refTo (ref : String) : Value := .map [(.text "$ref", .text ref)]

/-- Memos, and another name for them. -/
def memoSchemas (key : Value) : Schema.Schemas := [("Memo", memoSchema key), ("Note", refTo "Memo")]

/-- What the schema of a memo is compiled to. -/
def memoValidator : Validator :=
  ⟨.object, true, none, none, some [("content", ⟨.string, false, none, none, none⟩)]⟩

/-- An operation with an argument in the path, and a body that is referred to. -/
def memoOperation (ref : String) : Operation :=
  ⟨some "add_memo", none, none, [⟨"id", "path", none, none, true⟩],
    some (.ofTable [("content", .ofTable [("application/json", .ofTable
      [("schema", refTo ref)])])])⟩

/-- The path of memos. -/
def memoPath : String := "/boards/\x7bid\x7d/memos"

/-- The key of the content, as a text and by its octets. -/
def IsContentKey (key : Value) : Prop :=
  key = .text "content" ∨ key = .bytes [0x63, 0x6f, 0x6e, 0x74, 0x65, 0x6e, 0x74]

variable {key : Value}

/-- Under both names, and both keys, memos are compiled alike. -/
theorem compile_memo (hkey : IsContentKey key) :
    (Schema.compile (memoSchemas key) (refTo "Memo") true).result = .ok memoValidator ∧
      (Schema.compile (memoSchemas key) (refTo "Note") true).result = .ok memoValidator := by
  have hmemo (stack : List String) :
      (Schema.compileOn (memoSchemas key) stack (memoSchema key) true).result
        = .ok memoValidator := by
    rw [Schema.compileOn_of_object (show Schema.view (memoSchema key)
      = .object (.list [key]) (.map [(key, textSchema)]) from rfl)]
    refine Outcome.bind_result_eq_ok.2 ⟨[(key, ⟨.string, false, none, none, none⟩)],
      Schema.compileEntries_eq_ok_iff.2 (.cons ⟨rfl, true, ?_, ?_⟩ .nil), ?_⟩
    · rcases hkey with rfl | rfl <;> rfl
    · exact congrArg Outcome.result
        (Schema.compileOn_of_plain (show Schema.view textSchema = .plain .string from rfl))
    · rcases hkey with rfl | rfl <;> rfl
  have href (stack : List String) (hs : "Memo" ∉ stack) :
      (Schema.compileOn (memoSchemas key) stack (refTo "Memo") true).result
        = .ok memoValidator := by
    rw [Schema.compileOn_of_target (show Schema.view (refTo "Memo") = .reference "Memo" from rfl)
      hs (show Schema.target? (memoSchemas key) "Memo" = some (memoSchema key) from rfl)]
    exact hmemo _
  refine ⟨href [] (by decide), ?_⟩
  unfold Schema.compile
  rw [Schema.compileOn_of_target (show Schema.view (refTo "Note") = .reference "Note" from rfl)
    (by decide) (show Schema.target? (memoSchemas key) "Note" = some (refTo "Memo") from rfl)]
  exact href _ (by decide)

theorem compileFields_memo (key : Value) :
    Schema.compileFields (memoSchemas key) (memoFields key)
      = pure [(key, ⟨.string, true, none, none, none⟩)] := by
  have htext : Schema.compile (memoSchemas key) textSchema true
      = pure ⟨.string, true, none, none, none⟩ := Schema.compileOn_of_plain rfl
  unfold Schema.compileFields Schema.stepFields memoFields
  dsimp only
  rw [List.mapM_cons, List.mapM_nil, htext]
  rfl

/-- The tool of the operation, with the fields that are found. -/
theorem ofOperation_memo (key : Value) (ref : String) {body : Value}
    {bodyFields : List (Value × Validator)} {fields : Table Validator}
    (hbody : bodyProperties (memoSchemas key) .post (memoOperation ref) = pure body)
    (hcompiled : Schema.compileFields (memoSchemas key) body = pure bodyFields)
    (hfields : Schema.properties "Tool" "input_schema"
      (addRaw [("id", .any true)] bodyFields) = pure fields) :
    ofOperation (memoSchemas key) shopTarget memoPath .post (memoOperation ref)
      = pure ⟨"add_memo", "", fields,
        handlerOf shopTarget ⟨.post, routerOf memoPath (memoOperation ref) body⟩, some .post,
        some memoPath, some "store"⟩ := by
  have hparams : compileParameters (memoSchemas key)
      (Parameter.inputs (memoOperation ref).parameters) = pure [("id", .any true)] := by
    unfold compileParameters
    show (do return Table.ofList (← [_].mapM (compileParameter (memoSchemas key)))) = _
    rw [List.mapM_cons, List.mapM_nil, compileParameter, Option.getD_none, Schema.compile,
      Schema.compileOn_of_notSchema rfl]
    rfl
  have hdescription : shopTarget.surface.describe (memoOperation ref).description = .ok "" :=
    describe_store_none
  exact ofOperation_of_parts rfl hbody hparams hcompiled hdescription hfields

/-- A memo is carried by the tool whose body is a reference to it. -/
theorem memo_is_carried :
    ∃ t, (ofOperation (memoSchemas (.text "content")) shopTarget memoPath .post
        (memoOperation "Memo")).result = .ok t ∧
      CarriesBody (memoSchemas (.text "content")) shopTarget memoPath (memoOperation "Memo")
        [("content", ⟨.string, false, none, none, none⟩)] t := by
  have htool := congrArg Outcome.result
    (ofOperation_memo (.text "content") "Memo" rfl (compileFields_memo _) rfl)
  have hdirect : ∀ ref target, Schema.refOf? (refTo "Memo") = some ref →
      Schema.target? (memoSchemas (.text "content")) ref = some target →
        Schema.refOf? target = none := by
    rintro ref target ⟨⟩ ⟨⟩
    rfl
  have hkeys : ∀ body, (bodyProperties (memoSchemas (.text "content")) .post
      (memoOperation "Memo")).result = .ok body →
        ∃ t : Table Value, t.names.Nodup ∧ body = .ofTable t := by
    rintro body ⟨⟩
    exact ⟨[("content", textSchema)], by decide, rfl⟩
  obtain ⟨body, ps, hps, _, _, _, h⟩ := bodies_have_the_compiled_fields
    (o := memoOperation "Memo") (compile_memo (.inl rfl)).1 rfl hdirect hkeys
  cases hps
  exact ⟨_, htool, h _ htool⟩

/-- What is supplied for a memo. -/
def memoArguments : Table Value := [("id", .int 7), ("content", .text "soon")]

/-- **Other names and other keys hide the fields of a body.**  The schema of the body is compiled to
the same object.  But if its reference leads to another, the tool has no field for the content, and
passes it over; and if the content is named by octets, the tool has the field and does not send
it. -/
theorem other_names_hide_fields :
    ((Schema.compile (memoSchemas (.text "content")) (memoOperation "Note").bodySchema true).result
        = .ok memoValidator ∧
      ∃ t, (ofOperation (memoSchemas (.text "content")) shopTarget memoPath .post
          (memoOperation "Note")).result = .ok t ∧
        t.fields = [("id", .any true)] ∧
        t.invoke (.ofTable memoArguments)
          = Dispatch.call shopTarget.config .post "/boards/7/memos" shopTarget.credential []
            (some (.map []))) ∧
    ∃ octets, (Schema.compile (memoSchemas (.bytes octets)) (memoOperation "Memo").bodySchema
        true).result = .ok memoValidator ∧
      ∃ t, (ofOperation (memoSchemas (.bytes octets)) shopTarget memoPath .post
          (memoOperation "Memo")).result = .ok t ∧
        t.fields = [("id", .any true), ("content", ⟨.string, true, none, none, none⟩)] ∧
        t.invoke (.ofTable memoArguments) = (do
          Action.note .debug "Unused arguments for /boards/\x7bid\x7d/memos: content"
          Dispatch.call shopTarget.config .post "/boards/7/memos" shopTarget.credential []
            (some (.map []))) := by
  constructor
  · have htool := ofOperation_memo (.text "content") "Note" rfl
      (show Schema.compileFields _ (.map []) = pure [] from rfl) rfl
    refine ⟨(compile_memo (.inl rfl)).2, _, congrArg Outcome.result htool, rfl, ?_⟩
    rw [invoke_of_ok (show validate _ _ = .ok [("id", .int 7)] from rfl)]
    rfl
  · have htool := ofOperation_memo (.bytes [0x63, 0x6f, 0x6e, 0x74, 0x65, 0x6e, 0x74]) "Memo" rfl
      (compileFields_memo _) rfl
    refine ⟨_, (compile_memo (.inr rfl)).1, _, congrArg Outcome.result htool, rfl, ?_⟩
    rw [invoke_of_ok (show validate _ _ = .ok memoArguments from rfl)]
    rfl

end Tool
end ToolGateway
