/-
# How the compilation of a document fails

The tools of a document on the surfaces of the backend are compiled, or an operation without an id or
a cycle of references stops them.  This takes that the raw schemas in the document can be read
(`Document.Legible`), which loading does not ask for: a document that is compiled is legible, and for
one that is legible nothing else can go wrong (`legible_documents_compile`).  For one that is not,
something else does (`listed_properties_cannot_be_read`).
-/

import ToolGateway.Document.Source
import ToolGateway.Proofs.Schema.Legible
import ToolGateway.Proofs.Tool.Delivery
import ToolGateway.Proofs.Tool.PathByPath
import ToolGateway.Proofs.Tool.Reach
import ToolGateway.Proofs.Tool.SameName

namespace ToolGateway

/-- The raw schemas of an operation can be read: those of its parameters wherever they lead, and those
of the fields of its body, which is a map whose keys count as texts. -/
structure Operation.Legible (schemas : Schema.Schemas) (m : Http.Method) (o : Operation) : Prop where
  parameters : ∀ p ∈ Parameter.inputs o.parameters, ∀ n,
    Schema.Met schemas (p.schema.getD .null) n → Schema.Legible n
  body : ∀ body, (Tool.bodyProperties schemas m o).result = .ok body →
    ∃ es, body = .map es ∧ ∀ e ∈ es, (∃ name, Shape.text e.1 = .fine name) ∧
      ∀ n, Schema.Met schemas e.2 n → Schema.Legible n

/-- The raw schemas of all preferred operations can be read. -/
def Document.Legible (d : Document) : Prop :=
  ∀ path item m o, (path, item) ∈ d.paths → item.selected? = some (m, o) → o.Legible d.schemas m

namespace Tool

variable {schemas : Schema.Schemas} {target : Target} {path : String} {m : Http.Method}
  {o : Operation} {t : Tool}

/-! ### Keys of fields -/

section Put

variable {put : List (Value × Validator) → Value × Validator → List (Value × Validator)}

/-- If every step keeps the keys that are there, all steps do. -/
theorem exists_key_of_foldl (hstays : ∀ acc e, ∀ f ∈ acc, ∃ g ∈ put acc e, g.1 = f.1)
    {raw acc : List (Value × Validator)} {f : Value × Validator} (hf : f ∈ acc) :
    ∃ g ∈ raw.foldl put acc, g.1 = f.1 := by
  induction raw generalizing acc f with
  | nil => exact ⟨f, hf, rfl⟩
  | cons e rest ih =>
    obtain ⟨g, hg, hgf⟩ := hstays acc e f hf
    obtain ⟨u, hu, hug⟩ := ih hg
    exact ⟨u, hu, hug.trans hgf⟩

/-- If every step moreover adds the key of its entry, or has one that is the same, so do all. -/
theorem exists_sameKey_of_foldl (hstays : ∀ acc e, ∀ f ∈ acc, ∃ g ∈ put acc e, g.1 = f.1)
    (hnew : ∀ acc e, ∃ g ∈ put acc e, g.1 = e.1 ∨ g.1.sameKey e.1 = true)
    {raw acc : List (Value × Validator)} {e : Value × Validator} (he : e ∈ raw) :
    ∃ f ∈ raw.foldl put acc, f.1 = e.1 ∨ f.1.sameKey e.1 = true := by
  induction raw generalizing acc with
  | nil => cases he
  | cons e' rest ih =>
    rcases List.mem_cons.1 he with rfl | he
    · obtain ⟨g, hg, hkey⟩ := hnew acc e
      obtain ⟨f, hf, hfg⟩ := @exists_key_of_foldl put hstays rest _ _ hg
      exact ⟨f, hf, hfg ▸ hkey⟩
    · exact ih he

end Put

/-- Raw fields are put under their keys, or under keys that are the same. -/
theorem exists_mem_addRaw {fields : Table Validator} {raw : List (Value × Validator)}
    {e : Value × Validator} (he : e ∈ raw) :
    ∃ f ∈ addRaw fields raw, f.1 = e.1 ∨ f.1.sameKey e.1 = true := by
  unfold addRaw
  refine exists_sameKey_of_foldl (fun acc e f hf => ?_) (fun acc e => ?_) he
  · split
    · refine ⟨_, List.mem_map.2 ⟨f, hf, rfl⟩, ?_⟩
      split <;> rfl
    · exact ⟨f, List.mem_append_left _ hf, rfl⟩
  · split
    · rename_i hany
      obtain ⟨f, hf, hs⟩ := List.any_eq_true.1 hany
      exact ⟨_, List.mem_map.2 ⟨f, hf, rfl⟩, Or.inr (by rw [if_pos hs]; exact hs)⟩
    · exact ⟨e, List.mem_append_right _ (List.mem_singleton_self e), Or.inl rfl⟩

/-- The fields of a body are always found: they are what the schema of the body has for properties, if
it counts as given. -/
theorem exists_bodyProperties (schemas : Schema.Schemas) (m : Http.Method) (o : Operation) :
    ∃ schema : Option Value, (bodyProperties schemas m o).result
      = .ok (((schema.bind (·.get? "properties")).bind Value.given?).getD (.map [])) := by
  have hresolve : ∃ schema, (Schema.resolve schemas o.bodySchema).result = .ok schema := by
    unfold Schema.resolve
    split
    · exact ⟨none, rfl⟩
    · split
      · exact ⟨_, rfl⟩
      · unfold Schema.lookUp
        split <;> exact ⟨_, rfl⟩
  unfold bodyProperties
  by_cases hm : m = .post
  · obtain ⟨schema, hschema⟩ := hresolve
    rw [if_pos hm]
    exact ⟨schema, Outcome.bind_result_eq_ok.2 ⟨schema, hschema, rfl⟩⟩
  · rw [if_neg hm]
    exact ⟨none, rfl⟩

/-! ### What was compiled is legible -/

theorem legible_of_compileParameter {p : Parameter} {f : String × Validator}
    (h : (compileParameter schemas p).result = .ok f) :
    ∀ n, Schema.Met schemas (p.schema.getD .null) n → Schema.Legible n := by
  obtain ⟨w, hw, _⟩ := Outcome.bind_result_eq_ok.1 h
  exact Schema.legible_of_compileOn hw

/-- The fields of a body are a map if they are compiled: nothing stands for them that does not count
as given. -/
theorem exists_entries_of_compileFields {body : Value} {bodyFields : List (Value × Validator)}
    (hbody : (bodyProperties schemas m o).result = .ok body)
    (h : (Schema.compileFields schemas body).result = .ok bodyFields) :
    ∃ es, body = .map es ∧ ∀ e ∈ es, (∃ f ∈ bodyFields, f.1 = e.1) ∧
      ∀ n, Schema.Met schemas e.2 n → Schema.Legible n := by
  have hgiven : body.isGiven = true ∨ body = .map [] := by
    obtain ⟨schema, hschema⟩ := exists_bodyProperties schemas m o
    cases hbody.symm.trans hschema
    cases hfound : (schema.bind (·.get? "properties")).bind Value.given? with
    | none => exact Or.inr rfl
    | some v =>
      left
      obtain ⟨u, _, hu⟩ := Option.bind_eq_some_iff.1 hfound
      unfold Value.given? at hu
      split at hu
      · cases hu
        assumption
      · cases hu
  unfold Schema.compileFields Schema.stepFields at h
  dsimp only at h
  split at h
  · rename_i es
    refine ⟨es, rfl, fun e he => ?_⟩
    obtain ⟨f, hf, hc⟩ := Schema.exists_mem_of_forall₂ (Outcome.mapM_result_eq_ok_iff.1 h) e he
    obtain ⟨w, hw, hc⟩ := Outcome.bind_result_eq_ok.1 hc
    cases hc
    exact ⟨⟨_, hf, rfl⟩, Schema.legible_of_compileOn hw⟩
  · rename_i hmap
    split at h
    · cases h
    · rename_i hnot
      rcases hgiven with hgiven | rfl
      · exact absurd hgiven hnot
      · exact absurd rfl (hmap [])

/-- **An operation with a tool is legible.** -/
theorem legible_of_ofOperation (h : (ofOperation schemas target path m o).result = .ok t) :
    o.Legible schemas m := by
  obtain ⟨_, body, pf, bf, _, fields, _, hbody, hpf, hbf, _, hf, _⟩ := ofOperation_eq_ok h
  constructor
  · obtain ⟨found, hfound, _⟩ := Outcome.bind_result_eq_ok.1 hpf
    intro p hp
    obtain ⟨f, _, hc⟩ := Schema.exists_mem_of_forall₂ (Outcome.mapM_result_eq_ok_iff.1 hfound) p hp
    exact legible_of_compileParameter hc
  · intro body' hbody'
    cases hbody.symm.trans hbody'
    obtain ⟨es, rfl, hes⟩ := exists_entries_of_compileFields hbody hbf
    refine ⟨es, rfl, fun e he => ?_⟩
    obtain ⟨⟨g, hg, hge⟩, hlegible⟩ := hes e he
    obtain ⟨named, hnamed, _⟩ := Schema.properties_eq_ok_iff.1 hf
    obtain ⟨f, hfm, hkey⟩ := @exists_mem_addRaw pf _ _ hg
    obtain ⟨name, hname⟩ := Schema.nameFields_isFine_iff.1 ⟨named, hnamed⟩ f hfm
    refine ⟨⟨name, ?_⟩, hlegible⟩
    rw [← hge]
    rcases hkey with hkey | hkey
    · rw [← hkey, hname]
    · rw [eq_of_sameKey hname hkey, hname]

/-! ### What is legible is compiled -/

theorem compileParameters_error_of_legible {ps : List Parameter} {f : Failure}
    (hl : ∀ p ∈ ps, ∀ n, Schema.Met schemas (p.schema.getD .null) n → Schema.Legible n)
    (h : (compileParameters schemas ps).result = .error f) : ∃ chain, f = .schemaCycle chain := by
  rcases Outcome.bind_result_eq_error.1 h with h | ⟨_, _, h⟩
  · obtain ⟨front, p, rest, rfl, _, hp⟩ := Outcome.mapM_result_eq_error_iff.1 h
    rcases Outcome.bind_result_eq_error.1 hp with hp | ⟨_, _, hp⟩
    · exact Schema.compileOn_error_of_legible
        (hl p (List.mem_append_right _ List.mem_cons_self)) hp
    · cases hp
  · cases h

theorem compileFields_error_of_legible {es : Entries} {f : Failure}
    (hl : ∀ e ∈ es, ∀ n, Schema.Met schemas e.2 n → Schema.Legible n)
    (h : (Schema.compileFields schemas (.map es)).result = .error f) :
    ∃ chain, f = .schemaCycle chain := by
  obtain ⟨front, e, rest, rfl, _, he⟩ := Outcome.mapM_result_eq_error_iff.1 h
  rcases Outcome.bind_result_eq_error.1 he with he | ⟨_, _, he⟩
  · exact Schema.compileOn_error_of_legible (hl e (List.mem_append_right _ List.mem_cons_self)) he
  · cases he

/-- The surfaces of the backend describe every tool. -/
theorem exists_description {s : Surface} (hs : s = .store ∨ s = .admin)
    (description : Option String) : ∃ text, s.describe description = .ok text := by
  rcases hs with rfl | rfl
  · exact ⟨_, Surface.describe_store description⟩
  · exact ⟨_, Surface.describe_admin description⟩

/-- **An operation that is legible fails in two ways only**: it has no id, or its schemas are
cyclic. -/
theorem ofOperation_error_of_legible (hs : target.surface = .store ∨ target.surface = .admin)
    (hl : o.Legible schemas m) {f : Failure}
    (h : (ofOperation schemas target path m o).result = .error f) :
    f = .missingOperationId path m.name ∨ ∃ chain, f = .schemaCycle chain := by
  rw [ofOperation_eq] at h
  split at h
  · cases h
    exact Or.inl rfl
  right
  unfold ofNamedOperation at h
  rcases Outcome.bind_result_eq_error.1 h with h | ⟨body, hbody, h⟩
  · obtain ⟨_, hbody⟩ := exists_bodyProperties schemas m o
    cases hbody.symm.trans h
  obtain ⟨es, rfl, hes⟩ := hl.body body hbody
  rcases Outcome.bind_result_eq_error.1 h with h | ⟨pf, hpf, h⟩
  · exact compileParameters_error_of_legible hl.parameters h
  rcases Outcome.bind_result_eq_error.1 h with h | ⟨bf, hbf, h⟩
  · exact compileFields_error_of_legible (fun e he => (hes e he).2) h
  obtain ⟨text, htext⟩ := exists_description hs o.description
  rw [htext] at h
  have hkeys : ∀ f ∈ addRaw pf bf, ∃ name, Shape.text f.1 = .fine name := by
    intro f hf
    rcases (parts_of_mem_addRaw hf).1 with ⟨p, _, hk⟩ | ⟨e, he, hk⟩
    · exact ⟨p.1, by rw [hk]; rfl⟩
    · obtain ⟨es', e', hes', he', hee⟩ := exists_bodyField hbf he
      cases hes'
      rw [hk, ← hee]
      exact (hes e' he').1
  obtain ⟨fields, hfields⟩ := Schema.properties_isOk "Tool" "input_schema" hkeys
  rcases Outcome.bind_result_eq_error.1 h with h | ⟨_, _, h⟩
  · cases h
  rcases Outcome.bind_result_eq_error.1 h with h | ⟨_, _, h⟩
  · cases hfields.symm.trans h
  · cases h

/-! ### Documents -/

theorem legible_of_ofDocument {d : Document} {tools : List Tool}
    (h : (ofDocument d target).result = .ok tools) : d.Legible := by
  intro path item m o hp hs
  obtain ⟨found, hfound, _⟩ := Outcome.bind_result_eq_ok.1 h
  obtain ⟨t?, _, ht⟩ := Schema.exists_mem_of_forall₂ (Outcome.mapM_result_eq_ok_iff.1 hfound) _ hp
  rw [ofPath_result_of_selected hs] at ht
  cases ho : (ofOperation d.schemas target path m o).result with
  | error f =>
    rw [ho] at ht
    cases ht
  | ok t => exact legible_of_ofOperation ho

theorem ofDocument_error_of_legible {d : Document}
    (hs : target.surface = .store ∨ target.surface = .admin) (hl : d.Legible) {f : Failure}
    (h : (ofDocument d target).result = .error f) :
    (∃ path method, f = .missingOperationId path method) ∨ ∃ chain, f = .schemaCycle chain := by
  rcases Outcome.bind_result_eq_error.1 h with h | ⟨_, _, h⟩
  swap
  · cases h
  obtain ⟨front, ⟨path, item⟩, rest, hpaths, _, hp⟩ := Outcome.mapM_result_eq_error_iff.1 h
  have hmem : (path, item) ∈ d.paths := hpaths ▸ List.mem_append_right _ List.mem_cons_self
  cases hsel : item.selected? with
  | none =>
    unfold ofPath at hp
    rw [hsel] at hp
    cases hp
  | some selected =>
    obtain ⟨m, o⟩ := selected
    rw [ofPath_result_of_selected hsel] at hp
    cases ho : (ofOperation d.schemas target path m o).result with
    | ok t =>
      rw [ho] at hp
      cases hp
    | error f' =>
      rw [ho] at hp
      cases hp
      rcases ofOperation_error_of_legible hs (hl path item m o hmem hsel) ho with hf | hf
      · exact Or.inl ⟨_, _, hf⟩
      · exact Or.inr hf

/-- **A document whose raw schemas can be read compiles, or fails in one of two ways**: an operation
has no id, or references are cyclic.  And it takes that they can be read: every document that compiles
on a surface of the backend is legible. -/
theorem legible_documents_compile {d : Document}
    (hs : target.surface = .store ∨ target.surface = .admin) :
    (d.Legible → (∃ tools, (ofDocument d target).result = .ok tools) ∨
      (∃ path method, (ofDocument d target).result = .error (.missingOperationId path method)) ∨
      ∃ chain, (ofDocument d target).result = .error (.schemaCycle chain)) ∧
    ∀ tools, (ofDocument d target).result = .ok tools → d.Legible := by
  refine ⟨fun hl => ?_, fun tools => legible_of_ofDocument⟩
  cases h : (ofDocument d target).result with
  | ok tools => exact Or.inl ⟨tools, rfl⟩
  | error f =>
    rcases ofDocument_error_of_legible hs hl h with ⟨path, method, rfl⟩ | ⟨chain, rfl⟩
    · exact Or.inr (Or.inl ⟨path, method, rfl⟩)
    · exact Or.inr (Or.inr ⟨chain, rfl⟩)

/-- The catalog is legible, so no other failure could stop it. -/
theorem catalog_is_legible :
    catalogDocument.Legible ∧
      ((∃ tools, (ofDocument catalogDocument shopTarget).result = .ok tools) ∨
        (∃ path method, (ofDocument catalogDocument shopTarget).result
          = .error (.missingOperationId path method)) ∨
        ∃ chain, (ofDocument catalogDocument shopTarget).result = .error (.schemaCycle chain)) := by
  obtain ⟨hcompiles, hlegible⟩ := @legible_documents_compile shopTarget catalogDocument (Or.inl rfl)
  exact ⟨hlegible _ ofDocument_catalog, hcompiles (hlegible _ ofDocument_catalog)⟩

/-- A schema of objects that lists its properties. -/
def listedSchema : Value :=
  .map [(.text "type", .text "object"), (.text "properties", .list [.text "word"])]

/-- A raw document with one operation, whose parameter has this schema. -/
def listedCatalog : Entries :=
  [(.text "paths", .map [(.text "/items", .map [(.text "get", .map
      [(.text "operationId", .text "list"), (.text "parameters", .list [.map
        [(.text "name", .text "filter"), (.text "in", .text "query"),
          (.text "schema", listedSchema)]])])])])]

/-- The operation of the document. -/
def listedOperation : Operation :=
  ⟨some "list", none, none, [⟨"filter", "query", some listedSchema, none, false⟩], none⟩

/-- The document as it is loaded. -/
def listedDocument : Document := ⟨[("/items", ⟨some listedOperation, none, none⟩)], []⟩

/-- **A list in place of properties cannot be read.**  The document is loaded, and its compilation
fails with neither of the two failures of compilation. -/
theorem listed_properties_cannot_be_read :
    Document.load [] (.value (.map listedCatalog)) = .ok listedDocument ∧
      ∃ f, (ofDocument listedDocument shopTarget).result = .error f ∧
        f.isCompileFailure = false ∧ f.message = "'list' object has no attribute 'items'" := by
  have hview : Schema.view listedSchema = .object (.list []) (.list [.text "word"]) := rfl
  have hschema : (Schema.compile [] listedSchema true).result
      = .error (.raw (.noMember "list" "items")) :=
    congrArg Outcome.result (Schema.compileOn_of_noMap hview fun _ h => nomatch h)
  have hparameters : (compileParameters [] (Parameter.inputs listedOperation.parameters)).result
      = .error (.raw (.noMember "list" "items")) :=
    Outcome.bind_result_eq_error.2 (Or.inl (Outcome.mapM_result_eq_error_iff.2
      ⟨[], _, [], rfl, by simp, Outcome.bind_result_eq_error.2 (Or.inl hschema)⟩))
  have hoperation : (ofOperation [] shopTarget "/items" .get listedOperation).result
      = .error (.raw (.noMember "list" "items")) := by
    rw [ofOperation_eq]
    exact Outcome.bind_result_eq_error.2 (Or.inr ⟨Value.map [], rfl,
      Outcome.bind_result_eq_error.2 (Or.inl hparameters)⟩)
  have hpath : (ofPath [] shopTarget "/items" ⟨some listedOperation, none, none⟩).result
      = .error (.raw (.noMember "list" "items")) := by
    rw [ofPath_result_of_selected rfl, hoperation]
    rfl
  have hdocument : (ofDocument listedDocument shopTarget).result
      = .error (.raw (.noMember "list" "items")) :=
    Outcome.bind_result_eq_error.2 (Or.inl (Outcome.mapM_result_eq_error_iff.2
      ⟨[], _, [], rfl, by simp, hpath⟩))
  exact ⟨rfl, _, hdocument, rfl, rfl⟩

end Tool
end ToolGateway
