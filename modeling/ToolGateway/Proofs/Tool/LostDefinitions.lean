/-
# Tools whose definitions are lost

When definitions are lost from a document, every tool of it stays (`follows_ofDocument`), and its
fields let through at least as much as before.  Its calls need not: the fields of a body are read
where its reference leads to, so they are lost with the definition, and a parameter that one of them
stood over is checked by its own schema again.  `degradation_is_permissive` excepts these operations,
and `lost_body_uncovers_parameter` is one of them.
-/

import ToolGateway.Proofs.Schema.LostDefinitions
import ToolGateway.Proofs.Tool.BodyFields
import ToolGateway.Proofs.Tool.PathByPath
import ToolGateway.Proofs.Tool.SameName
import ToolGateway.Proofs.Tool.Twins

namespace ToolGateway

open Outcome (Follows)

/-- The definition that the schema of the body refers to is lost. -/
def Operation.LosesBody (schemas schemas' : Schema.Schemas) (o : Operation) : Prop :=
  ∃ ref target, Schema.refOf? o.bodySchema = some ref ∧
    Schema.target? schemas' ref = some target ∧ Schema.target? schemas ref = none

/-- A field of the body has the name of a parameter, and so stands over it. -/
def Operation.Overrides (schemas : Schema.Schemas) (m : Http.Method) (o : Operation) : Prop :=
  ∃ es e p, (Tool.bodyProperties schemas m o).result = .ok (.map es) ∧ e ∈ es ∧
    p ∈ Parameter.inputs o.parameters ∧ Shape.text e.1 = .fine p.name

namespace Validator

theorem accepts_withDescription (w : Validator) (description : Option Value) (name : String)
    (v : Value) : Accepts { w with description } name v ↔ w.Accepts name v :=
  (accepts_iff _ name v).trans (accepts_iff w name v).symm

theorem Within.withDescription {w w' : Validator} (h : w.Within w') (d d' : Option Value) :
    Within { w with description := d } { w' with description := d' } where
  accepts name v hv :=
    (accepts_withDescription w' d' name v).2
      (h.accepts name v ((accepts_withDescription w d name v).1 hv))
  absent := h.absent

end Validator

namespace Tool

variable {schemas schemas' : Schema.Schemas} {target : Target} {path : String} {m : Http.Method}
  {o : Operation} {t t' : Tool}

/-! ### Tools that let through more -/

/-- The second tool accepts every call that the first one accepts. -/
def Within (t t' : Tool) : Prop :=
  ∀ arguments args, t.validate arguments = .ok args → ∃ args', t'.validate arguments = .ok args'

theorem exists_validate_iff {arguments : Value} :
    (∃ args, t.validate arguments = .ok args) ↔ (t.checkArguments arguments).IsFine := by
  unfold validate
  cases t.checkArguments arguments <;> simp

/-- A tool lets through more if its fields are twins of some fields of the other one that do. -/
theorem within_of_fields (hname : t'.name = t.name)
    (h : ∀ p' ∈ t'.fields, ∃ p ∈ t.fields, Table.Twin Validator.Within p p') : t.Within t' := by
  have hfields : ∀ es, (Validator.checkFields t.fields t.argumentsName es).IsFine →
      (Validator.checkFields t'.fields t'.argumentsName es).IsFine := by
    intro es hes
    have hplace : t'.argumentsName = t.argumentsName := congrArg (· ++ "Args") hname
    rw [hplace, Validator.isFine_checkFields]
    exact Validator.fieldFits_of_forall h (Validator.isFine_checkFields.1 hes)
  intro arguments args hv
  refine exists_validate_iff.2 ?_
  have hfine := exists_validate_iff.1 ⟨args, hv⟩
  unfold checkArguments at hfine ⊢
  split at hfine
  · rename_i hgiven
    rw [if_pos hgiven]
    split at hfine
    · exact hfields _ hfine
    · exact absurd hfine (Checked.not_isFine_issue _ _)
  · rename_i hgiven
    rw [if_neg hgiven]
    exact hfields _ hfine

/-! ### The parts of a tool -/

theorem follows_compileParameter (h : schemas.Within schemas') (p : Parameter) :
    Follows (Table.Twin Validator.Within) (compileParameter schemas' p)
      (compileParameter schemas p) := by
  have hdescribed : ∀ (w : Validator) (own : Option Value),
      (if w.description.isNone then { w with description := own } else w)
        = { w with description := w.description.or own } := by
    rintro ⟨_, _, description, _, _⟩ own
    cases description <;> rfl
  unfold compileParameter Schema.compile
  refine (Schema.follows_compileOn h [] _ true).bind fun w' w hw => .pure ⟨rfl, ?_⟩
  dsimp only
  rw [hdescribed, hdescribed]
  exact hw.withDescription _ _

theorem follows_compileParameters (h : schemas.Within schemas') (ps : List Parameter) :
    Follows (List.Forall₂ (Table.Twin Validator.Within)) (compileParameters schemas' ps)
      (compileParameters schemas ps) := by
  unfold compileParameters
  refine Follows.bind (Follows.lifting.mapM (List.forall₂_same.2 fun p _ => ?_))
    fun _ _ hws => .pure (Table.forall₂_ofList hws)
  exact follows_compileParameter h p

theorem follows_compileFields (h : schemas.Within schemas') (body : Value) :
    Follows (List.Forall₂ (Schema.KeyTwin Validator.Within)) (Schema.compileFields schemas' body)
      (Schema.compileFields schemas body) := by
  unfold Schema.compileFields Schema.stepFields
  dsimp only
  split
  · refine Follows.lifting.mapM (List.forall₂_same.2 fun e _ => ?_)
    exact (Schema.follows_compileOn h [] e.2 true).bind fun _ _ hw => .pure ⟨rfl, hw⟩
  · split
    · exact .of_error rfl _
    · exact .pure .nil

/-- Where a key is put depends on the keys alone. -/
theorem forall₂_addRaw {fields fields' : Table Validator} {raw raw' : List (Value × Validator)}
    (hfields : List.Forall₂ (Table.Twin Validator.Within) fields fields')
    (hraw : List.Forall₂ (Schema.KeyTwin Validator.Within) raw raw') :
    List.Forall₂ (Schema.KeyTwin Validator.Within) (addRaw fields raw) (addRaw fields' raw') := by
  have hkeyed : List.Forall₂ (Schema.KeyTwin Validator.Within) fields.keyed fields'.keyed :=
    List.forall₂_map_left_iff.2 (List.forall₂_map_right_iff.2
      (hfields.imp fun _ _ h => ⟨congrArg Value.text h.1, h.2⟩))
  unfold addRaw
  show List.Forall₂ _ (raw.foldl _ fields.keyed) (raw'.foldl _ fields'.keyed)
  generalize fields.keyed = acc at hkeyed
  generalize fields'.keyed = acc' at hkeyed
  induction hraw generalizing acc acc' with
  | nil => exact hkeyed
  | @cons e e' _ _ he _ ih =>
    obtain ⟨k, w⟩ := e
    obtain ⟨k', w'⟩ := e'
    obtain ⟨rfl, hw⟩ := he
    have hany : acc'.any (fun f => f.1.sameKey k') = acc.any fun f => f.1.sameKey k' := by
      clear ih
      induction hkeyed with
      | nil => rfl
      | cons hf _ ih => rw [List.any_cons, List.any_cons, hf.1, ih]
    refine ih _ _ ?_
    dsimp only
    rw [hany]
    split
    · refine List.forall₂_map_left_iff.2 (List.forall₂_map_right_iff.2
        (hkeyed.imp fun f f' hf => ?_))
      rw [hf.1]
      split
      · exact ⟨rfl, hw⟩
      · exact hf
    · exact List.rel_append hkeyed (.cons ⟨rfl, hw⟩ .nil)

/-- The fields of a body are kept, unless the definition of its schema is lost; then there are
none. -/
theorem bodyProperties_of_within (h : schemas.Within schemas') (m : Http.Method) (o : Operation) :
    bodyProperties schemas m o = bodyProperties schemas' m o ∨
      o.LosesBody schemas schemas' ∧ (bodyProperties schemas m o).result = .ok (.map []) := by
  unfold bodyProperties
  by_cases hm : m = .post
  swap
  · rw [if_neg hm, if_neg hm]
    exact Or.inl rfl
  rw [if_pos hm, if_pos hm]
  by_cases hnull : o.bodySchema = .null
  · rw [hnull]
    exact Or.inl rfl
  rw [Schema.resolve_of_ne_null hnull, Schema.resolve_of_ne_null hnull]
  cases href : Schema.refOf? o.bodySchema with
  | none => exact Or.inl rfl
  | some ref =>
    dsimp only
    unfold Schema.lookUp
    cases hleft : Schema.target? schemas ref with
    | some target => exact Or.inl (by rw [Schema.target?_of_within h hleft])
    | none =>
      cases hwhole : Schema.target? schemas' ref with
      | none => exact Or.inl rfl
      | some target => exact Or.inr ⟨⟨ref, target, href, hwhole, hleft⟩, rfl⟩

/-! ### Tools -/

/-- What becomes of the tool of an operation when definitions are lost: it keeps its name, and it
accepts every call that it accepted, unless the fields of its body are lost and one of them stood over
a parameter. -/
structure Degrades (schemas schemas' : Schema.Schemas) (m : Http.Method) (o : Operation)
    (t' t : Tool) : Prop where
  name_eq : t.name = t'.name
  within : ¬ (o.LosesBody schemas schemas' ∧ o.Overrides schemas' m) → t'.Within t

theorem follows_ofOperation (h : schemas.Within schemas') (target : Target) (path : String)
    (m : Http.Method) (o : Operation) :
    Follows (Degrades schemas schemas' m o) (ofOperation schemas' target path m o)
      (ofOperation schemas target path m o) := by
  intro t' ht'
  obtain ⟨id, body, pf', bf', description, fields', hid, hbody, hpf', hbf', hdescription, hf', he⟩ :=
    ofOperation_eq_ok ht'
  obtain ⟨pf, hpf, hparameters⟩ := follows_compileParameters h _ pf' hpf'
  rcases bodyProperties_of_within h m o with hkept | ⟨hlost, hnone⟩
  · obtain ⟨bf, hbf, hbodies⟩ := follows_compileFields h body bf' hbf'
    obtain ⟨fields, hf, htwins⟩ :=
      Schema.follows_properties (forall₂_addRaw hparameters hbodies) _ _ fields' hf'
    refine ⟨_, ofOperation_result_of_parts hid (hkept ▸ hbody) hpf hbf hdescription hf, ?_⟩
    subst he
    exact ⟨rfl, fun _ => within_of_fields rfl (Schema.exists_mem_of_forall₂ htwins.flip)⟩
  · -- without the fields of the body those of the parameters are left
    refine ⟨_, ofOperation_result_of_parts hid hnone hpf rfl hdescription (congrArg Outcome.result
      (Schema.properties_keyed (nodup_names_of_compileParameters hpf))), by rw [he], fun hover => ?_⟩
    refine within_of_fields (by rw [he]) fun p hp => ?_
    obtain ⟨p', hp', hname, hw⟩ := Schema.exists_mem_of_forall₂ hparameters.flip p hp
    refine ⟨p', Table.mem_of_get? ?_, hname, hw⟩
    refine get?_fields_of_not_mem_body ht' hbody ?_ hpf'
      (Table.get?_of_mem (nodup_names_of_compileParameters hpf') hp')
    rintro es rfl e hes hkey
    obtain ⟨q, hq, hqname⟩ := exists_parameter hpf' (List.mem_map.2 ⟨p', hp', rfl⟩)
    exact hover ⟨hlost, es, e, q, hbody, hes, hq, hqname ▸ hkey⟩

/-- The two tools are those of one operation, with all definitions and with those that are left. -/
def OfOneOperation (paths : Table PathItem) (schemas schemas' : Schema.Schemas) (target : Target)
    (t' t : Tool) : Prop :=
  ∃ path item m o, (path, item) ∈ paths ∧ item.selected? = some (m, o) ∧
    (ofOperation schemas' target path m o).result = .ok t' ∧
    (ofOperation schemas target path m o).result = .ok t ∧ Degrades schemas schemas' m o t' t

theorem follows_ofPath (h : schemas.Within schemas') (target : Target) {paths : Table PathItem}
    {p : String × PathItem} (hp : p ∈ paths) :
    Follows (Option.Rel (OfOneOperation paths schemas schemas' target))
      (ofPath schemas' target p.1 p.2) (ofPath schemas target p.1 p.2) := by
  cases hs : p.2.selected? with
  | none =>
    unfold ofPath
    rw [hs]
    exact .bind_congr fun _ => .pure .none
  | some selected =>
    obtain ⟨m, o⟩ := selected
    intro found hfound
    rw [ofPath_result_of_selected hs] at hfound ⊢
    cases ht' : (ofOperation schemas' target p.1 m o).result with
    | error f =>
      rw [ht'] at hfound
      cases hfound
    | ok t' =>
      rw [ht'] at hfound
      cases hfound
      obtain ⟨t, ht, hdegrades⟩ := follows_ofOperation h target p.1 m o t' ht'
      exact ⟨some t, by rw [ht]; rfl, .some ⟨p.1, p.2, m, o, hp, hs, ht', ht, hdegrades⟩⟩

theorem follows_ofDocument (h : schemas.Within schemas') (paths : Table PathItem)
    (target : Target) :
    Follows (List.Forall₂ (OfOneOperation paths schemas schemas' target))
      (ofDocument ⟨paths, schemas'⟩ target) (ofDocument ⟨paths, schemas⟩ target) := by
  unfold ofDocument
  refine Follows.bind (Follows.lifting.mapM (List.forall₂_same.2 fun p hp => ?_))
    fun _ _ hts => .pure (forall₂_filterMap hts)
  exact follows_ofPath h target hp

/-- **Lost definitions are no errors.**  Let definitions be removed from a table of schemas.  Every
schema that was compiled is still compiled, and every value that its validator accepted is still
accepted.  Every operation that had a tool still has one, of the same name, which accepts every call
that was accepted, except where the body refers to a definition that is lost and has a field of the
name of a parameter.  And a document that was compiled is still compiled, operation by operation. -/
theorem degradation_is_permissive {schemas schemas' : Schema.Schemas}
    (h : schemas.Within schemas') :
    (∀ node optional w', (Schema.compile schemas' node optional).result = .ok w' →
      ∃ w, (Schema.compile schemas node optional).result = .ok w ∧
        ∀ name v, w'.Accepts name v → w.Accepts name v) ∧
    (∀ target path m o t', (ofOperation schemas' target path m o).result = .ok t' →
      ∃ t, (ofOperation schemas target path m o).result = .ok t ∧
        Degrades schemas schemas' m o t' t) ∧
    ∀ paths target tools', (ofDocument ⟨paths, schemas'⟩ target).result = .ok tools' →
      ∃ tools, (ofDocument ⟨paths, schemas⟩ target).result = .ok tools ∧
        List.Forall₂ (OfOneOperation paths schemas schemas' target) tools' tools := by
  refine ⟨fun node optional w' hw' => ?_, fun target path m o => follows_ofOperation h target path m o,
    fun paths target => follows_ofDocument h paths target⟩
  obtain ⟨w, hw, hwithin⟩ := Schema.follows_compileOn h [] node optional w' hw'
  exact ⟨w, hw, hwithin.accepts⟩

/-! ### Notes -/

/-- The schema of a note: an object with a word. -/
def noteSchema : Value :=
  .map [(.text "type", .text "object"), (.text "properties", .map [(.text "word", refTo "Word")])]

/-- Notes, and the words in them. -/
def noteSchemas : Schema.Schemas := [("Note", noteSchema), ("Word", textSchema)]

/-- An operation with a body that is referred to.  A parameter has the name of a field of the body,
and is a number. -/
def noteOperation : Operation :=
  ⟨some "add_note", none, none, [⟨"word", "query", some integerSchema, none, false⟩],
    some (.ofTable [("content", .ofTable [("application/json", .ofTable
      [("schema", refTo "Note")])])])⟩

/-- The paths of a document with this operation. -/
def notePaths : Table PathItem := [("/notes", ⟨none, some noteOperation, none⟩)]

/-- The tool of the operation, with its fields and those of the body. -/
def noteTool (body : Value) (fields : Table Validator) : Tool :=
  ⟨"add_note", "", fields, handlerOf shopTarget ⟨.post, routerOf "/notes" noteOperation body⟩,
    some .post, some "/notes", some "store"⟩

theorem ofDocument_note {schemas : Schema.Schemas} {body : Value}
    {bodyFields : List (Value × Validator)} {fields : Table Validator}
    (hbody : (bodyProperties schemas .post noteOperation).result = .ok body)
    (hcompiled : (Schema.compileFields schemas body).result = .ok bodyFields)
    (hfields : (Schema.properties "Tool" "input_schema"
      (addRaw [("word", plainValidator .number)] bodyFields)).result = .ok fields) :
    (ofDocument ⟨notePaths, schemas⟩ shopTarget).result = .ok [noteTool body fields] := by
  have hparams : (compileParameters schemas (Parameter.inputs noteOperation.parameters)).result
      = .ok [("word", plainValidator .number)] := by
    unfold compileParameters
    refine Outcome.bind_result_eq_ok.2 ⟨[("word", plainValidator .number)],
      Outcome.mapM_result_eq_ok_iff.2 (.cons ?_ .nil), rfl⟩
    rw [compileParameter_plain (show _ = some integerSchema from rfl) rfl rfl rfl]
    rfl
  have htool : (ofOperation schemas shopTarget "/notes" .post noteOperation).result
      = .ok (noteTool body fields) :=
    ofOperation_result_of_parts rfl hbody hparams hcompiled describe_store_none hfields
  refine Outcome.bind_result_eq_ok.2
    ⟨[some _], Outcome.mapM_result_eq_ok_iff.2 (.cons ?_ .nil), rfl⟩
  rw [ofPath_result_of_selected rfl, htool]
  rfl

/-- The fields of notes are compiled by what is known of words. -/
theorem compileFields_note {schemas : Schema.Schemas} {w : Validator}
    (hword : (Schema.compile schemas (refTo "Word") true).result = .ok w) :
    (Schema.compileFields schemas (.map [(.text "word", refTo "Word")])).result
      = .ok [(.text "word", w)] :=
  Outcome.mapM_result_eq_ok_iff.2 (.cons (Outcome.bind_result_eq_ok.2 ⟨w, hword, rfl⟩) .nil)

theorem compile_word :
    (Schema.compile noteSchemas (refTo "Word") true).result = .ok (plainValidator .string) := by
  unfold Schema.compile
  rw [Schema.compileOn_of_target (show Schema.view (refTo "Word") = .reference "Word" from rfl)
    List.not_mem_nil (show Schema.target? noteSchemas "Word" = some textSchema from rfl),
    Schema.compileOn_of_plain rfl]
  rfl

/-- While all is known, the word of a note is a text. -/
theorem ofDocument_noteSchemas :
    (ofDocument ⟨notePaths, noteSchemas⟩ shopTarget).result
      = .ok [noteTool (.map [(.text "word", refTo "Word")]) [("word", plainValidator .string)]] :=
  ofDocument_note rfl (compileFields_note compile_word) rfl

/-- When the definition of words is lost, the tool stays and accepts what it accepted. -/
theorem words_are_lost :
    Table.Within [("Note", noteSchema)] noteSchemas ∧
      ∃ t, (ofDocument ⟨notePaths, [("Note", noteSchema)]⟩ shopTarget).result = .ok [t] ∧
        OfOneOperation notePaths [("Note", noteSchema)] noteSchemas shopTarget
          (noteTool (.map [(.text "word", refTo "Word")]) [("word", plainValidator .string)]) t := by
  have hwithin : Table.Within [("Note", noteSchema)] noteSchemas :=
    Table.within_of_sublist (.cons_cons _ (.cons _ .slnil)) (by decide)
  obtain ⟨tools, htools, hdegrades⟩ :=
    (degradation_is_permissive hwithin).2.2 notePaths shopTarget _ ofDocument_noteSchemas
  obtain ⟨t, rest, ht, hrest, rfl⟩ := List.forall₂_cons_left_iff.1 hdegrades
  cases hrest
  exact ⟨hwithin, t, htools, ht⟩

/-- **A lost body uncovers a parameter.**  When the definition of notes is lost, the word of a note is
no field of the body any more, and the number that the query takes under its name is asked for: a call
that was accepted is refused. -/
theorem lost_body_uncovers_parameter :
    ∃ t' t, Table.Within [("Word", textSchema)] noteSchemas ∧
      (ofDocument ⟨notePaths, noteSchemas⟩ shopTarget).result = .ok [t'] ∧
      (ofDocument ⟨notePaths, [("Word", textSchema)]⟩ shopTarget).result = .ok [t] ∧
      t'.validate (.map [(.text "word", .text "tea")]) = .ok [("word", .text "tea")] ∧
      ∃ f, t.validate (.map [(.text "word", .text "tea")]) = .error f := by
  have hnone : (bodyProperties [("Word", textSchema)] .post noteOperation).result
      = .ok (.map []) := rfl
  have hcompiled : (Schema.compileFields [("Word", textSchema)] (.map [])).result = .ok [] := rfl
  have hleft : (ofDocument ⟨notePaths, [("Word", textSchema)]⟩ shopTarget).result
      = .ok [noteTool (.map []) [("word", plainValidator .number)]] :=
    ofDocument_note hnone hcompiled rfl
  exact ⟨_, _, Table.within_of_sublist (.cons _ (.cons_cons _ .slnil)) (by decide),
    ofDocument_noteSchemas, hleft, rfl, _, rfl⟩

end Tool
end ToolGateway
