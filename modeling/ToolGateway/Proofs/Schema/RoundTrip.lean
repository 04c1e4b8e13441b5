/-
# Published schemas compile back

A compiled validator is published as a schema, and that schema can be compiled in its turn.
Publishing forgets two things: whether a property of any kind was optional, since it may be absent
in either case, and where the schema came from, since all references are gone.  So compiling gives
the validator back in a normal form, in which properties of any kind are optional
(`Validator.relaxed`), and the normal form publishes and accepts the same.

`compileOn_schema` is the main step.  It is an induction over the shape of compiled validators,
since validators that have parts of no use to their kind do not come back.
-/

import ToolGateway.Proofs.Schema.Regular
import ToolGateway.Proofs.Schema.WellShaped
import ToolGateway.Proofs.Validator.Publication

namespace ToolGateway

namespace Validator

/-! ### Published schemas by their keywords -/

/-- What a published schema says of the shape: all but the description. -/
def shapeEntries (w : Validator) : Entries :=
  match w.kind with
  | .any => []
  | .string => [entry "type" (.text "string")]
  | .number => [entry "type" (.text "number")]
  | .boolean => [entry "type" (.text "boolean")]
  | .array => [entry "type" (.text "array"), entry "items" ((w.items.map schema).getD (.map []))]
  | .object =>
    objectEntries (propertySchemas (w.properties.getD [])) (mandatoryNames (w.properties.getD []))

theorem schema_eq (w : Validator) :
    w.schema = .map (w.shapeEntries ++ descriptionEntries w.description) := by
  obtain ⟨kind, optional, description, items, properties⟩ := w
  rw [schema.eq_def]
  cases kind with
  | array => cases items <;> rfl
  | object =>
    cases properties with
    | none => rw [shapeEntries, Option.getD_none, propertySchemas]; rfl
    | some ps => rfl
  | _ => rfl

/-- Only a description has the name of one. -/
theorem get?_shapeEntries_description (w : Validator) :
    Entries.get? w.shapeEntries "description" = none := by
  unfold shapeEntries
  cases w.kind with
  | object => cases mandatoryNames (w.properties.getD []) <;> rfl
  | _ => rfl

/-- Items are published only by an array, and are its own. -/
theorem eq_of_get?_shapeEntries_items {w : Validator} {v : Value}
    (h : Entries.get? w.shapeEntries "items" = some v) :
    v = (w.items.map schema).getD (.map []) := by
  unfold shapeEntries at h
  cases hk : w.kind with
  | array =>
    rw [hk] at h
    cases h
    rfl
  | object =>
    rw [hk] at h
    dsimp only at h
    cases hm : mandatoryNames (w.properties.getD []) <;> rw [hm] at h <;> cases h
  | _ =>
    rw [hk] at h
    cases h

/-- Properties are published only by an object, and are its own. -/
theorem eq_of_get?_shapeEntries_properties {w : Validator} {v : Value}
    (h : Entries.get? w.shapeEntries "properties" = some v) :
    v = .map (propertySchemas (w.properties.getD [])) := by
  unfold shapeEntries at h
  cases hk : w.kind with
  | object =>
    rw [hk] at h
    cases h
    rfl
  | _ =>
    rw [hk] at h
    cases h

/-- No published schema is a reference. -/
theorem get?_shapeEntries_ref (w : Validator) : Entries.get? w.shapeEntries "$ref" = none := by
  unfold shapeEntries
  cases w.kind with
  | object => cases mandatoryNames (w.properties.getD []) <;> rfl
  | _ => rfl

/-- All other keywords are those of the shape. -/
theorem get?_schema (w : Validator) {name : String} (h : name ≠ "description") :
    w.schema.get? name = Entries.get? w.shapeEntries name := by
  rw [schema_eq]
  unfold Value.get?
  dsimp only
  rw [Entries.get?_append, get?_descriptionEntries h, Option.or_none]

/-! ### The normal form -/

mutual

/-- The validator with all properties of any kind optional, at every depth. -/
def relaxed : Validator → Validator
  | ⟨kind, optional, description, items, properties⟩ =>
    ⟨kind, optional, description,
      match items with
      | some item => some item.relaxed
      | none => none,
      match properties with
      | some ps => some (relaxedFields ps)
      | none => none⟩

/-- The same for properties: each of them is optional if it may be absent. -/
def relaxedFields : List (String × Validator) → List (String × Validator)
  | [] => []
  | (name, w) :: rest => (name, { w.relaxed with optional := w.mayBeAbsent }) :: relaxedFields rest

end

theorem relaxed_mk (kind : Kind) (optional : Bool) (description : Option Value)
    (items : Option Validator) (properties : Option (List (String × Validator))) :
    relaxed ⟨kind, optional, description, items, properties⟩
      = ⟨kind, optional, description, items.map relaxed, properties.map relaxedFields⟩ := by
  rw [relaxed.eq_def]
  cases items <;> cases properties <;> rfl

theorem relaxedFields_eq_map (ps : List (String × Validator)) :
    relaxedFields ps = ps.map fun p => (p.1, { p.2.relaxed with optional := p.2.mayBeAbsent }) := by
  induction ps with
  | nil => rw [relaxedFields, List.map_nil]
  | cons p rest ih => rw [relaxedFields, ih, List.map_cons]

theorem names_relaxedFields (ps : List (String × Validator)) :
    Table.names (relaxedFields ps) = Table.names ps := by
  rw [relaxedFields_eq_map]
  simp [Table.names]

@[simp] theorem kind_relaxed (w : Validator) : w.relaxed.kind = w.kind := by
  cases w
  rw [relaxed_mk]

@[simp] theorem optional_relaxed (w : Validator) : w.relaxed.optional = w.optional := by
  cases w
  rw [relaxed_mk]

/-- A flag that is there already changes nothing. -/
theorem withOptional_eq_self {w : Validator} {optional : Bool} (h : w.optional = optional) :
    ({ w with optional } : Validator) = w := by
  cases w
  cases h
  rfl

/-- The flag of a validator is not published with it. -/
theorem schema_withOptional (w : Validator) (optional : Bool) :
    ({ w with optional } : Validator).schema = w.schema := by
  cases w
  rw [schema.eq_def, schema.eq_def]

/-- The flag of a validator says nothing about values. -/
theorem check_withOptional (w : Validator) (optional : Bool) :
    ({ w with optional } : Validator).check = w.check := by
  obtain ⟨kind, optional', description, items, properties⟩ := w
  show check ⟨kind, optional, description, items, properties⟩
    = check ⟨kind, optional', description, items, properties⟩
  funext name v
  cases kind with
  | array => cases items <;> simp only [check]
  | object => cases properties <;> simp only [check]
  | _ => simp only [check]

/-- What may be absent may be absent in the normal form, and nothing else. -/
theorem mayBeAbsent_relaxed (w : Validator) :
    ({ w.relaxed with optional := w.mayBeAbsent } : Validator).mayBeAbsent = w.mayBeAbsent := by
  unfold mayBeAbsent
  dsimp only
  rw [kind_relaxed, Bool.or_assoc, Bool.or_self]

theorem mandatoryNames_relaxedFields (ps : List (String × Validator)) :
    mandatoryNames (relaxedFields ps) = mandatoryNames ps := by
  rw [relaxedFields_eq_map]
  unfold mandatoryNames
  rw [List.filter_map, List.map_map]
  simp only [Function.comp_def, mayBeAbsent_relaxed]

theorem propertySchemas_relaxedFields {ps : List (String × Validator)}
    (h : ∀ p ∈ ps, p.2.relaxed.schema = p.2.schema) :
    propertySchemas (relaxedFields ps) = propertySchemas ps := by
  rw [relaxedFields_eq_map, propertySchemas_eq_map, propertySchemas_eq_map, List.map_map]
  refine List.map_congr_left fun p hp => ?_
  simp only [Function.comp_apply, schema_withOptional, h p hp]

/-- **The normal form publishes the same schema.** -/
theorem schema_relaxed (w : Validator) : w.relaxed.schema = w.schema := by
  induction w using Validator.induct with
  | step w hitem hprop =>
    obtain ⟨kind, optional, description, items, properties⟩ := w
    rw [relaxed_mk, schema.eq_def, schema.eq_def]
    cases kind with
    | array =>
      cases items with
      | none => rfl
      | some item => simp only [Option.map_some, hitem item rfl]
    | object =>
      cases properties with
      | none => rfl
      | some ps =>
        simp only [Option.map_some, propertySchemas_relaxedFields (hprop ps rfl),
          mandatoryNames_relaxedFields]
    | _ => rfl

theorem checkFields_relaxedFields {ps : List (String × Validator)}
    (h : ∀ p ∈ ps, p.2.relaxed.check = p.2.check) (name : String) (es : Entries) :
    checkFields (relaxedFields ps) name es = checkFields ps name es := by
  induction ps with
  | nil => rw [relaxedFields]
  | cons p rest ih =>
    obtain ⟨key, w⟩ := p
    rw [List.forall_mem_cons] at h
    rw [relaxedFields, checkFields, checkFields, ih h.2, check_withOptional, h.1,
      mayBeAbsent_relaxed]

/-- **The normal form checks every value alike.** -/
theorem check_relaxed (w : Validator) : w.relaxed.check = w.check := by
  induction w using Validator.induct with
  | step w hitem hprop =>
    obtain ⟨kind, optional, description, items, properties⟩ := w
    funext name v
    rw [relaxed_mk]
    cases kind with
    | array =>
      cases items with
      | none => simp only [Option.map_none, check]
      | some item => simp only [Option.map_some, check, hitem item rfl]
    | object =>
      cases properties with
      | none => simp only [Option.map_none, check]
      | some ps => simp only [Option.map_some, check, checkFields_relaxedFields (hprop ps rfl)]
    | _ => simp only [check]

end Validator

namespace Schema

open Validator

/-! ### The view of a published schema -/

/-- The keywords that the view of a schema depends on. -/
def viewed : List String := ["$ref", "type", "items", "required", "properties"]

/-- Entries that have the same under these keywords are viewed alike. -/
theorem view_congr {es fs : Entries}
    (h : ∀ name ∈ viewed, Entries.get? es name = Entries.get? fs name) :
    view (.map es) = view (.map fs) := by
  unfold viewed at h
  simp only [List.forall_mem_cons] at h
  obtain ⟨href, htype, hitems, hrequired, hproperties, _⟩ := h
  simp only [view, refOf?, viewShape, keyword, Value.get?, href, htype, hitems, hrequired,
    hproperties]

/-- A published schema is viewed by its shape. -/
theorem view_schema (w : Validator) : view w.schema = view (.map w.shapeEntries) := by
  have hget : ∀ name ∈ viewed, Entries.get? (w.shapeEntries ++ descriptionEntries w.description)
      name = Entries.get? w.shapeEntries name := by
    intro name hn
    have hne : name ≠ "description" := by
      rintro rfl
      revert hn
      decide
    rw [Entries.get?_append, get?_descriptionEntries hne, Option.or_none]
  rw [schema_eq, view_congr hget]

/-- A description that is given is found again. -/
theorem description?_schema {w : Validator} (h : ∀ d, w.description = some d → d.isGiven = true) :
    description? w.schema = w.description := by
  rw [schema_eq]
  unfold description? Value.get?
  dsimp only
  rw [Entries.get?_append, get?_shapeEntries_description, Option.none_or]
  cases hd : w.description with
  | none => rfl
  | some d => simp [descriptionEntries, h d hd, entry, Entries.get?, Value.given?]

/-- The schema of an object says which names are mandatory and which properties there are. -/
theorem view_objectEntries (schemas : Entries) (mandatory : List String) :
    view (.map (objectEntries schemas mandatory))
      = .object (.list (mandatory.map .text)) (.map schemas) := by
  rw [view_eq_object_iff]
  refine ⟨_, rfl, ?_, ?_, ?_, ?_⟩
  · cases mandatory <;> rfl
  · cases mandatory <;> rfl
  · cases mandatory <;> rfl
  · cases schemas <;> cases mandatory <;> rfl

/-! ### Compiling a published schema -/

/-- A published list holds the names of the properties that may not be absent. -/
theorem holds_mandatoryNames {ps : List (String × Validator)} (hn : (Table.names ps).Nodup)
    {p : String × Validator} (hp : p ∈ ps) :
    (Value.list ((mandatoryNames ps).map .text)).holds (.text p.1)
      = .ok (!p.2.mayBeAbsent) := by
  rw [Value.holds_list_text, Except.ok.injEq, Bool.eq_iff_iff, List.any_eq_true]
  have hmem : p.1 ∈ mandatoryNames ps ↔ p.2.mayBeAbsent = false := by
    rw [mem_mandatoryNames]
    constructor
    · rintro ⟨w, hw, ha⟩
      cases (Table.get?_of_mem hn hw).symm.trans (Table.get?_of_mem hn hp)
      exact ha
    · exact fun ha => ⟨p.2, hp, ha⟩
  rw [Bool.not_eq_true', ← hmem]
  constructor
  · rintro ⟨x, hx, hs⟩
    obtain rfl := Value.sameKey_text hs
    obtain ⟨name, hm, hname⟩ := List.mem_map.1 hx
    cases hname
    exact hm
  · exact fun hm => ⟨_, List.mem_map.2 ⟨p.1, hm, rfl⟩, by simp [Value.sameKey]⟩

/-- Published properties are compiled to their normal forms, if each of them is. -/
theorem compileEntries_propertySchemas {schemas : Schemas} {stack : List String}
    {required : Value} {ps : List (String × Validator)}
    (hr : ∀ p ∈ ps, required.holds (.text p.1) = .ok (!p.2.mayBeAbsent))
    (hc : ∀ p ∈ ps, ∀ optional, compileOn schemas stack p.2.schema optional
      = pure { p.2.relaxed with optional }) :
    compileEntries schemas stack required (propertySchemas ps)
      = pure (Table.keyed (relaxedFields ps)) := by
  induction ps with
  | nil =>
    rw [propertySchemas, compileEntries_nil, relaxedFields]
    rfl
  | cons p rest ih =>
    obtain ⟨name, w⟩ := p
    rw [List.forall_mem_cons] at hr hc
    have hlisted : Outcome.ofExcept ((required.holds (.text name)).mapError Failure.raw)
        = pure (!w.mayBeAbsent) := by
      rw [hr.1]
      rfl
    rw [propertySchemas, entry, compileEntries_cons, hlisted, pure_bind, hc.1, pure_bind,
      ih hr.2 hc.2, pure_bind, relaxedFields, Bool.not_not]
    rfl

/-- **A published schema is compiled to the normal form**, with every table and below every
stack. -/
theorem compileOn_schema {w : Validator} (hw : w.WellShaped) (schemas : Schemas)
    (stack : List String) (optional : Bool) :
    compileOn schemas stack w.schema optional = pure { w.relaxed with optional } := by
  induction hw generalizing optional with
  | @plain kind flag description ha ho hd =>
    have hv : view (schema ⟨kind, flag, description, none, none⟩) = .plain kind := by
      rw [view_schema]
      cases kind with
      | array => exact absurd rfl ha
      | object => exact absurd rfl ho
      | _ => rfl
    rw [compileOn_of_plain hv, description?_schema hd, relaxed_mk]
    rfl
  | @array flag description item hd hflag hw ih =>
    have hv : view (schema ⟨.array, flag, description, some item, none⟩) = .array item.schema :=
      view_schema _
    have hitem := withOptional_eq_self ((optional_relaxed item).trans hflag)
    rw [compileOn_of_array hv, ih, pure_bind, description?_schema hd, relaxed_mk, hitem]
    rfl
  | @object flag description ps hd hn _ ih =>
    have hv : view (schema ⟨.object, flag, description, none, some ps⟩)
        = .object (.list ((mandatoryNames ps).map .text)) (.map (propertySchemas ps)) :=
      (view_schema _).trans (view_objectEntries _ _)
    rw [compileOn_of_object hv,
      compileEntries_propertySchemas (fun p hp => holds_mandatoryNames hn hp) ih, pure_bind,
      properties_keyed ((names_relaxedFields ps).symm ▸ hn), pure_bind, description?_schema hd,
      relaxed_mk]
    rfl

/-! ### References -/

/-- A schema and the schemas that stand in it: its items, the values of its properties, and what
stands in those. -/
inductive StandsIn (m : Value) : Value → Prop
  | self : StandsIn m m
  | items {node items : Value} : node.get? "items" = some items → StandsIn m items →
      StandsIn m node
  | property {node key sub : Value} {ps : Entries} : node.get? "properties" = some (.map ps) →
      (key, sub) ∈ ps → StandsIn m sub → StandsIn m node

/-- Nothing stands in the schema without keywords but itself. -/
theorem eq_of_standsIn_empty {m : Value} (h : StandsIn m (.map [])) : m = .map [] := by
  cases h with
  | self => rfl
  | items hi => cases hi
  | property hp => cases hp

/-- **In a published schema there is no reference**, wherever a schema stands. -/
theorem get?_ref_of_standsIn (w : Validator) :
    ∀ m, StandsIn m w.schema → m.get? "$ref" = none := by
  induction w using Validator.induct with
  | step w hitem hprop =>
    intro m hm
    cases hm with
    | self =>
      rw [get?_schema w (by decide)]
      exact get?_shapeEntries_ref w
    | @items _ items hi hm =>
      rw [get?_schema w (by decide)] at hi
      obtain rfl := eq_of_get?_shapeEntries_items hi
      cases hitems : w.items with
      | none =>
        rw [hitems] at hm
        rw [eq_of_standsIn_empty hm]
        rfl
      | some item =>
        rw [hitems] at hm
        exact hitem item hitems m hm
    | @property _ key sub ps hp he hm =>
      rw [get?_schema w (by decide)] at hp
      cases eq_of_get?_shapeEntries_properties hp
      rw [propertySchemas_eq_map] at he
      obtain ⟨p, hpm, hsub⟩ := List.mem_map.1 he
      cases hsub
      cases hps : w.properties with
      | none =>
        rw [hps] at hpm
        cases hpm
      | some fields =>
        rw [hps] at hpm
        exact hprop fields hps p hpm m hm

/-! ### The theorem -/

/-- **Publishing and compiling undo each other.**  The schema that is published for a compiled
validator holds no reference.  Compiled again, without a table and with the flag of the validator,
it gives the validator itself, but that properties of any kind are optional; and what it gives
publishes the same schema and checks every value alike. -/
theorem published_schemas_compile_back {schemas : Schemas} {node : Value} {optional : Bool}
    {w : Validator} (h : (compile schemas node optional).result = .ok w) :
    (∀ m, StandsIn m w.schema → m.get? "$ref" = none) ∧
      compile [] w.schema w.optional = pure w.relaxed ∧ w.relaxed.schema = w.schema ∧
      ∀ name v, w.relaxed.check name v = w.check name v := by
  have hback := compileOn_schema (Yields.wellShaped ⟨[], h⟩) [] [] w.optional
  rw [withOptional_eq_self (optional_relaxed w)] at hback
  refine ⟨get?_ref_of_standsIn w, hback, schema_relaxed w, fun name v => ?_⟩
  rw [check_relaxed]

/-- A table in which notes are referred to. -/
def noteSchemas : Schemas :=
  [("Note", .map [(.text "type", .text "string"), (.text "description", .text "A note.")])]

/-- An object that must have notes and an author, of whom nothing else is said. -/
def notedSchema : Value :=
  .map [(.text "type", .text "object"),
    (.text "required", .list [.text "notes", .text "author"]),
    (.text "properties", .map [
      (.text "notes", .map [(.text "type", .text "array"),
        (.text "items", .map [(.text "$ref", .text "Note")])]),
      (.text "author", .map [])])]

/-- What it is compiled to. -/
def notedValidator (authorOptional : Bool) : Validator :=
  ⟨.object, true, none, none, some [
    ("notes", ⟨.array, false, none, some ⟨.string, false, some (.text "A note."), none, none⟩,
      none⟩),
    ("author", .any authorOptional)]⟩

theorem compile_notedSchema :
    (compile noteSchemas notedSchema true).result = .ok (notedValidator false) := by
  let note : Value := .map [(.text "type", .text "string"), (.text "description", .text "A note.")]
  let ref : Value := .map [(.text "$ref", .text "Note")]
  let notes : Value := .map [(.text "type", .text "array"), (.text "items", ref)]
  have hnote : compileOn noteSchemas [] ref false
      = pure ⟨.string, false, some (.text "A note."), none, none⟩ := by
    rw [compileOn_of_target (show view ref = .reference "Note" from rfl) (by decide)
      (show target? noteSchemas "Note" = some note from rfl),
      compileOn_of_plain (show view note = .plain .string from rfl)]
    rfl
  have hnotes : compileOn noteSchemas [] notes false = pure ⟨.array, false, none,
      some ⟨.string, false, some (.text "A note."), none, none⟩, none⟩ := by
    rw [compileOn_of_array (show view notes = .array ref from rfl), hnote]
    rfl
  have hauthor : compileOn noteSchemas [] (.map []) false = pure (Validator.any false) :=
    compileOn_of_plain rfl
  unfold compile
  rw [compileOn_of_object (show view notedSchema = .object
    (.list [.text "notes", .text "author"])
    (.map [(.text "notes", notes), (.text "author", .map [])]) from rfl)]
  refine Outcome.bind_result_eq_ok.2 ⟨[(.text "notes", _), (.text "author", _)],
    compileEntries_eq_ok_iff.2 (.cons ⟨rfl, true, rfl, ?_⟩ (.cons ⟨rfl, true, rfl, ?_⟩ .nil)), rfl⟩
  · exact congrArg Outcome.result hnotes
  · exact congrArg Outcome.result hauthor

/-- Compiled back, the author has become optional, and the note has kept its description without the
reference. -/
theorem notedSchema_compiles_back :
    (compile noteSchemas notedSchema true).result = .ok (notedValidator false) ∧
      compile [] (notedValidator false).schema true = pure (notedValidator true) ∧
      (notedValidator true).schema = (notedValidator false).schema := by
  obtain ⟨_, hback, hschema, _⟩ := published_schemas_compile_back compile_notedSchema
  exact ⟨compile_notedSchema, hback, hschema⟩

end Schema
end ToolGateway
