/-
# A published schema says what is accepted

The schema that is published for a validator and the check of a value are two recursions over the
validator.  `conforms_schema_iff` says that they agree on every JSON value: a value conforms to the
published schema if and only if the validator accepts it.  A description says nothing about values,
so it is put aside first (`conforms_described_iff`).  Then there is a statement for each form that a
published schema can have, beside that about the acceptance by the kind.
-/

import ToolGateway.Proofs.Schema.Meaning
import ToolGateway.Proofs.Validator.Acceptance

namespace ToolGateway

namespace Validator

open Schema

variable {v : Value} {es : Entries} {description : Option Value}

/-! ### Keywords of published schemas -/

theorem get?_descriptionEntries {name : String} (h : name ≠ "description") :
    Entries.get? (descriptionEntries description) name = none := by
  unfold descriptionEntries entry
  split
  · split
    · simp [Entries.get?, h.symm]
    · rfl
  · rfl

/-- A description says nothing about values. -/
theorem conforms_described_iff :
    Conforms (.map (es ++ descriptionEntries description)) v ↔ Conforms (.map es) v := by
  have hget : ∀ name, name ≠ "description" →
      Entries.get? (es ++ descriptionEntries description) name = Entries.get? es name := by
    intro name h
    rw [Entries.get?_append, get?_descriptionEntries h, Option.or_none]
  rw [conforms_map_iff, conforms_map_iff]
  unfold typeOf? Requires
  rw [hget "type" (by decide), hget "items" (by decide), hget "properties" (by decide),
    hget "required" (by decide)]

/-- The schema without keywords admits every value. -/
theorem conforms_empty : Conforms (.map []) v := by
  refine .keywords (fun _ h => (nomatch h)) (fun _ _ h => (nomatch h))
    (fun _ _ _ _ _ h => (nomatch h)) ?_
  rintro _ _ ⟨_, h, _⟩
  cases h

/-- A type alone admits its values. -/
theorem conforms_type_iff (type : ValueType) :
    Conforms (.map [entry "type" (.text type.name)]) v ↔ type.Has v := by
  have ht : typeOf? [entry "type" (.text type.name)] = some type := typeOf?_eq_some_iff.2 rfl
  constructor
  · exact fun hc => (conforms_map_iff.1 hc).1 type ht
  · intro hv
    refine .keywords (fun t h => ?_) (fun _ _ h => (nomatch h)) (fun _ _ _ _ _ h => (nomatch h)) ?_
    · cases ht.symm.trans h
      exact hv
    · rintro _ _ ⟨_, h, _⟩
      cases h

theorem conforms_array_iff {item : Value} :
    Conforms (.map [entry "type" (.text "array"), entry "items" item]) v ↔
      ∃ xs, v = .list xs ∧ ∀ x ∈ xs, Conforms item x := by
  constructor
  · intro hc
    obtain ⟨ht, hi, _, _⟩ := conforms_map_iff.1 hc
    obtain ⟨xs, rfl⟩ := ht .array rfl
    exact ⟨xs, rfl, hi item xs rfl rfl⟩
  · rintro ⟨xs, rfl, hi⟩
    refine .keywords (fun t h => ?_) (fun _ _ h hx => ?_) (fun _ _ _ _ _ h => (nomatch h)) ?_
    · cases h
      exact ⟨xs, rfl⟩
    · cases h
      cases hx
      exact hi
    · rintro _ _ ⟨_, h, _⟩
      cases h

theorem requires_objectEntries_iff {schemas : Entries} {mandatory : List String} {name : String} :
    Requires (objectEntries schemas mandatory) name ↔ name ∈ mandatory := by
  unfold Requires objectEntries entry
  cases mandatory with
  | nil => simp [Entries.get?]
  | cons first rest => simp [Entries.get?]

theorem conforms_objectEntries_iff {schemas : Entries} {mandatory : List String} :
    Conforms (.map (objectEntries schemas mandatory)) v ↔ ∃ fs, v = .map fs ∧
      (∀ name sub x, (.text name, sub) ∈ schemas → Entries.get? fs name = some x →
        Conforms sub x) ∧
      ∀ name ∈ mandatory, ∃ x, Entries.get? fs name = some x := by
  constructor
  · intro hc
    obtain ⟨ht, _, hp, hq⟩ := conforms_map_iff.1 hc
    obtain ⟨fs, rfl⟩ := ht .object rfl
    exact ⟨fs, rfl, fun name sub x hm hx => hp schemas name sub fs x rfl hm rfl hx,
      fun name hm => hq name fs (requires_objectEntries_iff.2 hm) rfl⟩
  · rintro ⟨fs, rfl, hp, hq⟩
    refine .keywords (fun t h => ?_) (fun _ _ h hx => ?_) (fun ps name sub fs' x h hm hf hx => ?_)
      (fun name fs' h hf => ?_)
    · cases h
      exact ⟨fs, rfl⟩
    · cases hx
    · cases h
      cases hf
      exact hp name sub x hm hx
    · cases hf
      exact hq name (requires_objectEntries_iff.1 h)

/-! ### Published schemas and checks -/

theorem propertySchemas_eq_map (ps : List (String × Validator)) :
    propertySchemas ps = ps.map fun p => entry p.1 p.2.schema := by
  induction ps with
  | nil => rw [propertySchemas, List.map_nil]
  | cons p rest ih => rw [propertySchemas, ih, List.map_cons]

theorem mem_mandatoryNames {ps : List (String × Validator)} {name : String} :
    name ∈ mandatoryNames ps ↔ ∃ w, (name, w) ∈ ps ∧ w.mayBeAbsent = false := by
  simp [mandatoryNames]

/-- The schema of an object admits the maps that have what each field asks for, if it does so for
the values of the fields. -/
theorem conforms_fields_iff {ps : List (String × Validator)} {name : String} {fs : Entries}
    (hfs : (Value.map fs).IsJson)
    (ih : ∀ p ∈ ps, ∀ name v, v.IsJson → (Conforms p.2.schema v ↔ p.2.Accepts name v)) :
    Conforms (.map (objectEntries (propertySchemas ps) (mandatoryNames ps))) (.map fs) ↔
      ∀ p ∈ ps, FieldFits name fs p := by
  rw [conforms_objectEntries_iff, propertySchemas_eq_map]
  constructor
  · rintro ⟨_, hf, hp, hq⟩ p hm
    cases hf
    refine ⟨fun x hx => ?_, fun hx => ?_⟩
    · exact (ih p hm _ x (hfs.field hx)).1 (hp p.1 _ x (List.mem_map.2 ⟨p, hm, rfl⟩) hx)
    · cases ha : p.2.mayBeAbsent with
      | true => rfl
      | false =>
        obtain ⟨x, hx'⟩ := hq p.1 (mem_mandatoryNames.2 ⟨p.2, hm, ha⟩)
        cases hx.symm.trans hx'
  · intro h
    refine ⟨fs, rfl, fun key sub x hm hx => ?_, fun key hm => ?_⟩
    · obtain ⟨p, hp, he⟩ := List.mem_map.1 hm
      cases he
      exact (ih p hp _ x (hfs.field hx)).2 ((h p hp).1 x hx)
    · obtain ⟨w, hm, ha⟩ := mem_mandatoryNames.1 hm
      refine Option.ne_none_iff_exists'.1 fun hx => ?_
      cases ha.symm.trans ((h _ hm).2 hx)

/-- **What is published is what is accepted.**  A JSON value conforms to the schema of a validator if
and only if the validator accepts it. -/
theorem conforms_schema_iff (w : Validator) :
    ∀ name v, v.IsJson → (Conforms w.schema v ↔ w.Accepts name v) := by
  induction w using Validator.induct with
  | step w hitem hprop =>
    intro name v hv
    obtain ⟨kind, optional, description, items, properties⟩ := w
    rw [schema.eq_def]
    dsimp only
    rw [conforms_described_iff, accepts_iff]
    cases kind with
    | any => exact iff_of_true conforms_empty trivial
    | string => exact conforms_type_iff .string
    | number => exact conforms_type_iff .number
    | boolean => exact conforms_type_iff .boolean
    | array =>
      rw [conforms_array_iff]
      cases items with
      | none =>
        constructor
        · rintro ⟨xs, rfl, _⟩
          exact ⟨xs, Or.inl rfl⟩
        · rintro ⟨xs, rfl | rfl⟩
          · exact ⟨xs, rfl, fun _ _ => conforms_empty⟩
          · cases hv
      | some item =>
        have ih := hitem item rfl
        constructor
        · rintro ⟨xs, rfl, h⟩
          exact ⟨xs, Or.inl rfl, fun x hx => (ih _ x (hv.item x hx)).1 (h x hx)⟩
        · rintro ⟨xs, rfl | rfl, h⟩
          · exact ⟨xs, rfl, fun x hx => (ih _ x (hv.item x hx)).2 (h x hx)⟩
          · cases hv
    | object =>
      cases properties with
      | none =>
        dsimp only
        rw [conforms_objectEntries_iff]
        simp
      | some ps =>
        constructor
        · intro h
          obtain ⟨fs, rfl, _⟩ := conforms_objectEntries_iff.1 h
          exact ⟨fs, rfl, (conforms_fields_iff hv (hprop ps rfl)).1 h⟩
        · rintro ⟨fs, rfl, h⟩
          exact (conforms_fields_iff hv (hprop ps rfl)).2 h

/-- The same for an object with the given fields. -/
theorem conforms_objectSchema_iff {fields : Table Validator} {name : String} {fs : Entries}
    (hfs : (Value.map fs).IsJson) :
    Conforms (objectSchema fields) (.map fs) ↔ (checkFields fields name fs).IsFine := by
  unfold objectSchema
  rw [conforms_fields_iff hfs fun p _ => conforms_schema_iff p.2, isFine_checkFields]

end Validator
end ToolGateway
