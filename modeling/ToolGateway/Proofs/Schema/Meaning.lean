/-
# What a schema means

A schema means a set of values, and here it is said which, without compiling it: a keyword speaks of
the values of one kind and says nothing about others, a reference means what its target means, and
whatever is no schema, has no type that is known, or refers to nothing admits every value.

There are two readings.  `Satisfies` is that of a raw schema, whose references are looked up in a
table.  It is inductive, so a value never satisfies a schema by going round in a cycle.  `Conforms`
is that of a schema on its own, keyword by keyword.
-/

import ToolGateway.Proofs.Schema.Keywords

namespace ToolGateway

/-- A value that a JSON text can hold. -/
inductive Value.IsJson : Value → Prop
  | null : IsJson .null
  | bool (b : Bool) : IsJson (.bool b)
  | int (i : Int) : IsJson (.int i)
  | float (x : Binary64) : IsJson (.float x)
  | text (s : String) : IsJson (.text s)
  | list {xs : List Value} : (∀ x ∈ xs, IsJson x) → IsJson (.list xs)
  | map {es : List (Value × Value)} : (∀ e ∈ es, ∃ name, e.1 = .text name) →
      (∀ e ∈ es, IsJson e.2) → IsJson (.map es)

/-- The items of a list are as the list. -/
theorem Value.IsJson.item {xs : List Value} (h : IsJson (.list xs)) : ∀ x ∈ xs, x.IsJson := by
  cases h with
  | list h => exact h

/-- What is found in a map is as the map. -/
theorem Value.IsJson.field {es : Entries} (h : IsJson (.map es)) {name : String} {x : Value}
    (hx : Entries.get? es name = some x) : x.IsJson := by
  cases h with
  | map _ h => exact h _ (Entries.mem_of_get? hx)

namespace Schema

/-! ### Types -/

/-- The types that a schema can ask for. -/
inductive ValueType where
  | string
  | number
  | integer
  | boolean
  | array
  | object
deriving DecidableEq, Repr

namespace ValueType

/-- The name of a type. -/
def name : ValueType → String
  | .string => "string"
  | .number => "number"
  | .integer => "integer"
  | .boolean => "boolean"
  | .array => "array"
  | .object => "object"

/-- The type with a name. -/
def named? : String → Option ValueType
  | "string" => some .string
  | "number" => some .number
  | "integer" => some .integer
  | "boolean" => some .boolean
  | "array" => some .array
  | "object" => some .object
  | _ => none

theorem named?_eq_some_iff {s : String} {type : ValueType} :
    named? s = some type ↔ s = type.name := by
  constructor
  · intro h
    unfold named? at h
    split at h <;> cases h <;> rfl
  · rintro rfl
    cases type <;> rfl

/-- The value is of the type.  A truth value is no number, and a number without a fraction is an
integer, however it is written. -/
def Has : ValueType → Value → Prop
  | .string, v => ∃ s, v = .text s
  | .number, v => (∃ i, v = .int i) ∨ ∃ x, v = .float x
  | .integer, v => (∃ i, v = .int i) ∨ ∃ x, v = .float x ∧ x.integer?.isSome
  | .boolean, v => ∃ b, v = .bool b
  | .array, v => ∃ xs, v = .list xs
  | .object, v => ∃ es, v = .map es

/-- The kind that stands for a type; integers have none of their own. -/
def kind : ValueType → Kind
  | .string => .string
  | .number => .number
  | .integer => .number
  | .boolean => .boolean
  | .array => .array
  | .object => .object

/-- Lists are of one type only. -/
theorem eq_array_of_has {type : ValueType} {xs : List Value} (h : type.Has (.list xs)) :
    type = .array := by
  cases type <;> simp_all [Has]

/-- Maps are of one type only. -/
theorem eq_object_of_has {type : ValueType} {es : Entries} (h : type.Has (.map es)) :
    type = .object := by
  cases type <;> simp_all [Has]

end ValueType

/-- The type that a schema asks for, if it is one of those that are known. -/
def typeOf? (es : Entries) : Option ValueType :=
  match Entries.get? es "type" with
  | some (.text name) => ValueType.named? name
  | _ => none

variable {node v : Value} {es : Entries} {name : String}

theorem typeOf?_eq_some_iff {type : ValueType} :
    typeOf? es = some type ↔ Entries.get? es "type" = some (.text type.name) := by
  unfold typeOf?
  split
  · rename_i hs
    simp [hs, ValueType.named?_eq_some_iff]
  · rename_i hs
    exact ⟨fun h => (nomatch h), fun h => absurd h (hs _)⟩

/-- The kind of a schema without parts is that of its type, and any kind if it has none. -/
theorem plainKind_eq (ha : typeOf? es ≠ some .array) (ho : typeOf? es ≠ some .object) :
    plainKind (Entries.get? es "type") = (typeOf? es).elim .any ValueType.kind := by
  unfold typeOf? at *
  generalize Entries.get? es "type" = type at *
  cases type with
  | none => rfl
  | some v =>
    cases v with
    | text s =>
      unfold ValueType.named? at *
      dsimp only at ha ho ⊢
      split <;> simp_all [ValueType.kind, plainKind]
    | _ => rfl

/-! ### Properties and required names -/

/-- The schema has a property of that name. -/
def Declares (es : Entries) (name : String) (sub : Value) : Prop :=
  ∃ ps, Entries.get? es "properties" = some (.map ps) ∧ Entries.get? ps name = some sub

/-- The schema lists the name among the required ones. -/
def Requires (es : Entries) (name : String) : Prop :=
  ∃ xs, Entries.get? es "required" = some (.list xs) ∧ .text name ∈ xs

theorem declares_iff {ps : Entries} {sub : Value}
    (h : keyword es "properties" (.map []) = .map ps) :
    Declares es name sub ↔ Entries.get? ps name = some sub := by
  unfold Declares
  rcases keyword_cases es "properties" (.map []) with ⟨v, hv, hk⟩ | ⟨hempty, hk⟩
  · obtain rfl := hk.symm.trans h
    simp [hv]
  · cases hk.symm.trans h
    constructor
    · rintro ⟨ps, hps, hsub⟩
      cases ps with
      | nil => exact hsub
      | cons e ps => cases hempty _ hps
    · exact fun hsub => nomatch hsub

theorem requires_iff {xs : List Value} (h : keyword es "required" (.list []) = .list xs) :
    Requires es name ↔ .text name ∈ xs := by
  unfold Requires
  rcases keyword_cases es "required" (.list []) with ⟨v, hv, hk⟩ | ⟨hempty, hk⟩
  · obtain rfl := hk.symm.trans h
    simp [hv]
  · cases hk.symm.trans h
    constructor
    · rintro ⟨xs, hxs, hm⟩
      cases xs with
      | nil => exact hm
      | cons x xs => cases hempty _ hxs
    · exact fun hm => absurd hm List.not_mem_nil

/-! ### The two readings -/

/-- The value satisfies the raw schema, with references looked up in the table. -/
inductive Satisfies (schemas : Schemas) : Value → Value → Prop
  | noMap {node v : Value} : (∀ es, node ≠ .map es) → Satisfies schemas node v
  | unresolved {node v : Value} {ref : String} : refOf? node = some ref →
      target? schemas ref = none → Satisfies schemas node v
  | reference {node target v : Value} {ref : String} : refOf? node = some ref →
      target? schemas ref = some target → Satisfies schemas target v → Satisfies schemas node v
  | untyped {es : Entries} {v : Value} : refOf? (.map es) = none → typeOf? es = none →
      Satisfies schemas (.map es) v
  | typed {es : Entries} {v : Value} {type : ValueType} : refOf? (.map es) = none →
      typeOf? es = some type → type.Has v →
      (∀ item xs, Entries.get? es "items" = some item → v = .list xs →
        ∀ x ∈ xs, Satisfies schemas item x) →
      (∀ name sub fs x, Declares es name sub → v = .map fs → Entries.get? fs name = some x →
        Satisfies schemas sub x) →
      (∀ name fs, Requires es name → v = .map fs → ∃ x, Entries.get? fs name = some x) →
      Satisfies schemas (.map es) v

/-- The value conforms to the schema, as each of its keywords is read on its own: the type speaks of
all values, items of lists, properties and required names of maps. -/
inductive Conforms : Value → Value → Prop
  | keywords {es : Entries} {v : Value} :
      (∀ type, typeOf? es = some type → type.Has v) →
      (∀ item xs, Entries.get? es "items" = some item → v = .list xs →
        ∀ x ∈ xs, Conforms item x) →
      (∀ ps name sub fs x, Entries.get? es "properties" = some (.map ps) → (.text name, sub) ∈ ps →
        v = .map fs → Entries.get? fs name = some x → Conforms sub x) →
      (∀ name fs, Requires es name → v = .map fs → ∃ x, Entries.get? fs name = some x) →
      Conforms (.map es) v

theorem conforms_map_iff :
    Conforms (.map es) v ↔ (∀ type, typeOf? es = some type → type.Has v) ∧
      (∀ item xs, Entries.get? es "items" = some item → v = .list xs → ∀ x ∈ xs, Conforms item x) ∧
      (∀ ps name sub fs x, Entries.get? es "properties" = some (.map ps) → (.text name, sub) ∈ ps →
        v = .map fs → Entries.get? fs name = some x → Conforms sub x) ∧
      ∀ name fs, Requires es name → v = .map fs → ∃ x, Entries.get? fs name = some x := by
  constructor
  · intro h
    cases h with
    | keywords ht hi hp hq => exact ⟨ht, hi, hp, hq⟩
  · rintro ⟨ht, hi, hp, hq⟩
    exact .keywords ht hi hp hq

/-! ### The meaning of a raw schema by its view -/

variable {schemas : Schemas}

/-- A reference means what its target means. -/
theorem satisfies_reference_iff {ref : String} {target : Value} (hv : view node = .reference ref)
    (ht : target? schemas ref = some target) :
    Satisfies schemas node v ↔ Satisfies schemas target v := by
  have hr := view_eq_reference_iff.1 hv
  constructor
  · intro h
    cases h with
    | noMap hm =>
      obtain ⟨es, rfl⟩ := exists_map_of_refOf? hr
      exact absurd rfl (hm es)
    | unresolved hr' ht' =>
      cases hr.symm.trans hr'
      cases ht.symm.trans ht'
    | reference hr' ht' h =>
      cases hr.symm.trans hr'
      cases ht.symm.trans ht'
      exact h
    | untyped hr' => cases hr.symm.trans hr'
    | typed hr' => cases hr.symm.trans hr'
  · exact .reference hr ht

/-- A schema with a known type, and no reference, means what its keywords say. -/
theorem satisfies_typed_iff {type : ValueType} (hr : refOf? (.map es) = none)
    (ht : typeOf? es = some type) :
    Satisfies schemas (.map es) v ↔ type.Has v ∧
      (∀ item xs, Entries.get? es "items" = some item → v = .list xs →
        ∀ x ∈ xs, Satisfies schemas item x) ∧
      (∀ name sub fs x, Declares es name sub → v = .map fs → Entries.get? fs name = some x →
        Satisfies schemas sub x) ∧
      ∀ name fs, Requires es name → v = .map fs → ∃ x, Entries.get? fs name = some x := by
  constructor
  · intro h
    cases h with
    | noMap hm => exact absurd rfl (hm es)
    | unresolved hr' => cases hr.symm.trans hr'
    | reference hr' => cases hr.symm.trans hr'
    | untyped _ ht' => cases ht.symm.trans ht'
    | typed _ ht' hv hi hp hq =>
      cases ht.symm.trans ht'
      exact ⟨hv, hi, hp, hq⟩
  · rintro ⟨hv, hi, hp, hq⟩
    exact .typed hr ht hv hi hp hq

/-- A schema with a type without parts means the values of the type. -/
theorem satisfies_scalar_iff {type : ValueType} (hr : refOf? (.map es) = none)
    (ht : typeOf? es = some type) (ha : type ≠ .array) (ho : type ≠ .object) :
    Satisfies schemas (.map es) v ↔ type.Has v := by
  rw [satisfies_typed_iff hr ht]
  refine ⟨And.left, fun h => ⟨h, ?_, ?_, ?_⟩⟩
  · rintro _ xs _ rfl
    exact absurd (ValueType.eq_array_of_has h) ha
  · rintro _ _ fs _ _ rfl
    exact absurd (ValueType.eq_object_of_has h) ho
  · rintro _ fs _ rfl
    exact absurd (ValueType.eq_object_of_has h) ho

/-- An array means lists of what its items mean; without items they may be anything. -/
theorem satisfies_array_iff {items : Value} (hv : view node = .array items) :
    Satisfies schemas node v ↔ ∃ xs, v = .list xs ∧ ∀ x ∈ xs, Satisfies schemas items x := by
  obtain ⟨es, rfl, hr, ht, rfl⟩ := view_eq_array_iff.1 hv
  have htype : typeOf? es = some .array := typeOf?_eq_some_iff.2 ht
  rw [satisfies_typed_iff hr htype]
  constructor
  · rintro ⟨⟨xs, rfl⟩, hi, _⟩
    refine ⟨xs, rfl, fun x hx => ?_⟩
    cases h : Entries.get? es "items" with
    | none => exact .noMap fun _ => nofun
    | some item => exact hi item xs h rfl x hx
  · rintro ⟨xs, rfl, hi⟩
    refine ⟨⟨xs, rfl⟩, fun item xs' h hxs x hx => ?_, fun _ _ _ _ _ h => (nomatch h),
      fun _ _ _ h => (nomatch h)⟩
    cases hxs
    rw [h] at hi
    exact hi x hx

/-- An object means maps with the required names, in which declared properties mean what they do. -/
theorem satisfies_object_iff {xs : List Value} {ps : Entries}
    (hv : view node = .object (.list xs) (.map ps)) :
    Satisfies schemas node v ↔ ∃ fs, v = .map fs ∧
      (∀ name sub x, Entries.get? ps name = some sub → Entries.get? fs name = some x →
        Satisfies schemas sub x) ∧
      ∀ name, .text name ∈ xs → ∃ x, Entries.get? fs name = some x := by
  obtain ⟨es, rfl, hr, ht, hxs, hps⟩ := view_eq_object_iff.1 hv
  have htype : typeOf? es = some .object := typeOf?_eq_some_iff.2 ht
  rw [satisfies_typed_iff hr htype]
  simp only [declares_iff hps.symm, requires_iff hxs.symm]
  constructor
  · rintro ⟨⟨fs, rfl⟩, _, hp, hq⟩
    exact ⟨fs, rfl, fun name sub x hs hx => hp name sub fs x hs rfl hx,
      fun name hn => hq name fs hn rfl⟩
  · rintro ⟨fs, rfl, hp, hq⟩
    refine ⟨⟨fs, rfl⟩, fun _ _ _ h => (nomatch h), fun name sub fs' x hs h hx => ?_,
      fun name fs' hn h => ?_⟩
    · cases h
      exact hp name sub x hs hx
    · cases h
      exact hq name hn

/-- A schema without parts means the values of its type, or all if it has none. -/
theorem exists_of_view_plain {kind : Kind} (hv : view node = .plain kind) :
    ∃ es, node = .map es ∧ refOf? node = none ∧ kind = (typeOf? es).elim .any ValueType.kind ∧
      ∀ type, typeOf? es = some type → type ≠ .array ∧ type ≠ .object := by
  obtain ⟨es, rfl, hr, ha, ho, rfl⟩ := view_eq_plain_iff.1 hv
  have ha : typeOf? es ≠ some .array := fun h => ha (typeOf?_eq_some_iff.1 h)
  have ho : typeOf? es ≠ some .object := fun h => ho (typeOf?_eq_some_iff.1 h)
  refine ⟨es, rfl, hr, plainKind_eq ha ho, fun type ht => ⟨?_, ?_⟩⟩
  · rintro rfl
    exact ha ht
  · rintro rfl
    exact ho ht

end Schema
end ToolGateway
