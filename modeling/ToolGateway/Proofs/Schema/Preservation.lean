/-
# Compilation preserves the meaning

A raw schema means a set of values (`Satisfies`), and the validator that it is compiled to accepts a
set of values (`Accepts`).  Both are followed along the compilation, one case for each view.

Every value that satisfies the schema is accepted (`accepts_of_satisfies`).  The converse has two
exceptions, since a validator says less than a schema in two places: it knows no integers, and a field
that may be of any kind may always be left out, as may one that is required but not declared.  Without
these, what is accepted satisfies the schema (`satisfies_of_accepts`).
-/

import ToolGateway.Proofs.Schema.Meaning
import ToolGateway.Proofs.Schema.Regular
import ToolGateway.Proofs.Validator.Acceptance

namespace ToolGateway
namespace Schema

open Validator

variable {schemas : Schemas} {node v : Value} {optional : Bool} {name : String} {w : Validator}

/-! ### Types without parts -/

/-- The validator of a type without parts accepts the values of the type. -/
theorem ValueType.accepts_of_has {type : ValueType} (ha : type ≠ .array) (ho : type ≠ .object)
    {description : Option Value} {items : Option Validator}
    {properties : Option (List (String × Validator))} (h : type.Has v) :
    Accepts ⟨type.kind, optional, description, items, properties⟩ name v := by
  cases type with
  | string => exact (accepts_iff _ _ _).2 h
  | number => exact (accepts_iff _ _ _).2 h
  | integer =>
    refine (accepts_iff _ _ _).2 (h.imp_right ?_)
    rintro ⟨x, rfl, _⟩
    exact ⟨x, rfl⟩
  | boolean => exact (accepts_iff _ _ _).2 h
  | array => exact absurd rfl ha
  | object => exact absurd rfl ho

/-- For all such types but the integers it accepts no others. -/
theorem ValueType.has_of_accepts {type : ValueType} (ha : type ≠ .array) (ho : type ≠ .object)
    (hi : type ≠ .integer) {description : Option Value} {items : Option Validator}
    {properties : Option (List (String × Validator))}
    (h : Accepts ⟨type.kind, optional, description, items, properties⟩ name v) : type.Has v := by
  cases type with
  | string => exact (accepts_iff _ _ _).1 h
  | number => exact (accepts_iff _ _ _).1 h
  | integer => exact absurd rfl hi
  | boolean => exact (accepts_iff _ _ _).1 h
  | array => exact absurd rfl ha
  | object => exact absurd rfl ho

/-! ### The two directions -/

/-- What satisfies a schema is accepted by the validator that it is compiled to. -/
theorem accepts_of_satisfies (h : Yields schemas node optional w)
    (hr : ∀ m, Met schemas node m → Regular m) (hs : Satisfies schemas node v) :
    w.Accepts name v := by
  induction h using Yields.induct generalizing name v with
  | notSchema node optional hv _ => exact (accepts_iff _ _ _).2 trivial
  | unresolved node optional ref hv ht _ => exact (accepts_iff _ _ _).2 trivial
  | target node optional ref target w hv ht _ _ ih =>
    exact ih (fun m hm => hr m (hm.target hv ht)) ((satisfies_reference_iff hv ht).1 hs)
  | plain node optional kind hv _ =>
    obtain ⟨es, rfl, href, rfl, htype⟩ := exists_of_view_plain hv
    cases ht : typeOf? es with
    | none => exact (accepts_iff _ _ _).2 trivial
    | some type =>
      obtain ⟨ha, ho⟩ := htype type ht
      exact ValueType.accepts_of_has ha ho ((satisfies_scalar_iff href ht ha ho).1 hs)
  | array node optional items item hv _ _ ih =>
    obtain ⟨xs, rfl, hxs⟩ := (satisfies_array_iff hv).1 hs
    exact (accepts_iff _ _ _).2 ⟨xs, Or.inl rfl, fun x hx =>
      ih (fun m hm => hr m (hm.items hv)) (hxs x hx)⟩
  | object node optional required ps fields named hv hf hn _ =>
    obtain ⟨xs, rfl, hdecl, _⟩ := (hr node .refl).fields_iff hv hf hn
    obtain ⟨fs, rfl, hsub, hreq⟩ := (satisfies_object_iff hv).1 hs
    refine (accepts_iff _ _ _).2 ⟨fs, rfl, fun p hp => ?_⟩
    obtain ⟨sub, o, hget, hlisted, hy, ih⟩ := hdecl p hp
    refine ⟨fun x hx => ?_, fun hx => ?_⟩
    · have hm := Entries.mem_of_get? hget
      exact ih (fun m hm' => hr m (hm'.property hv hm)) (hsub p.1 sub x hget hx)
    · -- a field that is not there is not required, so it is optional
      have hp : p.2.optional = true := by
        rw [hy.optional_eq, ← Bool.not_eq_false]
        intro ho
        obtain ⟨x, hx'⟩ := hreq p.1 (hlisted.1 ho)
        cases hx.symm.trans hx'
      simp [mayBeAbsent, hp]

/-- The schema asks for an integer. -/
def AsksForInteger (node : Value) : Prop :=
  ∃ es, node = .map es ∧ refOf? node = none ∧ typeOf? es = some .integer

/-- If the schema is one of an object, then each name that it requires is a property that it
declares, and is compiled to a validator of a known kind. -/
def RequiresKnown (schemas : Schemas) (node : Value) : Prop :=
  ∀ es, node = .map es → refOf? node = none → typeOf? es = some .object →
    ∀ name, Requires es name → ∃ sub w, Declares es name sub ∧
      (compile schemas sub false).result = .ok w ∧ w.kind ≠ .any

/-- What a validator accepts satisfies its schema, unless integers or fields of any kind are asked
for. -/
theorem satisfies_of_accepts (h : Yields schemas node optional w)
    (hr : ∀ m, Met schemas node m → Regular m)
    (hi : ∀ m, Met schemas node m → ¬ AsksForInteger m)
    (hk : ∀ m, Met schemas node m → RequiresKnown schemas m) (hv : v.IsJson)
    (ha : w.Accepts name v) : Satisfies schemas node v := by
  induction h using Yields.induct generalizing name v with
  | notSchema node optional hview _ =>
    have hmap := view_eq_notSchema_iff.1 hview
    refine .noMap fun es hes => ?_
    rw [hes] at hmap
    cases hmap
  | unresolved node optional ref hview ht _ =>
    exact .unresolved (view_eq_reference_iff.1 hview) ht
  | target node optional ref target w hview ht _ _ ih =>
    exact (satisfies_reference_iff hview ht).2 <|
      ih (fun m hm => hr m (hm.target hview ht)) (fun m hm => hi m (hm.target hview ht))
        (fun m hm => hk m (hm.target hview ht)) hv ha
  | plain node optional kind hview _ =>
    obtain ⟨es, rfl, href, rfl, htype⟩ := exists_of_view_plain hview
    cases ht : typeOf? es with
    | none => exact .untyped href ht
    | some type =>
      obtain ⟨harray, hobject⟩ := htype type ht
      rw [ht] at ha
      have hint : type ≠ .integer := by
        rintro rfl
        exact hi _ .refl ⟨es, rfl, href, ht⟩
      exact (satisfies_scalar_iff href ht harray hobject).2
        (ValueType.has_of_accepts harray hobject hint ha)
  | array node optional items item hview _ _ ih =>
    obtain ⟨xs, rfl | rfl, hxs⟩ := (accepts_iff _ _ _).1 ha
    · exact (satisfies_array_iff hview).2 ⟨xs, rfl, fun x hx =>
        ih (fun m hm => hr m (hm.items hview)) (fun m hm => hi m (hm.items hview))
          (fun m hm => hk m (hm.items hview)) (hv.item x hx) (hxs x hx)⟩
    · cases hv
  | object node optional required ps fields named hview hf hn _ =>
    obtain ⟨xs, rfl, _, hfield⟩ := (hr node .refl).fields_iff hview hf hn
    obtain ⟨fs, rfl, hfits⟩ := (accepts_iff _ _ _).1 ha
    refine (satisfies_object_iff hview).2 ⟨fs, rfl, fun name sub x hget hx => ?_, fun name hn => ?_⟩
    · obtain ⟨w, o, hw, _, hy, ih⟩ := hfield name sub hget
      have hm := Entries.mem_of_get? hget
      exact ih (fun m hm' => hr m (hm'.property hview hm))
        (fun m hm' => hi m (hm'.property hview hm)) (fun m hm' => hk m (hm'.property hview hm))
        (hv.field hx) ((hfits _ hw).1 x hx)
    · obtain ⟨es, rfl, href, ht, hxs, hps⟩ := view_eq_object_iff.1 hview
      obtain ⟨sub, w, hdecl, hw, hkind⟩ := hk _ .refl es rfl href (typeOf?_eq_some_iff.2 ht) name
        ((requires_iff hxs.symm).2 hn)
      obtain ⟨w', o, hw', hlisted, hy, _⟩ := hfield name sub ((declares_iff hps.symm).1 hdecl)
      obtain rfl := hlisted.2 hn
      obtain rfl := hy.unique ⟨[], hw⟩
      -- the field is neither optional nor of any kind, so it is there
      have hp : ¬ w'.mayBeAbsent = true := by
        simp [mayBeAbsent, hy.optional_eq, hkind]
      exact Option.ne_none_iff_exists'.1 fun hx => hp ((hfits _ hw').2 hx)

/-- **Compilation preserves the meaning.**  If a schema whose objects are regular is compiled, then the
validator accepts every JSON value that satisfies the schema.  It accepts no other if the expansion
meets no integer, and no required name but those of declared properties whose kind is known. -/
theorem compile_preserves_meaning (schemas : Schemas) (node : Value) (optional : Bool)
    (w : Validator) (hw : (compile schemas node optional).result = .ok w)
    (hr : ∀ m, Met schemas node m → Regular m) (name : String) (v : Value) (hv : v.IsJson) :
    (Satisfies schemas node v → ∃ y, w.check name v = .fine y) ∧
      ((∀ m, Met schemas node m → ¬ AsksForInteger m) →
        (∀ m, Met schemas node m → RequiresKnown schemas m) →
        (∃ y, w.check name v = .fine y) → Satisfies schemas node v) :=
  ⟨accepts_of_satisfies ⟨[], hw⟩ hr, fun hi hk => satisfies_of_accepts ⟨[], hw⟩ hr hi hk hv⟩

/-- A table with the schema of a name. -/
def nameSchemas : Schemas := [("Name", .map [(.text "type", .text "string")])]

/-- An object that must have a name. -/
def namedSchema : Value :=
  .map [(.text "type", .text "object"), (.text "required", .list [.text "name"]),
    (.text "properties", .map [(.text "name", .map [(.text "$ref", .text "Name")])])]

/-- What an object that must have a name expands to. -/
theorem met_namedSchema {m : Value} (hm : Met nameSchemas namedSchema m) :
    m = namedSchema ∨ m = .map [(.text "$ref", .text "Name")] ∨
      m = .map [(.text "type", .text "string")] := by
  refine hm.of_parts (S := fun m => m = namedSchema ∨ m = .map [(.text "$ref", .text "Name")] ∨
    m = .map [(.text "type", .text "string")]) ?_ (Or.inl rfl)
  rintro n (rfl | rfl | rfl) t ht
  · exact Or.inr (Or.inl (List.mem_singleton.1 ht))
  · exact Or.inr (Or.inr (List.mem_singleton.1 ht))
  · cases ht

/-- All hypotheses are met by an object with a required property behind a reference. -/
theorem namedSchema_preserves_meaning :
    let name : Validator := ⟨.string, false, none, none, none⟩
    let w : Validator := ⟨.object, true, none, none, some [("name", name)]⟩
    let ada : Value := .map [(.text "name", .text "Ada")]
    (compile nameSchemas namedSchema true).result = .ok w ∧
      (∀ m, Met nameSchemas namedSchema m → Regular m) ∧
      (∀ m, Met nameSchemas namedSchema m → ¬ AsksForInteger m) ∧
      (∀ m, Met nameSchemas namedSchema m → RequiresKnown nameSchemas m) ∧
      ada.IsJson ∧ Satisfies nameSchemas namedSchema ada ∧ ∃ y, w.check "Value" ada = .fine y := by
  intro name w ada
  have hnamed : view namedSchema = .object (.list [.text "name"])
    (.map [(.text "name", .map [(.text "$ref", .text "Name")])]) := rfl
  have href : view (.map [(.text "$ref", .text "Name")]) = .reference "Name" := rfl
  have hstring : view (.map [(.text "type", .text "string")]) = .plain .string := rfl
  have hname : (compile nameSchemas (.map [(.text "$ref", .text "Name")]) false).result
      = .ok name := by
    unfold compile
    rw [compileOn_of_target href (by decide) rfl, compileOn_of_plain hstring]
    rfl
  have hw : (compile nameSchemas namedSchema true).result = .ok w := by
    unfold compile
    rw [compileOn_of_object hnamed]
    exact Outcome.bind_result_eq_ok.2 ⟨[(.text "name", name)],
      compileEntries_eq_ok_iff.2 (.cons ⟨rfl, true, rfl, hname⟩ .nil),
      Outcome.bind_result_eq_ok.2 ⟨_, properties_eq_ok_iff.2 ⟨_, rfl, rfl⟩, rfl⟩⟩
  have hr : ∀ m, Met nameSchemas namedSchema m → Regular m := by
    intro m hm required properties hv
    rcases met_namedSchema hm with rfl | rfl | rfl
    · cases hnamed.symm.trans hv
      exact ⟨⟨_, rfl⟩, [("name", _)], by simp [Table.names], rfl⟩
    · cases href.symm.trans hv
    · cases hstring.symm.trans hv
  have hi : ∀ m, Met nameSchemas namedSchema m → ¬ AsksForInteger m := by
    rintro m hm ⟨es, rfl, _, ht⟩
    rcases met_namedSchema hm with h | h | h <;> cases h <;> cases ht
  have hk : ∀ m, Met nameSchemas namedSchema m → RequiresKnown nameSchemas m := by
    rintro m hm es rfl _ ht key ⟨xs, hxs, hkey⟩
    rcases met_namedSchema hm with h | h | h <;> cases h
    · cases hxs
      cases List.mem_singleton.1 hkey
      exact ⟨_, name, ⟨_, rfl, rfl⟩, hname, by decide⟩
    · cases ht
    · cases ht
  have hv : ada.IsJson := .map (by simp) (by simpa using .text "Ada")
  have hmeaning := compile_preserves_meaning nameSchemas namedSchema true w hw hr "Value" ada hv
  have hs := hmeaning.2 hi hk ⟨_, rfl⟩
  exact ⟨hw, hr, hi, hk, hv, hs, hmeaning.1 hs⟩

end Schema
end ToolGateway
