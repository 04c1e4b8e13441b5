/-
# The parts of a compiled tree and the schemas they come from

A validator is a tree, and each of its parts was compiled from a schema that the expansion met on
the way.  `Source` follows the tree and the expansion side by side, through references as well, so
it says of a part which schema that is.  Every part has a source (`exists_source`), and a part is
what its source yields (`Source.yields`).  So what the compilation does at one schema holds at every
depth: `InOrder` says it of one part and its source, and `Yields.inOrder` proves it.

A property is known by its name, and its key may be the name or the octets of it.  Two keys that
count as one name make one property, of which the schema is that of the last (`IsPropertyOf`).
-/

import ToolGateway.Proofs.Schema.Meaning
import ToolGateway.Proofs.Schema.Regular

namespace ToolGateway

/-- The parts of a validator: it itself, and the parts of its items and of its properties. -/
inductive Validator.Includes : Validator → Validator → Prop
  | self {w : Validator} : Includes w w
  | items {w item v : Validator} : w.items = some item → Includes item v → Includes w v
  | property {w v : Validator} {ps : List (String × Validator)} {p : String × Validator} :
      w.properties = some ps → p ∈ ps → Includes p.2 v → Includes w v

namespace Validator

variable {w : Validator}

/-- The names of properties are distinct at every depth. -/
def Distinct (w : Validator) : Prop :=
  ∀ v ps, w.Includes v → v.properties = some ps → (Table.names ps).Nodup

theorem Distinct.items {item : Validator} (h : w.Distinct) (hi : w.items = some item) :
    item.Distinct := fun v ps hv => h v ps (.items hi hv)

theorem Distinct.property {ps : List (String × Validator)} {p : String × Validator}
    (h : w.Distinct) (hps : w.properties = some ps) (hp : p ∈ ps) : p.2.Distinct :=
  fun v ps hv => h v ps (.property hps hp hv)

/-- The parts of a validator have distinct names if its own are distinct and those of its items and
properties. -/
theorem Distinct.of_parts (hitem : ∀ item, w.items = some item → item.Distinct)
    (hprop : ∀ ps, w.properties = some ps → (Table.names ps).Nodup ∧ ∀ p ∈ ps, p.2.Distinct) :
    w.Distinct := by
  intro v ps hv hps
  cases hv with
  | self => exact (hprop ps hps).1
  | items hi hv => exact hitem _ hi v ps hv hps
  | property hp hm hv => exact (hprop _ hp).2 _ hm v ps hv hps

theorem Distinct.nodup (h : w.Distinct) : (Table.names (w.properties.getD [])).Nodup := by
  cases hps : w.properties with
  | none => exact .nil
  | some ps => exact h w ps .self hps

end Validator

namespace Schema

variable {schemas : Schemas} {node m : Value} {optional : Bool} {w v : Validator}

/-! ### One step of a successful compilation -/

theorem Yields.of_array {items : Value} (h : Yields schemas node optional w)
    (hv : view node = .array items) : ∃ item, Yields schemas items false item ∧
      w = ⟨.array, optional, description? node, some item, none⟩ := by
  obtain ⟨stack, h⟩ := h
  rw [compileOn_of_array hv] at h
  obtain ⟨item, hi, h⟩ := Outcome.bind_result_eq_ok.1 h
  cases h
  exact ⟨item, ⟨stack, hi⟩, rfl⟩

theorem Yields.of_object {required : Value} {es : Entries} (h : Yields schemas node optional w)
    (hv : view node = .object required (.map es)) : ∃ fields named,
      List.Forall₂ (IsField (Yields schemas) required) es fields ∧
        nameFields fields = .fine named ∧
        w = ⟨.object, optional, description? node, none, some (Table.ofList named)⟩ := by
  obtain ⟨stack, h⟩ := h
  rw [compileOn_of_object hv] at h
  obtain ⟨fields, hf, h⟩ := Outcome.bind_result_eq_ok.1 h
  obtain ⟨_, hp, h⟩ := Outcome.bind_result_eq_ok.1 h
  obtain ⟨named, hn, rfl⟩ := properties_eq_ok_iff.1 hp
  cases h
  refine ⟨fields, named, (compileEntries_eq_ok_iff.1 hf).imp fun e f hef => ?_, hn, rfl⟩
  exact hef.imp fun o w hw => ⟨stack, hw⟩

/-! ### Properties and their names -/

/-- The property of a name: the last entry whose key counts as the name. -/
def IsPropertyOf (es : Entries) (name : String) (e : Value × Value) : Prop :=
  ∃ before after, es = before ++ e :: after ∧ Shape.text e.1 = .fine name ∧
    ∀ e' ∈ after, Shape.text e'.1 ≠ .fine name

/-- An entry and the field that it is compiled to: the key counts as the name, and the validator is
what the schema yields, optional unless the key is among the required ones. -/
def IsNamedBy (schemas : Schemas) (required : Value) (e : Value × Value) (p : String × Validator) :
    Prop :=
  Shape.text e.1 = .fine p.1 ∧
    ∃ listed, required.holds e.1 = .ok listed ∧ Yields schemas e.2 (!listed) p.2

/-- Fields that have their names come one by one from the entries. -/
theorem forall₂_isNamedBy {required : Value} {es : Entries} {fields : List (Value × Validator)}
    {named : Table Validator} (hf : List.Forall₂ (IsField (Yields schemas) required) es fields)
    (hn : nameFields fields = .fine named) :
    List.Forall₂ (IsNamedBy schemas required) es named := by
  have hnames := forall₂_nameFields hn
  clear hn
  induction hf generalizing named with
  | nil =>
    cases hnames
    exact .nil
  | cons he _ ih =>
    obtain ⟨p, rest, ⟨hp, hw⟩, hrest, rfl⟩ := List.forall₂_cons_left_iff.1 hnames
    obtain ⟨hk, listed, hl, hy⟩ := he
    exact .cons ⟨hk ▸ hp, listed, hl, hw ▸ hy⟩ (ih hrest)

/-- The last field of a name comes from the property of the name. -/
theorem exists_isPropertyOf {required : Value} {es : Entries} {named : Table Validator}
    (h : List.Forall₂ (IsNamedBy schemas required) es named) {name : String}
    (hg : Table.get? named.reverse name = some v) :
    ∃ e, IsPropertyOf es name e ∧ IsNamedBy schemas required e (name, v) := by
  induction h with
  | nil => cases hg
  | @cons e p es named he hrest ih =>
    obtain ⟨k, w⟩ := p
    rw [List.reverse_cons, Table.get?_append] at hg
    cases hr : Table.get? named.reverse name with
    | some v' =>
      rw [hr] at hg
      cases hg
      obtain ⟨e', ⟨before, after, rfl, hk, hafter⟩, hnamed⟩ := ih hr
      exact ⟨e', ⟨e :: before, after, rfl, hk, hafter⟩, hnamed⟩
    | none =>
      rw [hr, Option.none_or, Table.get?_cons] at hg
      split at hg
      · rename_i hk
        subst hk
        cases hg
        refine ⟨e, ⟨[], es, rfl, he.1, fun e' he' hname => ?_⟩, he⟩
        -- a later entry of the name would have left a field of it
        obtain ⟨p, hp, hnamed⟩ := exists_mem_of_forall₂ hrest e' he'
        cases hname.symm.trans hnamed.1
        refine (Table.get?_eq_none_iff _ _).1 hr (List.mem_map.2 ⟨p, ?_, rfl⟩)
        exact List.mem_reverse.2 hp
      · cases hg

/-- The property of a name is one of the entries. -/
theorem IsPropertyOf.mem {es : Entries} {name : String} {e : Value × Value}
    (h : IsPropertyOf es name e) : e ∈ es := by
  obtain ⟨before, after, rfl, _⟩ := h
  exact List.mem_append_right _ List.mem_cons_self

/-- There is one property of a name. -/
theorem IsPropertyOf.unique {es : Entries} {name : String} {e e' : Value × Value}
    (h : IsPropertyOf es name e) (h' : IsPropertyOf es name e') : e = e' := by
  obtain ⟨before, after, rfl, hk, hafter⟩ := h
  obtain ⟨before', after', hes, hk', hafter'⟩ := h'
  rcases List.append_eq_append_iff.1 hes with ⟨front, rfl, hfront⟩ | ⟨front, rfl, hfront⟩
  · cases front with
    | nil => exact (List.cons.inj hfront).1
    | cons f front =>
      obtain ⟨rfl, rfl⟩ := List.cons.inj hfront
      exact absurd hk' (hafter e' (by simp))
  · cases front with
    | nil => exact (List.cons.inj hfront).1.symm
    | cons f front =>
      obtain ⟨rfl, rfl⟩ := List.cons.inj hfront
      exact absurd hk (hafter' e (by simp))

/-- A property of an object is what the schema of its name yields, optional unless the key is among
the required ones. -/
theorem Yields.property {required : Value} {es : Entries} {ps : List (String × Validator)}
    (h : Yields schemas node optional w) (hv : view node = .object required (.map es))
    (hps : w.properties = some ps) {p : String × Validator} (hp : p ∈ ps) :
    ∃ e, IsPropertyOf es p.1 e ∧ IsNamedBy schemas required e p := by
  obtain ⟨fields, named, hf, hn, rfl⟩ := h.of_object hv
  cases hps
  have hget := Table.get?_of_mem (Table.nodup_names_ofList named) hp
  rw [Table.get?_ofList] at hget
  exact exists_isPropertyOf (forall₂_isNamedBy hf hn) hget

/-! ### Sources -/

/-- The schema is no reference, or one that is not known. -/
def IsResolved (schemas : Schemas) (m : Value) : Prop :=
  ∀ ref, view m = .reference ref → target? schemas ref = none

/-- A part of the validator of a schema, and the schema that it comes from: `Source schemas node w m
v` says that `w`, compiled from `node`, has the part `v`, which was compiled from `m`. -/
inductive Source (schemas : Schemas) : Value → Validator → Value → Validator → Prop
  | here {node : Value} {w : Validator} : IsResolved schemas node → Source schemas node w node w
  | target {node target m : Value} {ref : String} {w v : Validator} :
      view node = .reference ref → target? schemas ref = some target →
      Source schemas target w m v → Source schemas node w m v
  | items {node items m : Value} {w item v : Validator} :
      view node = .array items → w.items = some item → Source schemas items item m v →
      Source schemas node w m v
  | property {node required m : Value} {es : Entries} {e : Value × Value} {w v : Validator}
      {ps : List (String × Validator)} {p : String × Validator} :
      view node = .object required (.map es) → w.properties = some ps → p ∈ ps →
      IsPropertyOf es p.1 e → Source schemas e.2 p.2 m v → Source schemas node w m v

/-- **A part is what its source yields**, and its source is no reference that is known. -/
theorem Source.yields (hs : Source schemas node w m v) (h : Yields schemas node optional w) :
    IsResolved schemas m ∧ Yields schemas m v.optional v := by
  induction hs generalizing optional with
  | here hr => exact ⟨hr, h.optional_eq ▸ h⟩
  | target hv ht _ ih => exact ih ((yields_reference_iff hv ht).1 h)
  | items hv hi _ ih =>
    obtain ⟨item, hy, rfl⟩ := h.of_array hv
    cases hi
    exact ih hy
  | property hv hps hp he _ ih =>
    obtain ⟨e', he', _, listed, _, hy⟩ := h.property hv hps hp
    cases he.unique he'
    exact ih hy

/-- **Every part has a source.** -/
theorem exists_source (h : Yields schemas node optional w) (hv : w.Includes v) :
    ∃ m, Source schemas node w m v := by
  induction h using Yields.induct generalizing v with
  | notSchema node optional hview _ =>
    cases hv with
    | self => exact ⟨node, .here fun ref hr => nomatch hview.symm.trans hr⟩
    | items hi => cases hi
    | property hps => cases hps
  | unresolved node optional ref hview ht _ =>
    cases hv with
    | self =>
      refine ⟨node, .here fun ref' hr => ?_⟩
      cases hview.symm.trans hr
      exact ht
    | items hi => cases hi
    | property hps => cases hps
  | target node optional ref target w hview ht _ _ ih =>
    obtain ⟨m, hm⟩ := ih hv
    exact ⟨m, .target hview ht hm⟩
  | plain node optional kind hview _ =>
    cases hv with
    | self => exact ⟨node, .here fun ref hr => nomatch hview.symm.trans hr⟩
    | items hi => cases hi
    | property hps => cases hps
  | array node optional items item hview _ _ ih =>
    cases hv with
    | self => exact ⟨node, .here fun ref hr => nomatch hview.symm.trans hr⟩
    | items hi hv =>
      cases hi
      obtain ⟨m, hm⟩ := ih hv
      exact ⟨m, .items hview rfl hm⟩
    | property hps => cases hps
  | object node optional required es fields named hview hf hn h =>
    cases hv with
    | self => exact ⟨node, .here fun ref hr => nomatch hview.symm.trans hr⟩
    | items hi => cases hi
    | @property _ _ ps p hps hp hv =>
      cases hps
      obtain ⟨e, he, _, listed, hl, hy⟩ := h.property hview rfl hp
      -- the entry has a field among those of the induction, and it yields this validator only
      have hmem : e ∈ es := he.mem
      obtain ⟨f, _, _, listed', hl', hy', ih⟩ := exists_mem_of_forall₂ hf e hmem
      cases hl.symm.trans hl'
      have hfield : f.2 = p.2 := hy'.unique hy
      obtain ⟨m, hm⟩ := ih (hfield ▸ hv)
      exact ⟨m, .property hview rfl hp he (hfield ▸ hm)⟩

/-! ### What holds of every part -/

/-- The properties of an object have distinct names. -/
theorem Yields.nodup_names (h : Yields schemas node optional w) (hr : IsResolved schemas node)
    {ps : List (String × Validator)} (hps : w.properties = some ps) : (Table.names ps).Nodup := by
  cases h using Yields.induct with
  | notSchema => cases hps
  | unresolved => cases hps
  | target _ _ ref _ _ hv ht => cases (hr ref hv).symm.trans ht
  | plain => cases hps
  | array => cases hps
  | object node optional required ps fields named hv hf hn h =>
    cases hps
    exact Table.nodup_names_ofList named

/-- So has the whole tree. -/
theorem Yields.distinct (h : Yields schemas node optional w) : w.Distinct := by
  intro v ps hv hps
  obtain ⟨m, hs⟩ := exists_source h hv
  obtain ⟨hr, hy⟩ := hs.yields h
  exact hy.nodup_names hr hps

/-- The properties of an object, compiled from a schema with these keywords.  Each is optional
unless its key is among the required ones.  Under keys that are distinct texts they have the names
and the order of the schema, and if the required names are a list, or left out, a property is
optional unless its name is one of them. -/
structure FieldsInOrder (es : Entries) (ps : Table Validator) : Prop where
  optional_iff : ∀ p ∈ ps, ∃ entries e, keyword es "properties" (.map []) = .map entries ∧
    IsPropertyOf entries p.1 e ∧
    (p.2.optional = true ↔ (keyword es "required" (.list [])).holds e.1 = .ok false)
  of_table : ∀ t : Table Value, t.names.Nodup →
    keyword es "properties" (.map []) = .ofTable t → Table.names ps = t.names ∧
      ∀ xs, keyword es "required" (.list []) = .list xs →
        ∀ p ∈ ps, (p.2.optional = true ↔ ¬ Requires es p.1)

/-- A part of a tree is in order, given the schema that it comes from: an array has items, which may
not be absent, an object has properties, and nothing else has either. -/
structure InOrder (m : Value) (v : Validator) : Prop where
  items_iff : v.items.isSome ↔ v.kind = .array
  properties_iff : v.properties.isSome ↔ v.kind = .object
  items_mandatory : ∀ item, v.items = some item → item.optional = false
  fields : ∀ ps, v.properties = some ps → ∃ es, m = .map es ∧
    Entries.get? es "type" = some (.text "object") ∧ FieldsInOrder es ps

/-- What is neither an array nor an object has no parts. -/
theorem inOrder_of_whole {kind : Kind} {description : Option Value} (ha : kind ≠ .array)
    (ho : kind ≠ .object) : InOrder m ⟨kind, optional, description, none, none⟩ :=
  ⟨by simpa using ha, by simpa using ho, fun _ h => (nomatch h), fun _ h => (nomatch h)⟩

/-- Under keys that are texts the fields have the names of the schema. -/
theorem names_of_isNamedBy {required : Value} {t : Table Value} {named : Table Validator}
    (h : List.Forall₂ (IsNamedBy schemas required) t.keyed named) : named.names = t.names := by
  induction t generalizing named with
  | nil =>
    cases h
    rfl
  | cons e rest ih =>
    obtain ⟨p, named, ⟨hk, _⟩, hrest, rfl⟩ := List.forall₂_cons_left_iff.1 h
    have hname : p.1 = e.1 := (Checked.fine.inj hk).symm
    exact congrArg₂ List.cons hname (ih hrest)

/-- The key of a property is its name, if the keys are texts. -/
theorem IsPropertyOf.key {t : Table Value} {name : String} {e : Value × Value}
    (h : IsPropertyOf t.keyed name e) : e.1 = .text name := by
  obtain ⟨f, _, rfl⟩ := List.mem_map.1 h.mem
  obtain ⟨_, _, _, hk, _⟩ := h
  exact congrArg Value.text (Checked.fine.inj hk)

/-- **The properties of an object are in order.** -/
theorem Yields.fieldsInOrder {es : Entries} (h : Yields schemas (.map es) optional w)
    (hr : refOf? (.map es) = none) (ht : Entries.get? es "type" = some (.text "object"))
    {ps : List (String × Validator)} (hps : w.properties = some ps) : FieldsInOrder es ps := by
  have hview := view_of_type_object hr ht
  obtain ⟨entries, hentries⟩ : ∃ entries, keyword es "properties" (.map []) = .map entries := by
    obtain ⟨entries, he, _⟩ := h.legible _ .refl _ _ hview
    exact ⟨entries, he⟩
  rw [hentries] at hview
  have hfields : ∀ p ∈ ps, ∃ e, IsPropertyOf entries p.1 e ∧
      (p.2.optional = true ↔ (keyword es "required" (.list [])).holds e.1 = .ok false) := by
    intro p hp
    obtain ⟨e, he, _, listed, hl, hy⟩ := h.property hview hps hp
    refine ⟨e, he, ?_⟩
    rw [hy.optional_eq, hl]
    cases listed <;> simp
  refine ⟨fun p hp => ?_, fun t hn htable => ?_⟩
  · obtain ⟨e, he, ho⟩ := hfields p hp
    exact ⟨entries, e, hentries, he, ho⟩
  · obtain rfl : entries = t.keyed := Value.map.inj (hentries.symm.trans htable)
    obtain ⟨fields, named, hf, hnamed, rfl⟩ := h.of_object hview
    cases hps
    have hnames := names_of_isNamedBy (forall₂_isNamedBy hf hnamed)
    refine ⟨by rw [Table.ofList_eq_self (hnames ▸ hn), hnames], fun xs hxs p hp => ?_⟩
    obtain ⟨e, he, ho⟩ := hfields p hp
    rw [ho, he.key, requires_iff hxs, hxs, Value.holds_list_text, Except.ok.injEq,
      ← Bool.not_eq_true, ← mem_of_holds (Value.holds_list_text xs p.1)]

/-- **What a resolved schema yields is in order.** -/
theorem Yields.inOrder (h : Yields schemas node optional w) (hr : IsResolved schemas node) :
    InOrder node w := by
  have hyields := h
  induction h using Yields.induct with
  | notSchema => exact inOrder_of_whole (by decide) (by decide)
  | unresolved => exact inOrder_of_whole (by decide) (by decide)
  | target _ _ ref _ _ hv ht _ _ _ => cases (hr ref hv).symm.trans ht
  | plain node optional kind hv _ =>
    obtain ⟨es, _, _, _, _, rfl⟩ := view_eq_plain_iff.1 hv
    obtain ⟨ha, ho⟩ := plainKind_ne (Entries.get? es "type")
    exact inOrder_of_whole ha ho
  | array node optional items item hv hi _ _ =>
    refine ⟨by simp, by simp, fun item' h => ?_, fun _ h => nomatch h⟩
    cases h
    exact hi.optional_eq
  | object node optional required ps fields named hv _ _ _ =>
    refine ⟨by simp, by simp, fun _ h => (nomatch h), fun ps' hps => ?_⟩
    obtain ⟨es, rfl, href, ht, _⟩ := view_eq_object_iff.1 hv
    exact ⟨es, rfl, ht, hyields.fieldsInOrder href ht hps⟩

end Schema
end ToolGateway
