/-
# Regular objects

Nothing checks a raw schema below the first level, so the required names of an object need not be a
list, nor its properties a map.  `Regular` says that they are where they are given.  Then the
properties form a table, the compiled fields form one under the same names (`Regular.fields`), and
nothing but a cycle can stop the compilation (`compileOn_error_of_regular`).
-/

import ToolGateway.Proofs.Schema.Legible

namespace ToolGateway

/-- The entries of a table under raw keys. -/
def Table.keyed {α : Type} (t : Table α) : List (Value × α) := t.map fun e => (.text e.1, e.2)

namespace Schema

/-- An object's required names are a list, and its properties a map from distinct texts, where they
are given. -/
def Regular (node : Value) : Prop :=
  ∀ required properties, view node = .object required properties →
    (∃ xs, required = .list xs) ∧ ∃ t : Table Value, t.names.Nodup ∧ properties = .ofTable t

variable {schemas : Schemas} {stack : List String} {node : Value} {optional : Bool}

/-- Fields under texts get these as their names. -/
theorem nameFields_keyed (named : Table Validator) : nameFields named.keyed = .fine named := by
  induction named with
  | nil => rfl
  | cons e rest ih =>
    show _ <*> nameFields (Table.keyed rest) = _
    rw [ih]
    rfl

/-- Fields under distinct texts become properties as they are. -/
theorem properties_keyed {model field : String} {named : Table Validator}
    (h : named.names.Nodup) : properties model field named.keyed = pure named := by
  unfold properties
  rw [nameFields_keyed]
  exact congrArg pure (Table.ofList_eq_self h)

/-- A property under a name and its field. -/
def IsNamedField (leads : Value → Bool → Validator → Prop) (required : Value)
    (e : String × Value) (f : String × Validator) : Prop :=
  f.1 = e.1 ∧ ∃ listed, required.holds (.text e.1) = .ok listed ∧ leads e.2 (!listed) f.2

/-- The fields of a table of properties are a table. -/
theorem exists_named {leads : Value → Bool → Validator → Prop} {required : Value}
    {t : Table Value} {fields : List (Value × Validator)}
    (h : List.Forall₂ (IsField leads required) t.keyed fields) :
    ∃ named : Table Validator, fields = named.keyed ∧
      List.Forall₂ (IsNamedField leads required) t named := by
  induction t generalizing fields with
  | nil =>
    cases h
    exact ⟨[], rfl, .nil⟩
  | cons e rest ih =>
    obtain ⟨name, m⟩ := e
    obtain ⟨⟨k, w⟩, fields, ⟨hk, hw⟩, hfs, rfl⟩ := List.forall₂_cons_left_iff.1 h
    obtain ⟨named, rfl, hn⟩ := ih hfs
    obtain rfl : k = .text name := hk
    exact ⟨(name, w) :: named, rfl, .cons ⟨rfl, hw⟩ hn⟩

/-- Fields have the names of their properties. -/
theorem names_eq_of_forall₂ {leads : Value → Bool → Validator → Prop} {required : Value}
    {t : Table Value} {named : Table Validator}
    (h : List.Forall₂ (IsNamedField leads required) t named) : named.names = t.names := by
  induction h with
  | nil => rfl
  | cons he _ ih => exact congrArg₂ List.cons he.1 ih

/-- The compiled properties of a regular object are a table under the same names. -/
theorem Regular.fields (hr : Regular node) {required : Value} {ps : Entries}
    (hv : view node = .object required (.map ps)) {leads : Value → Bool → Validator → Prop}
    {fields : List (Value × Validator)} (hf : List.Forall₂ (IsField leads required) ps fields) :
    ∃ (xs : List Value) (t : Table Value) (named : Table Validator),
      required = .list xs ∧ t.names.Nodup ∧ ps = t.keyed ∧ nameFields fields = .fine named ∧
        Table.ofList named = named ∧ List.Forall₂ (IsNamedField leads required) t named := by
  obtain ⟨⟨xs, rfl⟩, t, ht, hp⟩ := hr _ _ hv
  obtain rfl : ps = t.keyed := by
    cases hp
    rfl
  obtain ⟨named, rfl, hn⟩ := exists_named hf
  have hnames : named.names.Nodup := names_eq_of_forall₂ hn ▸ ht
  exact ⟨xs, t, named, rfl, ht, rfl, nameFields_keyed named, Table.ofList_eq_self hnames, hn⟩

/-- A list holds a text if the text is among its items. -/
theorem mem_of_holds {xs : List Value} {name : String} {listed : Bool}
    (h : (Value.list xs).holds (.text name) = .ok listed) : listed = true ↔ .text name ∈ xs := by
  rw [Value.holds_list_text, Except.ok.injEq] at h
  rw [← h, List.any_eq_true]
  constructor
  · rintro ⟨x, hx, hs⟩
    exact Value.sameKey_text hs ▸ hx
  · exact fun hm => ⟨_, hm, by simp [Value.sameKey]⟩

/-- The fields of a regular object and its properties: each stands under the name of the other, and a
field is optional unless its name is among the required ones. -/
theorem Regular.fields_iff (hr : Regular node) {required : Value} {ps : Entries}
    (hv : view node = .object required (.map ps)) {leads : Value → Bool → Validator → Prop}
    {fields : List (Value × Validator)} (hf : List.Forall₂ (IsField leads required) ps fields)
    {named : Table Validator} (hn : nameFields fields = .fine named) :
    ∃ xs, required = .list xs ∧
      (∀ p ∈ Table.ofList named, ∃ sub optional, Entries.get? ps p.1 = some sub ∧
        (optional = false ↔ .text p.1 ∈ xs) ∧ leads sub optional p.2) ∧
      ∀ name sub, Entries.get? ps name = some sub → ∃ w optional,
        (name, w) ∈ Table.ofList named ∧ (optional = false ↔ .text name ∈ xs) ∧
          leads sub optional w := by
  obtain ⟨xs, t, _, rfl, ht, rfl, hn', ho, hf⟩ := hr.fields hv hf
  cases hn.symm.trans hn'
  have hget : ∀ name, Entries.get? t.keyed name = t.get? name := Entries.get?_ofTable t
  refine ⟨xs, rfl, fun p hp => ?_, fun name sub hs => ?_⟩
  · rw [ho] at hp
    obtain ⟨e, he, hk, listed, hl, hw⟩ := exists_mem_of_forall₂ hf.flip p hp
    rw [hget, hk]
    exact ⟨e.2, !listed, Table.get?_of_mem ht he, by simpa using mem_of_holds hl, hw⟩
  · rw [hget] at hs
    obtain ⟨p, hp, hk, listed, hl, hw⟩ := exists_mem_of_forall₂ hf _ (Table.mem_of_get? hs)
    obtain rfl : p.1 = name := hk
    exact ⟨p.2, !listed, by rwa [ho], by simpa using mem_of_holds hl, hw⟩

/-- A regular object is legible: all its keys are texts, and a list can be asked for them. -/
theorem Regular.legible (hr : Regular node) : Legible node := by
  intro required properties hv
  obtain ⟨⟨xs, rfl⟩, t, _, rfl⟩ := hr _ _ hv
  refine ⟨_, rfl, fun e he => ?_⟩
  obtain ⟨p, _, rfl⟩ := List.mem_map.1 he
  exact ⟨⟨p.1, rfl⟩, _, rfl⟩

/-- **Nothing but a cycle stops the compilation** of a schema whose objects are regular. -/
theorem compileOn_error_of_regular {f : Failure}
    (hr : ∀ m, Met schemas node m → Regular m)
    (h : (compileOn schemas stack node optional).result = .error f) :
    ∃ chain, f = .schemaCycle chain :=
  compileOn_error_of_legible (fun m hm => (hr m hm).legible) h

end Schema
end ToolGateway
