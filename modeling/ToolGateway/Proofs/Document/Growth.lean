/-
# Documents that grow

A document may hold more than is read of it, and more may be added.  `Entries.Adds` says of two maps
that the second one is the first with entries added anywhere, and the relations `Grows` say level by
level what may be added: keys that are not read, to parameters, operations and path items; operations
of methods that are passed over; paths that are no items; and schemas under fresh names.

A document that has grown is loaded if it was loaded before.  Its paths are the same, each with the
same preferred operation, and all schemas but the fresh ones are found as they were
(`ofEntries_of_grows`).
-/

import ToolGateway.Document.Basic
import ToolGateway.Proofs.Check.Follows

namespace ToolGateway

open Checked (Follows)

/-! ### Maps with additions -/

/-- A key that is none of the names. -/
def IsOther (names : List String) (k : Value) : Prop := ∀ name ∈ names, k ≠ .text name

theorem isOther_text {names : List String} {name : String} (h : name ∉ names) :
    IsOther names (.text name) := by
  rintro n hn ⟨⟩
  exact h hn

namespace Entries

/-- The second map is the first with new entries added.  Entries that are kept stay in order and under
their keys, and their values may grow themselves. -/
inductive Adds (new : Value → Value → Prop) (kept : Value → Value → Value → Prop) :
    Entries → Entries → Prop
  | nil : Adds new kept [] []
  | keep {k v v' : Value} {es es' : Entries} :
      kept k v v' → Adds new kept es es' → Adds new kept ((k, v) :: es) ((k, v') :: es')
  | add {k v : Value} {es es' : Entries} :
      new k v → Adds new kept es es' → Adds new kept es ((k, v) :: es')

theorem get?_cons_self (name : String) (v : Value) (es : Entries) :
    get? ((.text name, v) :: es) name = some v := by
  simp [get?]

theorem get?_cons_of_ne {k : Value} {name : String} (h : k ≠ .text name) (v : Value)
    (es : Entries) : get? ((k, v) :: es) name = get? es name := by
  cases k with
  | text s =>
    rw [get?, if_neg fun hs => h (congrArg Value.text hs)]
  | _ => rfl

variable {new : Value → Value → Prop} {kept : Value → Value → Value → Prop} {es es' : Entries}

/-- What is found after the addition is what was found before, grown, unless it is new. -/
theorem Adds.get? (h : Adds new kept es es') (name : String) :
    Option.Rel (kept (.text name)) (Entries.get? es name) (Entries.get? es' name) ∨
      ∃ v, Entries.get? es' name = some v ∧ new (.text name) v := by
  induction h with
  | nil => exact Or.inl .none
  | @keep k v v' es es' hk _ ih =>
    by_cases hn : k = .text name
    · subst hn
      rw [get?_cons_self, get?_cons_self]
      exact Or.inl (.some hk)
    · rw [get?_cons_of_ne hn, get?_cons_of_ne hn]
      exact ih
  | @add k v es es' hk _ ih =>
    by_cases hn : k = .text name
    · subst hn
      rw [get?_cons_self]
      exact Or.inr ⟨v, rfl, hk⟩
    · rw [get?_cons_of_ne hn]
      exact ih

/-- A field follows if what is found under each of its names does. -/
theorem rel_find {α β : Type} {R : α → β → Prop} {shape : Shape α} {shape' : Shape β}
    {P : String → Value → Value → Prop} {n : Shape.Naming}
    (hget : ∀ name, name = n.outer ∨ name = n.inner →
      Option.Rel (P name) (Entries.get? es name) (Entries.get? es' name))
    (hP : ∀ name v v', name = n.outer ∨ name = n.inner → P name v v' →
      Follows R (shape v) (shape' v')) :
    Option.Rel (fun p p' => Follows R (shape p.2) (shape' p'.2)) (n.find es) (n.find es') := by
  have houter := hget _ (Or.inl rfl)
  have hinner := hget _ (Or.inr rfl)
  unfold Shape.Naming.find
  generalize Entries.get? es n.outer = outer at houter
  generalize Entries.get? es' n.outer = outer' at houter
  generalize Entries.get? es n.inner = inner at hinner
  generalize Entries.get? es' n.inner = inner' at hinner
  cases houter with
  | some hv => exact .some (hP _ _ _ (Or.inl rfl) hv)
  | none =>
    cases hinner with
    | some hv => exact .some (hP _ _ _ (Or.inr rfl) hv)
    | none => exact .none

/-- A field follows if its names are none of new entries and it follows wherever its value has grown.
-/
theorem Adds.find {α β : Type} {R : α → β → Prop} {shape : Shape α} {shape' : Shape β}
    {names : List String} (h : Adds (fun k _ => IsOther names k) kept es es') {n : Shape.Naming}
    (ho : n.outer ∈ names) (hi : n.inner ∈ names)
    (hkept : ∀ name v v', name = n.outer ∨ name = n.inner → kept (.text name) v v' →
      Follows R (shape v) (shape' v')) :
    Option.Rel (fun p p' => Follows R (shape p.2) (shape' p'.2)) (n.find es) (n.find es') := by
  refine rel_find (fun name hn => ?_) hkept
  have hname : name ∈ names := by
    rcases hn with rfl | rfl
    · exact ho
    · exact hi
  exact (h.get? name).resolve_right fun ⟨_, _, hother⟩ => hother name hname rfl

end Entries

/-- A value itself, or a map to which entries were added.  What may be added can depend on what the
map holds. -/
inductive Value.Grows (new : Entries → Value → Value → Prop)
    (kept : Value → Value → Value → Prop) : Value → Value → Prop
  | refl (v : Value) : Grows new kept v v
  | map {es es' : Entries} : Entries.Adds (new es) kept es es' → Grows new kept (.map es) (.map es')

/-- A record follows if its fields do. -/
theorem Shape.follows_record {α : Type} {R : α → α → Prop} (hR : ∀ a, R a a)
    {new : Entries → Value → Value → Prop} {kept : Value → Value → Value → Prop} {model : String}
    {fields : Entries → Checked α} {v v' : Value} (h : Value.Grows new kept v v')
    (hf : ∀ es es', Entries.Adds (new es) kept es es' → Follows R (fields es) (fields es')) :
    Follows R (record model fields v) (record model fields v') := by
  cases h with
  | refl => exact .refl hR _
  | map h => exact hf _ _ h

/-! ### Parameters and operations -/

namespace Parameter

/-- The names under which the fields of a parameter are found. -/
def keys : List String :=
  ["name", "in", "location", "schema", "param_schema", "description", "required"]

/-- A parameter with other keys added. -/
def Grows : Value → Value → Prop :=
  Value.Grows (fun _ k _ => IsOther keys k) fun _ v v' => v' = v

/-- Other keys are not read. -/
theorem follows_shape {v v' : Value} (h : Grows v v') : Follows Eq (shape v) (shape v') := by
  refine Shape.follows_record (fun _ => rfl) h fun es es' hadds => ?_
  have hfind : ∀ {α : Type} {s : Shape α} {n : Shape.Naming}, n.outer ∈ keys → n.inner ∈ keys →
      Option.Rel (fun p p' => Follows Eq (s p.2) (s p'.2)) (n.find es) (n.find es') := by
    refine fun ho hi => hadds.find ho hi ?_
    rintro _ v _ _ rfl
    exact .refl (fun _ => rfl) _
  have hfield : ∀ {α : Type} {s : Shape α} {n : Shape.Naming} (a : α), n.outer ∈ keys →
      n.inner ∈ keys → Follows Eq (Shape.withDefault es n s a) (Shape.withDefault es' n s a) :=
    fun _ ho hi => Shape.follows_withDefault rfl (hfind ho hi)
  have hname := Shape.follows_required (@hfind _ Shape.text ⟨"name", "name"⟩ (by decide) (by decide))
  exact hname.map_eq _ |>.ap_eq (hfield _ (by decide) (by decide))
    |>.ap_eq (hfield _ (by decide) (by decide)) |>.ap_eq (hfield _ (by decide) (by decide))
    |>.ap_eq (hfield _ (by decide) (by decide))

end Parameter

namespace Operation

/-- The names under which the fields of an operation are found. -/
def keys : List String :=
  ["operationId", "operation_id", "summary", "description", "parameters", "requestBody",
    "request_body"]

/-- The value of an operation's key as it was, or a list of parameters of which each has grown. -/
def Kept (k v v' : Value) : Prop :=
  v' = v ∨ k = .text "parameters" ∧
    ∃ ps ps', v = .list ps ∧ v' = .list ps' ∧ List.Forall₂ Parameter.Grows ps ps'

/-- An operation with other keys added, to itself or to its parameters. -/
def Grows : Value → Value → Prop := Value.Grows (fun _ k _ => IsOther keys k) Kept

/-- An operation that has grown is read to the same operation. -/
theorem follows_shape {v v' : Value} (h : Grows v v') : Follows Eq (shape v) (shape v') := by
  refine Shape.follows_record (fun _ => rfl) h fun es es' hadds => ?_
  -- all fields but the parameters are as they were
  have hfield : ∀ {α : Type} {s : Shape α} {n : Shape.Naming} (a : α), n.outer ∈ keys →
      n.inner ∈ keys → n.outer ≠ "parameters" → n.inner ≠ "parameters" →
      Follows Eq (Shape.withDefault es n s a) (Shape.withDefault es' n s a) := by
    refine fun a ho hi hpo hpi => Shape.follows_withDefault rfl (hadds.find ho hi ?_)
    rintro name v v' hn (rfl | ⟨hk, _⟩)
    · exact .refl (fun _ => rfl) _
    · rcases hn with rfl | rfl
      · exact absurd (Value.text.inj hk) hpo
      · exact absurd (Value.text.inj hk) hpi
  have hparameters : Follows Eq
      (Shape.withDefault es ⟨"parameters", "parameters"⟩ (Shape.list Parameter.shape) [])
      (Shape.withDefault es' ⟨"parameters", "parameters"⟩ (Shape.list Parameter.shape) []) := by
    refine Shape.follows_withDefault rfl (hadds.find (by decide) (by decide) ?_)
    rintro _ v v' _ (rfl | ⟨_, ps, ps', rfl, rfl, hps⟩)
    · exact .refl (fun _ => rfl) _
    · refine (Shape.follows_itemsFrom (hps.imp fun _ _ => Parameter.follows_shape)).imp ?_
      exact fun _ _ h => List.forall₂_eq_eq_eq ▸ h
  exact (hfield _ (by decide) (by decide) (by decide) (by decide)).map_eq _
    |>.ap_eq (hfield _ (by decide) (by decide) (by decide) (by decide))
    |>.ap_eq (hfield _ (by decide) (by decide) (by decide) (by decide)) |>.ap_eq hparameters
    |>.ap_eq (hfield _ (by decide) (by decide) (by decide) (by decide))

end Operation

/-! ### Path items -/

namespace PathItem

theorem mem_precedence (m : Http.Method) : m ∈ precedence := by
  cases m <;> decide

/-- The map has an operation under the name of the method. -/
def Offers (es : Entries) (m : Http.Method) : Prop :=
  ∃ v, Entries.get? es m.name = some v ∧ v ≠ .null

/-- What may be added to a path item: a key that names no method, or an operation of a method behind
one that has an operation already. -/
inductive Passed (es : Entries) : Value → Value → Prop
  | other {k v : Value} : IsOther (precedence.map Http.Method.name) k → Passed es k v
  | behind {m₀ m : Http.Method} {v : Value} {o : Operation} :
      [m₀, m].Sublist precedence → Offers es m₀ → Operation.shape v = .fine o →
      Passed es (.text m.name) v

/-- A path item to which something was added that is passed over, or whose operations have grown. -/
def Grows : Value → Value → Prop := Value.Grows Passed fun _ => Operation.Grows

/-- The operation of a method in a map. -/
def read (es : Entries) (m : Http.Method) : Checked (Option Operation) :=
  Shape.withDefault es ⟨m.name, m.name⟩ (Shape.orNull Operation.shape) none

theorem fields_eq (es : Entries) :
    fields es = PathItem.mk <$> read es .get <*> read es .post <*> read es .delete := rfl

theorem read_of_fields {es : Entries} {item : PathItem} (h : fields es = .fine item)
    (m : Http.Method) : read es m = .fine (item.operation? m) := by
  rw [fields_eq] at h
  generalize hg : read es .get = g at h
  generalize hp : read es .post = p at h
  generalize hd : read es .delete = d at h
  cases g <;> cases p <;> cases d <;> cases h
  cases m
  · exact hg
  · exact hp
  · exact hd

theorem read_of_get? {es : Entries} {m : Http.Method} {v : Value}
    (h : Entries.get? es m.name = some v) (hv : v ≠ .null) :
    read es m = ((Operation.shape v).map some).under (.name m.name) := by
  unfold read Shape.withDefault Shape.Naming.find
  dsimp only
  rw [h, ← Shape.orNull_of_ne hv]

/-- A method with an operation in a map has one in the item that is read from it. -/
theorem isSome_of_offers {es : Entries} {item : PathItem} (h : fields es = .fine item)
    {m : Http.Method} (hm : Offers es m) : (item.operation? m).isSome = true := by
  obtain ⟨v, hv, hnull⟩ := hm
  have hread := read_of_fields h m
  rw [read_of_get? hv hnull] at hread
  obtain ⟨o, _, ho⟩ := Checked.exists_of_map_eq_fine (Checked.eq_fine_of_under hread)
  rw [ho]
  rfl

/-- An operation that has grown is read to the same one, and one is added only behind another. -/
theorem follows_read {es es' : Entries}
    (h : Entries.Adds (Passed es) (fun _ => Operation.Grows) es es') (m : Http.Method) :
    Follows (fun o o' => o' = o ∨ ∃ m₀, [m₀, m].Sublist precedence ∧ Offers es m₀)
      (read es m) (read es' m) := by
  rcases h.get? m.name with hrel | ⟨v, hv, hpassed⟩
  · refine Shape.follows_withDefault (Or.inl rfl) (Entries.rel_find (P := fun _ => Operation.Grows)
      (fun name hn => ?_) fun _ v v' _ hv => ?_)
    · obtain rfl : name = m.name := hn.elim id id
      exact hrel
    · have hnull : v = .null ↔ v' = .null := by
        cases hv with
        | refl => exact Iff.rfl
        | map => exact iff_of_false (fun h => nomatch h) (fun h => nomatch h)
      refine (Shape.follows_orNull hnull (Operation.follows_shape hv)).imp ?_
      rintro _ _ (⟨⟨⟩⟩ | _)
      · exact Or.inl rfl
      · exact Or.inl rfl
  · generalize hk : Value.text m.name = k at hpassed
    cases hpassed with
    | other hother =>
      subst hk
      exact absurd rfl (hother _ (List.mem_map_of_mem (mem_precedence m)))
    | @behind m₀ m' _ o hs hoffers ho =>
      obtain rfl : m = m' := by
        have hname : Http.Method.named? m.name = Http.Method.named? m'.name := by
          rw [Value.text.inj hk]
        rw [Http.Method.named?_name, Http.Method.named?_name] at hname
        exact Option.some.inj hname
      have hnull : v ≠ .null := by
        rintro rfl
        cases ho
      rw [read_of_get? hv hnull, ho]
      exact fun _ _ => ⟨some o, rfl, Or.inr ⟨m₀, hs, hoffers⟩⟩

/-- Of what is found first nothing changes if all changes are behind something that is found. -/
theorem findSome?_congr_of_behind {α β : Type} {f f' : α → Option β} {xs : List α}
    (hxs : xs.Nodup)
    (h : ∀ x ∈ xs, f' x = f x ∨ ∃ y, [y, x].Sublist xs ∧ (f y).isSome = true) :
    xs.findSome? f' = xs.findSome? f := by
  induction xs with
  | nil => rfl
  | cons a rest ih =>
    obtain ⟨ha, hrest⟩ := List.nodup_cons.1 hxs
    have hfirst : f' a = f a := by
      rcases h a List.mem_cons_self with he | ⟨y, hs, _⟩
      · exact he
      · cases hs with
        | cons _ hs => exact absurd (hs.subset (List.mem_cons_of_mem _ List.mem_cons_self)) ha
        | cons_cons _ hs => exact absurd (hs.subset List.mem_cons_self) ha
    rw [List.findSome?_cons, List.findSome?_cons, hfirst]
    cases hfa : f a with
    | some b => rfl
    | none =>
      refine ih hrest fun x hx => ?_
      rcases h x (List.mem_cons_of_mem _ hx) with he | ⟨y, hs, hy⟩
      · exact Or.inl he
      · cases hs with
        | cons _ hs => exact Or.inr ⟨y, hs, hy⟩
        | cons_cons _ hs =>
          rw [hfa] at hy
          cases hy

/-- Behind an operation nothing counts. -/
theorem selected?_congr {item item' : PathItem}
    (h : ∀ m, item'.operation? m = item.operation? m ∨
      ∃ m₀, [m₀, m].Sublist precedence ∧ (item.operation? m₀).isSome = true) :
    item'.selected? = item.selected? := by
  refine findSome?_congr_of_behind (by decide) fun m _ => ?_
  rcases h m with he | ⟨m₀, hs, hm₀⟩
  · exact Or.inl (by rw [he])
  · exact Or.inr ⟨m₀, hs, by rw [Option.isSome_map, hm₀]⟩

/-- A path item that has grown has the same preferred operation. -/
theorem follows_shape {v v' : Value} (h : Grows v v') :
    Follows (fun item item' => item'.selected? = item.selected?) (shape v) (shape v') := by
  refine Shape.follows_record (R := fun item item' : PathItem => item'.selected? = item.selected?)
    (fun _ => rfl) h fun es es' hadds item hitem => ?_
  have hread : ∀ m, ∃ o, read es' m = .fine o ∧ (o = item.operation? m ∨
      ∃ m₀, [m₀, m].Sublist precedence ∧ (item.operation? m₀).isSome = true) := by
    intro m
    obtain ⟨o, ho, hcases⟩ := follows_read hadds m _ (read_of_fields hitem m)
    exact ⟨o, ho, hcases.imp_right fun ⟨m₀, hs, hm₀⟩ => ⟨m₀, hs, isSome_of_offers hitem hm₀⟩⟩
  obtain ⟨g, hg, hgs⟩ := hread .get
  obtain ⟨p, hp, hps⟩ := hread .post
  obtain ⟨d, hd, hds⟩ := hread .delete
  refine ⟨⟨g, p, d⟩, ?_, selected?_congr fun m => ?_⟩
  · rw [fields_eq, hg, hp, hd]
    rfl
  · cases m with
    | get => exact hgs
    | post => exact hps
    | delete => exact hds

end PathItem

/-! ### Documents -/

namespace Document

/-- The entries under the paths of a raw document; without paths there are none. -/
def rawPaths (es : Entries) : Value := Schema.keyword es "paths" (.map [])

/-- The entries under the schemas of a raw document; without components or schemas there are none. -/
def rawSchemas (es : Entries) : Value :=
  (((Value.map es).at? ["components", "schemas"]).bind Value.given?).getD (.map [])

/-- Of the paths those that are items are kept. -/
def items (ps : Entries) : Entries := ps.filter fun e => e.2.isMap

/-- A map with nothing but texts as keys. -/
def IsTextKeyed (v : Value) : Prop := ∃ es, v = .map es ∧ ∀ e ∈ es, ∃ name, e.1 = .text name

/-- The raw document has grown: paths were added that are no items, path items have grown themselves,
and schemas were added under fresh names.  Nothing else is read of a document, so nothing is said of
its other keys and of the other components. -/
structure Grows (fresh : String → Prop) (es es' : Entries) : Prop where
  paths : ∃ ps ps', rawPaths es = .map ps ∧ rawPaths es' = .map ps' ∧
    Entries.Adds (fun _ v => v.isMap = false) (fun _ => PathItem.Grows) ps ps'
  schemas : ∃ ss ss', rawSchemas es = .map ss ∧ rawSchemas es' = .map ss' ∧
    Entries.Adds (fun k v => (∃ name, k = .text name ∧ fresh name) ∧ IsTextKeyed v)
      (fun _ v v' => v' = v) ss ss'

/-- The document of raw paths and raw schemas. -/
def ofParts (ps ss : Entries) : Checked Document :=
  Document.mk <$> (Shape.table PathItem.shape (.map (items ps))).under (.name "paths")
    <*> ((Shape.table Shape.mapping (.map ss)).under (.name "schemas")).under (.name "components")

/-- The part of a raw document that is checked, for raw paths and raw schemas. -/
def checkedPart (ps : Entries) (schemas : Value) : Value :=
  .ofTable [("paths", .map (items ps)), ("components", .ofTable [("schemas", schemas)])]

/-- If the paths are a map, there is something to check. -/
theorem relevant_eq {es ps : Entries} (hp : rawPaths es = .map ps) :
    relevant es = .ok (checkedPart ps (rawSchemas es)) := by
  unfold rawPaths at hp
  unfold relevant
  rw [hp]
  rfl

/-- A raw document with a map of paths is what the check of its part says. -/
theorem ofEntries_eq_check {es ps : Entries} (hp : rawPaths es = .map ps) :
    ofEntries es = match shape (checkedPart ps (rawSchemas es)) with
      | .fine d => .ok d
      | .flawed issues => .error (invalid issues) := by
  unfold ofEntries
  rw [relevant_eq hp]
  rfl

/-- A raw document with paths and schemas is read from these. -/
theorem ofEntries_eq {es ps ss : Entries} (hp : rawPaths es = .map ps)
    (hs : rawSchemas es = .map ss) : ofEntries es = match ofParts ps ss with
      | .fine d => .ok d
      | .flawed issues => .error (invalid issues) := by
  rw [ofEntries_eq_check hp, hs]
  rfl

/-- The paths are the same, with the same preferred operations, and the schemas that are found under
names that are not fresh. -/
structure SameBut (fresh : String → Prop) (d d' : Document) : Prop where
  paths : List.Forall₂ (Table.Twin fun item item' => item'.selected? = item.selected?)
    d.paths d'.paths
  schemas : ∀ name, ¬ fresh name → d'.schemas.get? name = d.schemas.get? name

variable {ps ps' ss ss' : Entries}

theorem items_cons_of_isMap {k v : Value} (h : v.isMap = true) :
    items ((k, v) :: ps) = (k, v) :: items ps := List.filter_cons_of_pos h

theorem items_cons_of_not_isMap {k v : Value} (h : v.isMap = false) :
    items ((k, v) :: ps) = items ps := List.filter_cons_of_neg (by simp [h])

/-- Paths that are added without being items are passed over. -/
theorem forall₂_items
    (h : Entries.Adds (fun _ v => v.isMap = false) (fun _ => PathItem.Grows) ps ps') :
    List.Forall₂ (fun e e' => e'.1 = e.1 ∧ PathItem.Grows e.2 e'.2) (items ps) (items ps') := by
  induction h with
  | nil => exact .nil
  | @keep k v v' ps ps' hv _ ih =>
    cases hv with
    | map hadds =>
      rw [items_cons_of_isMap rfl, items_cons_of_isMap rfl]
      exact .cons ⟨rfl, .map hadds⟩ ih
    | refl =>
      cases hmap : v.isMap with
      | true =>
        rw [items_cons_of_isMap hmap, items_cons_of_isMap hmap]
        exact .cons ⟨rfl, .refl _⟩ ih
      | false =>
        rw [items_cons_of_not_isMap hmap, items_cons_of_not_isMap hmap]
        exact ih
  | add hv _ ih =>
    rw [items_cons_of_not_isMap hv]
    exact ih

/-- A map with texts as keys is a schema. -/
theorem exists_mapping {v : Value} (h : IsTextKeyed v) : ∃ w, Shape.mapping v = .fine w := by
  obtain ⟨es, rfl, hkeys⟩ := h
  obtain ⟨t, ht⟩ : ∃ t, Shape.entries Shape.any es = .fine t := by
    induction es with
    | nil => exact ⟨[], rfl⟩
    | cons e rest ih =>
      obtain ⟨k, v⟩ := e
      obtain ⟨⟨name, rfl⟩, hrest⟩ := List.forall_mem_cons.1 hkeys
      obtain ⟨t, ht⟩ := ih hrest
      refine ⟨(name, v) :: t, ?_⟩
      rw [Shape.entries, ht]
      rfl
  refine ⟨.ofTable (Table.ofList t), ?_⟩
  show ((Shape.entries Shape.any es).map Table.ofList).map Value.ofTable = _
  rw [ht]
  rfl

/-- Schemas that are added are read, and no other schema is found differently. -/
theorem follows_schemas {fresh : String → Prop}
    (h : Entries.Adds (fun k v => (∃ name, k = .text name ∧ fresh name) ∧ IsTextKeyed v)
      (fun _ v v' => v' = v) ss ss') :
    Follows
      (fun t t' => ∀ name, ¬ fresh name → Table.get? t'.reverse name = Table.get? t.reverse name)
      (Shape.entries Shape.mapping ss) (Shape.entries Shape.mapping ss') := by
  induction h with
  | nil => exact .fine fun _ _ => rfl
  | @keep k v v' ss ss' hv _ ih =>
    subst hv
    rw [Shape.entries, Shape.entries]
    refine .ap (.map (.refl (R := Eq) (fun _ => rfl) _) ?_) ih
    rintro e _ rfl t t' ht name hn
    rw [List.reverse_cons, List.reverse_cons, Table.get?_append, Table.get?_append, ht name hn]
  | @add k v ss ss' hv _ ih =>
    obtain ⟨⟨added, rfl, hadded⟩, hkeyed⟩ := hv
    obtain ⟨w, hw⟩ := exists_mapping hkeyed
    intro t ht
    obtain ⟨t', ht', hfound⟩ := ih t ht
    refine ⟨(added, w) :: t', ?_, fun name hn => ?_⟩
    · rw [Shape.entries, ht', hw]
      rfl
    · have hne : added ≠ name := by
        rintro rfl
        exact hn hadded
      rw [List.reverse_cons, Table.get?_append, Table.get?_cons, if_neg hne, Table.get?_nil,
        Option.or_none, hfound name hn]

theorem follows_ofParts {fresh : String → Prop}
    (hpaths : Entries.Adds (fun _ v => v.isMap = false) (fun _ => PathItem.Grows) ps ps')
    (hschemas : Entries.Adds (fun k v => (∃ name, k = .text name ∧ fresh name) ∧ IsTextKeyed v)
      (fun _ v v' => v' = v) ss ss') :
    Follows (SameBut fresh) (ofParts ps ss) (ofParts ps' ss') := by
  have hitems : Follows
      (List.Forall₂ (Table.Twin fun item item' => item'.selected? = item.selected?))
      (Shape.table PathItem.shape (.map (items ps)))
      (Shape.table PathItem.shape (.map (items ps'))) := by
    refine .map (Shape.follows_entries ?_) fun _ _ => Table.forall₂_ofList
    exact (forall₂_items hpaths).imp fun _ _ he => ⟨he.1, PathItem.follows_shape he.2⟩
  have htables : Follows
      (fun t t' => ∀ name, ¬ fresh name → Table.get? t' name = Table.get? t name)
      (Shape.table Shape.mapping (.map ss)) (Shape.table Shape.mapping (.map ss')) := by
    refine .map (follows_schemas hschemas) fun t t' h name hn => ?_
    rw [Table.get?_ofList, Table.get?_ofList, h name hn]
  exact .ap (.map (hitems.under _ _) fun _ _ hp _ _ hs => ⟨hp, hs⟩)
    ((htables.under _ _).under _ _)

/-- **A document that has grown is loaded.**  It has the paths that it had, with the same preferred
operations, and under all names that are not fresh the same schemas. -/
theorem ofEntries_of_grows {fresh : String → Prop} {es es' : Entries} {d : Document}
    (hd : ofEntries es = .ok d) (h : Grows fresh es es') :
    ∃ d', ofEntries es' = .ok d' ∧ SameBut fresh d d' := by
  obtain ⟨⟨ps, ps', hps, hps', hpaths⟩, ss, ss', hss, hss', hschemas⟩ := h
  have hfollows := follows_ofParts hpaths hschemas
  rw [ofEntries_eq hps hss] at hd
  rw [ofEntries_eq hps' hss']
  cases hparts : ofParts ps ss with
  | flawed issues =>
    rw [hparts] at hd
    cases hd
  | fine d₀ =>
    rw [hparts] at hd
    obtain rfl : d₀ = d := Except.ok.inj hd
    obtain ⟨d', hd', hsame⟩ := hfollows d₀ hparts
    rw [hd']
    exact ⟨d', rfl, hsame⟩

end Document
end ToolGateway
