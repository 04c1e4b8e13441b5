/-
# Issues are the violations of the published schema

A check reports what is wrong as issues, and so do the violations of a schema.  `exists_report` says
that these are the same: the issues of a check are those of all violations of the published schema,
one after the other in the order of the declared fields and the items.  Each violation gives one
issue, but a number two, one for each of its readings (`Violation.issues`).

The induction over the validator carries a report and the issues that it gives.  What is reported
under a field or an item is reported one level further out (`exists_fields_report`,
`exists_items_report`), and that these are all violations there is read off the keywords of the
published schema (`violates_schema_iff`).
-/

import ToolGateway.Proofs.Schema.CompiledTree
import ToolGateway.Proofs.Schema.RoundTrip
import ToolGateway.Proofs.Schema.Violations

namespace ToolGateway

open Schema (Violation Violates Before IsReport ValueType Declares Requires typeOf?)

/-! ### The issues of a check in parts -/

namespace Checked

variable {α β : Type}

@[simp] theorem issues_map (f : α → β) (c : Checked α) : (c.map f).issues = c.issues := by
  cases c <;> rfl

@[simp] theorem issues_under (s : Step) (c : Checked α) :
    (c.under s).issues = c.issues.map (Issue.under s) := by
  cases c <;> rfl

theorem issues_cons (c : Checked α) (cs : Checked (List α)) :
    (List.cons <$> c <*> cs).issues = c.issues ++ cs.issues :=
  (issues_ap _ _).trans (congrArg (· ++ cs.issues) (issues_map List.cons c))

end Checked

/-! ### The issues of violations -/

namespace Schema.Violation

/-- The name of the place to which steps lead. -/
def placeName (name : String) : List Step → String
  | [] => name
  | .name key :: rest => placeName (name ++ Text.titleWord key) rest
  | .index _ :: rest => placeName (name ++ "Item") rest

/-- The issues of a value without the type asked for. A number is read in two ways. -/
def typeIssues (name : String) (place : List Step) (found : Value) : ValueType → List Issue
  | .string => [⟨.notText, place, found⟩]
  | .number | .integer =>
    [⟨.notInteger, place ++ [.name "int"], found⟩, ⟨.notNumber, place ++ [.name "float"], found⟩]
  | .boolean => [⟨.notTruth, place, found⟩]
  | .array => [⟨.notList, place, found⟩]
  | .object => [⟨.notModel (Validator.modelName (placeName name place)), place, found⟩]

/-- The issues of a violation, seen from a place with a name. -/
def issues (name : String) : Violation → List Issue
  | mistyped place type found => typeIssues name place found type
  | missing place key found => [⟨.missing, place ++ [.name key], found⟩]

theorem issues_under_name (name key : String) (x : Violation) :
    (x.under (.name key)).issues name
      = (x.issues (name ++ Text.titleWord key)).map (Issue.under (.name key)) := by
  cases x with
  | mistyped place type found => cases type <;> rfl
  | missing => rfl

theorem issues_under_index (name : String) (i : Int) (x : Violation) :
    (x.under (.index i)).issues name
      = (x.issues (name ++ "Item")).map (Issue.under (.index i)) := by
  cases x with
  | mistyped place type found => cases type <;> rfl
  | missing => rfl

end Schema.Violation

namespace Validator

variable {w : Validator} {v : Value} {x : Violation} {name : String}

/-! ### The keywords of a published schema -/

/-- The type that the published schema of a kind asks for. -/
def typeOfKind? : Kind → Option ValueType
  | .any => none
  | .string => some .string
  | .number => some .number
  | .boolean => some .boolean
  | .array => some .array
  | .object => some .object

/-- All that is published. -/
def entries (w : Validator) : Entries := w.shapeEntries ++ descriptionEntries w.description

theorem get?_entries {key : String} (h : key ≠ "description") :
    Entries.get? w.entries key = Entries.get? w.shapeEntries key := by
  rw [entries, Entries.get?_append, get?_descriptionEntries h, Option.or_none]

theorem typeOf?_entries (w : Validator) : typeOf? w.entries = typeOfKind? w.kind := by
  unfold typeOf?
  rw [get?_entries (by decide)]
  unfold shapeEntries
  cases w.kind <;> rfl

theorem get?_entries_items_iff {items : Value} :
    Entries.get? w.entries "items" = some items ↔
      w.kind = .array ∧ items = (w.items.map schema).getD (.map []) := by
  rw [get?_entries (by decide)]
  constructor
  · intro h
    refine ⟨?_, eq_of_get?_shapeEntries_items h⟩
    unfold shapeEntries at h
    cases hk : w.kind with
    | array => rfl
    | object =>
      rw [hk] at h
      cases hm : mandatoryNames (w.properties.getD []) <;> simp [hm, objectEntries, entry,
        Entries.get?] at h
    | _ =>
      rw [hk] at h
      cases h
  · rintro ⟨hk, rfl⟩
    rw [shapeEntries, hk]
    rfl

theorem get?_entries_properties_iff {properties : Value} :
    Entries.get? w.entries "properties" = some properties ↔
      w.kind = .object ∧ properties = .map (propertySchemas (w.properties.getD [])) := by
  rw [get?_entries (by decide)]
  constructor
  · intro h
    refine ⟨?_, eq_of_get?_shapeEntries_properties h⟩
    unfold shapeEntries at h
    cases hk : w.kind with
    | object => rfl
    | _ =>
      rw [hk] at h
      cases h
  · rintro ⟨hk, rfl⟩
    rw [shapeEntries, hk]
    rfl

theorem get?_propertySchemas (ps : List (String × Validator)) (key : String) :
    Entries.get? (propertySchemas ps) key = (Table.get? ps key).map schema := by
  induction ps with
  | nil => rfl
  | cons p rest ih =>
    rw [propertySchemas, entry, Entries.get?, Table.get?_cons, ih]
    split <;> rfl

theorem declares_entries_iff {key : String} {declared : Value} :
    Declares w.entries key declared ↔ w.kind = .object ∧
      ∃ p, Table.get? (w.properties.getD []) key = some p ∧ declared = p.schema := by
  unfold Declares
  constructor
  · rintro ⟨ps, hps, hd⟩
    obtain ⟨hk, he⟩ := get?_entries_properties_iff.1 hps
    cases he
    rw [get?_propertySchemas] at hd
    obtain ⟨p, hp, rfl⟩ := Option.map_eq_some_iff.1 hd
    exact ⟨hk, p, hp, rfl⟩
  · rintro ⟨hk, p, hp, rfl⟩
    refine ⟨_, get?_entries_properties_iff.2 ⟨hk, rfl⟩, ?_⟩
    rw [get?_propertySchemas, hp, Option.map_some]

theorem requires_entries_iff {key : String} :
    Requires w.entries key ↔
      w.kind = .object ∧ key ∈ mandatoryNames (w.properties.getD []) := by
  unfold Requires
  rw [get?_entries (by decide)]
  unfold shapeEntries
  cases hk : w.kind with
  | object =>
    dsimp only
    rw [← @requires_objectEntries_iff (propertySchemas (w.properties.getD []))]
    simp [Requires]
  | _ => simp [Entries.get?, entry]

/-! ### Violations of a published schema -/

/-- The entries violate what a field asks for: in what stands under it, or by not having it. -/
def FieldViolates (fs : Entries) (p : String × Validator) (x : Violation) : Prop :=
  (∃ y u, Entries.get? fs p.1 = some y ∧ Violates p.2.schema y u ∧ x = u.under (.name p.1)) ∨
    (Entries.get? fs p.1 = none ∧ p.2.mayBeAbsent = false ∧ x = .missing [] p.1 (.map fs))

/-- **What violates a published schema** goes by the kind: a value without the type, an item that
violates the schema of items, or entries that violate what a field asks for. -/
theorem violates_schema_iff (hn : (Table.names (w.properties.getD [])).Nodup) :
    Violates w.schema v x ↔
      (∃ type, typeOfKind? w.kind = some type ∧ ¬ type.Has v ∧ x = .mistyped [] type v) ∨
      (w.kind = .array ∧ ∃ item xs i y u, w.items = some item ∧ v = .list xs ∧ xs[i]? = some y ∧
        Violates item.schema y u ∧ x = u.under (.index (i : Nat))) ∨
      (w.kind = .object ∧
        ∃ fs, v = .map fs ∧ ∃ p ∈ w.properties.getD [], FieldViolates fs p x) := by
  have hschema : w.schema = .map w.entries := schema_eq w
  have hget {p : String × Validator} (hp : p ∈ w.properties.getD []) :
      Table.get? (w.properties.getD []) p.1 = some p.2 := Table.get?_of_mem hn hp
  rw [hschema, Schema.violates_map_iff, typeOf?_entries]
  constructor
  · rintro (h | ⟨fs, key, rfl, hr, hnone, rfl⟩ | ⟨items, xs, i, y, u, hi, rfl, hy, hu, rfl⟩ |
      ⟨key, declared, fs, y, u, hd, rfl, hy, hu, rfl⟩)
    · exact .inl h
    · obtain ⟨hk, hm⟩ := requires_entries_iff.1 hr
      obtain ⟨p, hp, ha⟩ := mem_mandatoryNames.1 hm
      exact .inr (.inr ⟨hk, fs, rfl, (key, p), hp, .inr ⟨hnone, ha, rfl⟩⟩)
    · obtain ⟨hk, rfl⟩ := get?_entries_items_iff.1 hi
      cases hitem : w.items with
      | none =>
        rw [hitem] at hu
        exact absurd hu Schema.not_violates_empty
      | some item =>
        rw [hitem] at hu
        exact .inr (.inl ⟨hk, item, xs, i, y, u, rfl, rfl, hy, hu, rfl⟩)
    · obtain ⟨hk, p, hp, rfl⟩ := declares_entries_iff.1 hd
      exact .inr (.inr ⟨hk, fs, rfl, (key, p), Table.mem_of_get? hp, .inl ⟨y, u, hy, hu, rfl⟩⟩)
  · rintro (h | ⟨hk, item, xs, i, y, u, hi, rfl, hy, hu, rfl⟩ |
      ⟨hk, fs, rfl, p, hp, ⟨y, u, hy, hu, rfl⟩ | ⟨hnone, ha, rfl⟩⟩)
    · exact .inl h
    · refine .inr (.inr (.inl ⟨item.schema, xs, i, y, u, ?_, rfl, hy, hu, rfl⟩))
      exact get?_entries_items_iff.2 ⟨hk, by rw [hi]; rfl⟩
    · refine .inr (.inr (.inr ⟨p.1, p.2.schema, fs, y, u, ?_, rfl, hy, hu, rfl⟩))
      exact declares_entries_iff.2 ⟨hk, p.2, hget hp, rfl⟩
    · refine .inr (.inl ⟨fs, p.1, rfl, ?_, hnone, rfl⟩)
      exact requires_entries_iff.2 ⟨hk, mem_mandatoryNames.2 ⟨p.2, hp, ha⟩⟩

/-! ### Reports -/

/-- The check, at the place of that name, finds the issues of the violations, and is fine if there
are none. -/
structure Reports {α : Type} (name : String) (report : List Violation) (c : Checked α) : Prop where
  issues : c.issues = report.flatMap (Violation.issues name)
  fine_iff : c.IsFine ↔ report = []

namespace Reports

variable {α β : Type} {report report' : List Violation} {c : Checked α}

theorem of_isFine (h : c.IsFine) : Reports name [] c where
  issues := by
    obtain ⟨a, rfl⟩ := h
    rfl
  fine_iff := iff_of_true h rfl

/-- A single violation gives its issues. -/
theorem of_violation (x : Violation) :
    Reports name [x] (.flawed (x.issues name) : Checked α) where
  issues := (List.append_nil _).symm
  fine_iff := by simp

theorem map (h : Reports name report c) (f : α → β) : Reports name report (c.map f) :=
  ⟨by rw [Checked.issues_map, h.issues], Checked.isFine_map.trans h.fine_iff⟩

theorem cons {cs : Checked (List α)} (h : Reports name report c) (h' : Reports name report' cs) :
    Reports name (report ++ report') (List.cons <$> c <*> cs) where
  issues := by rw [Checked.issues_cons, h.issues, h'.issues, List.flatMap_append]
  fine_iff := by rw [Checked.isFine_cons, h.fine_iff, h'.fine_iff, List.append_eq_nil_iff]

/-- What is reported is reported one level further out. -/
theorem under {step : Step} {place : String}
    (hissues : ∀ x : Violation, (x.under step).issues name
      = (x.issues place).map (Issue.under step)) (h : Reports place report c) :
    Reports name (report.map (Violation.under step)) (c.under step) where
  issues := by
    rw [Checked.issues_under, h.issues, List.map_flatMap, List.flatMap_map]
    exact List.flatMap_congr fun x _ => (hissues x).symm
  fine_iff := by rw [Checked.isFine_under, h.fine_iff, List.map_eq_nil_iff]

end Reports

/-- What the items of a list report, from an index on, is reported under their indices. -/
theorem exists_items_report {α : Type} {shape : Shape α} {items : Value} {es : Entries}
    (hes : Entries.get? es "items" = some items) {xs : List Value} (i : Nat)
    (h : ∀ y ∈ xs, ∃ report, IsReport items y report ∧
      Reports (name ++ "Item") report (shape y)) :
    ∃ report, Reports name report (Shape.itemsFrom shape i xs) ∧
      (∀ x, x ∈ report ↔ ∃ j y u, xs[j]? = some y ∧ Violates items y u ∧
        x = u.under (.index ((i + j : Nat) : Int))) ∧
      report.Pairwise fun x y => Before (.map es) x.location y.location := by
  induction xs generalizing i with
  | nil => exact ⟨[], .of_isFine ⟨[], rfl⟩, by simp, .nil⟩
  | cons y rest ih =>
    obtain ⟨hy, hrest⟩ := List.forall_mem_cons.1 h
    obtain ⟨front, ⟨hmem, hsorted⟩, hfront⟩ := hy
    obtain ⟨behind, hbehind, hmem', hsorted'⟩ := ih (i + 1) hrest
    -- the first item stands at `i`, and the places behind it are those of the items from `i + 1` on
    refine ⟨front.map (Violation.under (.index i)) ++ behind, ?_, fun x => ?_, ?_⟩
    · rw [Shape.itemsFrom]
      exact (hfront.under (Violation.issues_under_index name i)).cons hbehind
    · rw [List.mem_append, hmem', List.mem_map]
      constructor
      · rintro (⟨u, hu, rfl⟩ | ⟨j, z, u, hz, hu, rfl⟩)
        · exact ⟨0, y, u, rfl, (hmem u).1 hu, rfl⟩
        · exact ⟨j + 1, z, u, hz, hu, by rw [Nat.add_right_comm, Nat.add_assoc]⟩
      · rintro ⟨j, z, u, hz, hu, rfl⟩
        cases j with
        | zero =>
          cases hz
          exact .inl ⟨u, (hmem u).2 hu, rfl⟩
        | succ j => exact .inr ⟨j, z, u, hz, hu, by rw [Nat.add_right_comm, Nat.add_assoc]⟩
    · have hfront := Schema.sorted_under (fun _ _ => Before.item (i := i) hes) hsorted
      refine List.pairwise_append.2 ⟨hfront, hsorted', fun x hx z hz => ?_⟩
      obtain ⟨u, _, rfl⟩ := List.mem_map.1 hx
      obtain ⟨j, _, u', _, _, rfl⟩ := (hmem' z).1 hz
      rw [Violation.location_under, Violation.location_under]
      exact .index (by omega)

/-- The violation of a field is at a place behind its name. -/
theorem FieldViolates.location {fs : Entries} {p : String × Validator}
    (h : FieldViolates fs p x) : ∃ place, x.location = .name p.1 :: place := by
  rcases h with ⟨_, u, _, _, rfl⟩ | ⟨_, _, rfl⟩
  · exact ⟨_, Violation.location_under _ u⟩
  · exact ⟨[], rfl⟩

/-- What a single field reports. -/
theorem exists_field_report {fs es : Entries} {p : String × Validator}
    (hes : Declares es p.1 p.2.schema)
    (h : ∀ y, Entries.get? fs p.1 = some y → ∃ report, IsReport p.2.schema y report ∧
      Reports (name ++ Text.titleWord p.1) report (p.2.check (name ++ Text.titleWord p.1) y)) :
    ∃ report, (∀ x, x ∈ report ↔ FieldViolates fs p x) ∧
      (report.Pairwise fun x y => Before (.map es) x.location y.location) ∧
      ∀ rest behind, Reports name behind (checkFields rest name fs) →
        Reports name (report ++ behind) (checkFields (p :: rest) name fs) := by
  obtain ⟨key, w⟩ := p
  cases hget : Entries.get? fs key with
  | some y =>
    obtain ⟨report, ⟨hmem, hsorted⟩, hreport⟩ := h y hget
    refine ⟨report.map (Violation.under (.name key)), fun x => ?_, ?_, fun rest behind hb => ?_⟩
    · unfold FieldViolates
      simp only [List.mem_map, hmem, hget, Option.some.injEq, reduceCtorEq, false_and, or_false]
      exact ⟨fun ⟨u, hu, he⟩ => ⟨y, u, rfl, hu, he.symm⟩,
        fun ⟨_, u, hy, hu, he⟩ => ⟨u, hy ▸ hu, he.symm⟩⟩
    · exact Schema.sorted_under (fun _ _ => Before.property hes) hsorted
    · rw [checkFields, hget]
      exact ((hreport.under (Violation.issues_under_name name key)).map _).cons hb
  | none =>
    cases ha : w.mayBeAbsent with
    | true =>
      refine ⟨[], fun x => ?_, .nil, fun rest behind hb => ?_⟩
      · simp [FieldViolates, hget, ha]
      · rw [checkFields, hget]
        simpa only [ha, if_true, List.nil_append] using hb
    | false =>
      refine ⟨[.missing [] key (.map fs)], fun x => ?_, List.pairwise_singleton _ _,
        fun rest behind hb => ?_⟩
      · simp [FieldViolates, hget, ha]
      · rw [checkFields, hget]
        simp only [ha, Bool.false_eq_true, if_false]
        exact (Reports.of_violation (.missing [] key (.map fs))).cons hb

/-- What the fields of an object report, is reported in the order of their declaration. -/
theorem exists_fields_report {ps rest : List (String × Validator)} {fs es : Entries}
    (hes : Entries.get? es "properties" = some (.map (propertySchemas ps)))
    (hn : (Table.names ps).Nodup) (hrest : rest.Sublist ps)
    (h : ∀ p ∈ rest, ∀ y, Entries.get? fs p.1 = some y → ∃ report,
      IsReport p.2.schema y report ∧ Reports (name ++ Text.titleWord p.1) report
        (p.2.check (name ++ Text.titleWord p.1) y)) :
    ∃ report, Reports name report (checkFields rest name fs) ∧
      (∀ x, x ∈ report ↔ ∃ p ∈ rest, FieldViolates fs p x) ∧
      report.Pairwise fun x y => Before (.map es) x.location y.location := by
  induction rest with
  | nil => exact ⟨[], .of_isFine ⟨[], rfl⟩, by simp, .nil⟩
  | cons p rest ih =>
    obtain ⟨hp, hrest'⟩ := List.forall_mem_cons.1 h
    have hdeclared : Declares es p.1 p.2.schema := by
      refine ⟨_, hes, ?_⟩
      rw [get?_propertySchemas, Table.get?_of_mem hn (hrest.subset List.mem_cons_self)]
      rfl
    -- the fields that are left are fewer, but the order is that of all fields that are declared
    obtain ⟨front, hmem, hsorted, hfront⟩ := exists_field_report hdeclared hp
    obtain ⟨behind, hbehind, hmem', hsorted'⟩ :=
      ih ((List.sublist_cons_self _ _).trans hrest) hrest'
    refine ⟨front ++ behind, hfront rest behind hbehind, fun x => ?_,
      List.pairwise_append.2 ⟨hsorted, hsorted', fun x hx y hy => ?_⟩⟩
    · rw [List.mem_append, hmem, hmem', List.exists_mem_cons_iff]
    · obtain ⟨q, hq, hy⟩ := (hmem' y).1 hy
      obtain ⟨place, hx⟩ := ((hmem x).1 hx).location
      obtain ⟨place', hy⟩ := hy.location
      rw [hx, hy]
      refine .name ⟨?_, _, hes, ?_⟩
      · -- a name comes only once, so the two keys part here
        have hnames : (p.1 :: Table.names rest).Nodup := hn.sublist (hrest.map Prod.fst)
        intro he
        exact (List.nodup_cons.1 hnames).1 (he ▸ List.mem_map.2 ⟨q, hq, rfl⟩)
      · have hpair : [p, q].Sublist ps :=
          (List.Sublist.cons_cons p (List.singleton_sublist.2 hq)).trans hrest
        rw [propertySchemas_eq_map, List.map_map]
        exact hpair.map fun p => Value.text p.1

/-- A value of the type asked for, or of any if none is, does not violate a schema without parts. -/
theorem isReport_nil (hv : ∀ type, typeOfKind? w.kind = some type → type.Has v)
    (ha : w.kind ≠ .array) (ho : w.kind ≠ .object)
    (hn : (Table.names (w.properties.getD [])).Nodup) : IsReport w.schema v [] where
  mem_iff x := by
    rw [violates_schema_iff hn]
    constructor
    · exact fun h => (nomatch h)
    · rintro (⟨type, ht, h, _⟩ | ⟨hk, _⟩ | ⟨hk, _⟩)
      · exact absurd (hv type ht) h
      · exact absurd hk ha
      · exact absurd hk ho
  sorted := .nil

/-- A value that is not of the type asked for violates the schema in no other way. -/
theorem isReport_mistyped {type : ValueType} (ht : typeOfKind? w.kind = some type)
    (hv : ¬ type.Has v) (hn : (Table.names (w.properties.getD [])).Nodup) :
    IsReport w.schema v [.mistyped [] type v] where
  mem_iff x := by
    rw [violates_schema_iff hn, List.mem_singleton, ht]
    constructor
    · exact fun h => .inl ⟨type, rfl, hv, h⟩
    · rintro (⟨_, ⟨⟩, _, h⟩ | ⟨hk, _, xs, _, _, _, _, rfl, _⟩ | ⟨hk, fs, rfl, _⟩)
      · exact h
      · rw [hk] at ht
        cases ht
        exact absurd ⟨xs, rfl⟩ hv
      · rw [hk] at ht
        cases ht
        exact absurd ⟨fs, rfl⟩ hv
  sorted := List.pairwise_singleton _ _

/-- The report of a value without parts. -/
theorem exists_report_of_type (type : ValueType) (ht : typeOfKind? w.kind = some type)
    (hn : (Table.names (w.properties.getD [])).Nodup) {c : Checked Value}
    (h : type.Has v ∧ w.kind ≠ .array ∧ w.kind ≠ .object ∧ c.IsFine ∨
      ¬ type.Has v ∧ c = .flawed (Violation.typeIssues name [] v type)) :
    ∃ report, IsReport w.schema v report ∧ Reports name report c := by
  rcases h with ⟨hv, ha, ho, hc⟩ | ⟨hv, rfl⟩
  · refine ⟨[], isReport_nil (fun type' ht' => ?_) ha ho hn, .of_isFine hc⟩
    cases ht.symm.trans ht'
    exact hv
  · exact ⟨[.mistyped [] type v], isReport_mistyped ht hv hn, .of_violation _⟩

/-- The items of a list report what an array does. -/
theorem exists_array_report {optional : Bool} {description : Option Value}
    {items : Option Validator} {properties : Option (List (String × Validator))}
    (hn : (Table.names (properties.getD [])).Nodup) (hv : v.IsJson)
    (ih : ∀ item, items = some item → ∀ name v, v.IsJson →
      ∃ report, IsReport item.schema v report ∧ Reports name report (item.check name v)) :
    ∃ report, IsReport (schema ⟨.array, optional, description, items, properties⟩) v report ∧
      Reports name report
        (check ⟨.array, optional, description, items, properties⟩ name v) := by
  by_cases hlist : ∃ xs, v = .list xs
  · obtain ⟨xs, rfl⟩ := hlist
    have htype : ValueType.array.Has (.list xs) := ⟨xs, rfl⟩
    cases items with
    | none =>
      obtain ⟨ys, hys⟩ : (Shape.itemsFrom Shape.any 0 xs).IsFine :=
        Shape.isFine_itemsFrom.2 fun x _ => Checked.isFine_fine x
      refine ⟨[], ⟨fun x => ?_, .nil⟩, ?_⟩
      · rw [violates_schema_iff hn]
        simp [typeOfKind?, htype]
      · rw [check, Shape.list, hys]
        exact .of_isFine (Checked.isFine_fine _)
    | some item =>
      have hes : Entries.get? (entries ⟨.array, optional, description, some item, properties⟩)
          "items" = some item.schema := get?_entries_items_iff.2 ⟨rfl, rfl⟩
      have hitems : ∀ y ∈ xs, ∃ report, IsReport item.schema y report ∧
          Reports (name ++ "Item") report (item.check (name ++ "Item") y) :=
        fun y hy => ih item rfl _ y (hv.item y hy)
      obtain ⟨report, hreport, hmem, hsorted⟩ := exists_items_report hes 0 hitems
      refine ⟨report, ⟨fun x => ?_, schema_eq _ ▸ hsorted⟩, ?_⟩
      · rw [hmem, violates_schema_iff hn]
        simp [typeOfKind?, htype]
      · rw [check, Shape.list]
        exact hreport.map _
  · refine exists_report_of_type .array rfl hn (.inr ⟨hlist, ?_⟩)
    cases v with
    | list xs => exact absurd ⟨xs, rfl⟩ hlist
    | set => cases hv
    | _ => cases items <;> rfl

/-- The fields of a map report what an object does. -/
theorem exists_object_report {optional : Bool} {description : Option Value}
    {items : Option Validator} {properties : Option (List (String × Validator))}
    (hn : (Table.names (properties.getD [])).Nodup) (hv : v.IsJson)
    (ih : ∀ ps, properties = some ps → ∀ p ∈ ps, ∀ name v, v.IsJson →
      ∃ report, IsReport p.2.schema v report ∧ Reports name report (p.2.check name v)) :
    ∃ report, IsReport (schema ⟨.object, optional, description, items, properties⟩) v report ∧
      Reports name report
        (check ⟨.object, optional, description, items, properties⟩ name v) := by
  by_cases hmap : ∃ fs, v = .map fs
  · obtain ⟨fs, rfl⟩ := hmap
    have htype : ValueType.object.Has (.map fs) := ⟨fs, rfl⟩
    have hfields : ∀ p ∈ properties.getD [], ∀ y, Entries.get? fs p.1 = some y →
        ∃ report, IsReport p.2.schema y report ∧ Reports (name ++ Text.titleWord p.1) report
          (p.2.check (name ++ Text.titleWord p.1) y) := by
      intro p hp y hy
      cases properties with
      | none => cases hp
      | some ps => exact ih ps rfl p hp _ y (hv.field hy)
    have hes : Entries.get? (entries ⟨.object, optional, description, items, properties⟩)
        "properties" = some (.map (propertySchemas (properties.getD []))) :=
      get?_entries_properties_iff.2 ⟨rfl, rfl⟩
    obtain ⟨report, hreport, hmem, hsorted⟩ :=
      exists_fields_report hes hn (List.Sublist.refl _) hfields
    refine ⟨report, ⟨fun x => ?_, schema_eq _ ▸ hsorted⟩, ?_⟩
    · rw [hmem, violates_schema_iff hn]
      simp [typeOfKind?, htype]
    · cases properties with
      | none => exact hreport.map fun _ => Value.map []
      | some ps =>
        rw [check]
        exact hreport.map _
  · refine exists_report_of_type .object rfl hn (.inr ⟨hmap, ?_⟩)
    cases v with
    | map fs => exact absurd ⟨fs, rfl⟩ hmap
    | _ => rfl

/-- **A check reports the violations.**  The issues that the check of a JSON value finds are those
of all violations of the published schema, in order. -/
theorem exists_report (w : Validator) : w.Distinct → ∀ name v, v.IsJson →
    ∃ report, IsReport w.schema v report ∧ Reports name report (w.check name v) := by
  induction w using Validator.induct with
  | step w hitem hprop =>
    intro hd name v hv
    have hn := hd.nodup
    obtain ⟨kind, optional, description, items, properties⟩ := w
    cases kind with
    | any =>
      exact ⟨[], isReport_nil (fun _ h => (nomatch h)) (by simp) (by simp) hn, .of_isFine ⟨v, rfl⟩⟩
    | string =>
      refine exists_report_of_type .string rfl hn ?_
      cases v <;> simp [ValueType.Has, check, Checked.issue, Violation.typeIssues]
    | number =>
      refine exists_report_of_type .number rfl hn ?_
      cases v <;> simp [ValueType.Has, check, Violation.typeIssues]
    | boolean =>
      refine exists_report_of_type .boolean rfl hn ?_
      cases v <;> simp [ValueType.Has, check, Checked.issue, Violation.typeIssues]
    | array => exact exists_array_report hn hv fun item hi => hitem item hi (hd.items hi)
    | object =>
      exact exists_object_report hn hv fun ps hps p hp => hprop ps hps p hp (hd.property hps hp)

end Validator

end ToolGateway
