/-
# Validation projects onto what is declared

A validator does not only say which values are fine: an object loses the fields that are not
declared, and keeps the others in the order of their declaration.  `Validator.project` says this
without any check, as a function of the value alone, and `project_eq_of_check` that a value found
fine is its own projection.  For the arguments of a tool it follows at every place below declared
fields (`Governed`), through objects and the items of arrays, what has become of what was supplied
there (`validation_is_projection`).
-/

import ToolGateway.Proofs.Tool.Origin
import ToolGateway.Proofs.Validator.Acceptance

namespace ToolGateway
namespace Validator

/-! ### The projection -/

mutual

/-- The declared part of a value: declared fields of objects, in the order of their declaration,
arrays item by item, and everything else as it is.  A set counts as the list of its items. -/
def project : Validator → Value → Value
  | ⟨.array, _, _, some item, _⟩, .list xs => .list (xs.map item.project)
  | ⟨.array, _, _, some item, _⟩, .set xs => .list (xs.map item.project)
  | ⟨.array, _, _, none, _⟩, .set xs => .list xs
  | ⟨.object, _, _, _, some ps⟩, .map es => .ofTable (projectFields ps es)
  | ⟨.object, _, _, _, none⟩, .map _ => .map []
  | _, v => v

/-- The declared fields that the entries supply, in the order of their declaration. -/
def projectFields : List (String × Validator) → Entries → Table Value
  | [], _ => []
  | (key, w) :: rest, es =>
    match Entries.get? es key with
    | some x => (key, w.project x) :: projectFields rest es
    | none => projectFields rest es

end

variable {w item : Validator} {v u x : Value} {name : String} {es : Entries}
  {ps : List (String × Validator)} {args : Table Value}

/-- What is neither an array nor an object stays as it is. -/
theorem project_of_whole (ha : w.kind ≠ .array) (ho : w.kind ≠ .object) (v : Value) :
    w.project v = v := by
  obtain ⟨kind, optional, description, items, properties⟩ := w
  cases kind with
  | array => exact absurd rfl ha
  | object => exact absurd rfl ho
  | _ => simp [project]

/-- The fields of a projection are the declared ones that are supplied, in the order of their
declaration: none is added, and no other stays. -/
theorem names_projectFields (ps : List (String × Validator)) (es : Entries) :
    (projectFields ps es).names
      = (Table.names ps).filter fun n => (Entries.get? es n).isSome := by
  induction ps with
  | nil => rfl
  | cons p rest ih =>
    obtain ⟨key, w⟩ := p
    rw [projectFields]
    unfold Table.names at ih ⊢
    rw [List.map_cons, List.filter_cons]
    cases h : Entries.get? es key with
    | none => simpa [h] using ih
    | some x => simpa [h] using ih

/-- A field of a projection is the projection of what was supplied. -/
theorem get?_projectFields (ps : List (String × Validator)) (es : Entries) (name : String) :
    (projectFields ps es).get? name
      = (Table.get? ps name).bind fun w => (Entries.get? es name).map w.project := by
  induction ps with
  | nil => rfl
  | cons p rest ih =>
    obtain ⟨key, w⟩ := p
    rw [projectFields, Table.get?_cons]
    by_cases hk : key = name
    · subst hk
      cases h : Entries.get? es key with
      | none =>
        have hrest : (projectFields rest es).get? key = none := by simp [ih, h]
        simpa using hrest
      | some x => simp [Table.get?_cons]
    · rw [if_neg hk]
      cases h : Entries.get? es key with
      | none => exact ih
      | some x =>
        dsimp only
        rw [Table.get?_cons, if_neg hk, ih]

/-! ### What a check gives -/

/-- Items that are found fine are items one by one. -/
theorem eq_map_of_itemsFrom {shape : Shape Value} {f : Value → Value} {xs ys : List Value}
    {i : Nat} (hf : ∀ x y, shape x = .fine y → y = f x)
    (h : Shape.itemsFrom shape i xs = .fine ys) : ys = xs.map f := by
  induction xs generalizing i ys with
  | nil =>
    cases h
    rfl
  | cons x rest ih =>
    obtain ⟨y, ys', hy, hys, rfl⟩ := Checked.cons_eq_fine h
    rw [List.map_cons, ← ih hys, ← hf x y (Checked.eq_fine_of_under hy)]

/-- A list that is found fine is one item by item, and so is a set. -/
theorem exists_of_list_eq_fine {shape : Shape Value} {f : Value → Value} {ys : List Value}
    (hf : ∀ x y, shape x = .fine y → y = f x) (h : Shape.list shape v = .fine ys) :
    ∃ xs, (v = .list xs ∨ v = .set xs) ∧ ys = xs.map f := by
  unfold Shape.list at h
  split at h
  · exact ⟨_, Or.inl rfl, eq_map_of_itemsFrom hf h⟩
  · exact ⟨_, Or.inr rfl, eq_map_of_itemsFrom hf h⟩
  · cases h

/-- Fields that are found fine are projected, if their values are. -/
theorem eq_projectFields_of_checkFields
    (hf : ∀ p ∈ ps, ∀ name v u, p.2.check name v = .fine u → u = p.2.project v)
    (h : checkFields ps name es = .fine args) : args = projectFields ps es := by
  induction ps generalizing args with
  | nil =>
    cases h
    rfl
  | cons p rest ih =>
    obtain ⟨key, w⟩ := p
    rw [List.forall_mem_cons] at hf
    rw [checkFields] at h
    rw [projectFields]
    cases hx : Entries.get? es key with
    | some x =>
      rw [hx] at h
      obtain ⟨a, args', ha, hrest, rfl⟩ := Checked.cons_eq_fine h
      obtain ⟨y, hy, rfl⟩ := Checked.exists_of_map_eq_fine ha
      dsimp only
      rw [← ih hf.2 hrest, ← hf.1 _ _ _ (Checked.eq_fine_of_under hy)]
    | none =>
      rw [hx] at h
      dsimp only at h ⊢
      split at h
      · exact ih hf.2 h
      · obtain ⟨a, args', ha, _⟩ := Checked.cons_eq_fine h
        cases ha

/-- Of a kind without parts a value that is found fine is given back as it is. -/
theorem eq_of_check_whole (ha : w.kind ≠ .array) (ho : w.kind ≠ .object)
    (h : w.check name v = .fine u) : u = v := by
  obtain ⟨kind, optional, description, items, properties⟩ := w
  have hshape := (accepts_iff _ name v).1 ⟨u, h⟩
  cases kind with
  | array => exact absurd rfl ha
  | object => exact absurd rfl ho
  | any =>
    rw [check] at h
    exact (Checked.fine.inj h).symm
  | number =>
    rcases hshape with ⟨i, rfl⟩ | ⟨x, rfl⟩
    · rw [check] at h
      exact (Checked.fine.inj h).symm
    · rw [check] at h
      exact (Checked.fine.inj h).symm
  | _ =>
    obtain ⟨_, rfl⟩ := hshape
    rw [check] at h
    exact (Checked.fine.inj h).symm

/-- **What a check finds fine it projects.** -/
theorem project_eq_of_check (w : Validator) :
    ∀ name v u, w.check name v = .fine u → u = w.project v := by
  induction w using Validator.induct with
  | step w hitem hprop =>
    intro name v u h
    obtain ⟨kind, optional, description, items, properties⟩ := w
    cases kind with
    | array =>
      cases items with
      | none =>
        rw [check] at h
        obtain ⟨ys, hys, rfl⟩ := Checked.exists_of_map_eq_fine h
        obtain ⟨xs, hv, rfl⟩ := exists_of_list_eq_fine
          (fun x y hxy => (Checked.fine.inj hxy).symm) hys
        rcases hv with rfl | rfl <;> simp [project]
      | some item =>
        rw [check] at h
        obtain ⟨ys, hys, rfl⟩ := Checked.exists_of_map_eq_fine h
        obtain ⟨xs, hv, rfl⟩ := exists_of_list_eq_fine
          (fun x y hxy => hitem item rfl _ _ _ hxy) hys
        rcases hv with rfl | rfl <;> simp [project]
    | object =>
      have hshape := (accepts_iff _ name v).1 ⟨u, h⟩
      cases properties with
      | none =>
        obtain ⟨es, rfl⟩ := hshape
        rw [check] at h
        cases h
        rw [project]
      | some ps =>
        obtain ⟨es, rfl, _⟩ := hshape
        rw [check] at h
        obtain ⟨args, hargs, rfl⟩ := Checked.exists_of_map_eq_fine h
        rw [project, ← eq_projectFields_of_checkFields (hprop ps rfl) hargs]
    | _ =>
      rw [project_of_whole (by simp) (by simp)]
      exact eq_of_check_whole (by simp) (by simp) h

/-! ### Every place below declared fields -/

/-- A validator, a value that was supplied, and what has become of it, all at one place: that of a
declared field of the arguments, of a declared field of a governed object, or of an item of a
governed array. -/
inductive Governed (fields : Table Validator) (es : Entries) (args : Table Value) :
    Validator → Value → Value → Prop
  | argument {w : Validator} {x y : Value} {name : String} : fields.get? name = some w →
      Entries.get? es name = some x → args.get? name = some y → Governed fields es args w x y
  | property {w w' : Validator} {ps : List (String × Validator)} {gs fs : Entries} {x y : Value}
      {name : String} : Governed fields es args w (.map gs) (.map fs) → w.kind = .object →
      w.properties = some ps → Table.get? ps name = some w' → Entries.get? gs name = some x →
      Entries.get? fs name = some y → Governed fields es args w' x y
  | item {w item : Validator} {v x y : Value} {xs ys : List Value} {i : Nat} :
      Governed fields es args w v (.list ys) → w.kind = .array → w.items = some item →
      v = .list xs ∨ v = .set xs → xs[i]? = some x → ys[i]? = some y →
      Governed fields es args item x y

variable {fields : Table Validator} {y : Value}

/-- At a governed place the supplied value is accepted, and its projection is what it becomes. -/
theorem Governed.accepts_and_eq (hfine : (checkFields fields name es).IsFine)
    (h : Governed fields es (projectFields fields es) w x y) :
    (∃ place, w.Accepts place x) ∧ y = w.project x := by
  induction h with
  | argument hw hx hy =>
    have hfits := isFine_checkFields.1 hfine _ (Table.mem_of_get? hw)
    rw [get?_projectFields, hw, hx] at hy
    exact ⟨⟨_, hfits.1 _ hx⟩, (Option.some.inj hy).symm⟩
  | @property w w' ps gs fs x y name _ hk hps hw hx hy ih =>
    obtain ⟨⟨place, ha⟩, hproject⟩ := ih
    obtain ⟨kind, optional, description, items, properties⟩ := w
    obtain rfl : kind = .object := hk
    obtain rfl : properties = some ps := hps
    obtain ⟨_, hgs, hfits⟩ := (accepts_iff _ _ _).1 ha
    cases hgs
    rw [project] at hproject
    cases hproject
    rw [Entries.get?_ofTable, get?_projectFields, hw, hx] at hy
    exact ⟨⟨_, (hfits _ (Table.mem_of_get? hw)).1 _ hx⟩, (Option.some.inj hy).symm⟩
  | @item w item v x y xs ys i _ hk hitem hv hx hy ih =>
    obtain ⟨⟨place, ha⟩, hproject⟩ := ih
    obtain ⟨kind, optional, description, items, properties⟩ := w
    obtain rfl : kind = .array := hk
    obtain rfl : items = some item := hitem
    obtain ⟨xs', hv', hitems⟩ := (accepts_iff _ _ _).1 ha
    obtain rfl : xs' = xs := by
      rcases hv with rfl | rfl <;> simpa [eq_comm] using hv'
    have hys : ys = xs'.map item.project := by
      rcases hv with rfl | rfl <;> simpa [project] using hproject
    rw [hys, List.getElem?_map, hx] at hy
    exact ⟨⟨_, hitems x (List.mem_of_getElem? hx)⟩, (Option.some.inj hy).symm⟩

/-- What becomes of a value at a governed place: of an object the declared fields that were supplied,
in the order of their declaration; of an array as many items, in their order, and without a validator
for them the items themselves; and everything else stays as it is. -/
structure Restricted (w : Validator) (x y : Value) : Prop where
  object : w.kind = .object → ∃ (gs : Entries) (fs : Table Value), x = .map gs ∧ y = .ofTable fs ∧
    fs.names = (Table.names (w.properties.getD [])).filter fun n => (Entries.get? gs n).isSome
  array : w.kind = .array → ∃ xs ys, (x = .list xs ∨ x = .set xs) ∧ y = .list ys ∧
    ys.length = xs.length ∧ (w.items = none → ys = xs)
  whole : w.kind ≠ .array → w.kind ≠ .object → y = x

/-- An accepted value is restricted by its projection. -/
theorem restricted_project {place : String} (h : w.Accepts place x) :
    Restricted w x (w.project x) := by
  obtain ⟨kind, optional, description, items, properties⟩ := w
  have hshape := (accepts_iff _ _ _).1 h
  refine ⟨fun hk => ?_, fun hk => ?_, fun ha ho => project_of_whole ha ho x⟩
  · obtain rfl : kind = .object := hk
    cases properties with
    | none =>
      obtain ⟨gs, rfl⟩ := hshape
      exact ⟨gs, [], rfl, by simp [project, Value.ofTable], rfl⟩
    | some ps =>
      obtain ⟨gs, rfl, _⟩ := hshape
      exact ⟨gs, projectFields ps gs, rfl, by rw [project], names_projectFields ps gs⟩
  · obtain rfl : kind = .array := hk
    cases items with
    | none =>
      obtain ⟨xs, hx⟩ := hshape
      refine ⟨xs, xs, hx, ?_, rfl, fun _ => rfl⟩
      rcases hx with rfl | rfl <;> simp [project]
    | some item =>
      obtain ⟨xs, hx, _⟩ := hshape
      refine ⟨xs, xs.map item.project, hx, ?_, List.length_map _, fun h => nomatch h⟩
      rcases hx with rfl | rfl <;> simp [project]

end Validator

/-! ### Arguments -/

namespace Tool

open Validator

variable {t : Tool} {arguments : Value} {args : Table Value}

/-- What arguments hold that are a map, or that do not count as given. -/
def Holds (arguments : Value) (es : Entries) : Prop :=
  arguments = .map es ∨ arguments.isGiven = false ∧ es = []

/-- Arguments that are accepted hold entries, and are those that the check of the entries gives. -/
theorem exists_checkFields_of_validate (h : t.validate arguments = .ok args) :
    ∃ es, Holds arguments es ∧ checkFields t.fields t.argumentsName es = .fine args := by
  unfold validate at h
  split at h
  · rename_i args' hc
    cases h
    unfold checkArguments at hc
    split at hc
    · split at hc
      · exact ⟨_, Or.inl rfl, hc⟩
      · cases hc
    · rename_i hgiven
      exact ⟨[], Or.inr ⟨by simpa using hgiven, rfl⟩, hc⟩
  · cases h

/-- Entries that are accepted are projected. -/
theorem eq_projectFields_of_validate {es : Entries} (h : t.validate (.map es) = .ok args) :
    args = projectFields t.fields es := by
  obtain ⟨es', hes, hcheck⟩ := exists_checkFields_of_validate h
  have hes : es' = es := by
    rcases hes with hes | ⟨hgiven, rfl⟩
    · cases hes
      rfl
    · simpa [Value.isGiven] using hgiven.symm
  rw [← hes]
  exact eq_projectFields_of_checkFields (fun p _ => project_eq_of_check p.2) hcheck

/-- **Validation is projection onto the declared fields.**  If arguments are accepted, the result is
the projection of what they hold.  At the top, and at every place below declared fields, through
objects and the items of arrays, just the declared fields that were supplied remain, in the order of
their declaration; arrays keep their length and the order of their items; and what is no array and no
object stays as it is, values of any kind included. -/
theorem validation_is_projection (h : t.validate arguments = .ok args) :
    ∃ es, Holds arguments es ∧ args = projectFields t.fields es ∧
      args.names = t.fields.names.filter (fun n => (Entries.get? es n).isSome) ∧
      ∀ w x y, Governed t.fields es args w x y → y = w.project x ∧ Restricted w x y := by
  obtain ⟨es, hes, hcheck⟩ := exists_checkFields_of_validate h
  have hargs : args = projectFields t.fields es :=
    eq_projectFields_of_checkFields (fun p _ => project_eq_of_check p.2) hcheck
  refine ⟨es, hes, hargs, hargs ▸ names_projectFields _ _, fun w x y hg => ?_⟩
  obtain ⟨⟨place, ha⟩, rfl⟩ := Governed.accepts_and_eq ⟨args, hcheck⟩ (hargs ▸ hg)
  exact ⟨rfl, restricted_project ha⟩

/-- A tool that searches by conditions, under names of every look, and takes a note of any kind. -/
def searchTool : Tool :=
  ⟨"search", "", [
    ("$and", ⟨.array, true, none, some ⟨.object, false, none, none, some [
      ("field_1", ⟨.number, false, none, none, none⟩),
      ("field_0", ⟨.string, true, none, none, none⟩)]⟩, none⟩),
    ("limit", ⟨.number, true, none, none, none⟩),
    ("note", .any true)],
    fun args => pure (.ofTable args), none, none, none⟩

/-- A search with the arguments the other way round, and with more of them than are declared. -/
def searchArguments : Entries :=
  [(.text "note", .map [(.text "why", .null)]), (.text "limits", .int 9),
    (.text "$and", .list [.map [(.text "field_0", .text "b"), (.text "field_2", .int 0),
      (.text "field_1", .int 1)], .map [(.text "field_1", .int 2)]])]

/-- What is left of it. -/
def searchResult : Table Value :=
  [("$and", .list [.map [(.text "field_1", .int 1), (.text "field_0", .text "b")],
      .map [(.text "field_1", .int 2)]]),
    ("note", .map [(.text "why", .null)])]

/-- The search is brought into the declared order, also inside the array. -/
theorem searchArguments_projected :
    searchTool.validate (.map searchArguments) = .ok searchResult ∧
      searchResult.names = ["$and", "note"] ∧
      ∃ (w : Validator) (gs : Entries) (fs : Table Value), w.kind = .object ∧
        Governed searchTool.fields searchArguments searchResult w (.map gs) (.ofTable fs) ∧
        fs.names = ["field_1", "field_0"] := by
  have hv : searchTool.validate (.map searchArguments) = .ok searchResult := rfl
  obtain ⟨es, hes, _, hnames, hplaces⟩ := validation_is_projection hv
  obtain rfl : searchArguments = es := by
    rcases hes with he | ⟨hgiven, _⟩
    · exact Value.map.inj he
    · cases hgiven
  have harray := @Governed.argument searchTool.fields searchArguments searchResult _ _ _ "$and"
    rfl rfl rfl
  have hobject := @Governed.item _ _ _ _ _ _ _ _ _ _ 0 harray rfl rfl (Or.inl rfl) rfl rfl
  obtain ⟨gs, fs, hgs, hfs, hfields⟩ := (hplaces _ _ _ hobject).2.object rfl
  cases hgs
  exact ⟨hv, hnames.trans rfl, _, _, fs, rfl, hfs ▸ hobject, hfields.trans rfl⟩

end Tool
end ToolGateway
