/-
# Where a value violates a schema

A value can violate a schema in its parts, and here it is said in which, without checking it.
`Leads` goes down into a value and its schema at once, through keys that are declared and through
indices of lists.  What it leads to may be without the type that is asked for there, or may be a map
that lacks a name which is required (`Violates`).  Places have an order, that of the declaration of
the keys and that of the indices (`Before`), and in this order a report gives all violations
(`IsReport`).
-/

import ToolGateway.Check.Issue
import ToolGateway.Proofs.Schema.Meaning

namespace ToolGateway
namespace Schema

variable {schema v : Value} {es : Entries}

/-! ### Places -/

/-- A place in a value and the schema for what stands there: `Leads schema v place sub y` says that
declared keys and indices lead from `v` to `y`, and from `schema` to `sub`. -/
inductive Leads : Value → Value → List Step → Value → Value → Prop
  | here {schema v : Value} : Leads schema v [] schema v
  | item {es : Entries} {items sub x y : Value} {xs : List Value} {i : Nat} {place : List Step} :
      Entries.get? es "items" = some items → xs[i]? = some x → Leads items x place sub y →
      Leads (.map es) (.list xs) (.index i :: place) sub y
  | property {es fs : Entries} {name : String} {declared sub x y : Value} {place : List Step} :
      Declares es name declared → Entries.get? fs name = some x → Leads declared x place sub y →
      Leads (.map es) (.map fs) (.name name :: place) sub y

/-- The schema declares both names, the first one before the second one. -/
def DeclaresBefore (es : Entries) (a b : String) : Prop :=
  a ≠ b ∧ ∃ ps, Entries.get? es "properties" = some (.map ps) ∧
    [Value.text a, .text b].Sublist (ps.map Prod.fst)

/-- The order of places: where they part, keys go by their declaration and indices by number. -/
inductive Before : Value → List Step → List Step → Prop
  | index {schema : Value} {i j : Nat} {p q : List Step} :
      i < j → Before schema (.index i :: p) (.index j :: q)
  | name {es : Entries} {a b : String} {p q : List Step} :
      DeclaresBefore es a b → Before (.map es) (.name a :: p) (.name b :: q)
  | item {es : Entries} {items : Value} {i : Nat} {p q : List Step} :
      Entries.get? es "items" = some items → Before items p q →
      Before (.map es) (.index i :: p) (.index i :: q)
  | property {es : Entries} {name : String} {declared : Value} {p q : List Step} :
      Declares es name declared → Before declared p q →
      Before (.map es) (.name name :: p) (.name name :: q)

/-- Of two places one of which is before the other, neither is below the other. -/
theorem Before.apart {p q : List Step} (h : Before schema p q) : ¬ p <+: q ∧ ¬ q <+: p := by
  induction h with
  | index h =>
    simp only [List.cons_prefix_cons, Step.index.injEq]
    omega
  | name h =>
    simp only [List.cons_prefix_cons, Step.name.injEq]
    exact ⟨fun he => h.1 he.1, fun he => h.1 he.1.symm⟩
  | item _ _ ih => simpa only [List.cons_prefix_cons, true_and] using ih
  | property _ _ ih => simpa only [List.cons_prefix_cons, true_and] using ih

/-! ### Violations -/

/-- What is wrong in a part of a value: what stands at the place has not the type asked for, or is a
map without a required name. -/
inductive Violation where
  | mistyped (place : List Step) (type : ValueType) (found : Value)
  | missing (place : List Step) (name : String) (found : Value)

namespace Violation

/-- The place of what is wrong; a name that is missing has a place all the same. -/
def location : Violation → List Step
  | mistyped place _ _ => place
  | missing place name _ => place ++ [.name name]

/-- The violation seen from one level further out. -/
def under (s : Step) : Violation → Violation
  | mistyped place type found => mistyped (s :: place) type found
  | missing place name found => missing (s :: place) name found

@[simp] theorem location_under (s : Step) (x : Violation) :
    (x.under s).location = s :: x.location := by
  cases x <;> rfl

end Violation

/-- The value violates the schema in this way. -/
def Violates (schema v : Value) : Violation → Prop
  | .mistyped place type found =>
    ∃ es, Leads schema v place (.map es) found ∧ typeOf? es = some type ∧ ¬ type.Has found
  | .missing place name found =>
    ∃ es fs, Leads schema v place (.map es) found ∧ found = .map fs ∧ Requires es name ∧
      Entries.get? fs name = none

/-- A violation is one of the value itself, or one of an item or of what stands under a declared
key. -/
theorem violates_map_iff {x : Violation} :
    Violates (.map es) v x ↔
      (∃ type, typeOf? es = some type ∧ ¬ type.Has v ∧ x = .mistyped [] type v) ∨
      (∃ fs name, v = .map fs ∧ Requires es name ∧ Entries.get? fs name = none ∧
        x = .missing [] name v) ∨
      (∃ items xs i y u, Entries.get? es "items" = some items ∧ v = .list xs ∧ xs[i]? = some y ∧
        Violates items y u ∧ x = u.under (.index (i : Nat))) ∨
      ∃ name declared fs y u, Declares es name declared ∧ v = .map fs ∧
        Entries.get? fs name = some y ∧ Violates declared y u ∧ x = u.under (.name name) := by
  constructor
  · intro h
    cases x with
    | mistyped place type found =>
      obtain ⟨es', hl, ht, hv⟩ := h
      cases hl with
      | here => exact .inl ⟨type, ht, hv, rfl⟩
      | item hi hx hl =>
        exact .inr (.inr (.inl ⟨_, _, _, _, .mistyped _ type found, hi, rfl, hx,
          ⟨es', hl, ht, hv⟩, rfl⟩))
      | property hd hx hl =>
        exact .inr (.inr (.inr ⟨_, _, _, _, .mistyped _ type found, hd, rfl, hx,
          ⟨es', hl, ht, hv⟩, rfl⟩))
    | missing place name found =>
      obtain ⟨es', fs, hl, hf, hr, hn⟩ := h
      cases hl with
      | here => exact .inr (.inl ⟨fs, name, hf, hr, hn, rfl⟩)
      | item hi hx hl =>
        exact .inr (.inr (.inl ⟨_, _, _, _, .missing _ name found, hi, rfl, hx,
          ⟨es', fs, hl, hf, hr, hn⟩, rfl⟩))
      | property hd hx hl =>
        exact .inr (.inr (.inr ⟨_, _, _, _, .missing _ name found, hd, rfl, hx,
          ⟨es', fs, hl, hf, hr, hn⟩, rfl⟩))
  · rintro (⟨type, ht, hv, rfl⟩ | ⟨fs, name, hf, hr, hn, rfl⟩ |
      ⟨items, xs, i, y, u, hi, rfl, hx, hu, rfl⟩ | ⟨name, declared, fs, y, u, hd, rfl, hx, hu, rfl⟩)
    · exact ⟨es, .here, ht, hv⟩
    · exact ⟨es, fs, .here, hf, hr, hn⟩
    · cases u with
      | mistyped =>
        obtain ⟨es', hl, h⟩ := hu
        exact ⟨es', .item hi hx hl, h⟩
      | missing =>
        obtain ⟨es', fs, hl, h⟩ := hu
        exact ⟨es', fs, .item hi hx hl, h⟩
    · cases u with
      | mistyped =>
        obtain ⟨es', hl, h⟩ := hu
        exact ⟨es', .property hd hx hl, h⟩
      | missing =>
        obtain ⟨es', fs', hl, h⟩ := hu
        exact ⟨es', fs', .property hd hx hl, h⟩

/-- The schema without keywords is not violated. -/
theorem not_violates_empty {x : Violation} : ¬ Violates (.map []) v x := by
  rw [violates_map_iff]
  rintro (⟨_, ht, _⟩ | ⟨_, _, _, ⟨_, hr, _⟩, _⟩ | ⟨_, _, _, _, _, hi, _⟩ |
    ⟨_, _, _, _, _, ⟨_, hd, _⟩, _⟩)
  · cases ht
  · cases hr
  · cases hi
  · cases hd

/-! ### Reports -/

/-- The violations of a schema by a value, all of them and in order. -/
structure IsReport (schema v : Value) (report : List Violation) : Prop where
  mem_iff : ∀ x, x ∈ report ↔ Violates schema v x
  sorted : report.Pairwise fun x y => Before schema x.location y.location

/-- What is in order stays so one level further out, if the order of places does. -/
theorem sorted_under {outer inner : Value} {step : Step} {report : List Violation}
    (hstep : ∀ p q, Before inner p q → Before outer (step :: p) (step :: q))
    (h : report.Pairwise fun x y => Before inner x.location y.location) :
    (report.map (Violation.under step)).Pairwise fun x y =>
      Before outer x.location y.location := by
  rw [List.pairwise_map]
  refine h.imp fun hb => ?_
  rw [Violation.location_under, Violation.location_under]
  exact hstep _ _ hb

/-- No place is reported twice, and none below another one. -/
theorem IsReport.apart {report : List Violation} (h : IsReport schema v report) :
    (report.map Violation.location).Pairwise fun p q => ¬ p <+: q ∧ ¬ q <+: p :=
  List.pairwise_map.2 (h.sorted.imp Before.apart)

end Schema
end ToolGateway
