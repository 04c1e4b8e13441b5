/-
# What a validator accepts

A check gives a value or issues, and a value is accepted if there are none.  For the question whether
it is, the names of places do not matter, nor what a check does with the value: an array is accepted
if all its items are, and an object if every declared field is accepted where it is there, and may be
absent where it is not.  `accepts_iff` says so for all kinds at once, and `Validator.induct` is the
induction that goes with it.
-/

import ToolGateway.Schema.Validator

namespace ToolGateway

/-! ### Checks without an issue -/

namespace Checked

variable {α β : Type}

/-- The check has found nothing wrong. -/
def IsFine (c : Checked α) : Prop := ∃ a, c = .fine a

@[simp] theorem isFine_fine (a : α) : (fine a).IsFine := ⟨a, rfl⟩

@[simp] theorem not_isFine_flawed (issues : List Issue) : ¬ (flawed issues : Checked α).IsFine :=
  fun ⟨_, h⟩ => nomatch h

@[simp] theorem not_isFine_issue (kind : IssueKind) (found : Value) :
    ¬ (issue kind found : Checked α).IsFine := not_isFine_flawed _

@[simp] theorem isFine_map {f : α → β} {c : Checked α} : (c.map f).IsFine ↔ c.IsFine := by
  cases c <;> simp [map]

@[simp] theorem isFine_under {s : Step} {c : Checked α} : (c.under s).IsFine ↔ c.IsFine := by
  cases c <;> simp [under]

/-- Of two checks both have to be fine. -/
theorem isFine_cons {x : Checked α} {xs : Checked (List α)} :
    (List.cons <$> x <*> xs).IsFine ↔ x.IsFine ∧ xs.IsFine := by
  show (ap (map List.cons x) xs).IsFine ↔ _
  cases x <;> cases xs <;> simp [map, ap]

end Checked

namespace Shape

variable {α : Type} {shape : Shape α}

theorem isFine_itemsFrom {i : Nat} {xs : List Value} :
    (itemsFrom shape i xs).IsFine ↔ ∀ x ∈ xs, (shape x).IsFine := by
  induction xs generalizing i with
  | nil => simp [itemsFrom]
  | cons x rest ih =>
    rw [itemsFrom, Checked.isFine_cons, Checked.isFine_under, ih, List.forall_mem_cons]

/-- A list is fine if all its items are; a set counts as one. -/
theorem isFine_list {v : Value} :
    (list shape v).IsFine ↔ ∃ xs, (v = .list xs ∨ v = .set xs) ∧ ∀ x ∈ xs, (shape x).IsFine := by
  unfold list
  split
  · simp [isFine_itemsFrom]
  · simp [isFine_itemsFrom]
  · rename_i hl hs
    constructor
    · exact fun h => absurd h (Checked.not_isFine_issue _ _)
    · rintro ⟨xs, rfl | rfl, _⟩
      · exact absurd rfl (hl xs)
      · exact absurd rfl (hs xs)

end Shape

namespace Validator

/-! ### The induction over a validator -/

/-- What goes over from the items and the properties of a validator to the validator holds of all. -/
theorem induct {motive : Validator → Prop}
    (step : ∀ w, (∀ item, w.items = some item → motive item) →
      (∀ ps, w.properties = some ps → ∀ p ∈ ps, motive p.2) → motive w) (w : Validator) :
    motive w := by
  refine step w (fun item hi => ?_) (fun ps hp p hm => ?_)
  · have : sizeOf item < sizeOf w := by
      cases w
      cases hi
      simp only [mk.sizeOf_spec, Option.some.sizeOf_spec]
      omega
    exact induct step item
  · have : sizeOf p.2 < sizeOf w := by
      cases w
      cases hp
      have := List.sizeOf_lt_of_mem hm
      obtain ⟨_, p⟩ := p
      simp only [mk.sizeOf_spec, Option.some.sizeOf_spec, Prod.mk.sizeOf_spec] at this ⊢
      omega
    exact induct step p.2
termination_by sizeOf w

/-! ### Acceptance, kind by kind -/

/-- The validator accepts the value at the place of that name. -/
def Accepts (w : Validator) (name : String) (v : Value) : Prop := (w.check name v).IsFine

/-- The entries have what a field asks for: its value, if it is there, is accepted, and otherwise the
field may be absent. -/
def FieldFits (name : String) (es : Entries) (p : String × Validator) : Prop :=
  (∀ x, Entries.get? es p.1 = some x → p.2.Accepts (name ++ Text.titleWord p.1) x) ∧
    (Entries.get? es p.1 = none → p.2.mayBeAbsent = true)

/-- Fields are fine if the entries have what each of them asks for. -/
theorem isFine_checkFields {ps : List (String × Validator)} {name : String} {es : Entries} :
    (checkFields ps name es).IsFine ↔ ∀ p ∈ ps, FieldFits name es p := by
  induction ps with
  | nil => simp [checkFields]
  | cons p rest ih =>
    obtain ⟨key, w⟩ := p
    rw [checkFields, List.forall_mem_cons, ← ih]
    unfold FieldFits
    dsimp only
    cases h : Entries.get? es key with
    | some x =>
      dsimp only
      rw [Checked.isFine_cons, Checked.isFine_map, Checked.isFine_under]
      simp [Accepts]
    | none =>
      dsimp only
      by_cases ha : w.mayBeAbsent = true
      · simp [ha]
      · simp [ha, Checked.isFine_cons]

/-- What is accepted goes by the kind: an array by its items, an object by its fields.  Without a
validator for the items any items are accepted, and without declared fields any map. -/
theorem accepts_iff (w : Validator) (name : String) (v : Value) :
    w.Accepts name v ↔ match w.kind, w.items, w.properties with
      | .any, _, _ => True
      | .string, _, _ => ∃ s, v = .text s
      | .number, _, _ => (∃ i, v = .int i) ∨ ∃ x, v = .float x
      | .boolean, _, _ => ∃ b, v = .bool b
      | .array, some item, _ =>
        ∃ xs, (v = .list xs ∨ v = .set xs) ∧ ∀ x ∈ xs, item.Accepts (name ++ "Item") x
      | .array, none, _ => ∃ xs, v = .list xs ∨ v = .set xs
      | .object, _, some ps => ∃ es, v = .map es ∧ ∀ p ∈ ps, FieldFits name es p
      | .object, _, none => ∃ es, v = .map es := by
  obtain ⟨kind, optional, description, items, properties⟩ := w
  cases kind with
  | any => simp [Accepts, check]
  | string => cases v <;> simp [Accepts, check]
  | number => cases v <;> simp [Accepts, check]
  | boolean => cases v <;> simp [Accepts, check]
  | array =>
    cases items with
    | some item => simp [Accepts, check, Shape.isFine_list]
    | none => simp [Accepts, check, Shape.isFine_list, Shape.any]
  | object =>
    cases properties with
    | some ps => cases v <;> simp [Accepts, check, isFine_checkFields]
    | none => cases v <;> simp [Accepts, check]

end Validator
end ToolGateway
