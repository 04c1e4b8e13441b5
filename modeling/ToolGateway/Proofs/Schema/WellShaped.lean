/-
# The shape of compiled validators

Of the parts that a validator can have, a compiled one has those that its kind has use for: an array
its items, which may not be absent, and an object its properties, each under a name of its own.  A
description that it has counts as given.  `WellShaped` says so at every depth, and
`Yields.wellShaped` that it holds of whatever a schema is compiled to.
-/

import ToolGateway.Proofs.Check.Follows
import ToolGateway.Proofs.Schema.Compiled
import ToolGateway.Proofs.Schema.Keywords

namespace ToolGateway

/-- What stands in the table of a list of entries is one of them. -/
theorem Table.mem_of_mem_ofList {α : Type} {entries : List (String × α)} {e : String × α}
    (h : e ∈ Table.ofList entries) : e ∈ entries := by
  have hget := Table.get?_of_mem (Table.nodup_names_ofList entries) h
  rw [Table.get?_ofList] at hget
  exact List.mem_reverse.1 (Table.mem_of_get? hget)

/-- The parts of a validator are those that its kind has use for, at every depth, and a description
that it has is given. -/
inductive Validator.WellShaped : Validator → Prop
  | plain {kind : Kind} {optional : Bool} {description : Option Value} :
      kind ≠ .array → kind ≠ .object → (∀ d, description = some d → d.isGiven = true) →
      WellShaped ⟨kind, optional, description, none, none⟩
  | array {optional : Bool} {description : Option Value} {item : Validator} :
      (∀ d, description = some d → d.isGiven = true) → item.optional = false →
      WellShaped item → WellShaped ⟨.array, optional, description, some item, none⟩
  | object {optional : Bool} {description : Option Value} {ps : List (String × Validator)} :
      (∀ d, description = some d → d.isGiven = true) → (Table.names ps).Nodup →
      (∀ p ∈ ps, WellShaped p.2) → WellShaped ⟨.object, optional, description, none, some ps⟩

namespace Schema

variable {schemas : Schemas} {node : Value} {optional : Bool}

/-- Only what counts as given is a description. -/
theorem isGiven_of_description? {d : Value} (h : description? node = some d) :
    d.isGiven = true := by
  unfold description? at h
  obtain ⟨v, _, h⟩ := Option.bind_eq_some_iff.1 h
  unfold Value.given? at h
  split at h
  · cases h
    assumption
  · cases h

/-- A type without parts is neither that of arrays nor that of objects. -/
theorem plainKind_ne (type : Option Value) :
    plainKind type ≠ .array ∧ plainKind type ≠ .object := by
  unfold plainKind
  split <;> decide

/-- Fields keep their validators, and each is named by the key that it stands under. -/
theorem forall₂_nameFields {fields : List (Value × Validator)} {named : Table Validator}
    (h : nameFields fields = .fine named) :
    List.Forall₂ (fun f p => Shape.text f.1 = .fine p.1 ∧ p.2 = f.2) fields named := by
  induction fields generalizing named with
  | nil =>
    cases h
    exact .nil
  | cons f rest ih =>
    obtain ⟨k, w⟩ := f
    obtain ⟨p, named', hp, hrest, rfl⟩ := Checked.cons_eq_fine h
    obtain ⟨name, hk, rfl⟩ := Checked.exists_of_map_eq_fine hp
    exact .cons ⟨Checked.eq_fine_of_under (Checked.eq_fine_of_under hk), rfl⟩ (ih hrest)

/-- **What a schema is compiled to is well shaped.** -/
theorem Yields.wellShaped {w : Validator} (h : Yields schemas node optional w) :
    w.WellShaped := by
  induction h using Yields.induct with
  | notSchema => exact .plain (by decide) (by decide) fun _ h => nomatch h
  | unresolved => exact .plain (by decide) (by decide) fun _ h => nomatch h
  | target _ _ _ _ _ _ _ _ _ ih => exact ih
  | plain node optional kind hv _ =>
    obtain ⟨es, _, _, _, _, rfl⟩ := view_eq_plain_iff.1 hv
    obtain ⟨ha, ho⟩ := plainKind_ne (Entries.get? es "type")
    exact .plain ha ho fun _ => isGiven_of_description?
  | array node optional items item _ hi _ ih =>
    exact .array (fun _ => isGiven_of_description?) hi.optional_eq ih
  | object node optional required ps fields named _ hf hn _ =>
    refine .object (fun _ => isGiven_of_description?) (Table.nodup_names_ofList named)
      fun p hp => ?_
    -- the field goes back over its name and its compilation to the property
    obtain ⟨f, hfm, _, hval⟩ :=
      exists_mem_of_forall₂ (forall₂_nameFields hn).flip _ (Table.mem_of_mem_ofList hp)
    obtain ⟨e, _, _, _, _, _, ih⟩ := exists_mem_of_forall₂ hf.flip f hfm
    exact hval ▸ ih

end Schema
end ToolGateway
