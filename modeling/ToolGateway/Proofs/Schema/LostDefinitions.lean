/-
# Definitions that are lost

A reference that is not known counts as a schema of any kind.  So a table of schemas from which some
are missing compiles whatever the whole table compiles, and to validators that let through at least
as much: where a definition is lost anything is accepted, and where it is not, the parts are what they
were (`follows_compileOn`).
-/

import ToolGateway.Proofs.Check.Follows
import ToolGateway.Proofs.Effect.Follows
import ToolGateway.Proofs.Schema.Compiled
import ToolGateway.Proofs.Validator.Acceptance

namespace ToolGateway

/-! ### Tables from which entries are missing -/

/-- Whatever is found in the first table is found in the second one. -/
def Table.Within {α : Type} (t t' : Table α) : Prop :=
  ∀ name v, t.get? name = some v → t'.get? name = some v

/-- What is left of a table when entries are removed is within it. -/
theorem Table.within_of_sublist {α : Type} {t t' : Table α} (h : t.Sublist t')
    (hd : t'.names.Nodup) : t.Within t' := fun _ _ hv =>
  Table.get?_of_mem hd (h.subset (Table.mem_of_get? hv))

/-! ### Validators that let through more -/

namespace Validator

/-- The second validator lets through what the first one does: every value, and its absence. -/
structure Within (w w' : Validator) : Prop where
  accepts : ∀ name v, w.Accepts name v → w'.Accepts name v
  absent : w.mayBeAbsent = true → w'.mayBeAbsent = true

theorem Within.refl (w : Validator) : w.Within w := ⟨fun _ _ => id, id⟩

/-- Everything is within any value. -/
theorem within_any (w : Validator) (optional : Bool) : w.Within (any optional) where
  accepts name v _ := (accepts_iff _ name v).2 trivial
  absent _ := Bool.or_true optional

theorem within_array {optional : Bool} {description : Option Value} {item item' : Validator}
    (h : item.Within item') :
    Within ⟨.array, optional, description, some item, none⟩
      ⟨.array, optional, description, some item', none⟩ where
  accepts name v hv := by
    obtain ⟨xs, hxs, hitems⟩ := (accepts_iff _ name v).1 hv
    exact (accepts_iff _ name v).2 ⟨xs, hxs, fun x hx => h.accepts _ x (hitems x hx)⟩
  absent := id

theorem FieldFits.imp {name : String} {es : Entries} {p p' : String × Validator}
    (hp : Table.Twin Within p p') (h : FieldFits name es p) : FieldFits name es p' := by
  obtain ⟨hname, hw⟩ := hp
  unfold FieldFits
  rw [hname]
  exact ⟨fun x hx => hw.accepts _ x (h.1 x hx), fun hn => hw.absent (h.2 hn)⟩

/-- Entries that have what fields ask for have what twins of some of them ask for. -/
theorem fieldFits_of_forall {name : String} {es : Entries} {ps ps' : List (String × Validator)}
    (hps : ∀ p' ∈ ps', ∃ p ∈ ps, Table.Twin Within p p') (h : ∀ p ∈ ps, FieldFits name es p) :
    ∀ p' ∈ ps', FieldFits name es p' := by
  intro p' hp'
  obtain ⟨p, hp, htwin⟩ := hps p' hp'
  exact (h p hp).imp htwin

theorem within_object {optional : Bool} {description : Option Value}
    {ps ps' : List (String × Validator)} (h : List.Forall₂ (Table.Twin Within) ps ps') :
    Within ⟨.object, optional, description, none, some ps⟩
      ⟨.object, optional, description, none, some ps'⟩ where
  accepts name v hv := by
    obtain ⟨es, rfl, hes⟩ := (accepts_iff _ name v).1 hv
    exact (accepts_iff _ name _).2
      ⟨es, rfl, fieldFits_of_forall (Schema.exists_mem_of_forall₂ h.flip) hes⟩
  absent := id

end Validator

/-! ### Compilation -/

namespace Schema

variable {schemas schemas' : Schemas} {R : Validator → Validator → Prop}

theorem target?_of_within (h : schemas.Within schemas') {ref : String} {target : Value}
    (ht : target? schemas ref = some target) : target? schemas' ref = some target := by
  unfold target? at ht
  split at ht
  · rename_i es hget
    unfold target?
    rw [h _ _ hget]
    exact ht
  · cases ht

/-- Two fields under the same raw key, with related validators. -/
def KeyTwin (R : Validator → Validator → Prop) (f f' : Value × Validator) : Prop :=
  f'.1 = f.1 ∧ R f.2 f'.2

/-- Fields under the same keys get the same names. -/
theorem follows_nameFields {fields fields' : List (Value × Validator)}
    (h : List.Forall₂ (KeyTwin R) fields fields') :
    Checked.Follows (List.Forall₂ (Table.Twin R)) (nameFields fields) (nameFields fields') := by
  induction h with
  | nil => exact .fine .nil
  | @cons f f' _ _ hf _ ih =>
    obtain ⟨k, w⟩ := f
    obtain ⟨k', w'⟩ := f'
    obtain ⟨rfl, hw⟩ := hf
    have hname : Checked.Follows Eq (Shape.key k') (Shape.key k') := .refl (fun _ => rfl) _
    exact .cons (hname.map fun _ _ he => ⟨he.symm, hw⟩) ih

theorem follows_properties {fields fields' : List (Value × Validator)}
    (h : List.Forall₂ (KeyTwin R) fields fields') (model field : String) :
    Outcome.Follows (List.Forall₂ (Table.Twin R)) (properties model field fields)
      (properties model field fields') := by
  intro ps hps
  obtain ⟨named, hnamed, rfl⟩ := properties_eq_ok_iff.1 hps
  obtain ⟨named', hnamed', htwins⟩ := follows_nameFields h named hnamed
  exact ⟨_, properties_eq_ok_iff.2 ⟨named', hnamed', rfl⟩, Table.forall₂_ofList htwins⟩

/-- **Lost definitions only widen.**  What is compiled over a table is compiled over what is left of
it, below every stack, and the validator lets through at least as much. -/
theorem follows_compileOn (h : schemas.Within schemas') (stack : List String) (node : Value)
    (optional : Bool) :
    Outcome.Follows Validator.Within (compileOn schemas' stack node optional)
      (compileOn schemas stack node optional) := by
  induction stack, node, optional using compileOn.induct schemas' _
    (fun stack required ps => Outcome.Follows (List.Forall₂ (KeyTwin Validator.Within))
      (compileEntries schemas' stack required ps) (compileEntries schemas stack required ps)) with
  | case1 stack node optional hv =>
    rw [compileOn_of_notSchema hv, compileOn_of_notSchema hv]
    exact .pure (.refl _)
  | case2 stack node optional ref hv hs => exact .of_error (by rw [compileOn_of_mem hv hs]; rfl) _
  | case3 stack node optional ref hv hs ht =>
    have hlost : target? schemas ref = none :=
      Option.eq_none_iff_forall_ne_some.2 fun target htarget => by
        cases ht.symm.trans (target?_of_within h htarget)
    rw [compileOn_of_unresolved hv hs ht, compileOn_of_unresolved hv hs hlost]
    exact .bind_congr fun _ => .pure (.refl _)
  | case4 stack node optional ref hv hs target ht ih =>
    cases hleft : target? schemas ref with
    | none =>
      rw [compileOn_of_unresolved hv hs hleft]
      exact fun w _ => ⟨_, rfl, Validator.within_any w optional⟩
    | some target' =>
      cases ht.symm.trans (target?_of_within h hleft)
      rw [compileOn_of_target hv hs ht, compileOn_of_target hv hs hleft]
      exact ih
  | case5 stack node optional kind hv =>
    rw [compileOn_of_plain hv, compileOn_of_plain hv]
    exact .pure (.refl _)
  | case6 stack node optional items hv ih =>
    rw [compileOn_of_array hv, compileOn_of_array hv]
    exact ih.bind fun _ _ hitem => .pure (Validator.within_array hitem)
  | case7 stack node optional required ps hv ih =>
    rw [compileOn_of_object hv, compileOn_of_object hv]
    refine ih.bind fun fields fields' hfields => ?_
    exact (follows_properties hfields _ _).bind fun _ _ hps => .pure (Validator.within_object hps)
  | case8 stack node optional required other ho hv =>
    exact .of_error (by rw [compileOn_of_noMap hv ho]; rfl) _
  | case9 stack required =>
    rw [compileEntries_nil, compileEntries_nil]
    exact .pure .nil
  | case10 stack required key node rest ih ihs =>
    rw [compileEntries_cons, compileEntries_cons]
    refine .bind_congr fun listed => (ih listed).bind fun _ _ hw => ihs.bind fun _ _ hws => ?_
    exact .pure (.cons ⟨rfl, hw⟩ hws)

end Schema
end ToolGateway
