/-
# From the view of a schema to its keywords

The view of a schema decides what is done with it.  These lemmas say which keywords stand behind a
view: a schema that is a map is a reference or is viewed by its shape (`view_eq_shape_iff`), and its
shape is that of an array or of an object only if the type says so.
-/

import ToolGateway.Schema.View

namespace ToolGateway
namespace Schema

variable {node : Value} {es : Entries}

/-- What is no map is no schema. -/
theorem view_eq_notSchema_iff : view node = .notSchema ↔ node.isMap = false := by
  unfold view
  cases node with
  | map es =>
    constructor
    · intro h
      dsimp only at h
      split at h
      · cases h
      · unfold viewShape at h
        split at h <;> cases h
    · intro h
      cases h
  | again isMap => cases isMap <;> simp [Value.isMap]
  | _ => simp [Value.isMap]

/-- Only a map is a reference. -/
theorem view_eq_reference_iff {ref : String} :
    view node = .reference ref ↔ refOf? node = some ref := by
  unfold view
  cases node with
  | map es =>
    dsimp only
    cases h : refOf? (.map es) with
    | none =>
      constructor
      · intro hv
        unfold viewShape at hv
        dsimp only at hv
        split at hv <;> cases hv
      · exact fun hv => nomatch hv
    | some r => simp
  | again isMap => cases isMap <;> simp [refOf?, Value.get?]
  | _ => simp [refOf?, Value.get?]

/-- What is a reference is a map. -/
theorem exists_map_of_refOf? {ref : String} (h : refOf? node = some ref) :
    ∃ es, node = .map es := by
  cases node with
  | map es => exact ⟨es, rfl⟩
  | _ => cases h

/-- All other views are those of the shape of a map without a reference, but for an object of which
nothing can be read. -/
theorem view_eq_shape_iff {v : View} (hn : v ≠ .notSchema) (hr : ∀ ref, v ≠ .reference ref)
    (ho : v ≠ .object (.list []) (.again true)) :
    view node = v ↔ ∃ es, node = .map es ∧ refOf? node = none ∧ viewShape es = v := by
  unfold view
  cases node with
  | map es =>
    dsimp only
    cases h : refOf? (.map es) with
    | none => simp
    | some r => simpa using Ne.symm (hr r)
  | again isMap =>
    cases isMap with
    | true => simpa using Ne.symm ho
    | false => simpa using Ne.symm hn
  | _ => simpa using Ne.symm hn

theorem viewShape_eq_array_iff {items : Value} :
    viewShape es = .array items ↔ Entries.get? es "type" = some (.text "array") ∧
      items = (Entries.get? es "items").getD .null := by
  unfold viewShape
  split
  · rename_i h
    simp [h, eq_comm]
  · rename_i h
    simp [h]
  · rename_i ha _
    exact ⟨fun h => (nomatch h), fun h => absurd h.1 ha⟩

theorem viewShape_eq_object_iff {required properties : Value} :
    viewShape es = .object required properties ↔
      Entries.get? es "type" = some (.text "object") ∧
        required = keyword es "required" (.list []) ∧
        properties = keyword es "properties" (.map []) := by
  unfold viewShape
  split
  · rename_i h
    simp [h]
  · rename_i h
    simp [h, eq_comm]
  · rename_i _ ho
    exact ⟨fun h => (nomatch h), fun h => absurd h.1 ho⟩

theorem viewShape_eq_plain_iff {kind : Kind} :
    viewShape es = .plain kind ↔ Entries.get? es "type" ≠ some (.text "array") ∧
      Entries.get? es "type" ≠ some (.text "object") ∧
      kind = plainKind (Entries.get? es "type") := by
  unfold viewShape
  split
  · rename_i h
    simp [h]
  · rename_i h
    simp [h]
  · rename_i ha ho
    exact ⟨fun h => ⟨ha, ho, (View.plain.inj h).symm⟩, fun h => congrArg View.plain h.2.2.symm⟩

/-- An array is a map with that type, and no reference. -/
theorem view_eq_array_iff {items : Value} :
    view node = .array items ↔ ∃ es, node = .map es ∧ refOf? node = none ∧
      Entries.get? es "type" = some (.text "array") ∧
      items = (Entries.get? es "items").getD .null := by
  rw [view_eq_shape_iff (by simp) (by simp) (by simp)]
  simp only [viewShape_eq_array_iff]

/-- An object with a map of properties is a map with that type, and no reference. -/
theorem view_eq_object_iff {required : Value} {ps : Entries} :
    view node = .object required (.map ps) ↔ ∃ es, node = .map es ∧ refOf? node = none ∧
      Entries.get? es "type" = some (.text "object") ∧
      required = keyword es "required" (.list []) ∧
      .map ps = keyword es "properties" (.map []) := by
  rw [view_eq_shape_iff (by simp) (by simp) (by simp)]
  simp only [viewShape_eq_object_iff]

/-- A map with the type of an object, and no reference, is one, whatever its properties. -/
theorem view_of_type_object (hr : refOf? (.map es) = none)
    (ht : Entries.get? es "type" = some (.text "object")) :
    view (.map es)
      = .object (keyword es "required" (.list [])) (keyword es "properties" (.map [])) := by
  unfold view
  dsimp only
  rw [hr]
  exact viewShape_eq_object_iff.2 ⟨ht, rfl, rfl⟩

/-- A map with another type, or none, is plain unless it is a reference. -/
theorem view_eq_plain_iff {kind : Kind} :
    view node = .plain kind ↔ ∃ es, node = .map es ∧ refOf? node = none ∧
      Entries.get? es "type" ≠ some (.text "array") ∧
      Entries.get? es "type" ≠ some (.text "object") ∧
      kind = plainKind (Entries.get? es "type") := by
  rw [view_eq_shape_iff (by simp) (by simp) (by simp)]
  simp only [viewShape_eq_plain_iff]

/-- A keyword that is given has its value, and one that is empty counts as absent. -/
theorem keyword_cases (es : Entries) (name : String) (absent : Value) :
    (∃ v, Entries.get? es name = some v ∧ keyword es name absent = v) ∨
      (∀ v, Entries.get? es name = some v → v.isGiven = false) ∧
        keyword es name absent = absent := by
  unfold keyword
  cases Entries.get? es name with
  | none => exact Or.inr ⟨fun _ h => (nomatch h), rfl⟩
  | some v =>
    cases hg : v.isGiven with
    | true => exact Or.inl ⟨v, rfl, by simp [hg]⟩
    | false =>
      refine Or.inr ⟨fun w h => ?_, by simp [hg]⟩
      cases h
      exact hg

end Schema
end ToolGateway
