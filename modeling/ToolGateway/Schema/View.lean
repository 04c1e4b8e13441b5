/-
# What a schema says

Of all keywords of a schema five are read: the reference, the type, the items, the properties and
the required names. The view of a raw schema says which of them apply. These are the shapes that
`SchemaCompiler` tells apart, `SPEC_FULL.md`, 4.2.
-/
import ToolGateway.Schema.Reference
import ToolGateway.Schema.Validator

namespace ToolGateway
namespace Schema

/-- What a raw schema says. -/
inductive View where
  /-- Not a schema at all. -/
  | notSchema
  | reference (ref : String)
  /-- A type without parts; a type that is not known counts as any. -/
  | plain (kind : Kind)
  | array (items : Value)
  | object (required properties : Value)

/-- The kind of a type without parts. -/
def plainKind : Option Value → Kind
  | some (.text "string") => .string
  | some (.text "number") => .number
  | some (.text "integer") => .number
  | some (.text "boolean") => .boolean
  | _ => .any

/-- The view of a schema that is no reference. -/
def viewShape (es : Entries) : View :=
  match Entries.get? es "type" with
  | some (.text "array") => .array ((Entries.get? es "items").getD .null)
  | some (.text "object") =>
    .object (keyword es "required" (.list [])) (keyword es "properties" (.map []))
  | type => .plain (plainKind type)

/-- The view of a raw schema. A map around it is an object of which nothing can be read: who goes
on into it comes back to it without end. -/
def view (node : Value) : View :=
  match node with
  | .map es =>
    match refOf? (.map es) with
    | some ref => .reference ref
    | none => viewShape es
  | .again true => .object (.list []) (.again true)
  | _ => .notSchema

/-- The description of a schema, if one is given. -/
def description? (node : Value) : Option Value := (node.get? "description").bind Value.given?

/-- Entries have a size. -/
theorem sizeOf_entries_pos (es : Entries) : 0 < sizeOf es := by
  cases es with
  | nil =>
    rw [List.nil.sizeOf_spec]
    exact Nat.one_pos
  | cons e rest =>
    rw [List.cons.sizeOf_spec]
    omega

/-- A map is larger than nothing. -/
theorem sizeOf_null_lt_map (es : Entries) : sizeOf Value.null < sizeOf (Value.map es) := by
  have := sizeOf_entries_pos es
  rw [Value.null.sizeOf_spec, Value.map.sizeOf_spec]
  omega

/-- A map is larger than no entries. -/
theorem sizeOf_nil_lt_map (es : Entries) : sizeOf ([] : Entries) < sizeOf (Value.map es) := by
  have := sizeOf_entries_pos es
  rw [List.nil.sizeOf_spec, Value.map.sizeOf_spec]
  omega

/-- The items of an array are smaller than its schema. -/
theorem sizeOf_items_lt {node items : Value} (h : view node = .array items) :
    sizeOf items < sizeOf node := by
  unfold view at h
  split at h
  · rename_i es
    split at h
    · cases h
    · unfold viewShape at h
      split at h
      · cases h
        cases hi : Entries.get? es "items" with
        | none => exact sizeOf_null_lt_map es
        | some v => exact @Value.sizeOf_get?_lt (.map es) _ _ hi
      · cases h
      · cases h
  · cases h
  · cases h

/-- The properties of an object are smaller than its schema. -/
theorem sizeOf_properties_lt {node required : Value} {ps : Entries}
    (h : view node = .object required (.map ps)) : sizeOf ps < sizeOf node := by
  unfold view at h
  split at h
  · rename_i es
    split at h
    · cases h
    · unfold viewShape at h
      split at h
      · cases h
      · simp only [View.object.injEq] at h
        have hp := h.2
        unfold keyword at hp
        cases hi : Entries.get? es "properties" with
        | none =>
          simp only [hi, Value.map.injEq] at hp
          subst hp
          exact sizeOf_nil_lt_map es
        | some v =>
          have hv := @Value.sizeOf_get?_lt (.map es) _ "properties" hi
          simp only [hi] at hp
          split at hp
          · subst hp
            simp only [Value.map.sizeOf_spec] at hv ⊢
            omega
          · simp only [Value.map.injEq] at hp
            subst hp
            exact sizeOf_nil_lt_map es
      · cases h
  · cases h
  · cases h

end Schema
end ToolGateway
