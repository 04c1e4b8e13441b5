/-
# Compiling schemas

A raw schema becomes a validator. References are expanded where they stand; the references that are
being expanded form a stack, and one that comes up again under itself is a cycle. A reference that
is not known, and everything that is no schema, becomes a validator of any kind. The optional flag
is set last, so it never depends on the shape. This is `SchemaCompiler` of `SPEC_FULL.md`, 4.2.

Compilation ends because a reference is expanded at most once on each path, and between two
references it goes down into the schema.
-/
import ToolGateway.Outcome
import ToolGateway.Schema.View

namespace ToolGateway
namespace Schema

/-- What is logged about a reference that is not known. -/
def unresolvedText (ref : String) : String := "Unresolved schema reference " ++ ref

/-- The target of a reference; one that is not known is logged. -/
def lookUp (schemas : Schemas) (ref : String) : Outcome (Option Value) :=
  match target? schemas ref with
  | some v => pure (some v)
  | none => do
    Outcome.note .debug (unresolvedText ref)
    return none

/-- A schema itself, or what its reference stands for (`SchemaResolver.resolve`). -/
def resolve (schemas : Schemas) (node : Value) : Outcome (Option Value) :=
  match node with
  | .null => pure none
  | node =>
    match refOf? node with
    | none => pure (some node)
    | some ref => lookUp schemas ref

/-- Names for compiled properties: every key must be a text. -/
def nameFields : List (Value × Validator) → Checked (List (String × Validator))
  | [] => .fine []
  | (k, v) :: rest => (List.cons <$> ((Shape.key k).map fun name => (name, v))) <*> nameFields rest

/-- The properties of a validator, from compiled properties under raw keys. -/
def properties (model field : String) (fields : List (Value × Validator)) :
    Outcome (Table Validator) :=
  match (nameFields fields).under (.name field) with
  | .fine named => pure (Table.ofList named)
  | .flawed issues => .fail (.invalid model issues)

/-- Why the properties of an object cannot be gone through: what stands in their place is no map, or
it is a map around the object, so that the way through it has no end. -/
def propertiesFault : Value → Failure
  | .again true => .tooDeep
  | v => .raw (.noMember v.kindName "items")

/-- One step of the compilation. What becomes of a reference, and of the parts of a schema, is left
open: `follow` says it of the one and `part` of the others, in any manner of computing that can give
an outcome. -/
def step {m : Type → Type} [Monad m] (of : {α : Type} → Outcome α → m α)
    (follow : String → Bool → m Validator) (part : Value → Bool → m Validator) (node : Value)
    (optional : Bool) : m Validator :=
  match view node with
  | .notSchema => pure (Validator.any optional)
  | .reference ref => follow ref optional
  | .plain kind =>
    pure { Validator.ofKind kind with description := description? node, optional }
  | .array items => do
    let item ← part items false
    return ⟨.array, optional, description? node, some item, none⟩
  | .object required (.map ps) => do
    let fields ← ps.mapM fun e => do
      let listed ← of (.ofExcept ((required.holds e.1).mapError .raw))
      let field ← part e.2 (!listed)
      return (e.1, field)
    let ps ← of (properties "ValidatorNode" "properties" fields)
    return ⟨.object, optional, description? node, none, some ps⟩
  | .object _ other => of (.fail (propertiesFault other))

mutual

/-- The validator of a schema, while the references of the stack are being expanded
(`SchemaCompiler.compile`). -/
def compileOn (schemas : Schemas) (stack : List String) (node : Value) (optional : Bool) :
    Outcome Validator :=
  match _hv : view node with
  | .notSchema => pure (Validator.any optional)
  | .reference ref =>
    if _hs : ref ∈ stack then .fail (.schemaCycle (stack ++ [ref]))
    else
      match _ht : target? schemas ref with
      | none => do
        Outcome.note .debug (unresolvedText ref)
        return Validator.any optional
      | some target => compileOn schemas (stack ++ [ref]) target optional
  | .plain kind =>
    pure { Validator.ofKind kind with description := description? node, optional }
  | .array items => do
    let item ← compileOn schemas stack items false
    return ⟨.array, optional, description? node, some item, none⟩
  | .object required (.map ps) => do
    let fields ← compileEntries schemas stack required ps
    let ps ← properties "ValidatorNode" "properties" fields
    return ⟨.object, optional, description? node, none, some ps⟩
  | .object _ other => .fail (propertiesFault other)
termination_by (room schemas stack, sizeOf node)
decreasing_by
  · exact Prod.Lex.left _ _ (room_lt _ht _hs)
  · exact Prod.Lex.right _ (sizeOf_items_lt _hv)
  · exact Prod.Lex.right _ (sizeOf_properties_lt _hv)

/-- The validators of properties under their raw keys; one is optional unless its key is among the
required ones. -/
def compileEntries (schemas : Schemas) (stack : List String) (required : Value)
    (ps : List (Value × Value)) : Outcome (List (Value × Validator)) :=
  match ps with
  | [] => pure []
  | (key, node) :: rest => do
    let listed ← Outcome.ofExcept ((required.holds key).mapError .raw)
    let field ← compileOn schemas stack node (!listed)
    let fields ← compileEntries schemas stack required rest
    return (key, field) :: fields
termination_by (room schemas stack, sizeOf ps)
decreasing_by
  · apply Prod.Lex.right
    simp only [List.cons.sizeOf_spec, Prod.mk.sizeOf_spec]
    omega
  · apply Prod.Lex.right
    simp only [List.cons.sizeOf_spec]
    omega

end

/-- The validator of a schema. -/
def compile (schemas : Schemas) (node : Value) (optional : Bool) : Outcome Validator :=
  compileOn schemas [] node optional

/-- Compiling fields, all of them optional, if their schemas are left to `part`. -/
def stepFields {m : Type → Type} [Monad m] (of : {α : Type} → Outcome α → m α)
    (part : Value → Bool → m Validator) (fields : Value) : m (List (Value × Validator)) :=
  match fields with
  | .map es => es.mapM fun e => do
    let v ← part e.2 true
    return (e.1, v)
  | v => of (if v.isGiven then .fail (propertiesFault v) else pure [])

/-- The validators of fields under their raw keys (`SchemaCompiler.compile_fields`). -/
def compileFields (schemas : Schemas) : Value → Outcome (List (Value × Validator)) :=
  stepFields id (compile schemas)

end Schema
end ToolGateway
