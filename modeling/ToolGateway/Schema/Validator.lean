/-
# Validators

A validator is the compiled form of a schema: a tree of kinds. It is optional if the value may be
left out. Only an array has use for items and only an object for properties, which keep the order of
the document. This is `ValidatorNode` of `SPEC_FULL.md`, 3.
-/
import ToolGateway.Check.Shape

namespace ToolGateway

/-- The kinds of values that validators tell apart. -/
inductive Kind where
  | any
  | string
  | number
  | boolean
  | array
  | object
deriving DecidableEq, Repr, Inhabited

namespace Kind

/-- The name of a kind. -/
def name : Kind → String
  | any => "any"
  | string => "string"
  | number => "number"
  | boolean => "boolean"
  | array => "array"
  | object => "object"

/-- All kinds. -/
def all : List Kind := [any, string, number, boolean, array, object]

/-- The kind with a name. -/
def named? (name : String) : Option Kind := all.find? fun k => k.name = name

end Kind

/-- A compiled schema. -/
structure Validator where
  kind : Kind
  optional : Bool
  description : Option Value
  items : Option Validator
  properties : Option (List (String × Validator))
deriving Inhabited

namespace Validator

/-- A validator of a kind without anything else. -/
def ofKind (kind : Kind) : Validator := ⟨kind, false, none, none, none⟩

/-- Any value. -/
def any (optional : Bool) : Validator := { ofKind .any with optional }

/-- A field with this validator may be left out: it is optional, or of any kind. -/
def mayBeAbsent (v : Validator) : Bool := v.optional || v.kind == .any

/-! ## The published schema -/

/-- An entry of a published schema. -/
def entry (name : String) (v : Value) : Value × Value := (.text name, v)

/-- The names of the fields that must be there. -/
def mandatoryNames (ps : List (String × Validator)) : List String :=
  (ps.filter fun p => !p.2.mayBeAbsent).map Prod.fst

/-- The entries of an object's schema, from the schemas of its properties. -/
def objectEntries (schemas : List (Value × Value)) (mandatory : List String) : Entries :=
  [entry "type" (.text "object"), entry "properties" (.map schemas)]
    ++ (if mandatory.isEmpty then [] else [entry "required" (.list (mandatory.map .text))])

/-- The entry of a description that is given. -/
def descriptionEntries : Option Value → Entries
  | some d => if d.isGiven then [entry "description" d] else []
  | none => []

mutual

/-- The schema that is published for a validator (`ValidatorNode.to_json_schema`). -/
def schema : Validator → Value
  | ⟨kind, _, description, items, properties⟩ =>
    let shape : Entries := match kind with
      | .any => []
      | .array =>
        [entry "type" (.text "array"),
          entry "items" (match items with
            | some v => v.schema
            | none => .map [])]
      | .object =>
        match properties with
        | some ps => objectEntries (propertySchemas ps) (mandatoryNames ps)
        | none => objectEntries [] []
      | .string => [entry "type" (.text "string")]
      | .number => [entry "type" (.text "number")]
      | .boolean => [entry "type" (.text "boolean")]
    .map (shape ++ descriptionEntries description)

/-- The schemas of properties under their names. -/
def propertySchemas : List (String × Validator) → List (Value × Value)
  | [] => []
  | (name, v) :: rest => entry name v.schema :: propertySchemas rest

end

/-- The schema of an object with the given fields (`object_json_schema`). -/
def objectSchema (fields : Table Validator) : Value :=
  .map (objectEntries (propertySchemas fields) (mandatoryNames fields))

/-! ## Checking values -/

/-- The name of the model of an object's fields: letters and digits of the name in title case. -/
def modelName (name : String) : String :=
  let word := Text.titleWord name
  if word = "" then "Args" else word

mutual

/-- Checks a value (`ValidatorNode.to_pydantic_type`). An object keeps its declared fields in the
order of their declaration, and loses the others; fields that were left out stay out. `name` is the
name of the place, from which the names of the models follow. -/
def check : Validator → String → Value → Checked Value
  | ⟨.any, _, _, _, _⟩, _, v => .fine v
  | ⟨.string, _, _, _, _⟩, _, v =>
    match v with
    | .text s => .fine (.text s)
    | v => .issue .notText v
  | ⟨.number, _, _, _, _⟩, _, v =>
    match v with
    | .int i => .fine (.int i)
    | .float x => .fine (.float x)
    | v =>
      .flawed [⟨.notInteger, [.name "int"], v⟩, ⟨.notNumber, [.name "float"], v⟩]
  | ⟨.boolean, _, _, _, _⟩, _, v =>
    match v with
    | .bool b => .fine (.bool b)
    | v => .issue .notTruth v
  | ⟨.array, _, _, some item, _⟩, name, v =>
    (Shape.list (item.check (name ++ "Item")) v).map .list
  | ⟨.array, _, _, none, _⟩, _, v => (Shape.list Shape.any v).map .list
  | ⟨.object, _, _, _, properties⟩, name, v =>
    match v with
    | .map es =>
      match properties with
      | some ps => (checkFields ps name es).map .ofTable
      | none => .fine (.map [])
    | v => .issue (.notModel (modelName name)) v

/-- Checks the declared fields one after the other. -/
def checkFields : List (String × Validator) → String → Entries → Checked (Table Value)
  | [], _, _ => .fine []
  | (key, v) :: rest, name, es =>
    match Entries.get? es key with
    | some x =>
      let field := (v.check (name ++ Text.titleWord key) x).under (.name key)
      (List.cons <$> (field.map fun y => (key, y))) <*> checkFields rest name es
    | none =>
      if v.mayBeAbsent then checkFields rest name es
      else
        let issue : Checked (String × Value) := (Checked.issue .missing (.map es)).under (.name key)
        (List.cons <$> issue) <*> checkFields rest name es

end

/-! ## Reading a validator -/

/-- A kind, by its name. -/
def kindShape (v : Value) : Checked Kind :=
  match v with
  | .text s =>
    match Kind.named? s with
    | some k => .fine k
    | none => .issue (.notAmong (Kind.all.map Kind.name)) v
  | v => .issue (.notAmong (Kind.all.map Kind.name)) v

/-- How many validators may lie one inside the other, the outermost included. -/
def nestingLimit : Nat := 255

/-- A validator read from a value, in which `depth` validators may lie one inside the other. One
that lies deeper is not looked into. -/
def readDeep : Nat → Shape Validator
  | 0, v => .issue .tooDeep v
  | depth + 1, v =>
    Shape.record "ValidatorNode" (fun es =>
      (fun kind optional description items properties =>
          (⟨kind, optional, description.map Value.text, items, properties⟩ : Validator))
        <$> Shape.withDefault es ⟨"kind", "kind"⟩ kindShape .any
        <*> Shape.withDefault es ⟨"optional", "optional"⟩ Shape.truth false
        <*> Shape.withDefault es ⟨"description", "description"⟩ (Shape.orNull Shape.text) none
        <*> Shape.withDefault es ⟨"items", "items"⟩ (Shape.orNull (readDeep depth)) none
        <*> Shape.withDefault es ⟨"properties", "properties"⟩
              (Shape.orNull (Shape.table (readDeep depth))) none) v

/-- A validator read from a value. -/
def read (v : Value) : Checked Validator := readDeep nestingLimit v

end Validator
end ToolGateway
