/-
# Checking arguments against a published schema

A published schema speaks of types, items, properties and required names. Of all complaints about a
value the one that is shown is the outermost, and of several in one place's neighbours the last. The
published schemas are the `inputSchema` of `SPEC_FULL.md`, 6.
-/
import ToolGateway.Check.Issue

namespace ToolGateway
namespace Schema

/-- A complaint: the place, whether it is about the type, and the words. -/
structure Complaint where
  place : List Step
  aboutType : Bool
  text : String

namespace Complaint

/-- The complaint seen from one level further out. -/
def under (s : Step) (c : Complaint) : Complaint := { c with place := s :: c.place }

/-- The order of steps: indices by number, names by their characters. -/
def stepLess : Step → Step → Bool
  | .index i, .index j => i < j
  | .name s, .name t => s < t
  | .index _, .name _ => true
  | .name _, .index _ => false

/-- The order of places of one length. -/
def placeLess : List Step → List Step → Bool
  | s :: ss, t :: ts => stepLess s t || (!stepLess t s && placeLess ss ts)
  | [], _ :: _ => true
  | _, [] => false

/-- The second complaint is shown rather than the first. -/
def yields (c d : Complaint) : Bool :=
  if c.place.length ≠ d.place.length then d.place.length < c.place.length
  else if placeLess c.place d.place then true
  else if placeLess d.place c.place then false
  else !c.aboutType && d.aboutType

/-- The complaint that is shown. -/
def shown? : List Complaint → Option Complaint
  | [] => none
  | c :: rest => some (rest.foldl (fun best d => if best.yields d then d else best) c)

end Complaint

/-- The value has the type of a name. -/
def hasType (v : Value) (type : String) : Bool :=
  match type, v with
  | "object", .map _ => true
  | "array", .list _ => true
  | "string", .text _ => true
  | "boolean", .bool _ => true
  | "number", .int _ => true
  | "number", .float _ => true
  | _, _ => false

/-- The complaint about a type. -/
def typeComplaints (v : Value) : Option Value → List Complaint
  | some (.text type) =>
    if hasType v type then []
    else [⟨[], true, v.quoted ++ " is not of type " ++ Text.quoted type⟩]
  | _ => []

/-- The complaints about required names that are missing. -/
def requiredComplaints (v : Value) : Option Value → List Complaint
  | some (.list names) =>
    match v with
    | .map es => names.filterMap fun n => match n with
      | .text name =>
        if (Entries.get? es name).isSome then none
        else some ⟨[], false, Text.quoted name ++ " is a required property"⟩
      | _ => none
    | _ => []
  | _ => []

mutual

/-- The complaints about a value. -/
def complaints : Value → Value → List Complaint
  | .map keywords, v =>
    typeComplaints v (Entries.get? keywords "type") ++ partComplaints keywords v
      ++ requiredComplaints v (Entries.get? keywords "required")
  | _, _ => []

/-- The complaints about items and properties. -/
def partComplaints : List (Value × Value) → Value → List Complaint
  | [], _ => []
  | (k, sub) :: rest, v =>
    (match k, v with
     | .text "items", .list xs =>
       (xs.zipIdx.map fun (x, i) => (complaints sub x).map (Complaint.under (.index i))).flatten
     | .text "properties", .map es =>
       match sub with
       | .map ps => propertyComplaints ps es
       | _ => []
     | _, _ => [])
    ++ partComplaints rest v

/-- The complaints about the properties that are there. -/
def propertyComplaints : List (Value × Value) → Entries → List Complaint
  | [], _ => []
  | (k, sub) :: rest, es =>
    (match k with
     | .text name =>
       match Entries.get? es name with
       | some x => (complaints sub x).map (Complaint.under (.name name))
       | none => []
     | _ => [])
    ++ propertyComplaints rest es

end

/-- The words about a value that does not fit a schema. -/
def misfit? (schema v : Value) : Option String :=
  (Complaint.shown? (complaints schema v)).map (·.text)

end Schema
end ToolGateway
