/-
# References between schemas

A schema may refer to another by name. The name is looked up in the table of the document, with or
without the path that leads to the table. What is not found, or is no map, is unknown. This is the
lookup of `SchemaResolver`, `SPEC_FULL.md`, 4.1.
-/
import ToolGateway.Text.Front
import ToolGateway.Value.Basic

namespace ToolGateway
namespace Schema

/-- The schemas of a document under their names. -/
abbrev Schemas := Table Value

/-- The path in front of a name in a full reference. -/
def tablePath : String := "#/components/schemas/"

/-- The name under which a reference is looked up. -/
def refName (ref : String) : String :=
  match Text.behind? tablePath.toList ref.toList with
  | some rest => .ofList rest
  | none => ref

/-- The value of a keyword that is given, or one that stands for its absence. -/
def keyword (es : Entries) (name : String) (absent : Value) : Value :=
  match Entries.get? es name with
  | some v => if v.isGiven then v else absent
  | none => absent

/-- The reference that a schema consists of (`SchemaResolver.ref_of`). -/
def refOf? (node : Value) : Option String :=
  match node.get? "$ref" with
  | some (.text ref) => some ref
  | _ => none

/-- The schema that a reference stands for, if it is known. -/
def target? (schemas : Schemas) (ref : String) : Option Value :=
  match schemas.get? (refName ref) with
  | some (.map es) => some (.map es)
  | _ => none

/-- The references that could be looked up: each name alone and with the path. -/
def candidates (schemas : Schemas) : List String :=
  schemas.names ++ schemas.names.map (tablePath ++ ·)

/-- A reference is its name, alone or behind the path. -/
theorem eq_refName_or (ref : String) : ref = refName ref ∨ ref = tablePath ++ refName ref := by
  unfold refName
  cases h : Text.behind? tablePath.toList ref.toList with
  | none => exact Or.inl rfl
  | some rest =>
    right
    have := Text.behind?_eq_some.1 h
    apply String.toList_inj.1
    simp [this]

/-- Only candidates have a target. -/
theorem mem_candidates_of_target? {schemas : Schemas} {ref : String} {v : Value}
    (h : target? schemas ref = some v) : ref ∈ candidates schemas := by
  have hn : refName ref ∈ schemas.names := by
    by_cases hm : refName ref ∈ schemas.names
    · exact hm
    · rw [← Table.get?_eq_none_iff] at hm
      simp [target?, hm] at h
  unfold candidates
  rw [List.mem_append]
  rcases eq_refName_or ref with he | he
  · exact Or.inl (he ▸ hn)
  · exact Or.inr (List.mem_map.2 ⟨_, hn, he.symm⟩)

/-- How many candidates are not yet being expanded. -/
def room (schemas : Schemas) (stack : List String) : Nat :=
  ((candidates schemas).filter fun r => !stack.contains r).length

/-- A filter that refuses one more member lets fewer through. -/
theorem length_filter_lt {α : Type} {p q : α → Bool} {xs : List α} {x : α} (hx : x ∈ xs)
    (hp : p x = true) (hq : q x = false) (hqp : ∀ y, q y = true → p y = true) :
    (xs.filter q).length < (xs.filter p).length := by
  induction xs with
  | nil => cases hx
  | cons y ys ih =>
    have mono : (ys.filter q).length ≤ (ys.filter p).length := by
      clear ih hx
      induction ys with
      | nil => simp
      | cons z zs ih =>
        by_cases hz : q z = true
        · simp [hz, hqp z hz, ih]
        · by_cases hz' : p z = true
          · simp [hz, hz']
            omega
          · simp [hz, hz', ih]
    rcases List.mem_cons.1 hx with rfl | hx
    · simp [hp, hq]
      omega
    · by_cases hy : q y = true
      · simp [hy, hqp y hy, ih hx]
      · by_cases hy' : p y = true
        · have := ih hx
          simp [hy, hy']
          omega
        · simp [hy, hy', ih hx]

/-- Expanding one more reference leaves less room. -/
theorem room_lt {schemas : Schemas} {stack : List String} {ref : String} {v : Value}
    (h : target? schemas ref = some v) (hs : ref ∉ stack) :
    room schemas (stack ++ [ref]) < room schemas stack := by
  apply length_filter_lt (mem_candidates_of_target? h)
  · simp [hs]
  · simp
  · intro y hy
    simp at hy ⊢
    exact hy.1

end Schema
end ToolGateway
