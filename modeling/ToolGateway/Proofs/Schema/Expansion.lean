/-
# What a schema expands to

A schema is expanded by going from it to its parts: to what a reference stands for, to the items of
an array, to the properties of an object.  A path through the expansion keeps the references that it
follows, in order, and so says which expansions lie one inside the other.

An expansion is clean below a stack of references if no path comes to a reference that is already on
the stack or behind it.  `Clean` is said of paths and not by recursion, since a table may be cyclic;
the lemmas `clean_of_…` say how it goes over to the parts, one for each view of a schema.
`clean_nil_iff` says that below the empty stack nothing else is asked for than that no path follows a
reference twice, and `clean_reference_iff` that a reference adds no cycle to those of its target: a
path that comes back to the reference can be walked twice.
-/

import ToolGateway.Schema.View
import Mathlib.Data.List.Nodup

namespace ToolGateway
namespace Schema

/-- A path from a schema to one that its expansion meets, with the references that it follows. -/
inductive Path (schemas : Schemas) : Value → List String → Value → Prop
  | here {node : Value} : Path schemas node [] node
  | target {node target m : Value} {ref : String} {refs : List String} :
      view node = .reference ref → target? schemas ref = some target →
      Path schemas target refs m → Path schemas node (ref :: refs) m
  | items {node items m : Value} {refs : List String} :
      view node = .array items → Path schemas items refs m → Path schemas node refs m
  | property {node required key sub m : Value} {ps : Entries} {refs : List String} :
      view node = .object required (.map ps) → (key, sub) ∈ ps →
      Path schemas sub refs m → Path schemas node refs m

/-- The expansion of a schema meets another one. -/
def Met (schemas : Schemas) (node m : Value) : Prop := ∃ refs, Path schemas node refs m

/-- No path from the schema comes to a reference that is on the stack or was followed before. -/
def Clean (schemas : Schemas) (stack : List String) (node : Value) : Prop :=
  ∀ refs m ref, Path schemas node refs m → view m = .reference ref → ref ∉ stack ++ refs

variable {schemas : Schemas} {stack : List String} {node : Value}

/-! ### Paths -/

/-- Paths are walked one after the other. -/
theorem Path.trans {a b c : Value} {refs refs' : List String} (h : Path schemas a refs b)
    (h' : Path schemas b refs' c) : Path schemas a (refs ++ refs') c := by
  induction h with
  | here => exact h'
  | target hv ht _ ih => exact .target hv ht (ih h')
  | items hv _ ih => exact .items hv (ih h')
  | property hv hm _ ih => exact .property hv hm (ih h')

/-- Where a path follows a reference it first comes to it, and then goes on from its target. -/
theorem Path.split {a c : Value} {ref : String} {before after : List String}
    (h : Path schemas a (before ++ ref :: after) c) :
    ∃ m target, Path schemas a before m ∧ view m = .reference ref ∧
      target? schemas ref = some target ∧ Path schemas target after c := by
  generalize hr : before ++ ref :: after = refs at h
  induction h generalizing before with
  | here => simp at hr
  | @target node target _ _ _ hv ht hp ih =>
    cases before with
    | nil =>
      obtain ⟨rfl, rfl⟩ := List.cons.inj hr
      exact ⟨node, target, .here, hv, ht, hp⟩
    | cons first before =>
      obtain ⟨rfl, hrest⟩ := List.cons.inj hr
      obtain ⟨m, t, hm, hvm, htm, hc⟩ := ih hrest
      exact ⟨m, t, .target hv ht hm, hvm, htm, hc⟩
  | items hv _ ih =>
    obtain ⟨m, t, hm, hvm, htm, hc⟩ := ih hr
    exact ⟨m, t, .items hv hm, hvm, htm, hc⟩
  | property hv he _ ih =>
    obtain ⟨m, t, hm, hvm, htm, hc⟩ := ih hr
    exact ⟨m, t, .property hv he hm, hvm, htm, hc⟩

/-- Below a schema of this view nothing is expanded. -/
def View.isLeaf : View → Bool
  | .notSchema | .plain _ => true
  | .reference _ | .array _ | .object _ (.map _) => false
  | .object _ _ => true

/-- From a schema without parts there is no way on. -/
theorem Path.of_leaf (hl : (view node).isLeaf = true) {m : Value} {refs : List String}
    (h : Path schemas node refs m) : refs = [] ∧ m = node := by
  cases h with
  | here => exact ⟨rfl, rfl⟩
  | target hv => simp [hv, View.isLeaf] at hl
  | items hv => simp [hv, View.isLeaf] at hl
  | property hv => simp [hv, View.isLeaf] at hl

/-- From a reference the only way on is through its target. -/
theorem Path.of_reference {ref : String} (hv : view node = .reference ref) {m : Value}
    {refs : List String} (h : Path schemas node refs m) :
    (refs = [] ∧ m = node) ∨ ∃ target rest, target? schemas ref = some target ∧
      refs = ref :: rest ∧ Path schemas target rest m := by
  cases h with
  | here => exact Or.inl ⟨rfl, rfl⟩
  | target hv' ht hp =>
    cases hv.symm.trans hv'
    exact Or.inr ⟨_, _, ht, rfl, hp⟩
  | items hv' => cases hv.symm.trans hv'
  | property hv' => cases hv.symm.trans hv'

/-- From an array the only way on is through its items. -/
theorem Path.of_array {items : Value} (hv : view node = .array items) {m : Value}
    {refs : List String} (h : Path schemas node refs m) :
    (refs = [] ∧ m = node) ∨ Path schemas items refs m := by
  cases h with
  | here => exact Or.inl ⟨rfl, rfl⟩
  | target hv' => cases hv.symm.trans hv'
  | items hv' hp =>
    cases hv.symm.trans hv'
    exact Or.inr hp
  | property hv' => cases hv.symm.trans hv'

/-- From an object the ways on are through its properties. -/
theorem Path.of_object {required : Value} {ps : Entries}
    (hv : view node = .object required (.map ps)) {m : Value} {refs : List String}
    (h : Path schemas node refs m) :
    (refs = [] ∧ m = node) ∨ ∃ e ∈ ps, Path schemas e.2 refs m := by
  cases h with
  | here => exact Or.inl ⟨rfl, rfl⟩
  | target hv' => cases hv.symm.trans hv'
  | items hv' => cases hv.symm.trans hv'
  | property hv' he hp =>
    cases hv.symm.trans hv'
    exact Or.inr ⟨_, he, hp⟩

/-! ### What is met -/

theorem Met.refl : Met schemas node node := ⟨[], .here⟩

theorem Met.target {target m : Value} {ref : String} (hv : view node = .reference ref)
    (ht : target? schemas ref = some target) : Met schemas target m → Met schemas node m
  | ⟨_, hp⟩ => ⟨_, .target hv ht hp⟩

theorem Met.items {items m : Value} (hv : view node = .array items) :
    Met schemas items m → Met schemas node m
  | ⟨_, hp⟩ => ⟨_, .items hv hp⟩

theorem Met.property {required m : Value} {ps : Entries} {e : Value × Value}
    (hv : view node = .object required (.map ps)) (he : e ∈ ps) :
    Met schemas e.2 m → Met schemas node m
  | ⟨_, hp⟩ => ⟨_, .property hv he hp⟩

/-- The schemas that a schema expands to in one step. -/
def parts (schemas : Schemas) (node : Value) : List Value :=
  match view node with
  | .reference ref => (target? schemas ref).toList
  | .array items => [items]
  | .object _ (.map ps) => ps.map Prod.snd
  | _ => []

/-- What goes over from a schema to those of the next step holds of all that is met. -/
theorem Met.of_parts {S : Value → Prop} {m : Value} (hm : Met schemas node m)
    (step : ∀ n, S n → ∀ t ∈ parts schemas n, S t) (h : S node) : S m := by
  obtain ⟨refs, hp⟩ := hm
  induction hp with
  | here => exact h
  | target hv ht _ ih => exact ih (step _ h _ (by simp [parts, hv, ht]))
  | items hv _ ih => exact ih (step _ h _ (by simp [parts, hv]))
  | property hv he _ ih => exact ih (step _ h _ (by simpa [parts, hv] using ⟨_, he⟩))

/-! ### Clean expansions -/

/-- A reference without a target is met, and nothing behind it. -/
theorem clean_of_unresolved {ref : String} (hv : view node = .reference ref)
    (ht : target? schemas ref = none) : Clean schemas stack node ↔ ref ∉ stack := by
  constructor
  · intro h
    simpa using h [] node ref .here hv
  · intro hs refs m ref' hp hv'
    rcases hp.of_reference hv with ⟨rfl, rfl⟩ | ⟨target, _, ht', _, _⟩
    · cases hv.symm.trans hv'
      simpa using hs
    · cases ht.symm.trans ht'

/-- Behind a reference the stack is longer by it. -/
theorem clean_of_target {ref : String} {target : Value} (hv : view node = .reference ref)
    (ht : target? schemas ref = some target) :
    Clean schemas stack node ↔ ref ∉ stack ∧ Clean schemas (stack ++ [ref]) target := by
  constructor
  · intro h
    refine ⟨by simpa using h [] node ref .here hv, fun refs m ref' hp hv' => ?_⟩
    simpa using h (ref :: refs) m ref' (.target hv ht hp) hv'
  · rintro ⟨hs, h⟩ refs m ref' hp hv'
    rcases hp.of_reference hv with ⟨rfl, rfl⟩ | ⟨_, rest, ht', rfl, hp⟩
    · cases hv.symm.trans hv'
      simpa using hs
    · cases ht.symm.trans ht'
      simpa using h rest m ref' hp hv'

/-- An array is as clean as its items. -/
theorem clean_of_array {items : Value} (hv : view node = .array items) :
    Clean schemas stack node ↔ Clean schemas stack items := by
  constructor
  · intro h refs m ref hp
    exact h refs m ref (.items hv hp)
  · intro h refs m ref hp hv'
    rcases hp.of_array hv with ⟨rfl, rfl⟩ | hp
    · cases hv.symm.trans hv'
    · exact h refs m ref hp hv'

/-- An object is as clean as all its properties. -/
theorem clean_of_object {required : Value} {ps : Entries}
    (hv : view node = .object required (.map ps)) :
    Clean schemas stack node ↔ ∀ e ∈ ps, Clean schemas stack e.2 := by
  constructor
  · intro h e he refs m ref hp
    exact h refs m ref (.property hv he hp)
  · intro h refs m ref hp hv'
    rcases hp.of_object hv with ⟨rfl, rfl⟩ | ⟨e, he, hp⟩
    · cases hv.symm.trans hv'
    · exact h e he refs m ref hp hv'

/-- What is clean below a stack is clean below the empty one. -/
theorem Clean.of_stack (h : Clean schemas stack node) : Clean schemas [] node :=
  fun refs m ref hp hv hm => h refs m ref hp hv (List.mem_append_right _ hm)

/-- In a clean expansion the references of a path are distinct, and none is on the stack. -/
theorem Path.nodup_of_clean {m : Value} {refs : List String} (h : Path schemas node refs m)
    (hc : Clean schemas stack node) (hs : stack.Nodup) : (stack ++ refs).Nodup := by
  induction h generalizing stack with
  | here => simpa using hs
  | @target _ _ _ ref _ hv ht _ ih =>
    obtain ⟨hn, hc⟩ := (clean_of_target hv ht).1 hc
    have hs' : (stack ++ [ref]).Nodup := by
      simpa using List.Nodup.concat hn hs
    simpa using ih hc hs'
  | items hv _ ih => exact ih ((clean_of_array hv).1 hc) hs
  | property hv he _ ih => exact ih ((clean_of_object hv).1 hc _ he) hs

/-- Below the empty stack an expansion is clean if no path follows a reference twice. -/
theorem clean_nil_iff :
    Clean schemas [] node ↔ ∀ refs m, Path schemas node refs m → refs.Nodup := by
  constructor
  · intro h refs m hp
    exact hp.nodup_of_clean h List.nodup_nil
  · intro h refs m ref hp hv hm
    rw [List.nil_append] at hm
    obtain ⟨before, after, rfl⟩ := List.append_of_mem hm
    -- the path has followed the reference, so it has a target and can be followed once more
    obtain ⟨_, target, _, _, ht, _⟩ := hp.split
    have hd := h _ target (hp.trans (.target hv ht .here))
    simp [List.nodup_append] at hd

/-- A reference is clean if its target is.  A path from the target back to the reference could be
walked twice, and the second time the reference would come up behind itself. -/
theorem clean_reference_iff {ref : String} {target : Value} (hv : view node = .reference ref)
    (ht : target? schemas ref = some target) :
    Clean schemas [] node ↔ Clean schemas [] target := by
  rw [clean_of_target hv ht]
  constructor
  · exact fun h => h.2.of_stack
  · intro h
    refine ⟨List.not_mem_nil, fun refs m ref' hp hv' hm => ?_⟩
    rcases List.mem_append.1 hm with hm | hm
    · obtain rfl : ref' = ref := by simpa using hm
      have hloop := hp.trans (.target hv' ht hp)
      exact h _ m ref' hloop hv' (by simp)
    · exact h refs m ref' hp hv' hm

end Schema
end ToolGateway
