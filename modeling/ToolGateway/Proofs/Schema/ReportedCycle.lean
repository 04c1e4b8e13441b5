/-
# The reported cycle is a real one

A compilation that comes to a reference which is being expanded reports a chain: the references on
the stack and the one that is repeated.  `Shows` says of the keywords of a schema which references
are met in it before another one is followed.  By it the chain is a walk through the table: the
compilation follows a path (`cycle_of_compileOn`), and where the path follows references they are
met one from the next (`isWalk_of_path`).  `reported_cycle_is_real` adds that the walk comes back to
itself for the first time, and that a compiler with a stack of its own reports the same.
-/

import ToolGateway.Proofs.Schema.Keywords
import ToolGateway.Proofs.Schema.SharedStack
import Mathlib.Data.List.Chain

namespace ToolGateway
namespace Schema

/-- A schema shows a reference if it is met in it without following another one: the schema is this
reference, or else it is an array whose items show it, or an object one of whose properties does. -/
inductive Shows : Value → String → Prop
  | here {node : Value} {ref : String} : refOf? node = some ref → Shows node ref
  | items {es : Entries} {items : Value} {ref : String} : refOf? (.map es) = none →
      es.get? "type" = some (.text "array") → es.get? "items" = some items →
      Shows items ref → Shows (.map es) ref
  | property {es ps : Entries} {key sub : Value} {ref : String} : refOf? (.map es) = none →
      es.get? "type" = some (.text "object") → es.get? "properties" = some (.map ps) →
      (key, sub) ∈ ps → Shows sub ref → Shows (.map es) ref

/-- The schema that a reference stands for shows another one. -/
def LeadsTo (schemas : Schemas) (ref next : String) : Prop :=
  ∃ target, target? schemas ref = some target ∧ Shows target next

/-- References that are met one from the next: the first in the schema, and each other one in what the
one before stands for. -/
structure IsWalk (schemas : Schemas) (node : Value) (refs : List String) : Prop where
  first : ∃ ref, refs.head? = some ref ∧ Shows node ref
  next : refs.IsChain (LeadsTo schemas)

variable {schemas : Schemas} {node : Value} {optional : Bool} {ref : String}

/-! ### From views to what is shown -/

theorem not_shows_null : ¬ Shows .null ref := by
  intro h
  cases h with
  | here h => cases h

theorem Shows.of_array {items : Value} (hv : view node = .array items) (h : Shows items ref) :
    Shows node ref := by
  obtain ⟨es, rfl, hr, ht, hi⟩ := view_eq_array_iff.1 hv
  cases hg : Entries.get? es "items" with
  | none =>
    rw [hg] at hi
    exact absurd (hi ▸ h) not_shows_null
  | some v =>
    rw [hg] at hi
    obtain rfl : items = v := hi
    exact .items hr ht hg h

theorem Shows.of_object {required key sub : Value} {ps : Entries}
    (hv : view node = .object required (.map ps)) (he : (key, sub) ∈ ps) (h : Shows sub ref) :
    Shows node ref := by
  obtain ⟨es, rfl, hr, ht, _, hps⟩ := view_eq_object_iff.1 hv
  rcases keyword_cases es "properties" (.map []) with ⟨v, hg, hk⟩ | ⟨_, hk⟩
  · rw [hk] at hps
    exact .property hr ht (hps ▸ hg) he h
  · -- Without properties there is nothing to show.
    rw [hk] at hps
    cases hps
    cases he

/-! ### From paths to walks -/

/-- **The references of a path are met one from the next**, and the one to which it comes is met from
the last. -/
theorem isWalk_of_path {m : Value} {refs : List String} {last : String}
    (hp : Path schemas node refs m) (hm : view m = .reference last) :
    IsWalk schemas node (refs ++ [last]) := by
  induction hp with
  | here => exact ⟨⟨last, rfl, .here (view_eq_reference_iff.1 hm)⟩, .singleton last⟩
  | @target node target m ref refs hv ht _ ih =>
    obtain ⟨⟨next, hnext, hshows⟩, hchain⟩ := ih hm
    refine ⟨⟨ref, rfl, .here (view_eq_reference_iff.1 hv)⟩, ?_⟩
    refine List.isChain_cons.2 ⟨fun r hr => ?_, hchain⟩
    cases hnext.symm.trans hr
    exact ⟨target, ht, hshows⟩
  | items hv _ ih =>
    obtain ⟨⟨first, hfirst, hshows⟩, hchain⟩ := ih hm
    exact ⟨⟨first, hfirst, .of_array hv hshows⟩, hchain⟩
  | property hv he _ ih =>
    obtain ⟨⟨first, hfirst, hshows⟩, hchain⟩ := ih hm
    exact ⟨⟨first, hfirst, .of_object hv he hshows⟩, hchain⟩

/-! ### The theorem -/

/-- References that are a cycle: a walk from the schema which comes back to one of its references, all
of which are known and differ. -/
structure IsCycle (schemas : Schemas) (node : Value) (refs : List String) (last : String) :
    Prop where
  walk : IsWalk schemas node (refs ++ [last])
  nodup : refs.Nodup
  known : ∀ ref ∈ refs, ∃ target, target? schemas ref = some target
  closes : last ∈ refs

/-- Of a walk all references but the last are known. -/
theorem IsWalk.known {refs : List String} {last : String}
    (h : IsWalk schemas node (refs ++ [last])) :
    ∀ ref ∈ refs, ∃ target, target? schemas ref = some target := by
  intro ref href
  obtain ⟨before, after, rfl⟩ := List.append_of_mem href
  have hchain := h.next
  rw [List.append_assoc, List.cons_append] at hchain
  obtain ⟨next, rest, hrest⟩ : ∃ next rest, after ++ [last] = next :: rest :=
    List.exists_cons_of_ne_nil (by simp)
  rw [hrest, List.isChain_append_cons_cons] at hchain
  obtain ⟨target, ht, _⟩ := hchain.2.1
  exact ⟨target, ht⟩

/-- **The reported cycle is a real one.**  Whatever the schema and the table, if a cycle is reported,
then the first reference of the chain is met in the schema, and every other one in what the one before
it stands for, in both cases through items of arrays and properties of objects only; all but the last
are known and differ, and the last is one of them.  A compiler that has one stack for all its calls
reports the same if it starts with an empty stack, and leaves it empty. -/
theorem reported_cycle_is_real {chain : List String}
    (h : (compile schemas node optional).result = .error (.schemaCycle chain)) :
    (∃ refs last, chain = refs ++ [last] ∧ IsCycle schemas node refs last) ∧
    ∀ compiler, compiler = Compiling.round schemas compiler →
      (compiler node optional).run [] = (compile schemas node optional, []) := by
  refine ⟨?_, fun compiler hc => ?_⟩
  · obtain ⟨refs, m, last, hp, hm, hlast, rfl, hd⟩ := cycle_of_compileOn h
    have hwalk := isWalk_of_path hp hm
    exact ⟨refs, last, rfl, hwalk, hd .nil, hwalk.known, hlast⟩
  · rw [eq_sharedCompile hc]
    exact does_sharedCompile schemas [] node optional

/-- A person, by name. -/
def personRef : Value := .map [(.text "$ref", .text "Person")]

/-- A place, by name. -/
def placeRef : Value := .map [(.text "$ref", .text "Place")]

/-- A crew, by name and path. -/
def crewRef : Value := .map [(.text "$ref", .text "#/components/schemas/Crew")]

/-- A person has a place and a crew, and a crew is made of persons. -/
def crewSchemas : Schemas :=
  [("Place", .map [(.text "type", .text "string")]),
    ("Person", .map [(.text "type", .text "object"),
      (.text "properties", .map [(.text "home", placeRef), (.text "crew", crewRef)])]),
    ("Crew", .map [(.text "type", .text "array"), (.text "items", personRef)])]

/-- A place that was compiled before the cycle is found is not in the chain. -/
theorem crew_cycle_is_real :
    let chain := ["Person", "#/components/schemas/Crew", "Person"]
    (compile crewSchemas personRef true).result = .error (.schemaCycle chain) ∧
      (∃ refs last, chain = refs ++ [last] ∧ IsCycle crewSchemas personRef refs last) ∧
      (sharedCompile crewSchemas personRef true).run []
        = (compile crewSchemas personRef true, []) := by
  intro chain
  have hplace : (compileOn crewSchemas ["Person"] placeRef true).result
      = .ok ⟨.string, true, none, none, none⟩ := by
    rw [compileOn_of_target rfl (by decide) rfl, compileOn_of_plain rfl]
    rfl
  have hcrew : (compileOn crewSchemas ["Person"] crewRef true).result
      = .error (.schemaCycle chain) := by
    rw [compileOn_of_target rfl (by decide) rfl, compileOn_of_array rfl,
      compileOn_of_mem rfl (by decide)]
    rfl
  have h : (compile crewSchemas personRef true).result = .error (.schemaCycle chain) := by
    unfold compile
    rw [compileOn_of_target rfl (by decide) rfl, compileOn_of_object rfl]
    refine Outcome.bind_result_eq_error.2 (Or.inl ?_)
    rw [compileEntries_cons, compileEntries_cons]
    refine Outcome.bind_result_eq_error.2 (Or.inr ⟨false, rfl, ?_⟩)
    refine Outcome.bind_result_eq_error.2 (Or.inr ⟨_, hplace, ?_⟩)
    refine Outcome.bind_result_eq_error.2 (Or.inl ?_)
    refine Outcome.bind_result_eq_error.2 (Or.inr ⟨false, rfl, ?_⟩)
    exact Outcome.bind_result_eq_error.2 (Or.inl hcrew)
  obtain ⟨hcycle, hshared⟩ := reported_cycle_is_real h
  exact ⟨h, hcycle, hshared _ (sharedCompile_eq_round crewSchemas)⟩

end Schema
end ToolGateway
