/-
# Cycles are found, and only cycles

Compilation calls itself on the parts of a schema, and a reference may lead back to a schema that is
already being compiled.  Two things are shown about it for every table, cyclic or not.

The calls end: `layer` is one round of the compilation with the calls for the parts left open, and
`iterate_layer` says that rounds of it, as many as `depthBound` and more, give the outcome of the
compilation whatever the open calls of the innermost round would answer.  So none of them is made.

The answer about cycles is exact: `cycle_of_compileOn` reads off the reported chain a path that comes
back to its own reference, and by `compileOn_eq_ok_iff` such a path stops the compilation.  What
fails otherwise is not regular.
-/

import ToolGateway.Proofs.Effect.Alike
import ToolGateway.Proofs.Schema.Regular
import Mathlib.Logic.Function.Iterate

namespace ToolGateway
namespace Schema

variable {schemas : Schemas} {stack : List String} {node : Value} {optional : Bool}

/-! ### The calls end -/

/-- How deep the calls for the parts of a schema may lie one in the other: each reference leads to a
schema of the table at most once, and between references the schemas get smaller. -/
noncomputable def depthBound (schemas : Schemas) (stack : List String) (node : Value) : Nat :=
  sizeOf node + room schemas stack * sizeOf schemas

/-- What stands in the table is smaller than the table. -/
theorem sizeOf_target_lt {ref : String} {target : Value}
    (h : target? schemas ref = some target) : sizeOf target < sizeOf schemas := by
  obtain ⟨name, hm⟩ : ∃ name, (name, target) ∈ schemas := by
    unfold target? at h
    split at h
    · rename_i es hes
      cases h
      exact ⟨_, Table.mem_of_get? hes⟩
    · cases h
  have := List.sizeOf_lt_of_mem hm
  simp only [Prod.mk.sizeOf_spec] at this
  omega

/-- Following a reference leaves a smaller bound. -/
theorem depthBound_target_lt {ref : String} {target : Value} (hs : ref ∉ stack)
    (ht : target? schemas ref = some target) :
    depthBound schemas (stack ++ [ref]) target < depthBound schemas stack node := by
  have hroom : room schemas (stack ++ [ref]) + 1 ≤ room schemas stack := room_lt ht hs
  have hmul := Nat.mul_le_mul_right (sizeOf schemas) hroom
  rw [Nat.add_mul, Nat.one_mul] at hmul
  have hsize := sizeOf_target_lt ht
  unfold depthBound
  omega

/-- Going to a part of a schema leaves a smaller bound. -/
theorem depthBound_lt {m : Value} (h : sizeOf m < sizeOf node) :
    depthBound schemas stack m < depthBound schemas stack node := by
  unfold depthBound
  omega

/-- A round that is told the right outcomes of the parts gives the right outcome. -/
theorem layer_eq_compileOn {rest : List String → Value → Bool → Outcome Validator}
    (hrest : ∀ stack' m o, depthBound schemas stack' m < depthBound schemas stack node →
      rest stack' m o = compileOn schemas stack' m o) :
    layer schemas rest stack node optional = compileOn schemas stack node optional := by
  rw [compileOn_eq_layer]
  refine (rel_step Outcome.Alike.lifting (fun x => .refl (fun _ => rfl) x) (fun ref _ => ?_)
    fun sub o hsize => ?_).eq
  · -- a reference is followed at most once
    have hexpand : expand schemas rest stack ref optional
        = expand schemas (compileOn schemas) stack ref optional := by
      unfold expand
      split
      · rfl
      · rename_i hs
        split
        · rfl
        · rename_i target ht
          exact hrest _ _ _ (depthBound_target_lt hs ht)
    rw [hexpand]
    exact .refl (fun _ => rfl) _
  · rw [hrest _ _ _ (depthBound_lt hsize)]
    exact .refl (fun _ => rfl) _

/-- **The calls end.**  Rounds beyond the bound give the outcome of the compilation, whatever the
innermost round is told about the parts that are left to it. -/
theorem iterate_layer (rest : List String → Value → Bool → Outcome Validator) {d : ℕ}
    (hd : depthBound schemas stack node < d) :
    (layer schemas)^[d] rest stack node optional = compileOn schemas stack node optional := by
  induction d generalizing stack node optional with
  | zero => omega
  | succ d ih =>
    rw [Function.iterate_succ_apply']
    exact layer_eq_compileOn fun _ _ _ h => ih (by omega)

/-! ### What is reported is a cycle -/

/-- The reported chain is the stack, then the references of a path, then one that is among them.  Only
this last one is repeated, if nothing is on the stack twice. -/
theorem cycle_of_compileOn {chain : List String}
    (h : (compileOn schemas stack node optional).result = .error (.schemaCycle chain)) :
    ∃ refs m ref, Path schemas node refs m ∧ view m = .reference ref ∧ ref ∈ stack ++ refs ∧
      chain = stack ++ refs ++ [ref] ∧ (stack.Nodup → (stack ++ refs).Nodup) := by
  induction stack, node, optional using compileOn.induct schemas _
    (fun stack required ps =>
      (compileEntries schemas stack required ps).result = .error (.schemaCycle chain) →
      ∃ e ∈ ps, ∃ refs m ref, Path schemas e.2 refs m ∧ view m = .reference ref ∧
        ref ∈ stack ++ refs ∧ chain = stack ++ refs ++ [ref] ∧
        (stack.Nodup → (stack ++ refs).Nodup)) with
  | case1 stack node optional hv =>
    rw [compileOn_of_notSchema hv] at h
    cases h
  | case2 stack node optional ref hv hs =>
    rw [compileOn_of_mem hv hs] at h
    cases h
    exact ⟨[], node, ref, .here, hv, by simpa using hs, by simp, by simp⟩
  | case3 stack node optional ref hv hs ht =>
    rw [compileOn_of_unresolved hv hs ht] at h
    cases h
  | case4 stack node optional ref hv hs t ht ih =>
    rw [compileOn_of_target hv hs ht] at h
    obtain ⟨refs, m, r, hp, hm, hr, rfl, hd⟩ := ih h
    refine ⟨ref :: refs, m, r, .target hv ht hp, hm, by simpa using hr, by simp, fun hstack => ?_⟩
    rw [List.append_cons]
    exact hd (List.concat_eq_append ▸ hstack.concat hs)
  | case5 stack node optional kind hv =>
    rw [compileOn_of_plain hv] at h
    cases h
  | case6 stack node optional items hv ih =>
    rw [compileOn_of_array hv, Outcome.bind_result_eq_error] at h
    rcases h with h | ⟨_, _, h⟩
    · obtain ⟨refs, m, r, hp, hrest⟩ := ih h
      exact ⟨refs, m, r, .items hv hp, hrest⟩
    · cases h
  | case7 stack node optional required ps hv ih =>
    rw [compileOn_of_object hv, Outcome.bind_result_eq_error] at h
    rcases h with h | ⟨fields, _, h⟩
    · obtain ⟨e, he, refs, m, r, hp, hrest⟩ := ih h
      exact ⟨refs, m, r, .property hv he hp, hrest⟩
    · rcases Outcome.bind_result_eq_error.1 h with h | ⟨_, _, h⟩
      · -- without names for the fields the failure is another one
        unfold properties at h
        split at h <;> cases h
      · cases h
  | case8 stack node optional required other ho hv =>
    rw [compileOn_of_noMap hv ho] at h
    rcases propertiesFault_cases other with hfault | hfault
    · rw [hfault] at h
      cases h
    · rw [hfault] at h
      cases h
  | case9 stack required h =>
    rw [compileEntries_nil] at h
    cases h
  | case10 stack required key node rest ih ihs h =>
    rw [compileEntries_cons] at h
    rcases Outcome.bind_result_eq_error.1 h with h | ⟨listed, _, h⟩
    · cases hk : required.holds key <;> rw [hk] at h <;> cases h
    rcases Outcome.bind_result_eq_error.1 h with h | ⟨_, _, h⟩
    · exact ⟨_, List.mem_cons_self, ih listed h⟩
    rcases Outcome.bind_result_eq_error.1 h with h | ⟨_, _, h⟩
    · obtain ⟨e, he, hrest⟩ := ihs h
      exact ⟨e, List.mem_cons_of_mem _ he, hrest⟩
    · cases h

/-- Compilation that reports a cycle meets a reference under itself. -/
theorem not_clean_of_cycle {chain : List String}
    (h : (compileOn schemas stack node optional).result = .error (.schemaCycle chain)) :
    ¬ Clean schemas stack node := by
  obtain ⟨refs, m, ref, hp, hm, hr, _⟩ := cycle_of_compileOn h
  exact fun hc => hc refs m ref hp hm hr

/-- A schema with regular objects and a clean expansion is compiled. -/
theorem exists_ok_of_regular (hr : ∀ m, Met schemas node m → Regular m)
    (hc : Clean schemas stack node) :
    ∃ w, (compileOn schemas stack node optional).result = .ok w := by
  cases h : (compileOn schemas stack node optional).result with
  | ok w => exact ⟨w, rfl⟩
  | error f =>
    obtain ⟨chain, rfl⟩ := compileOn_error_of_regular hr h
    exact absurd hc (not_clean_of_cycle h)

/-- A schema with regular objects and an expansion that is not clean is reported as a cycle. -/
theorem exists_cycle_of_regular (hr : ∀ m, Met schemas node m → Regular m)
    (hc : ¬ Clean schemas stack node) :
    ∃ chain, (compileOn schemas stack node optional).result = .error (.schemaCycle chain) := by
  cases h : (compileOn schemas stack node optional).result with
  | ok w => exact absurd (compileOn_eq_ok_iff.1 h).2 hc
  | error f =>
    obtain ⟨chain, rfl⟩ := compileOn_error_of_regular hr h
    exact ⟨chain, rfl⟩

/-- **Compilation ends for every table, and reports exactly the cycles.**  From some depth on its
calls for parts are not made any more, whatever the stack.  If the objects that are met are regular,
then a cycle is reported if and only if some path follows one reference twice, and else the schema is
compiled; so references that are used again, but not under themselves, are no cycle. -/
theorem compile_ends_and_finds_cycles (schemas : Schemas) (node : Value) (optional : Bool) :
    (∀ stack rest d, depthBound schemas stack node < d →
      (layer schemas)^[d] rest stack node optional = compileOn schemas stack node optional) ∧
    ((∀ m, Met schemas node m → Regular m) →
      ((∃ chain, (compile schemas node optional).result = .error (.schemaCycle chain)) ↔
        ∃ refs m, Path schemas node refs m ∧ ¬ refs.Nodup) ∧
      ((∃ w, (compile schemas node optional).result = .ok w) ↔
        ∀ refs m, Path schemas node refs m → refs.Nodup)) := by
  refine ⟨fun stack rest d => iterate_layer rest, fun hr => ⟨⟨?_, ?_⟩, ⟨?_, ?_⟩⟩⟩
  · rintro ⟨chain, h⟩
    have hn := not_clean_of_cycle h
    rw [clean_nil_iff] at hn
    push Not at hn
    exact hn
  · rintro ⟨refs, m, hp, hd⟩
    exact exists_cycle_of_regular hr fun hc => hd (clean_nil_iff.1 hc refs m hp)
  · rintro ⟨w, h⟩
    exact clean_nil_iff.1 (compileOn_eq_ok_iff.1 h).2
  · exact fun h => exists_ok_of_regular hr (clean_nil_iff.2 h)

/-- A schema that has itself as a property, by its name in the table. -/
def personSchema : Value :=
  .map [(.text "type", .text "object"), (.text "properties", .map
    [(.text "name", .map [(.text "type", .text "string")]),
      (.text "parent", .map [(.text "$ref", .text "Person")])])]

/-- The hypothesis is met by a table that is cyclic, and the cycle is reported. -/
theorem person_cycle :
    (∀ m, Met [("Person", personSchema)] personSchema m → Regular m) ∧
      ∃ chain, (compile [("Person", personSchema)] personSchema true).result
        = .error (.schemaCycle chain) := by
  have hperson : view personSchema = .object (.list []) (.map
      [(.text "name", .map [(.text "type", .text "string")]),
        (.text "parent", .map [(.text "$ref", .text "Person")])]) := rfl
  have hname : view (.map [(.text "type", .text "string")]) = .plain .string := rfl
  have hparent : view (.map [(.text "$ref", .text "Person")]) = .reference "Person" := rfl
  have hr : ∀ m, Met [("Person", personSchema)] personSchema m → Regular m := by
    intro m hm
    have hS := hm.of_parts (S := fun n => n = personSchema ∨
      n = .map [(.text "type", .text "string")] ∨ n = .map [(.text "$ref", .text "Person")])
      ?_ (Or.inl rfl)
    · rcases hS with rfl | rfl | rfl
      · intro required properties hv
        cases hperson.symm.trans hv
        exact ⟨⟨_, rfl⟩, [("name", _), ("parent", _)], by simp [Table.names], rfl⟩
      · intro required properties hv
        cases hname.symm.trans hv
      · intro required properties hv
        cases hparent.symm.trans hv
    · rintro n (rfl | rfl | rfl) t ht
      · rcases List.mem_pair.1 ht with rfl | rfl
        · exact Or.inr (Or.inl rfl)
        · exact Or.inr (Or.inr rfl)
      · cases ht
      · exact Or.inl (List.mem_singleton.1 ht)
  refine ⟨hr, ((compile_ends_and_finds_cycles _ _ _).2 hr).1.2
    ⟨["Person", "Person"], personSchema, ?_, by decide⟩⟩
  have hloop : Path [("Person", personSchema)] personSchema ["Person"] personSchema :=
    .property hperson (List.mem_cons_of_mem _ List.mem_cons_self) (.target hparent rfl .here)
  exact hloop.trans hloop

end Schema
end ToolGateway
