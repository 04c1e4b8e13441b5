/-
# What compilation looks up

Of the table of schemas compilation reads what the references stand for that its expansion meets, and
nothing else.  So a schema is compiled to the same outcome with every table that answers for these
references alike, whatever else the table holds (`compileOn_congr`).

`LooksUp` says it by names: two references may be looked up under one name, since the path in front
of it does not count.
-/

import ToolGateway.Proofs.Effect.Alike
import ToolGateway.Proofs.Schema.Compiled

namespace ToolGateway
namespace Schema

/-- A reference that the expansion of the schema meets is looked up under this name. -/
def LooksUp (schemas : Schemas) (node : Value) (name : String) : Prop :=
  ∃ m ref, Met schemas node m ∧ view m = .reference ref ∧ refName ref = name

variable {schemas schemas' : Schemas} {stack : List String} {node : Value} {optional : Bool}

/-- What a reference stands for depends on the schema under its name. -/
theorem target?_congr {ref : String}
    (h : schemas'.get? (refName ref) = schemas.get? (refName ref)) :
    target? schemas' ref = target? schemas ref := by
  unfold target?
  rw [h]

theorem looksUp_of_reference {ref : String} (hv : view node = .reference ref) :
    LooksUp schemas node (refName ref) := ⟨node, ref, .refl, hv, rfl⟩

theorem LooksUp.target {target : Value} {ref name : String} (hv : view node = .reference ref)
    (ht : target? schemas ref = some target) :
    LooksUp schemas target name → LooksUp schemas node name
  | ⟨m, r, hm, hr⟩ => ⟨m, r, hm.target hv ht, hr⟩

theorem LooksUp.items {items : Value} {name : String} (hv : view node = .array items) :
    LooksUp schemas items name → LooksUp schemas node name
  | ⟨m, r, hm, hr⟩ => ⟨m, r, hm.items hv, hr⟩

theorem LooksUp.property {required : Value} {ps : Entries} {e : Value × Value} {name : String}
    (hv : view node = .object required (.map ps)) (he : e ∈ ps) :
    LooksUp schemas e.2 name → LooksUp schemas node name
  | ⟨m, r, hm, hr⟩ => ⟨m, r, hm.property hv he, hr⟩

/-- **Only what is met is looked up.**  Tables that hold the same under the names that are looked up
compile a schema to the same outcome. -/
theorem compileOn_congr
    (h : ∀ name, LooksUp schemas node name → schemas'.get? name = schemas.get? name) :
    compileOn schemas' stack node optional = compileOn schemas stack node optional := by
  -- along the calls with the first table; the second one makes the same calls
  induction stack, node, optional using compileOn.induct schemas _
    (fun stack required ps =>
      (∀ e ∈ ps, ∀ name, LooksUp schemas e.2 name → schemas'.get? name = schemas.get? name) →
      compileEntries schemas' stack required ps = compileEntries schemas stack required ps) with
  | case1 stack node optional hv => rw [compileOn_of_notSchema hv, compileOn_of_notSchema hv]
  | case2 stack node optional ref hv hs => rw [compileOn_of_mem hv hs, compileOn_of_mem hv hs]
  | case3 stack node optional ref hv hs ht =>
    have ht' := (target?_congr (h _ (looksUp_of_reference hv))).trans ht
    rw [compileOn_of_unresolved hv hs ht, compileOn_of_unresolved hv hs ht']
  | case4 stack node optional ref hv hs t ht ih =>
    have ht' := (target?_congr (h _ (looksUp_of_reference hv))).trans ht
    rw [compileOn_of_target hv hs ht, compileOn_of_target hv hs ht',
      ih fun name hn => h name (hn.target hv ht)]
  | case5 stack node optional kind hv => rw [compileOn_of_plain hv, compileOn_of_plain hv]
  | case6 stack node optional items hv ih =>
    rw [compileOn_of_array hv, compileOn_of_array hv, ih fun name hn => h name (hn.items hv)]
  | case7 stack node optional required ps hv ih =>
    rw [compileOn_of_object hv, compileOn_of_object hv,
      ih fun e he name hn => h name (hn.property hv he)]
  | case8 stack node optional required other ho hv =>
    rw [compileOn_of_noMap hv ho, compileOn_of_noMap hv ho]
  | case9 stack required _ => rw [compileEntries_nil, compileEntries_nil]
  | case10 stack required key node rest ih ihs h =>
    obtain ⟨hnode, hrest⟩ := List.forall_mem_cons.1 h
    rw [compileEntries_cons, compileEntries_cons, ihs hrest]
    simp only [ih _ hnode]

/-- Fields are compiled to the same outcome by tables that hold the same under the names that one of
them looks up. -/
theorem compileFields_congr {fields : Value}
    (h : ∀ es, fields = .map es → ∀ e ∈ es, ∀ name, LooksUp schemas e.2 name →
      schemas'.get? name = schemas.get? name) :
    compileFields schemas' fields = compileFields schemas fields := by
  unfold compileFields stepFields
  cases fields with
  | map es =>
    refine Outcome.mapM_congr fun e he => ?_
    unfold compile
    rw [compileOn_congr (h es rfl e he)]
  | _ => rfl

end Schema
end ToolGateway
