/-
# Assembling logs no errors

What is left out or passed over when tools are compiled, merged and filtered is logged as a remark
or as a warning, and what goes wrong is a failure.  So an error in the log is none of the assembly
(`calm_assemble`), nor of the reading of the allow-list (`calm_ofSetting`).
-/

import ToolGateway.Proofs.Tool.Origin
import ToolGateway.Toolset.Assemble

namespace ToolGateway

/-- The entry tells of no error. -/
def LogEntry.Calm (e : LogEntry) : Prop := e.level ≠ .error

open Outcome (Logs)
open LogEntry (Calm)

theorem calm_note {level : LogLevel} (h : level ≠ .error) (text : String) :
    Logs Calm (Outcome.note level text) := .single h _

/-! ### Schemas -/

namespace Schema

variable {schemas : Schemas}

theorem calm_properties (model field : String) (fields : List (Value × Validator)) :
    Logs Calm (properties model field fields) := by
  unfold properties
  split
  · exact .silent _ _
  · exact .silent _ _

theorem calm_compileOn (stack : List String) (node : Value) (optional : Bool) :
    Logs Calm (compileOn schemas stack node optional) := by
  induction stack, node, optional using compileOn.induct schemas _
    (fun stack required ps => Logs Calm (compileEntries schemas stack required ps)) with
  | case1 stack node optional hv =>
    rw [compileOn_of_notSchema hv]
    exact .silent _ _
  | case2 stack node optional ref hv hs =>
    rw [compileOn_of_mem hv hs]
    exact .silent _ _
  | case3 stack node optional ref hv hs ht =>
    rw [compileOn_of_unresolved hv hs ht]
    exact (calm_note (by decide) _).bind fun _ _ => .silent _ _
  | case4 stack node optional ref hv hs target ht ih =>
    rw [compileOn_of_target hv hs ht]
    exact ih
  | case5 stack node optional kind hv =>
    rw [compileOn_of_plain hv]
    exact .silent _ _
  | case6 stack node optional items hv ih =>
    rw [compileOn_of_array hv]
    exact ih.bind fun _ _ => .silent _ _
  | case7 stack node optional required ps hv ih =>
    rw [compileOn_of_object hv]
    exact ih.bind fun _ _ => (calm_properties _ _ _).bind fun _ _ => .silent _ _
  | case8 stack node optional required other ho hv =>
    rw [compileOn_of_noMap hv ho]
    exact .silent _ _
  | case9 stack required =>
    rw [compileEntries_nil]
    exact .silent _ _
  | case10 stack required key node rest ih ihs =>
    rw [compileEntries_cons]
    exact (Logs.silent _ _).bind fun listed _ => (ih listed).bind fun _ _ =>
      ihs.bind fun _ _ => .silent _ _

theorem calm_compileFields (fields : Value) : Logs Calm (compileFields schemas fields) := by
  unfold compileFields stepFields
  dsimp only
  split
  · exact .mapM fun e _ => (calm_compileOn [] e.2 true).bind fun _ _ => .silent _ _
  · split
    · exact .silent _ _
    · exact .silent _ _

theorem calm_resolve (node : Value) : Logs Calm (resolve schemas node) := by
  unfold resolve
  split
  · exact .silent _ _
  · split
    · exact .silent _ _
    · unfold lookUp
      split
      · exact .silent _ _
      · exact (calm_note (by decide) _).bind fun _ _ => .silent _ _

end Schema

/-! ### Tools -/

namespace Tool

variable {schemas : Schema.Schemas} {target : Target} {path : String}

theorem calm_bodyProperties (m : Http.Method) (o : Operation) :
    Logs Calm (bodyProperties schemas m o) := by
  unfold bodyProperties
  dsimp only
  split
  · exact (Schema.calm_resolve _).bind fun _ _ => .silent _ _
  · exact .silent _ _

theorem calm_compileParameters (ps : List Parameter) :
    Logs Calm (compileParameters schemas ps) := by
  unfold compileParameters
  refine Logs.bind (.mapM fun p _ => ?_) fun _ _ => .silent _ _
  exact (Schema.calm_compileOn [] _ true).bind fun _ _ => .silent _ _

theorem calm_ofOperation (m : Http.Method) (o : Operation) :
    Logs Calm (ofOperation schemas target path m o) := by
  rw [ofOperation_eq]
  split
  · exact .silent _ _
  · unfold ofNamedOperation
    refine (calm_bodyProperties m o).bind fun _ _ => ?_
    refine (calm_compileParameters _).bind fun _ _ => ?_
    refine (Schema.calm_compileFields _).bind fun _ _ => ?_
    refine (Logs.silent _ _).bind fun _ _ => ?_
    exact (Schema.calm_properties _ _ _).bind fun _ _ => .silent _ _

theorem calm_ofPath (item : PathItem) : Logs Calm (ofPath schemas target path item) := by
  unfold ofPath
  split
  · exact (calm_note (by decide) _).bind fun _ _ => .silent _ _
  · rename_i m o _
    dsimp only
    rw [map_eq_pure_bind]
    have hsome := (@calm_ofOperation schemas target path m o).bind (f := fun t => pure (some t))
      fun _ _ => .silent _ _
    split
    · exact (calm_note (by decide) _).bind fun _ _ => hsome
    · exact hsome

theorem calm_ofDocument (d : Document) (target : Target) : Logs Calm (ofDocument d target) := by
  unfold ofDocument
  exact Logs.bind (.mapM fun p _ => calm_ofPath p.2) fun _ _ => .silent _ _

end Tool

/-! ### Sets of tools -/

theorem Policy.calm_resolve (p : Policy) (tools : List Tool) : Logs Calm (p.resolve tools) := by
  unfold resolve
  dsimp only
  split
  · exact .silent _ _
  · cases p with
    | error => exact .silent _ _
    | first => exact .single LogLevel.noConfusion _
    | keep => exact .single LogLevel.noConfusion _

namespace AllowList

theorem calm_filter (a : AllowList) (tools : List Tool) : Logs Calm (a.filter tools) := by
  intro e he
  have hlog : e ∈ a.filterLog tools := he
  have hlevel : e.level = .info := by
    unfold filterLog at hlog
    dsimp only at hlog
    split at hlog
    · rcases List.mem_cons.1 hlog with rfl | hlog
      · rfl
      · split at hlog
        · cases hlog
        · exact List.mem_singleton.1 hlog ▸ rfl
    · exact List.mem_singleton.1 hlog ▸ rfl
  unfold Calm
  rw [hlevel]
  decide

theorem calm_ofSetting (files : Files) (v : Value) : Logs Calm (ofSetting files v) := by
  unfold ofSetting
  split
  · unfold ofFile
    refine (Logs.silent _ _).bind fun found _ => ?_
    cases found with
    | some s => exact .silent _ _
    | none => exact (calm_note (by decide) _).bind fun _ _ => .silent _ _
  · exact .silent _ _

end AllowList

/-- **Assembling logs no errors.** -/
theorem Toolset.calm_assemble (config : Config) (policy : Policy) (sources : List Source)
    (allowed : AllowList) : Logs Calm (assemble config policy sources allowed) := by
  unfold assemble
  refine Logs.bind (.mapM fun s _ => ?_) fun _ _ => ?_
  · unfold compileSource
    exact (Tool.calm_ofDocument _ _).bind fun _ _ =>
      (calm_note (by decide) _).bind fun _ _ => .silent _ _
  · exact (policy.calm_resolve _).bind fun _ _ => allowed.calm_filter _

end ToolGateway
