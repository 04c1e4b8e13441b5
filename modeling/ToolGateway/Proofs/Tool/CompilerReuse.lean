/-
# Compilers that are used again

A compiler is called many times: for each parameter of a tool, and for the fields of each body.
Some of the calls fail, from any depth.  By the frame of its stack (`does_sharedCompile`) none of
them leaves anything behind.  Here it is shown that what does stand on the stack has no influence
either: it can turn the outcome of a call into the report of a cycle, and nothing else
(`compileOn_agrees_of_subset`).  So a session of calls, whatever they end in, is answered call by
call as by compilers that are made for one call each (`stack_is_framed_and_inert`).
-/

import ToolGateway.Proofs.Tool.PathByPath

namespace ToolGateway
namespace Schema

variable {α β : Type}

/-! ### The same unless a cycle is reported -/

/-- The outcome is the report of a cycle. -/
def ReportsCycle (x : Outcome α) : Prop := ∃ chain, x.result = .error (.schemaCycle chain)

/-- The first outcome is the second, unless it is the report of a cycle. -/
def Agrees (x y : Outcome α) : Prop := ReportsCycle x ∨ x = y

namespace Agrees

theorem refl (x : Outcome α) : Agrees x x := Or.inr rfl

/-- Ending alike unless a cycle is reported is a lifting. -/
def lifting : Lifting Outcome Outcome where
  rel R x y := ReportsCycle x ∨ Outcome.Alike R x y
  pure h := Or.inr (.pure h)
  bind {_ _ _ _ _ _ x y _ _} hxy hfg := by
    rcases hxy with ⟨chain, h⟩ | h
    · exact Or.inl ⟨chain, Outcome.bind_result_eq_error.2 (Or.inl h)⟩
    obtain ⟨log, r⟩ := x
    obtain ⟨log', r'⟩ := y
    obtain ⟨rfl, hr⟩ := h
    cases hr with
    | error e => exact Or.inr ⟨rfl, .error e⟩
    | ok hab =>
      rcases hfg _ _ hab with ⟨chain, h⟩ | h
      · exact Or.inl ⟨chain, h⟩
      · exact Or.inr ⟨congrArg (log ++ ·) h.log, h.ends⟩

theorem iff_rel {x y : Outcome α} : Agrees x y ↔ lifting.rel Eq x y := by
  refine or_congr Iff.rfl ⟨?_, Outcome.Alike.eq⟩
  rintro rfl
  exact .refl (fun _ => rfl) x

theorem bind {x y : Outcome α} {f g : α → Outcome β} (h : Agrees x y)
    (hfg : ∀ a, Agrees (f a) (g a)) : Agrees (x >>= f) (y >>= g) :=
  iff_rel.2 (lifting.bind_congr (iff_rel.1 h) fun a => iff_rel.1 (hfg a))

theorem mapM {xs : List α} {f g : α → Outcome β} (h : ∀ x ∈ xs, Agrees (f x) (g x)) :
    Agrees (xs.mapM f) (xs.mapM g) :=
  iff_rel.2 (lifting.mapM_eq fun x hx => iff_rel.1 (h x hx))

end Agrees

/-! ### What stands on the stack -/

variable {schemas : Schemas} {stack stack' : List String} {node : Value} {optional : Bool}

/-- **What stands on the stack can only be found again.**  With fewer references on the stack the
outcome is the same, unless a cycle is reported with more of them. -/
theorem compileOn_agrees_of_subset (hs : stack' ⊆ stack) :
    Agrees (compileOn schemas stack node optional) (compileOn schemas stack' node optional) := by
  -- along the calls with the larger stack; the smaller one grows by the same references
  induction stack, node, optional using compileOn.induct schemas _
    (fun stack required ps => ∀ stack', stack' ⊆ stack →
      Agrees (compileEntries schemas stack required ps)
        (compileEntries schemas stack' required ps))
    generalizing stack' with
  | case1 stack node optional hv =>
    rw [compileOn_of_notSchema hv, compileOn_of_notSchema hv]
    exact .refl _
  | case2 stack node optional ref hv hm =>
    rw [compileOn_of_mem hv hm]
    exact Or.inl ⟨_, rfl⟩
  | case3 stack node optional ref hv hm ht =>
    rw [compileOn_of_unresolved hv hm ht, compileOn_of_unresolved hv (fun h => hm (hs h)) ht]
    exact .refl _
  | case4 stack node optional ref hv hm t ht ih =>
    rw [compileOn_of_target hv hm ht, compileOn_of_target hv (fun h => hm (hs h)) ht]
    exact ih fun r hr => List.mem_append.2 ((List.mem_append.1 hr).imp_left fun h => hs h)
  | case5 stack node optional kind hv =>
    rw [compileOn_of_plain hv, compileOn_of_plain hv]
    exact .refl _
  | case6 stack node optional items hv ih =>
    rw [compileOn_of_array hv, compileOn_of_array hv]
    exact (ih hs).bind fun _ => .refl _
  | case7 stack node optional required ps hv ih =>
    rw [compileOn_of_object hv, compileOn_of_object hv]
    exact (ih _ hs).bind fun _ => .refl _
  | case8 stack node optional required other ho hv =>
    rw [compileOn_of_noMap hv ho, compileOn_of_noMap hv ho]
    exact .refl _
  | case9 stack required stack' _ =>
    rw [compileEntries_nil, compileEntries_nil]
    exact .refl _
  | case10 stack required key node rest ih ihs stack' hs =>
    rw [compileEntries_cons, compileEntries_cons]
    exact (Agrees.refl _).bind fun listed => (ih listed hs).bind fun _ =>
      (ihs _ hs).bind fun _ => .refl _

/-! ### Calls and sessions -/

/-- A call of a compiler: for one schema, or for the fields of a body, each of them optional. -/
inductive Call where
  | schema (node : Value) (optional : Bool)
  | fields (properties : Value)

namespace Call

/-- What a call is answered with. -/
abbrev Answer := Validator ⊕ List (Value × Validator)

/-- The call of a compiler that has one stack for all its calls. -/
noncomputable def shared (schemas : Schemas) : Call → Compiling Answer
  | schema node optional => do
    let w ← sharedCompile schemas node optional
    return .inl w
  | fields properties => do
    let fields ← Tool.sharedFields schemas properties
    return .inr fields

/-- The call of a compiler that is made for it. -/
def fresh (schemas : Schemas) : Call → Outcome Answer
  | schema node optional => do
    let w ← compile schemas node optional
    return .inl w
  | fields properties => do
    let fields ← compileFields schemas properties
    return .inr fields

end Call

/-- Calls of one compiler one after the other.  Each finds the stack that the one before it leaves,
however that one ended. -/
noncomputable def session (schemas : Schemas) :
    List Call → List String → List (Outcome Call.Answer) × List String
  | [], stack => ([], stack)
  | call :: rest, stack =>
    let (outcome, left) := (call.shared schemas).run stack
    let (outcomes, left) := session schemas rest left
    (outcome :: outcomes, left)

open Compiling

/-- A call leaves the stack as it was.  It is answered as by a compiler made for it, unless a cycle
is reported. -/
theorem exists_does_call (schemas : Schemas) (stack : List String) (call : Call) :
    ∃ outcome, Does (call.shared schemas) stack outcome ∧
      Agrees outcome (call.fresh schemas) ∧ (stack = [] → outcome = call.fresh schemas) := by
  have hagrees : ∀ node o, Agrees (compileOn schemas stack node o) (compile schemas node o) :=
    fun node o => compileOn_agrees_of_subset (List.nil_subset stack)
  cases call with
  | schema node optional =>
    refine ⟨_, (does_sharedCompile schemas stack node optional).bind fun _ => .pure _,
      (hagrees node optional).bind fun _ => .refl _, ?_⟩
    rintro rfl
    rfl
  | fields properties =>
    cases properties with
    | map es =>
      have hfields : Does (Tool.sharedFields schemas (.map es)) stack (es.mapM fun e => do
          let w ← compileOn schemas stack e.2 true
          return (e.1, w)) :=
        .mapM fun e _ => (does_sharedCompile schemas stack e.2 true).bind fun _ => .pure _
      refine ⟨_, hfields.bind fun _ => .pure _, ?_, ?_⟩
      · exact (Agrees.mapM fun e _ => (hagrees e.2 true).bind fun _ => .refl _).bind
          fun _ => .refl _
      · rintro rfl
        rfl
    | _ => exact ⟨_, (Does.of _).bind fun _ => .pure _, .refl _, fun _ => rfl⟩

/-- A session leaves the stack as it was, and each of its calls is answered as by a compiler made
for it, unless a cycle is reported. -/
theorem exists_session (schemas : Schemas) (stack : List String) (calls : List Call) :
    ∃ outcomes, session schemas calls stack = (outcomes, stack) ∧
      List.Forall₂ (fun call outcome => Agrees outcome (call.fresh schemas)) calls outcomes ∧
      (stack = [] → outcomes = calls.map (Call.fresh schemas)) := by
  induction calls with
  | nil => exact ⟨[], rfl, .nil, fun _ => rfl⟩
  | cons call rest ih =>
    obtain ⟨outcome, hdoes, hagrees, hfresh⟩ := exists_does_call schemas stack call
    obtain ⟨outcomes, hsession, hall, hempty⟩ := ih
    refine ⟨outcome :: outcomes, ?_, .cons hagrees hall, fun hs => ?_⟩
    · unfold session
      rw [hdoes]
      dsimp only
      rw [hsession]
    · rw [hfresh hs, hempty hs, List.map_cons]

/-- **The stack is framed and does not influence results.**  There is one compiler that calls itself
for the parts of a schema, and from every stack it does what the compilation does that is told this
stack, and leaves the stack as it was, however it ends.  If no cycle is reported, the outcome is
that of the empty stack.  So a compiler that is used for any calls one after the other, failed ones
among them, leaves the stack that it was found with, and answers as compilers do that are made for
one call each: always if the stack was empty, and otherwise unless it reports a cycle. -/
theorem stack_is_framed_and_inert (schemas : Schemas) :
    (∀ compiler, compiler = round schemas compiler ↔ compiler = sharedCompile schemas) ∧
    (∀ stack node optional, ∃ outcome,
      (sharedCompile schemas node optional).run stack = (outcome, stack) ∧
        outcome = compileOn schemas stack node optional ∧
        ((∀ chain, outcome.result ≠ .error (.schemaCycle chain)) →
          outcome = ((sharedCompile schemas node optional).run []).1)) ∧
    (∀ stack calls, ∃ outcomes,
      session schemas calls stack = (outcomes, stack) ∧
        List.Forall₂ (fun call outcome => ReportsCycle outcome ∨ outcome = call.fresh schemas)
          calls outcomes) ∧
    ∀ calls, session schemas calls [] = (calls.map (Call.fresh schemas), []) := by
  refine ⟨fun compiler => ⟨eq_sharedCompile, ?_⟩, fun stack node optional => ?_,
    fun stack calls => ?_, fun calls => ?_⟩
  · rintro rfl
    exact sharedCompile_eq_round schemas
  · refine ⟨_, does_sharedCompile schemas stack node optional, rfl, fun hn => ?_⟩
    rw [does_sharedCompile schemas [] node optional]
    rcases compileOn_agrees_of_subset (List.nil_subset stack) with ⟨chain, h⟩ | h
    · exact absurd h (hn chain)
    · exact h
  · obtain ⟨outcomes, hsession, hall, _⟩ := exists_session schemas stack calls
    exact ⟨outcomes, hsession, hall⟩
  · obtain ⟨outcomes, hsession, _, hempty⟩ := exists_session schemas [] calls
    rw [hsession, hempty rfl]

end Schema
end ToolGateway
