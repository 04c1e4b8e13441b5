/-
# One stack for all compilations

A compiler keeps the references that it is expanding on a stack of its own, which is there as long as
the compiler is.  A reference is put on it before its target is compiled and taken off afterwards,
also after a failure, which may come from any depth.  `compileOn` is told its stack, and so says
nothing about what is left on it; here the stack is a part of what is done.

`Compiling.round` is one round of the compilation as it goes with such a stack, with the calls for
the parts left open, and `sharedCompile` is what rounds of it give: the one compiler that calls itself
for the parts (`sharedCompile_eq_round`, `eq_sharedCompile`).  Whatever it finds on the stack, it does
what `compileOn` does that is told this stack, and leaves it as it was (`does_sharedCompile`).
-/

import ToolGateway.Proofs.Schema.Cycle

namespace ToolGateway
namespace Schema

/-- What a compiler with a stack of its own does: it finds a stack and leaves one, whether it ends
well or not. -/
def Compiling (α : Type) := List String → Outcome α × List String

namespace Compiling

variable {α β : Type}

/-- What is done from a stack, and the stack that is left. -/
def run (x : Compiling α) (stack : List String) : Outcome α × List String := x stack

/-- One after the other: the second finds the stack that the first leaves.  A failure ends the chain
and leaves the stack as it is then. -/
def bind (x : Compiling α) (f : α → Compiling β) : Compiling β := fun stack =>
  let (y, left) := x.run stack
  match y.result with
  | .ok a =>
    let (z, left) := (f a).run left
    (⟨y.log ++ z.log, z.result⟩, left)
  | .error e => (⟨y.log, .error e⟩, left)

instance : Monad Compiling where
  pure a := fun stack => (pure a, stack)
  bind := bind

/-- What does not look at the stack. -/
def of (x : Outcome α) : Compiling α := fun stack => (x, stack)

/-- The references that are being expanded. -/
def expanded : Compiling (List String) := fun stack => (pure stack, stack)

/-- Goes on with one more reference on the stack, and takes the last one off in the end, also after a
failure. -/
def expanding (ref : String) (x : Compiling α) : Compiling α := fun stack =>
  let (y, left) := x.run (stack ++ [ref])
  (y, left.dropLast)

variable {stack left : List String} {x : Compiling α} {log : List LogEntry}

theorem bind_of_ok {a : α} (h : x.run stack = (⟨log, .ok a⟩, left)) (f : α → Compiling β) :
    bind x f stack = (⟨log ++ ((f a).run left).1.log, ((f a).run left).1.result⟩,
      ((f a).run left).2) := by
  unfold bind
  rw [h]

theorem bind_of_error {e : Failure} (h : x.run stack = (⟨log, .error e⟩, left))
    (f : α → Compiling β) : bind x f stack = (⟨log, .error e⟩, left) := by
  unfold bind
  rw [h]

instance : LawfulMonad Compiling := LawfulMonad.mk' Compiling
  (by
    intro α x
    funext stack
    show bind x (fun a => pure a) stack = x.run stack
    rcases h : x.run stack with ⟨⟨log, r⟩, left⟩
    cases r with
    | error e => exact bind_of_error h _
    | ok a =>
      rw [bind_of_ok h]
      show ((⟨log ++ [], .ok a⟩, left) : Outcome α × List String) = _
      rw [List.append_nil])
  (by
    intro α β a f
    rfl)
  (by
    intro α β γ x f g
    funext stack
    show bind (bind x f) g stack = bind x (fun a => bind (f a) g) stack
    rcases h : x.run stack with ⟨⟨log, r⟩, left⟩
    cases r with
    | error e =>
      rw [bind_of_error h]
      exact bind_of_error (x := bind x f) (bind_of_error h f) g
    | ok a =>
      rw [bind_of_ok h]
      rcases h' : (f a).run left with ⟨⟨log', r'⟩, left'⟩
      have hf : (bind x f).run stack = (⟨log ++ log', r'⟩, left') := by
        refine (bind_of_ok h f).trans ?_
        rw [h']
      cases r' with
      | error e =>
        have hg : (bind (f a) g).run left = (⟨log', .error e⟩, left') := bind_of_error h' g
        rw [bind_of_error hf, hg]
      | ok b =>
        have hg : (bind (f a) g).run left = _ := bind_of_ok h' g
        rw [bind_of_ok hf, hg, List.append_assoc])

/-! ### What leaves the stack as it was -/

/-- From the stack this is done, and the stack is left as it was found. -/
def Does (x : Compiling α) (stack : List String) (y : Outcome α) : Prop := x.run stack = (y, stack)

theorem Does.of (x : Outcome α) : Does (.of x) stack x := rfl

theorem Does.pure (a : α) : Does (Pure.pure a) stack (Pure.pure a) := rfl

/-- Leaving the stack as it was, and ending alike, is a lifting. -/
def lifting (stack : List String) : Lifting Compiling Outcome where
  rel R x y := Outcome.Alike R (x.run stack).1 y ∧ (x.run stack).2 = stack
  pure h := ⟨.pure h, rfl⟩
  bind := by
    rintro α β γ δ R S x y f g ⟨⟨hlog, hends⟩, hleft⟩ hfg
    rcases hx : x.run stack with ⟨⟨log, r⟩, left⟩
    obtain ⟨log', r'⟩ := y
    rw [hx] at hlog hends hleft
    obtain rfl : log = log' := hlog
    obtain rfl : left = stack := hleft
    show Outcome.Alike S (Compiling.bind x f left).1 _ ∧ (Compiling.bind x f left).2 = left
    cases hends with
    | error e =>
      rw [bind_of_error hx]
      exact ⟨⟨rfl, .error e⟩, rfl⟩
    | ok hab =>
      obtain ⟨hrest, hleft⟩ := hfg _ _ hab
      rw [bind_of_ok hx]
      exact ⟨⟨congrArg (log ++ ·) hrest.log, hrest.ends⟩, hleft⟩

theorem does_iff {x : Compiling α} {y : Outcome α} :
    Does x stack y ↔ (lifting stack).rel Eq x y := by
  unfold Does
  constructor
  · intro h
    show Outcome.Alike Eq (x.run stack).1 y ∧ (x.run stack).2 = stack
    rw [h]
    exact ⟨.refl (fun _ => rfl) y, rfl⟩
  · rintro ⟨halike, hleft⟩
    exact Prod.ext halike.eq hleft

theorem Does.bind {x : Compiling α} {y : Outcome α} {f : α → Compiling β} {g : α → Outcome β}
    (hx : Does x stack y) (hf : ∀ a, Does (f a) stack (g a)) :
    Does (x >>= f) stack (y >>= g) :=
  does_iff.2 ((lifting stack).bind_congr (does_iff.1 hx) fun a => does_iff.1 (hf a))

theorem Does.mapM {xs : List α} {f : α → Compiling β} {g : α → Outcome β}
    (h : ∀ x ∈ xs, Does (f x) stack (g x)) : Does (xs.mapM f) stack (xs.mapM g) :=
  does_iff.2 ((lifting stack).mapM_eq fun x hx => does_iff.1 (h x hx))

/-- A reference that was put on the stack is taken off again. -/
theorem Does.expanding {ref : String} {x : Compiling α} {y : Outcome α}
    (h : Does x (stack ++ [ref]) y) : Does (expanding ref x) stack y := by
  have hleft := congrArg (fun r : Outcome α × List String => (r.1, r.2.dropLast)) h
  rw [List.dropLast_concat] at hleft
  exact hleft

/-! ### Compiling schemas -/

/-- What becomes of a reference, if its target is left to `rest`. -/
def follow (schemas : Schemas) (rest : Value → Bool → Compiling Validator) (ref : String)
    (optional : Bool) : Compiling Validator := do
  let stack ← expanded
  if ref ∈ stack then of (.fail (.schemaCycle (stack ++ [ref])))
  else
    match ← of (lookUp schemas ref) with
    | none => return .any optional
    | some target => expanding ref (rest target optional)

/-- One round of the compilation: the parts of a schema are left to `rest`. -/
def round (schemas : Schemas) (rest : Value → Bool → Compiling Validator) :
    Value → Bool → Compiling Validator :=
  step of (follow schemas rest) rest

variable {schemas : Schemas} {node : Value} {optional : Bool}
  {rest : Value → Bool → Compiling Validator}

/-- A reference is followed as below the stack, if its target is compiled so. -/
theorem does_follow {ref : String}
    (hrest : ∀ target, target? schemas ref = some target → ref ∉ stack →
      Does (rest target optional) (stack ++ [ref])
        (compileOn schemas (stack ++ [ref]) target optional)) :
    Does (follow schemas rest ref optional) stack
      (expand schemas (compileOn schemas) stack ref optional) := by
  show Does (if ref ∈ stack then _ else _) stack (if ref ∈ stack then _ else _)
  split
  · exact .of _
  · rename_i hs
    unfold lookUp
    cases ht : target? schemas ref with
    | none => rfl
    | some target => exact .expanding (hrest target ht hs)

/-- A round leaves the stack as it was, if the calls for the parts do. -/
theorem does_round
    (hrest : ∀ stack' m o, depthBound schemas stack' m < depthBound schemas stack node →
      Does (rest m o) stack' (compileOn schemas stack' m o)) :
    Does (round schemas rest node optional) stack (compileOn schemas stack node optional) := by
  rw [compileOn_eq_layer, does_iff]
  refine rel_step (lifting stack) (fun x => does_iff.1 (.of x)) (fun ref _ => ?_)
    fun sub o hsize => ?_
  · refine does_iff.1 (does_follow fun target ht hs => ?_)
    exact hrest _ _ _ (depthBound_target_lt hs ht)
  · exact does_iff.1 (hrest _ _ _ (depthBound_lt hsize))

/-- Rounds beyond the bound do what the compilation does that is told the stack. -/
theorem does_iterate_round (rest : Value → Bool → Compiling Validator) {d : ℕ}
    (hd : depthBound schemas stack node < d) :
    Does ((round schemas)^[d] rest node optional) stack
      (compileOn schemas stack node optional) := by
  induction d generalizing stack node optional with
  | zero => omega
  | succ d ih =>
    rw [Function.iterate_succ_apply']
    exact does_round fun _ _ _ h => ih (by omega)

end Compiling

open Compiling

variable {schemas : Schemas} {stack : List String} {node : Value} {optional : Bool}

/-- The validator of a schema, by a compiler that has one stack for all that it compiles.  There are
as many rounds as are needed, so what the innermost one would be told does not matter. -/
noncomputable def sharedCompile (schemas : Schemas) (node : Value) (optional : Bool) :
    Compiling Validator := fun stack =>
  ((round schemas)^[depthBound schemas stack node + 1] (fun _ o => pure (.any o)) node
    optional).run stack

/-- **The stack is framed.**  Whatever the compiler finds on its stack, it does what the compilation
does that is told this stack, and leaves the stack as it was, also if the compilation fails. -/
theorem does_sharedCompile (schemas : Schemas) (stack : List String) (node : Value)
    (optional : Bool) :
    Does (sharedCompile schemas node optional) stack (compileOn schemas stack node optional) :=
  does_iterate_round _ (Nat.lt_succ_self _)

/-- The compiler calls itself for the parts of a schema. -/
theorem sharedCompile_eq_round (schemas : Schemas) :
    sharedCompile schemas = round schemas (sharedCompile schemas) := by
  funext node optional stack
  exact (does_sharedCompile schemas stack node optional).trans
    (does_round fun stack m o _ => does_sharedCompile schemas stack m o).symm

/-- No other compiler calls itself for the parts of a schema: the calls end, and so what it does is
what rounds give. -/
theorem eq_sharedCompile {compiler : Value → Bool → Compiling Validator}
    (h : compiler = round schemas compiler) : compiler = sharedCompile schemas := by
  funext node optional stack
  have hrounds : (round schemas)^[depthBound schemas stack node + 1] compiler = compiler :=
    Function.iterate_fixed h.symm _
  have hdoes : Does ((round schemas)^[depthBound schemas stack node + 1] compiler node optional) stack
      (compileOn schemas stack node optional) := does_iterate_round compiler (Nat.lt_succ_self _)
  rw [hrounds] at hdoes
  exact hdoes.trans (does_sharedCompile schemas stack node optional).symm

end Schema
end ToolGateway
