/-
# What a chain leaves behind

A chain ends in a value if its links do, and it logs and sends what they log and send, one after
the other (`bind_run_of_ok`, `attempt_bind_run`).  So a property of every log entry, or of every
request, holds of a chain if it holds of the links (`Logs.bind`, `Sends.bind`).
-/

import ToolGateway.Outcome

namespace ToolGateway

variable {α β ε : Type}

/-- A chain of values or failures ends in a value if both links do. -/
theorem exists_of_bind_eq_ok {x : Except ε α} {f : α → Except ε β} {b : β}
    (h : x >>= f = .ok b) : ∃ a, x = .ok a ∧ f a = .ok b := by
  cases x with
  | error e => cases h
  | ok a => exact ⟨a, rfl, h⟩

/-- A value stays the value when failures are told in another way. -/
theorem eq_ok_of_mapError {ε' : Type} {x : Except ε α} {f : ε → ε'} {a : α}
    (h : x.mapError f = .ok a) : x = .ok a := by
  cases x with
  | error e => cases h
  | ok b =>
    cases h
    rfl

/-- What a chain over a list gives is given by its members. -/
theorem exists_of_mem_mapM {f : α → Except ε β} {xs : List α} {ys : List β}
    (h : xs.mapM f = .ok ys) {y : β} (hy : y ∈ ys) : ∃ x ∈ xs, f x = .ok y := by
  induction xs generalizing ys with
  | nil =>
    rw [List.mapM_nil] at h
    cases h
    cases hy
  | cons x rest ih =>
    rw [List.mapM_cons] at h
    obtain ⟨z, hz, h⟩ := exists_of_bind_eq_ok h
    obtain ⟨zs, hzs, h⟩ := exists_of_bind_eq_ok h
    cases h
    rcases List.mem_cons.1 hy with rfl | hy
    · exact ⟨x, List.mem_cons_self, hz⟩
    · obtain ⟨x', hx', hf⟩ := ih hzs hy
      exact ⟨x', List.mem_cons_of_mem x hx', hf⟩

/-- What comes out as something is a value. -/
theorem eq_ok_of_toOption {x : Except ε α} {a : α} (h : x.toOption = some a) : x = .ok a := by
  cases x with
  | error e => cases h
  | ok b => exact congrArg Except.ok (Option.some.inj h)

/-- What comes out as nothing is a failure. -/
theorem exists_eq_error_of_toOption {x : Except ε α} (h : x.toOption = none) :
    ∃ e, x = .error e := by
  cases x with
  | error e => exact ⟨e, rfl⟩
  | ok a => cases h

namespace Outcome

/-- All that is logged has the property. -/
def Logs (P : LogEntry → Prop) (x : Outcome α) : Prop := ∀ e ∈ x.log, P e

variable {P : LogEntry → Prop}

theorem Logs.silent (P : LogEntry → Prop) (r : Except Failure α) : Logs P ⟨[], r⟩ :=
  fun _ h => absurd h List.not_mem_nil

theorem Logs.single {e : LogEntry} (h : P e) (r : Except Failure α) : Logs P ⟨[e], r⟩ :=
  fun _ he => List.mem_singleton.1 he ▸ h

theorem Logs.bind {x : Outcome α} {f : α → Outcome β} (hx : Logs P x)
    (hf : ∀ a, x.result = .ok a → Logs P (f a)) : Logs P (x >>= f) := by
  intro e he
  cases hr : x.result with
  | error f =>
    rw [bind_log_of_error hr] at he
    exact hx e he
  | ok a =>
    rw [bind_log_of_ok hr] at he
    exact (List.mem_append.1 he).elim (hx e) (hf a hr e)

theorem Logs.mapM {xs : List α} {f : α → Outcome β} (h : ∀ x ∈ xs, Logs P (f x)) :
    Logs P (xs.mapM f) := by
  induction xs with
  | nil => exact .silent P _
  | cons x rest ih =>
    rw [List.mapM_cons]
    rw [List.forall_mem_cons] at h
    exact h.1.bind fun _ _ => (ih h.2).bind fun _ _ => .silent P _

end Outcome

namespace Action

/-- After a value the chain goes on with the replies that are left. -/
theorem bind_run_of_ok {x : Action α} {f : α → Action β} {replies left : List Http.Reply}
    {log : List LogEntry} {requests : List Http.Request} {a : α}
    (h : x.run replies = ⟨log, requests, left, .ok a⟩) :
    (x >>= f).run replies =
      ⟨log ++ ((f a).run left).log, requests ++ ((f a).run left).requests,
        ((f a).run left).replies, ((f a).run left).result⟩ := by
  rw [bind_run]
  unfold Action.bind
  unfold run at h
  rw [h]
  rfl

/-- After a failure nothing follows. -/
theorem bind_run_of_error {x : Action α} {f : α → Action β} {replies left : List Http.Reply}
    {log : List LogEntry} {requests : List Http.Request} {e : Failure}
    (h : x.run replies = ⟨log, requests, left, .error e⟩) :
    (x >>= f).run replies = ⟨log, requests, left, .error e⟩ := by
  rw [bind_run]
  unfold Action.bind
  unfold run at h
  rw [h]

/-- Three actions one after the other. -/
theorem bind_assoc {γ : Type} (x : Action α) (f : α → Action β) (g : β → Action γ) :
    x >>= f >>= g = x >>= fun a => f a >>= g := by
  funext replies
  show Action.bind (Action.bind x f) g replies
    = Action.bind x (fun a => Action.bind (f a) g) replies
  unfold Action.bind
  cases hx : (x replies).result with
  | error e => simp only [hx]
  | ok a =>
    cases hf : (f a (x replies).replies).result with
    | error e => simp only [hx, hf]
    | ok b => simp only [hx, hf, List.append_assoc]

/-- An outcome after another one, as actions. -/
theorem ofOutcome_bind (x : Outcome α) (f : α → Outcome β) :
    (ofOutcome x >>= fun a => ofOutcome (f a)) = ofOutcome (x >>= f) := by
  obtain ⟨log, r⟩ := x
  cases r <;> rfl

/-- After a trial that ends somehow an outcome sends nothing more. -/
theorem attempt_bind_run {x : Action α} {f : Except Failure α → Outcome β}
    {replies left : List Http.Reply} {log : List LogEntry} {requests : List Http.Request}
    {r : Except Failure α} (h : x.run replies = ⟨log, requests, left, r⟩) :
    (x.attempt >>= fun r => ofOutcome (f r)).run replies =
      ⟨log ++ (f r).log, requests, left, (f r).result⟩ := by
  have hattempt : x.attempt.run replies = ⟨log, requests, left, .ok r⟩ :=
    congrArg (fun r : Run α => (⟨r.log, r.requests, r.replies, .ok r.result⟩ : Run _)) h
  rw [bind_run_of_ok hattempt]
  exact congrArg (Run.mk _ · _ _) (List.append_nil requests)

/-- All requests that are sent have the property. -/
def Sends (P : Http.Request → Prop) (x : Action α) : Prop :=
  ∀ replies, ∀ q ∈ (x.run replies).requests, P q

variable {P : Http.Request → Prop}

theorem Sends.ofOutcome (P : Http.Request → Prop) (x : Outcome α) : Sends P (ofOutcome x) :=
  fun _ _ h => absurd h List.not_mem_nil

theorem Sends.pure (P : Http.Request → Prop) (a : α) : Sends P (Pure.pure a) :=
  fun _ _ h => absurd h List.not_mem_nil

theorem Sends.bind {x : Action α} {f : α → Action β} (hx : Sends P x)
    (hf : ∀ a, (∃ replies, (x.run replies).result = .ok a) → Sends P (f a)) :
    Sends P (x >>= f) := by
  intro replies q hq
  have hs := hx replies
  have ha := fun a h => hf a ⟨replies, h⟩
  generalize hr : x.run replies = r at hs ha
  obtain ⟨log, requests, left, result⟩ := r
  cases result with
  | error e =>
    rw [bind_run_of_error hr] at hq
    exact hs q hq
  | ok a =>
    rw [bind_run_of_ok hr] at hq
    exact (List.mem_append.1 hq).elim (hs q) (ha a rfl left q)

theorem Sends.attempt {x : Action α} (h : Sends P x) : Sends P x.attempt := h

end Action
end ToolGateway
