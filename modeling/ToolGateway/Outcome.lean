/-
# Outcomes and actions

An outcome is what was logged on the way and then a value or a failure. An action may also send
requests: it is given the replies that are to come and leaves those that it did not use.
-/
import ToolGateway.Failure

namespace ToolGateway

/-- How important a log entry is. -/
inductive LogLevel where
  | debug
  | info
  | warning
  | error
deriving DecidableEq, Repr

/-- A log entry. -/
structure LogEntry where
  level : LogLevel
  text : String
deriving DecidableEq, Repr

/-- What was logged, and the value or the failure in which it ended. -/
structure Outcome (α : Type) where
  log : List LogEntry
  result : Except Failure α

namespace Outcome

variable {α β : Type}

/-- One outcome after another; a failure ends the chain. -/
def bind (x : Outcome α) (f : α → Outcome β) : Outcome β :=
  match x.result with
  | .ok a => let y := f a; ⟨x.log ++ y.log, y.result⟩
  | .error e => ⟨x.log, .error e⟩

instance : Monad Outcome where
  pure a := ⟨[], .ok a⟩
  bind := bind

/-- Fails without a log entry. -/
def fail (f : Failure) : Outcome α := ⟨[], .error f⟩

/-- A value or a failure without a log entry. -/
def ofExcept (r : Except Failure α) : Outcome α := ⟨[], r⟩

/-- A log entry. -/
def note (level : LogLevel) (text : String) : Outcome Unit := ⟨[⟨level, text⟩], .ok ()⟩

@[simp] theorem pure_log (a : α) : (pure a : Outcome α).log = [] := rfl

@[simp] theorem pure_result (a : α) : (pure a : Outcome α).result = .ok a := rfl

/-- The result of a chain is the chain of the results. -/
@[simp] theorem bind_result (x : Outcome α) (f : α → Outcome β) :
    (x >>= f).result = x.result >>= fun a => (f a).result := by
  obtain ⟨log, r⟩ := x
  cases r <;> rfl

/-- A chain ends well if all its links do. -/
theorem bind_result_eq_ok {x : Outcome α} {f : α → Outcome β} {b : β} :
    (x >>= f).result = .ok b ↔ ∃ a, x.result = .ok a ∧ (f a).result = .ok b := by
  rw [bind_result]
  cases hx : x.result with
  | error e => simp [Bind.bind, Except.bind]
  | ok a => simp [Bind.bind, Except.bind]

/-- A chain fails with the first of its links that does. -/
theorem bind_result_eq_error {x : Outcome α} {f : α → Outcome β} {e : Failure} :
    (x >>= f).result = .error e ↔
      x.result = .error e ∨ ∃ a, x.result = .ok a ∧ (f a).result = .error e := by
  rw [bind_result]
  cases hx : x.result with
  | error e' => simp [Bind.bind, Except.bind]
  | ok a => simp [Bind.bind, Except.bind]

theorem bind_log_of_ok {x : Outcome α} {a : α} (h : x.result = .ok a) (f : α → Outcome β) :
    (x >>= f).log = x.log ++ (f a).log := by
  obtain ⟨log, r⟩ := x
  cases h
  rfl

theorem bind_log_of_error {x : Outcome α} {e : Failure} (h : x.result = .error e)
    (f : α → Outcome β) : (x >>= f).log = x.log := by
  obtain ⟨log, r⟩ := x
  cases h
  rfl

instance : LawfulMonad Outcome := LawfulMonad.mk' Outcome
  (by
    intro α x
    obtain ⟨log, r⟩ := x
    cases r
    · rfl
    · show Outcome.mk (log ++ []) _ = _
      rw [List.append_nil]
      rfl)
  (by
    intro α β x f
    rfl)
  (by
    intro α β γ x f g
    obtain ⟨log, r⟩ := x
    cases r with
    | error e => rfl
    | ok a =>
      show Outcome.bind (Outcome.bind ⟨log, .ok a⟩ f) g = _
      unfold Outcome.bind
      dsimp only
      cases h : (f a).result with
      | error e => simp [Bind.bind, Outcome.bind, h]
      | ok b => simp [Bind.bind, Outcome.bind, h, List.append_assoc])

end Outcome

/-- What an action did: the log, the requests sent, the replies left, and the result. -/
structure Run (α : Type) where
  log : List LogEntry
  requests : List Http.Request
  replies : List Http.Reply
  result : Except Failure α

/-- An action, given the replies that its requests will get in turn. -/
def Action (α : Type) := List Http.Reply → Run α

namespace Action

variable {α β : Type}

/-- Runs the action against the replies to come. -/
def run (x : Action α) (replies : List Http.Reply) : Run α := x replies

/-- One action after another; a failure ends the chain. -/
def bind (x : Action α) (f : α → Action β) : Action β := fun replies =>
  let r := x replies
  match r.result with
  | .ok a =>
    let s := f a r.replies
    ⟨r.log ++ s.log, r.requests ++ s.requests, s.replies, s.result⟩
  | .error e => ⟨r.log, r.requests, r.replies, .error e⟩

instance : Monad Action where
  pure a := fun replies => ⟨[], [], replies, .ok a⟩
  bind := bind

/-- An outcome as an action that sends nothing. -/
def ofOutcome (x : Outcome α) : Action α := fun replies => ⟨x.log, [], replies, x.result⟩

/-- Fails without a trace. -/
def fail (f : Failure) : Action α := ofOutcome (.fail f)

/-- A value or a failure without a trace. -/
def ofExcept (r : Except Failure α) : Action α := ofOutcome (.ofExcept r)

/-- A log entry. -/
def note (level : LogLevel) (text : String) : Action Unit := ofOutcome (.note level text)

/-- The failure to get a reply when none is left. -/
def noReply : Http.TransportFault := ⟨"ConnectError", "no response left"⟩

/-- Sends a request and takes the next reply. -/
def send (q : Http.Request) : Action Http.Delivery := fun replies =>
  match replies with
  | [] => ⟨[], [q], [], .error (.transport noReply)⟩
  | r :: rest => ⟨[], [q], rest, r.mapError .transport⟩

/-- The result of an action as a value, a failure included. -/
def attempt (x : Action α) : Action (Except Failure α) := fun replies =>
  let r := x replies
  ⟨r.log, r.requests, r.replies, .ok r.result⟩

theorem bind_run (x : Action α) (f : α → Action β) (replies : List Http.Reply) :
    (x >>= f).run replies = Action.bind x f replies := rfl

/-- What follows a value goes on with it. -/
theorem ofExcept_ok_bind (a : α) (f : α → Action β) : ofExcept (.ok a) >>= f = f a := rfl

/-- Nothing follows a failure. -/
theorem ofExcept_error_bind (e : Failure) (f : α → Action β) :
    ofExcept (.error e) >>= f = fail e := rfl

/-- A chain fails with the first of its links that does. -/
theorem bind_result_eq_error {x : Action α} {f : α → Action β} {replies : List Http.Reply}
    {e : Failure} :
    ((x >>= f).run replies).result = .error e ↔ (x.run replies).result = .error e ∨
      ∃ a, (x.run replies).result = .ok a ∧
        ((f a).run (x.run replies).replies).result = .error e := by
  rw [bind_run]
  unfold Action.bind Action.run
  dsimp only
  cases (x replies).result with
  | error e' => simp
  | ok a => simp

@[simp] theorem pure_run (a : α) (replies : List Http.Reply) :
    (pure a : Action α).run replies = ⟨[], [], replies, .ok a⟩ := rfl

end Action
end ToolGateway
