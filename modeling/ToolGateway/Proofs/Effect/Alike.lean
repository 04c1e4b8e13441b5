/-
# Two runs side by side

Some statements are about two runs of one program: with another secret, or with other credentials
beside the one that is used.  Two outcomes are alike if they log the same and end alike, and two
actions if this is so whatever replies are to come, and if in addition the requests are alike one by
one and the same replies are left.

Both relations go over from the links of a chain to the chain (`Outcome.Alike.bind`,
`Action.Alike.bind`), so that a statement about two runs follows the one program that makes them.
-/

import ToolGateway.Proofs.Effect.Lifting
import ToolGateway.Proofs.Effect.Trace

namespace ToolGateway

variable {α β γ δ ε : Type} {R : α → β → Prop} {R' : γ → δ → Prop}

/-! ### Ends -/

/-- Both end in values that are related, or both in the same failure. -/
inductive EndAlike (R : α → β → Prop) : Except ε α → Except ε β → Prop where
  | ok {a : α} {b : β} (h : R a b) : EndAlike R (.ok a) (.ok b)
  | error (e : ε) : EndAlike R (.error e) (.error e)

namespace EndAlike

theorem refl {R : α → α → Prop} (h : ∀ a, R a a) (x : Except ε α) : EndAlike R x x := by
  cases x with
  | ok a => exact .ok (h a)
  | error e => exact .error e

theorem imp {S : α → β → Prop} (h : ∀ a b, R a b → S a b) {x : Except ε α} {y : Except ε β} :
    EndAlike R x y → EndAlike S x y
  | .ok hab => .ok (h _ _ hab)
  | .error e => .error e

theorem bind {x : Except ε α} {y : Except ε β} {f : α → Except ε γ} {g : β → Except ε δ}
    (h : EndAlike R x y) (hfg : ∀ a b, R a b → EndAlike R' (f a) (g b)) :
    EndAlike R' (x >>= f) (y >>= g) := by
  cases h with
  | ok hab => exact hfg _ _ hab
  | error e => exact .error e

/-- Behind one and the same link only what follows counts. -/
theorem bind_congr {x : Except ε α} {f : α → Except ε γ} {g : α → Except ε δ}
    (h : ∀ a, EndAlike R' (f a) (g a)) : EndAlike R' (x >>= f) (x >>= g) := by
  cases x with
  | error e => exact .error e
  | ok a => exact h a

theorem mapError {ε' : Type} {x : Except ε α} {y : Except ε β} (h : EndAlike R x y)
    (f : ε → ε') : EndAlike R (x.mapError f) (y.mapError f) := by
  cases h with
  | ok hab => exact .ok hab
  | error e => exact .error (f e)

/-- Ends are alike up to equality if they are equal. -/
theorem eq_iff {x y : Except ε α} : EndAlike Eq x y ↔ x = y := by
  constructor
  · rintro (⟨⟨⟩⟩ | _) <;> rfl
  · rintro rfl
    exact refl (fun _ => rfl) x

end EndAlike

/-! ### Outcomes -/

namespace Outcome

/-- The two outcomes log the same and end alike. -/
structure Alike (R : α → β → Prop) (x : Outcome α) (y : Outcome β) : Prop where
  log : x.log = y.log
  ends : EndAlike R x.result y.result

namespace Alike

theorem refl {R : α → α → Prop} (h : ∀ a, R a a) (x : Outcome α) : Alike R x x :=
  ⟨rfl, .refl h x.result⟩

theorem imp {S : α → β → Prop} (h : ∀ a b, R a b → S a b) {x : Outcome α} {y : Outcome β}
    (hxy : Alike R x y) : Alike S x y := ⟨hxy.log, hxy.ends.imp h⟩

/-- Outcomes that are alike up to equality are equal. -/
theorem eq {x y : Outcome α} (h : Alike Eq x y) : x = y := by
  obtain ⟨log, r⟩ := x
  obtain ⟨log', r'⟩ := y
  obtain ⟨rfl, hr⟩ := h
  exact congrArg (Outcome.mk _) (EndAlike.eq_iff.1 hr)

theorem pure {a : α} {b : β} (h : R a b) : Alike R (Pure.pure a) (Pure.pure b) := ⟨rfl, .ok h⟩

theorem bind {x : Outcome α} {y : Outcome β} {f : α → Outcome γ} {g : β → Outcome δ}
    (h : Alike R x y) (hfg : ∀ a b, R a b → Alike R' (f a) (g b)) :
    Alike R' (x >>= f) (y >>= g) := by
  obtain ⟨log, r⟩ := x
  obtain ⟨log', r'⟩ := y
  obtain ⟨rfl, hr⟩ := h
  cases hr with
  | error e => exact ⟨rfl, .error e⟩
  | ok hab => exact ⟨congrArg (log ++ ·) (hfg _ _ hab).log, (hfg _ _ hab).ends⟩

/-- Ending alike is a lifting. -/
def lifting : Lifting Outcome Outcome := ⟨Alike, pure, bind⟩

theorem bind_congr {x : Outcome α} {f : α → Outcome γ} {g : α → Outcome δ}
    (h : ∀ a, Alike R' (f a) (g a)) : Alike R' (x >>= f) (x >>= g) :=
  lifting.bind_congr (refl (fun _ => rfl) x) h

end Alike

/-- A list is taken through outcomes if each of its members is. -/
theorem mapM_result_eq_ok_iff {f : α → Outcome β} {xs : List α} {ys : List β} :
    (xs.mapM f).result = .ok ys ↔ List.Forall₂ (fun x y => (f x).result = .ok y) xs ys := by
  induction xs generalizing ys with
  | nil => simp [List.mapM_nil, eq_comm]
  | cons x rest ih =>
    rw [List.mapM_cons, List.forall₂_cons_left_iff, bind_result_eq_ok]
    simp only [bind_result_eq_ok, ih, pure_result, Except.ok.injEq]
    constructor
    · rintro ⟨b, hb, bs, hbs, rfl⟩
      exact ⟨b, bs, hb, hbs, rfl⟩
    · rintro ⟨b, bs, hb, hbs, rfl⟩
      exact ⟨b, hb, bs, hbs, rfl⟩

/-- What follows counts only for the value with which the first part ends. -/
theorem bind_congr_of_ok {x : Outcome α} {f g : α → Outcome β}
    (h : ∀ a, x.result = .ok a → f a = g a) : x >>= f = x >>= g := by
  obtain ⟨log, r⟩ := x
  cases r with
  | error e => rfl
  | ok a =>
    show Outcome.bind _ _ = Outcome.bind _ _
    unfold Outcome.bind
    dsimp only
    rw [h a rfl]

/-- Only what is done with the members of a list counts. -/
theorem mapM_congr {xs : List γ} {f g : γ → Outcome α} (h : ∀ x ∈ xs, f x = g x) :
    xs.mapM f = xs.mapM g := by
  induction xs with
  | nil => rfl
  | cons x rest ih =>
    obtain ⟨hx, hrest⟩ := List.forall_mem_cons.1 h
    rw [List.mapM_cons, List.mapM_cons, hx, ih hrest]

/-- Lists of which the members end alike end alike. -/
theorem mapM_result_congr {xs : List γ} {ys : List δ} {f : γ → Outcome α} {g : δ → Outcome α}
    (h : List.Forall₂ (fun x y => (f x).result = (g y).result) xs ys) :
    (xs.mapM f).result = (ys.mapM g).result := by
  induction h with
  | nil => rfl
  | cons hxy _ ih =>
    rw [List.mapM_cons, List.mapM_cons, bind_result, bind_result, hxy]
    simp only [bind_result, ih, pure_result]

/-- A list fails with the first of its members that does: those in front of it succeed. -/
theorem mapM_result_eq_error_iff {f : α → Outcome β} {xs : List α} {e : Failure} :
    (xs.mapM f).result = .error e ↔ ∃ front x rest, xs = front ++ x :: rest ∧
      (∀ y ∈ front, ∃ b, (f y).result = .ok b) ∧ (f x).result = .error e := by
  induction xs with
  | nil => simp [List.mapM_nil]
  | cons x rest ih =>
    rw [List.mapM_cons, bind_result_eq_error]
    constructor
    · rintro (hx | ⟨b, hb, h⟩)
      · exact ⟨[], x, rest, rfl, by simp, hx⟩
      · rcases bind_result_eq_error.1 h with h | ⟨_, _, h⟩
        · obtain ⟨front, y, rest', rfl, hfront, hy⟩ := ih.1 h
          exact ⟨x :: front, y, rest', rfl, List.forall_mem_cons.2 ⟨⟨b, hb⟩, hfront⟩, hy⟩
        · cases h
    · rintro ⟨front, y, rest', he, hfront, hy⟩
      cases front with
      | nil =>
        cases he
        exact Or.inl hy
      | cons z front =>
        cases he
        obtain ⟨⟨b, hb⟩, hfront⟩ := List.forall_mem_cons.1 hfront
        have hrest := ih.2 ⟨front, y, rest', rfl, hfront, hy⟩
        exact Or.inr ⟨b, hb, bind_result_eq_error.2 (Or.inl hrest)⟩

end Outcome

/-! ### Actions -/

/-- The two runs log the same, send requests that are alike, leave the same replies and end alike.
-/
structure Run.Alike (S : Http.Request → Http.Request → Prop) (R : α → β → Prop) (r : Run α)
    (s : Run β) : Prop where
  log : r.log = s.log
  requests : List.Forall₂ S r.requests s.requests
  replies : r.replies = s.replies
  ends : EndAlike R r.result s.result

namespace Action

/-- The two actions have runs that are alike whatever replies are to come. -/
def Alike (S : Http.Request → Http.Request → Prop) (R : α → β → Prop) (x : Action α)
    (y : Action β) : Prop := ∀ replies, Run.Alike S R (x.run replies) (y.run replies)

namespace Alike

variable {S : Http.Request → Http.Request → Prop}

theorem refl {R : α → α → Prop} (hS : ∀ q, S q q) (hR : ∀ a, R a a) (x : Action α) :
    Alike S R x x := fun _ => ⟨rfl, List.forall₂_same.2 fun q _ => hS q, rfl, .refl hR _⟩

theorem pure {a : α} {b : β} (h : R a b) : Alike S R (Pure.pure a) (Pure.pure b) := fun _ =>
  ⟨rfl, .nil, rfl, .ok h⟩

theorem ofOutcome {x : Outcome α} {y : Outcome β} (h : Outcome.Alike R x y) :
    Alike S R (Action.ofOutcome x) (Action.ofOutcome y) := fun _ => ⟨h.log, .nil, rfl, h.ends⟩

theorem ofExcept {x : Except Failure α} {y : Except Failure β} (h : EndAlike R x y) :
    Alike S R (Action.ofExcept x) (Action.ofExcept y) := ofOutcome ⟨rfl, h⟩

theorem bind {x : Action α} {y : Action β} {f : α → Action γ} {g : β → Action δ}
    (h : Alike S R x y) (hfg : ∀ a b, R a b → Alike S R' (f a) (g b)) :
    Alike S R' (x >>= f) (y >>= g) := by
  intro replies
  have hr := h replies
  generalize hx : x.run replies = r at hr
  generalize hy : y.run replies = s at hr
  obtain ⟨log, requests, left, result⟩ := r
  obtain ⟨log', requests', left', result'⟩ := s
  obtain ⟨rfl, hq, rfl, he⟩ := hr
  cases he with
  | error e =>
    rw [bind_run_of_error hx, bind_run_of_error hy]
    exact ⟨rfl, hq, rfl, .error e⟩
  | ok hab =>
    rw [bind_run_of_ok hx, bind_run_of_ok hy]
    have hs := hfg _ _ hab left
    exact ⟨congrArg (log ++ ·) hs.log, List.rel_append hq hs.requests, hs.replies, hs.ends⟩

theorem bind_congr {x : Action α} {f : α → Action γ} {g : α → Action δ} (hS : ∀ q, S q q)
    (h : ∀ a, Alike S R' (f a) (g a)) : Alike S R' (x >>= f) (x >>= g) :=
  (refl hS (fun _ => rfl) x).bind fun a _ ha => ha ▸ h a

/-- What is tried ends alike as a value. -/
theorem attempt {x : Action α} {y : Action β} (h : Alike S R x y) :
    Alike S (EndAlike R) x.attempt y.attempt := fun replies =>
  have hr := h replies
  ⟨hr.log, hr.requests, hr.replies, .ok hr.ends⟩

end Alike
end Action
end ToolGateway
