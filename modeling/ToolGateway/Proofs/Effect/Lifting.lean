/-
# Relations that go over to chains

A relation between values is lifted to what computes them: two computations that end in one way, or the
second of which ends well where the first one does.  A lifting that holds of pure values and goes over
from the links of a chain to the chain holds of the traversals of two lists too, if it holds of their
members one by one (`Lifting.mapM`).
-/

import Mathlib.Data.List.Forall2

namespace ToolGateway

/-- A way to lift relations between values to two manners of computing. -/
structure Lifting (m n : Type → Type) [Monad m] [Monad n] where
  /-- The two computations are related, as are the values in which they end. -/
  rel : {α β : Type} → (α → β → Prop) → m α → n β → Prop
  pure : ∀ {α β : Type} {R : α → β → Prop} {a : α} {b : β}, R a b →
    rel R (Pure.pure a) (Pure.pure b)
  bind : ∀ {α β γ δ : Type} {R : α → β → Prop} {S : γ → δ → Prop} {x : m α} {y : n β}
    {f : α → m γ} {g : β → n δ}, rel R x y → (∀ a b, R a b → rel S (f a) (g b)) →
    rel S (x >>= f) (y >>= g)

namespace Lifting

variable {m n : Type → Type} [Monad m] [Monad n] (L : Lifting m n) {α β γ δ : Type}

/-- Behind links that end in the same value only what follows counts. -/
theorem bind_congr {S : γ → δ → Prop} {x : m α} {y : n α} (h : L.rel Eq x y) {f : α → m γ}
    {g : α → n δ} (hfg : ∀ a, L.rel S (f a) (g a)) : L.rel S (x >>= f) (y >>= g) :=
  L.bind h fun a _ ha => ha ▸ hfg a

/-- Two lists are traversed alike if their members are, one by one. -/
theorem mapM [LawfulMonad m] [LawfulMonad n] {R : α → β → Prop} {xs : List γ} {ys : List δ}
    {f : γ → m α} {g : δ → n β} (h : List.Forall₂ (fun x y => L.rel R (f x) (g y)) xs ys) :
    L.rel (List.Forall₂ R) (xs.mapM f) (ys.mapM g) := by
  induction h with
  | nil =>
    rw [List.mapM_nil, List.mapM_nil]
    exact L.pure .nil
  | cons hxy _ ih =>
    rw [List.mapM_cons, List.mapM_cons]
    exact L.bind hxy fun a b hab => L.bind ih fun as bs habs => L.pure (.cons hab habs)

/-- What a lifting makes of a relation it makes of a weaker one. -/
theorem imp [LawfulMonad m] [LawfulMonad n] {R S : α → β → Prop} (h : ∀ a b, R a b → S a b)
    {x : m α} {y : n β} (hxy : L.rel R x y) : L.rel S x y := by
  have hchain : L.rel S (x >>= Pure.pure) (y >>= Pure.pure) :=
    L.bind hxy fun a b hab => L.pure (h a b hab)
  rwa [bind_pure, bind_pure] at hchain

/-- One list is traversed alike in two manners if each of its members is. -/
theorem mapM_eq [LawfulMonad m] [LawfulMonad n] {xs : List γ} {f : γ → m α} {g : γ → n α}
    (h : ∀ x ∈ xs, L.rel Eq (f x) (g x)) : L.rel Eq (xs.mapM f) (xs.mapM g) :=
  L.imp (fun _ _ hall => List.forall₂_eq_eq_eq ▸ hall) (L.mapM (List.forall₂_same.2 h))

end Lifting
end ToolGateway
