/-
# Outcomes that end well where others do

Where one program is run on less than another one, it need not fail or log alike, but it may be bound
to end well wherever the other does.  `Outcome.Follows` says so, and that the values are related; it
goes over from the links of a chain to the chain.
-/

import ToolGateway.Outcome
import ToolGateway.Proofs.Effect.Lifting

namespace ToolGateway
namespace Outcome

variable {α β γ δ : Type} {R : α → β → Prop} {S : γ → δ → Prop}

/-- The second outcome is a value where the first one is, and then the values are related. -/
def Follows (R : α → β → Prop) (x : Outcome α) (y : Outcome β) : Prop :=
  ∀ a, x.result = .ok a → ∃ b, y.result = .ok b ∧ R a b

namespace Follows

theorem refl {R : α → α → Prop} (h : ∀ a, R a a) (x : Outcome α) : Follows R x x :=
  fun a ha => ⟨a, ha, h a⟩

theorem pure {a : α} {b : β} (h : R a b) : Follows R (Pure.pure a) (Pure.pure b) := by
  rintro _ ⟨⟩
  exact ⟨b, rfl, h⟩

/-- After a failure nothing is asked. -/
theorem of_error {x : Outcome α} {f : Failure} (h : x.result = .error f) (y : Outcome β) :
    Follows R x y := fun a ha => by cases h.symm.trans ha

theorem bind {x : Outcome α} {y : Outcome β} {f : α → Outcome γ} {g : β → Outcome δ}
    (h : Follows R x y) (hfg : ∀ a b, R a b → Follows S (f a) (g b)) :
    Follows S (x >>= f) (y >>= g) := by
  intro c hc
  obtain ⟨a, ha, hc⟩ := bind_result_eq_ok.1 hc
  obtain ⟨b, hb, hab⟩ := h a ha
  obtain ⟨d, hd, hcd⟩ := hfg a b hab c hc
  exact ⟨d, bind_result_eq_ok.2 ⟨b, hb, hd⟩, hcd⟩

/-- Following is a lifting. -/
def lifting : Lifting Outcome Outcome := ⟨Follows, pure, bind⟩

/-- Behind one and the same link only what follows counts. -/
theorem bind_congr {x : Outcome α} {f : α → Outcome γ} {g : α → Outcome δ}
    (h : ∀ a, Follows S (f a) (g a)) : Follows S (x >>= f) (x >>= g) :=
  lifting.bind_congr (refl (fun _ => rfl) x) h

end Follows
end Outcome
end ToolGateway
