/-
# Checks that are fine, one and two at a time

A check that is fine is made of fine checks of the parts.  Where two values are checked for the same
shape, the second of them with something added, the question is whether the second check is fine if
the first one is.  `Checked.Follows` says so, and that the typed values are related; it goes over from
the parts of a record, a list or a table to the whole, so that what is said of a document follows from
what is said of its parts.
-/

import ToolGateway.Check.Shape
import ToolGateway.Proofs.Table.Union
import Mathlib.Data.List.Forall2

namespace ToolGateway

variable {α β γ δ : Type} {R : α → β → Prop} {S : γ → δ → Prop}

namespace Table

/-- Two entries under the same name, with related values. -/
def Twin (R : α → β → Prop) (e : String × α) (e' : String × β) : Prop := e'.1 = e.1 ∧ R e.2 e'.2

theorem forall₂_put {t : Table α} {t' : Table β} (h : List.Forall₂ (Twin R) t t') {name : String}
    {a : α} {b : β} (hab : R a b) :
    List.Forall₂ (Twin R) (t.put name a) (t'.put name b) := by
  induction h with
  | nil => exact .cons ⟨rfl, hab⟩ .nil
  | @cons e e' _ _ he hr ih =>
    obtain ⟨k, v⟩ := e
    obtain ⟨k', v'⟩ := e'
    obtain ⟨rfl, hv⟩ := he
    unfold put
    by_cases hk : k' = name
    · rw [if_pos hk, if_pos hk]
      exact .cons ⟨rfl, hab⟩ hr
    · rw [if_neg hk, if_neg hk]
      exact .cons ⟨rfl, hv⟩ ih

theorem forall₂_union {t u : Table α} {t' u' : Table β} (ht : List.Forall₂ (Twin R) t t')
    (hu : List.Forall₂ (Twin R) u u') : List.Forall₂ (Twin R) (t.union u) (t'.union u') := by
  unfold union
  induction hu generalizing t t' with
  | nil => exact ht
  | @cons e e' _ _ he _ ih =>
    obtain ⟨k, v⟩ := e
    obtain ⟨k', v'⟩ := e'
    obtain ⟨rfl, hv⟩ := he
    exact ih (forall₂_put ht hv)

/-- Twin entries make twin tables. -/
theorem forall₂_ofList {es : List (String × α)} {es' : List (String × β)}
    (h : List.Forall₂ (Twin R) es es') : List.Forall₂ (Twin R) (ofList es) (ofList es') :=
  forall₂_union .nil h

end Table

namespace Checked

/-! ### What a fine check is made of -/

/-- A first part and a rest are fine if both are. -/
theorem cons_eq_fine {x : Checked α} {xs : Checked (List α)} {as : List α}
    (h : List.cons <$> x <*> xs = .fine as) :
    ∃ a rest, x = .fine a ∧ xs = .fine rest ∧ as = a :: rest := by
  cases x with
  | flawed issues => cases xs <;> cases h
  | fine a =>
    cases xs with
    | flawed issues => cases h
    | fine rest =>
      cases h
      exact ⟨a, rest, rfl, rfl, rfl⟩

/-- A step further out changes nothing about a fine value. -/
theorem eq_fine_of_under {c : Checked α} {s : Step} {a : α} (h : c.under s = .fine a) :
    c = .fine a := by
  cases c with
  | fine b => exact h
  | flawed issues => cases h

/-- A function of a fine value is a function of what was found fine. -/
theorem exists_of_map_eq_fine {c : Checked α} {f : α → β} {b : β}
    (h : c.map f = .fine b) : ∃ a, c = .fine a ∧ b = f a := by
  cases c with
  | fine a =>
    cases h
    exact ⟨a, rfl, rfl⟩
  | flawed issues => cases h

/-! ### Checks side by side -/

/-- The second check is fine where the first one is, and then the values are related. -/
def Follows (R : α → β → Prop) (c : Checked α) (c' : Checked β) : Prop :=
  ∀ a, c = .fine a → ∃ b, c' = .fine b ∧ R a b

namespace Follows

variable {c : Checked α} {c' : Checked β}

theorem fine {a : α} {b : β} (h : R a b) : Follows R (.fine a) (.fine b) := by
  rintro _ ⟨⟩
  exact ⟨b, rfl, h⟩

theorem refl {R : α → α → Prop} (h : ∀ a, R a a) (c : Checked α) : Follows R c c :=
  fun a ha => ⟨a, ha, h a⟩

theorem imp {R' : α → β → Prop} (h : Follows R c c') (hR : ∀ a b, R a b → R' a b) :
    Follows R' c c' := fun a ha =>
  have ⟨b, hb, hab⟩ := h a ha
  ⟨b, hb, hR a b hab⟩

theorem map {f : α → γ} {g : β → δ} (h : Follows R c c') (hfg : ∀ a b, R a b → S (f a) (g b)) :
    Follows S (f <$> c) (g <$> c') := by
  cases c with
  | flawed issues => exact fun _ h => nomatch h
  | fine a =>
    obtain ⟨b, rfl, hab⟩ := h a rfl
    exact fine (hfg a b hab)

/-- Functions take related values to related ones. -/
theorem ap {f : Checked (α → γ)} {g : Checked (β → δ)}
    (hf : Follows (fun u v => ∀ a b, R a b → S (u a) (v b)) f g) (h : Follows R c c') :
    Follows S (f <*> c) (g <*> c') := by
  cases f with
  | flawed issues =>
    cases c <;> exact fun _ h => nomatch h
  | fine u =>
    obtain ⟨v, rfl, huv⟩ := hf u rfl
    cases c with
    | flawed issues => exact fun _ h => nomatch h
    | fine a =>
      obtain ⟨b, rfl, hab⟩ := h a rfl
      exact fine (huv a b hab)

/-- One function takes one value to one value. -/
theorem map_eq {c c' : Checked α} (h : Follows Eq c c') (f : α → γ) :
    Follows Eq (f <$> c) (f <$> c') := h.map fun _ _ => congrArg f

theorem ap_eq {f g : Checked (α → γ)} {c c' : Checked α} (hf : Follows Eq f g)
    (h : Follows Eq c c') : Follows Eq (f <*> c) (g <*> c') :=
  (hf.imp fun _ _ hfg _ _ hab => congr hfg hab).ap h

/-- The places of issues do not matter. -/
theorem under (h : Follows R c c') (s s' : Step) : Follows R (c.under s) (c'.under s') := by
  cases c with
  | flawed issues => exact fun _ h => nomatch h
  | fine a =>
    obtain ⟨b, rfl, hab⟩ := h a rfl
    exact fine hab

/-- A first part and a rest follow if both do. -/
theorem cons {x : Checked α} {y : Checked β} {xs : Checked (List α)} {ys : Checked (List β)}
    (h : Follows R x y) (hs : Follows (List.Forall₂ R) xs ys) :
    Follows (List.Forall₂ R) (List.cons <$> x <*> xs) (List.cons <$> y <*> ys) :=
  (h.map fun _ _ hab _ _ hrest => .cons hab hrest).ap hs

end Follows
end Checked

namespace Shape

open Checked (Follows)

variable {shape : Shape α} {shape' : Shape β}

theorem orNull_of_ne {v : Value} (h : v ≠ .null) : orNull shape v = (shape v).map some := by
  cases v with
  | null => exact absurd rfl h
  | _ => rfl

theorem follows_orNull {v v' : Value} (hnull : v = .null ↔ v' = .null)
    (h : Follows R (shape v) (shape' v')) :
    Follows (Option.Rel R) (orNull shape v) (orNull shape' v') := by
  unfold orNull
  cases v with
  | null =>
    obtain rfl := hnull.1 rfl
    exact .fine .none
  | _ =>
    cases v' with
    | null => exact absurd (hnull.2 rfl) (by simp)
    | _ => exact h.map fun _ _ => .some

theorem follows_itemsFrom {xs xs' : List Value} {i j : Nat}
    (h : List.Forall₂ (fun x x' => Follows R (shape x) (shape' x')) xs xs') :
    Follows (List.Forall₂ R) (itemsFrom shape i xs) (itemsFrom shape' j xs') := by
  induction h generalizing i j with
  | nil => exact .fine .nil
  | cons hx _ ih => exact (hx.under _ _).cons ih

/-- Entries under the same keys follow if their values do. -/
theorem follows_entries {es es' : Entries}
    (h : List.Forall₂ (fun e e' => e'.1 = e.1 ∧ Follows R (shape e.2) (shape' e'.2)) es es') :
    Follows (List.Forall₂ (Table.Twin R)) (entries shape es) (entries shape' es') := by
  induction h with
  | nil => exact .fine .nil
  | @cons e e' _ _ he _ ih =>
    obtain ⟨k, v⟩ := e
    obtain ⟨k', v'⟩ := e'
    obtain ⟨rfl, hv⟩ := he
    have hkey : Follows Eq (key k') (key k') := .refl (fun _ => rfl) _
    exact Follows.cons ((hkey.map fun _ _ hk _ _ hr => ⟨hk.symm, hr⟩).ap (hv.under _ _)) ih

/-- A field follows if what is found for it does; where nothing is found, both have the default. -/
theorem follows_withDefault {es es' : Entries} {n : Naming} {a : α} {b : β} (hab : R a b)
    (h : Option.Rel (fun p p' => Follows R (shape p.2) (shape' p'.2)) (n.find es) (n.find es')) :
    Follows R (withDefault es n shape a) (withDefault es' n shape' b) := by
  unfold withDefault
  generalize n.find es = found at h
  generalize n.find es' = found' at h
  cases h with
  | none => exact .fine hab
  | some h => exact h.under _ _

/-- A field that must be there follows if what is found for it does. -/
theorem follows_required {es es' : Entries} {n : Naming}
    (h : Option.Rel (fun p p' => Follows R (shape p.2) (shape' p'.2)) (n.find es) (n.find es')) :
    Follows R (required es n shape) (required es' n shape') := by
  unfold required
  generalize n.find es = found at h
  generalize n.find es' = found' at h
  cases h with
  | none => exact fun _ h => nomatch h
  | some h => exact h.under _ _

end Shape
end ToolGateway
