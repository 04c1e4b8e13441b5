/-
# The headers of a request

Headers are given under any keys, the last value of a key counts, and they are sent under names in
lower case, where the values of one name are joined.  Two questions are answered here for all
headers at once: under which name a value that is given arrives (`carries_joined`), and what a
change of some values changes (`AgreeBut.joined`), namely nothing but the values under the names
concerned.
-/

import ToolGateway.Http.Client
import ToolGateway.Proofs.Effect.Alike
import Mathlib.Data.List.Induction

namespace ToolGateway

/-! ### Entries under text keys -/

namespace Value

/-- The key that is the same as a text is that text. -/
theorem sameKey_text_iff {k : Value} {name : String} :
    k.sameKey (.text name) = true ↔ k = .text name := by
  cases k with
  | text s => simp [sameKey]
  | _ => simp [sameKey, integer?]

end Value

namespace Entries

/-- A put key has the new value and the other keys keep theirs. -/
theorem get?_put (es : Entries) (name : String) (v : Value) (other : String) :
    (es.put (.text name) v).get? other = if name = other then some v else es.get? other := by
  induction es with
  | nil => simp [put, get?]
  | cons e rest ih =>
    obtain ⟨k, w⟩ := e
    unfold put
    by_cases hk : k.sameKey (.text name) = true
    · rw [if_pos hk]
      obtain rfl := Value.sameKey_text_iff.1 hk
      by_cases ho : name = other <;> simp [get?, ho]
    · rw [if_neg hk]
      cases k with
      | text k =>
        have hkn : k ≠ name := fun h => hk (Value.sameKey_text_iff.2 (congrArg Value.text h))
        by_cases ho : name = other
        · subst ho
          simp [get?, hkn, ih]
        · simp [get?, ih, ho]
      | _ => simpa [get?] using ih

variable {α : Type}

/-- Putting an entry into a table puts it into the table's entries. -/
theorem put_map (f : α → Value) (t : Table α) (name : String) (a : α) :
    Entries.put (t.map fun e => (.text e.1, f e.2)) (.text name) (f a) =
      (t.put name a).map fun e => (.text e.1, f e.2) := by
  induction t with
  | nil => rfl
  | cons e rest ih =>
    obtain ⟨k, b⟩ := e
    rw [List.map_cons, put, Table.put]
    by_cases hk : k = name
    · rw [if_pos (Value.sameKey_text_iff.2 (congrArg Value.text hk)), if_pos hk, List.map_cons]
    · rw [if_neg fun hsame => hk (Value.text.inj (Value.sameKey_text_iff.1 hsame)), if_neg hk, ih,
        List.map_cons]

/-- Putting all entries of a table into those of another makes the entries of their union. -/
theorem foldl_put_map (f : α → Value) (t u : Table α) :
    u.foldl (fun acc e => Entries.put acc (.text e.1) (f e.2))
        (t.map fun e => (.text e.1, f e.2)) =
      (t.union u).map fun e => (.text e.1, f e.2) := by
  unfold Table.union
  induction u generalizing t with
  | nil => rfl
  | cons e rest ih => rw [List.foldl_cons, List.foldl_cons, put_map, ih]

end Entries

namespace Http
namespace Headers

/-! ### Values that are joined -/

/-- The values that are sent under a name, in order. -/
def valuesOf (sent : List (String × String)) (name : String) : List String :=
  (sent.filter fun h => Text.asciiLower h.1 = name).map Prod.snd

theorem joined_concat (sent : List (String × String)) (h : String × String) :
    joined (sent ++ [h]) = add (joined sent) h.1 h.2 := by
  unfold joined
  rw [List.foldl_append]
  rfl

/-- Under a name stand all values that are sent under it, one behind the other. -/
theorem get?_joined (sent : List (String × String)) (name : String) :
    (joined sent).get? name =
      if valuesOf sent name = [] then none
      else some (", ".intercalate (valuesOf sent name)) := by
  induction sent using List.reverseRecOn with
  | nil => rfl
  | append_singleton sent h ih =>
    obtain ⟨n, v⟩ := h
    have hvalues : valuesOf (sent ++ [(n, v)]) name =
        valuesOf sent name ++ if Text.asciiLower n = name then [v] else [] := by
      unfold valuesOf
      by_cases hn : Text.asciiLower n = name <;> simp [hn]
    rw [joined_concat, hvalues, add, Table.get?_put]
    by_cases hn : Text.asciiLower n = name
    · subst hn
      rw [if_pos rfl, if_pos rfl, ih]
      by_cases he : valuesOf sent (Text.asciiLower n) = []
      · simp [he]
      · have hj := @String.intercalate_append_of_ne_nil _ [v] ", " he (by simp)
        simp [he, hj]
    · simp [hn, ih]

/-- The value is among those that stand under the name. -/
def Carries (headers : Table String) (name value : String) : Prop :=
  ∃ before after, headers.get? name = some (", ".intercalate (before ++ value :: after))

/-- The characters of each part are among those of all parts. -/
theorem subset_intercalate {α : Type} {sep : List α} {parts : List (List α)} {part : List α}
    (h : part ∈ parts) : part ⊆ sep.intercalate parts := by
  induction parts with
  | nil => cases h
  | cons first rest ih =>
    cases rest with
    | nil =>
      obtain rfl := List.mem_singleton.1 h
      simp [List.intercalate]
    | cons next rest =>
      have hsplit : sep.intercalate (first :: next :: rest)
          = first ++ (sep ++ sep.intercalate (next :: rest)) := by
        simp [List.intercalate]
      rw [hsplit]
      rcases List.mem_cons.1 h with rfl | h
      · exact List.subset_append_left _ _
      · exact List.subset_append_of_subset_right _ (List.subset_append_of_subset_right _ (ih h))

/-- What a header carries is made of characters of its value. -/
theorem Carries.subset {headers : Table String} {name value x : String}
    (h : Carries headers name value) (hx : headers.get? name = some x) :
    value.toList ⊆ x.toList := by
  obtain ⟨before, after, h⟩ := h
  obtain rfl := Option.some.inj (hx.symm.trans h)
  rw [String.toList_intercalate]
  exact subset_intercalate (List.mem_map_of_mem (by simp))

/-- What is sent under a name stands there. -/
theorem carries_joined {sent : List (String × String)} {n v : String} (h : (n, v) ∈ sent) :
    Carries (joined sent) (Text.asciiLower n) v := by
  have hv : v ∈ valuesOf sent (Text.asciiLower n) :=
    List.mem_map.2 ⟨(n, v), List.mem_filter.2 ⟨h, decide_eq_true rfl⟩, rfl⟩
  obtain ⟨before, after, hsplit⟩ := List.append_of_mem hv
  refine ⟨before, after, ?_⟩
  rw [get?_joined, hsplit, if_neg (by simp)]

/-- A text that can be sent is sent as it is. -/
theorem eq_of_sendable {s t : String} (h : sendable s = .ok t) : t = s := by
  unfold sendable at h
  split at h
  · cases h
  · cases h
    rfl

theorem sendableValue_text {s : String} (h : Text.asciiFault? s = none) :
    sendableValue (.text s) = .ok s := by
  show sendable s = .ok s
  unfold sendable
  rw [h]

/-- What is given under a text is sent under it. -/
theorem mem_of_encode {es : Entries} {sent : List (String × String)} (h : encode es = .ok sent)
    {n v : String} (hm : (.text n, .text v) ∈ es) : (n, v) ∈ sent := by
  induction es generalizing sent with
  | nil => cases hm
  | cons e rest ih =>
    obtain ⟨name, value⟩ := e
    rw [encode] at h
    obtain ⟨n', hn, h⟩ := exists_of_bind_eq_ok h
    obtain ⟨v', hv, h⟩ := exists_of_bind_eq_ok h
    obtain ⟨more, hr, h⟩ := exists_of_bind_eq_ok h
    cases h
    rcases List.mem_cons.1 hm with he | hm
    · cases he
      rw [eq_of_sendable hn, eq_of_sendable hv]
      exact List.mem_cons_self
    · exact List.mem_cons_of_mem _ (ih hr hm)

/-! ### Headers that differ in some values -/

/-- The headers have the same names in the same order, and the same values but for those under some
names. -/
def AgreeBut (P : String → Prop) (headers headers' : List (String × String)) : Prop :=
  List.Forall₂ (fun h h' => h.1 = h'.1 ∧ (P h.1 ∨ h.2 = h'.2)) headers headers'

namespace AgreeBut

variable {P : String → Prop} {headers headers' : List (String × String)}

theorem refl (P : String → Prop) (headers : List (String × String)) : AgreeBut P headers headers :=
  List.forall₂_same.2 fun _ _ => ⟨rfl, Or.inr rfl⟩

/-- Under the other names they have the same values. -/
theorem get?_eq (h : AgreeBut P headers headers') {name : String} (hn : ¬ P name) :
    Table.get? headers name = Table.get? headers' name := by
  induction h with
  | nil => rfl
  | @cons a b _ _ hab _ ih =>
    obtain ⟨k, v⟩ := a
    obtain ⟨k', v'⟩ := b
    obtain ⟨rfl, hv⟩ : k = k' ∧ (P k ∨ v = v') := hab
    rw [Table.get?_cons, Table.get?_cons, ih]
    by_cases hk : k = name
    · subst hk
      rw [hv.resolve_left hn]
    · rw [if_neg hk, if_neg hk]

theorem put (h : AgreeBut P headers headers') {name v v' : String} (hv : P name ∨ v = v') :
    AgreeBut P (Table.put headers name v) (Table.put headers' name v') := by
  induction h with
  | nil => exact .cons ⟨rfl, hv⟩ .nil
  | @cons a b _ _ hab hr ih =>
    obtain ⟨k, w⟩ := a
    obtain ⟨k', w'⟩ := b
    obtain ⟨rfl, hw⟩ := hab
    unfold Table.put
    by_cases hk : k = name
    · subst hk
      rw [if_pos rfl, if_pos rfl]
      exact .cons ⟨rfl, hv⟩ hr
    · rw [if_neg hk, if_neg hk]
      exact .cons ⟨rfl, hw⟩ ih

theorem add (h : AgreeBut P headers headers') {name v v' : String}
    (hv : P (Text.asciiLower name) ∨ v = v') :
    AgreeBut P (Headers.add headers name v) (Headers.add headers' name v') := by
  unfold Headers.add
  by_cases hn : P (Text.asciiLower name)
  · exact h.put (Or.inl hn)
  · refine h.put (Or.inr ?_)
    rw [h.get?_eq hn, hv.resolve_left hn]

/-- A change of values changes the joined headers under the names of these values only. -/
theorem joined (h : AgreeBut (fun n => P (Text.asciiLower n)) headers headers') :
    AgreeBut P (Headers.joined headers) (Headers.joined headers') := by
  unfold Headers.joined
  have fold : ∀ acc acc', AgreeBut P acc acc' →
      AgreeBut P (headers.foldl (fun acc h => Headers.add acc h.1 h.2) acc)
        (headers'.foldl (fun acc h => Headers.add acc h.1 h.2) acc') := by
    induction h with
    | nil => exact fun _ _ hacc => hacc
    | @cons a b _ _ hab _ ih =>
      intro acc acc' hacc
      obtain ⟨k, v⟩ := a
      obtain ⟨k', v'⟩ := b
      obtain ⟨rfl, hv⟩ := hab
      exact ih _ _ (hacc.add hv)
  exact fold [] [] .nil

theorem any_eq (h : AgreeBut P headers headers') (p : String → Bool) :
    (headers.any fun h => p h.1) = headers'.any fun h => p h.1 := by
  induction h with
  | nil => rfl
  | cons hab _ ih => rw [List.any_cons, List.any_cons, hab.1, ih]

end AgreeBut

/-- Two entries of headers: the same, or two texts that can be sent, under a name of which the value
does not matter. -/
inductive EntryAlike (P : String → Prop) : Value × Value → Value × Value → Prop where
  | same (e : Value × Value) : EntryAlike P e e
  | secret {n s s' : String} (hn : P n) (hs : Text.asciiFault? s = none)
      (hs' : Text.asciiFault? s' = none) : EntryAlike P (.text n, .text s) (.text n, .text s')

variable {P : String → Prop} {es es' : Entries}

theorem EntryAlike.fst_eq {e e' : Value × Value} : EntryAlike P e e' → e.1 = e'.1
  | .same _ => rfl
  | .secret _ _ _ => rfl

/-- What is put into entries that are alike leaves them alike. -/
theorem forall₂_put (h : List.Forall₂ (EntryAlike P) es es') {n : String} {v v' : Value}
    (hv : EntryAlike P (.text n, v) (.text n, v')) :
    List.Forall₂ (EntryAlike P) (es.put (.text n) v) (es'.put (.text n) v') := by
  induction h with
  | nil => exact .cons hv .nil
  | @cons a b _ _ hab hr ih =>
    obtain ⟨k, w⟩ := a
    obtain ⟨k', w'⟩ := b
    obtain rfl : k = k' := hab.fst_eq
    unfold Entries.put
    by_cases hk : k.sameKey (.text n) = true
    · rw [if_pos hk, if_pos hk]
      obtain rfl := Value.sameKey_text_iff.1 hk
      exact .cons hv hr
    · rw [if_neg hk, if_neg hk]
      exact .cons hab ih

/-- Entries that are alike can both be sent, or neither for the same reason. -/
theorem endAlike_encode (h : List.Forall₂ (EntryAlike P) es es') :
    EndAlike (AgreeBut P) (encode es) (encode es') := by
  induction h with
  | nil => exact .ok .nil
  | cons hab _ ih =>
    cases hab with
    | same =>
      refine EndAlike.bind_congr fun n => EndAlike.bind_congr fun v => ?_
      exact ih.bind fun _ _ hm => .ok (.cons ⟨rfl, Or.inr rfl⟩ hm)
    | @secret n s s' hn hs hs' =>
      rw [encode, encode, sendableValue_text hs, sendableValue_text hs']
      cases he : sendableName (.text n) with
      | error f => exact .error f
      | ok n' =>
        obtain rfl := eq_of_sendable he
        exact ih.bind fun _ _ hm => .ok (.cons ⟨rfl, Or.inl hn⟩ hm)

end Headers
end Http
end ToolGateway
