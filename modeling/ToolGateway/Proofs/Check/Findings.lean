/-
# What a check finds

An issue shows a part of the checked value and the way to it.  So the issues of a plain value are
plain and show nothing that is nested deeper (`Shape.KeepsPlain`), and plain issues have a JSON form
(`Issue.Plain.hasForm`).  This goes over from the parts of a record, a list or a table to the whole.
-/

import ToolGateway.Check.Shape
import ToolGateway.Proofs.Json.Plain

namespace ToolGateway

variable {α β : Type} {n : Nat}

/-- What was found is plain and nested at most so deep, and the steps that lead there are plain. -/
structure Issue.Plain (n : Nat) (i : Issue) : Prop where
  found : i.found.PlainWithin n
  place : ∀ s ∈ i.place, s.value.PlainWithin 0

namespace Step

theorem plain_name (s : String) : (name s).value.PlainWithin 0 := .text s

/-- The step to a key that JSON has is one that JSON has. -/
theorem plain_ofKey {k : Value} (h : Json.IsKey k) : (ofKey k).value.PlainWithin 0 := by
  unfold ofKey
  split
  · exact plain_name _
  · rename_i b
    exact .int (DigitLimit.allows_of_lt (by cases b <;> decide))
  · split
    · exact ⟨h.plain, Nat.le_of_eq h.nesting_eq⟩
    · exact plain_name _
  · exact plain_name _

end Step

namespace Issue

theorem hasForm_context (kind : IssueKind) : ∀ c ∈ kind.context, Json.HasForm (n + 1) c := by
  intro c hc
  cases kind with
  | notModel model =>
    cases hc
    exact Json.hasForm_ofTable (List.forall_mem_singleton.2 (Json.hasForm_text _))
  | notAmong choices =>
    cases hc
    exact Json.hasForm_ofTable (List.forall_mem_singleton.2 (Json.hasForm_text _))
  | notThis text =>
    cases hc
    exact Json.hasForm_ofTable (List.forall_mem_singleton.2 (Json.hasForm_text _))
  | _ => cases hc

/-- **Plain issues have a JSON form**, which takes one level more than what was found. -/
theorem Plain.hasForm {i : Issue} (h : i.Plain (n + 1)) : Json.HasForm (n + 2) i.value := by
  have hplace : Json.HasForm (n + 1) (.list (i.place.map Step.value)) := by
    refine Json.hasForm_list fun v hv => ?_
    obtain ⟨s, hs, rfl⟩ := List.mem_map.1 hv
    exact ((h.place s hs).mono (Nat.zero_le n)).hasForm
  have hown : ∀ e ∈ [("type", Value.text i.kind.code), ("loc", .list (i.place.map Step.value)),
      ("msg", .text i.kind.message), ("input", i.found)], Json.HasForm (n + 1) e.2 := by
    simp only [List.forall_mem_cons]
    exact ⟨Json.hasForm_text _, hplace, Json.hasForm_text _, h.found.hasForm,
      fun _ he => nomatch he⟩
  refine Json.hasForm_ofTable fun e he => ?_
  rcases List.mem_append.1 he with he | he
  · exact hown e he
  · have hcontext := @hasForm_context n i.kind
    split at he
    · rename_i c hc
      obtain rfl := List.mem_singleton.1 he
      exact hcontext c hc
    · cases he

end Issue

/-- All issues of the check are plain. -/
def Checked.Plain (n : Nat) (c : Checked α) : Prop := ∀ i ∈ c.issues, i.Plain n

namespace Checked.Plain

theorem fine (a : α) : (Checked.fine a).Plain n := fun _ h => nomatch h

theorem issue {v : Value} (h : v.PlainWithin n) (kind : IssueKind) :
    (Checked.issue kind v : Checked α).Plain n :=
  List.forall_mem_singleton.2 ⟨h, fun _ hs => nomatch hs⟩

theorem map {c : Checked α} (h : c.Plain n) (f : α → β) : (f <$> c).Plain n := by
  cases c with
  | fine a => exact fine (f a)
  | flawed issues => exact h

theorem ap {f : Checked (α → β)} {c : Checked α} (hf : f.Plain n) (h : c.Plain n) :
    (f <*> c).Plain n := by
  intro i hi
  rcases List.mem_append.1 (Checked.issues_ap f c ▸ hi) with hi | hi
  · exact hf i hi
  · exact h i hi

theorem under {c : Checked α} (h : c.Plain n) {s : Step} (hs : s.value.PlainWithin 0) :
    (c.under s).Plain n := by
  cases c with
  | fine a => exact fine a
  | flawed issues =>
    intro i hi
    obtain ⟨j, hj, rfl⟩ := List.mem_map.1 hi
    exact ⟨(h j hj).found, List.forall_mem_cons.2 ⟨hs, (h j hj).place⟩⟩

end Checked.Plain

namespace Shape

open Checked (Plain)

/-- The issues of a plain value are plain, and show nothing that is nested deeper. -/
def KeepsPlain (n : Nat) (shape : Shape α) : Prop := ∀ v, v.PlainWithin n → (shape v).Plain n

variable {shape : Shape α}

theorem keepsPlain_any : KeepsPlain n any := fun v _ => Plain.fine v

theorem keepsPlain_text : KeepsPlain n text := by
  intro v hv
  unfold text
  split
  · exact .fine _
  · cases hv.plain
  · exact .issue hv _

theorem keepsPlain_truth : KeepsPlain n truth := by
  intro v hv
  unfold truth
  split
  · exact .fine _
  · split
    · exact .fine _
    · exact .issue hv _
  · cases hv.plain
  · exact .fine _
  · exact .fine _
  · exact .issue hv _
  · split
    · exact .fine _
    · exact .fine _
    · exact .issue hv _
    · exact .issue hv _
  · exact .issue hv _

theorem KeepsPlain.orNull (h : KeepsPlain n shape) : KeepsPlain n (orNull shape) := by
  intro v hv
  unfold Shape.orNull
  split
  · exact .fine none
  · exact (h v hv).map some

/-- The items of a list with a number that can be written.  The induction is on the items, and the
index grows up to their number. -/
theorem KeepsPlain.itemsFrom (h : KeepsPlain n shape) {xs : List Value} {i : Nat}
    (hlength : DigitLimit.allows (i + xs.length : Nat) = true)
    (hxs : ∀ x ∈ xs, x.PlainWithin n) : (itemsFrom shape i xs).Plain n := by
  induction xs generalizing i with
  | nil => exact .fine []
  | cons x rest ih =>
    obtain ⟨hx, hrest⟩ := List.forall_mem_cons.1 hxs
    rw [List.length_cons] at hlength
    have hstep : (Step.index i).value.PlainWithin 0 :=
      .int (DigitLimit.allows_of_natAbs_le (by omega) hlength)
    refine (((h x hx).under hstep).map List.cons).ap (ih ?_ hrest)
    rwa [Nat.add_right_comm, Nat.add_assoc]

theorem KeepsPlain.list (h : KeepsPlain n shape) : KeepsPlain n (list shape) := by
  intro v hv
  unfold Shape.list
  split
  · cases hv.plain with
    | list hlength _ => exact h.itemsFrom (by simpa using hlength) hv.items
  · cases hv.plain
  · exact .issue hv _

theorem plain_key {k : Value} (h : Json.IsKey k) : (key k).Plain n :=
  have hk : k.PlainWithin n := ⟨h.plain, by rw [h.nesting_eq]; exact Nat.zero_le n⟩
  ((keepsPlain_text k hk).under (Step.plain_name _)).under (Step.plain_ofKey h)

theorem KeepsPlain.entries (h : KeepsPlain n shape) {es : Entries} (hkeys : ∀ e ∈ es, Json.IsKey e.1)
    (hvalues : ∀ e ∈ es, e.2.PlainWithin n) : (entries shape es).Plain n := by
  induction es with
  | nil => exact .fine []
  | cons e rest ih =>
    obtain ⟨k, v⟩ := e
    obtain ⟨hk, hkeys⟩ := List.forall_mem_cons.1 hkeys
    obtain ⟨hv, hvalues⟩ := List.forall_mem_cons.1 hvalues
    exact ((((plain_key hk).map Prod.mk).ap ((h v hv).under (Step.plain_ofKey hk))).map List.cons).ap
      (ih hkeys hvalues)

theorem KeepsPlain.table (h : KeepsPlain n shape) : KeepsPlain n (table shape) := by
  intro v hv
  unfold Shape.table
  split
  · exact (h.entries hv.keys hv.values).map Table.ofList
  · exact .issue hv _

/-! ### Fields -/

variable {es : Entries}

theorem plain_of_find {naming : Naming} {name : String} {v : Value}
    (hes : (Value.map es).PlainWithin n) (h : naming.find es = some (name, v)) :
    v.PlainWithin n := by
  unfold Naming.find at h
  split at h
  · rename_i hget
    cases h
    exact hes.get? hget
  · obtain ⟨w, hget, he⟩ := Option.map_eq_some_iff.1 h
    cases he
    exact hes.get? hget

theorem KeepsPlain.required (h : KeepsPlain n shape) (hes : (Value.map es).PlainWithin n)
    (naming : Naming) : (required es naming shape).Plain n := by
  unfold Shape.required
  split
  · exact (h _ (plain_of_find hes ‹_›)).under (Step.plain_name _)
  · exact Plain.under (.issue hes _) (Step.plain_name _)

theorem KeepsPlain.withDefault (h : KeepsPlain n shape) (hes : (Value.map es).PlainWithin n)
    (naming : Naming) (default : α) : (withDefault es naming shape default).Plain n := by
  unfold Shape.withDefault
  split
  · exact (h _ (plain_of_find hes ‹_›)).under (Step.plain_name _)
  · exact .fine default

/-- A record keeps plain what its fields do. -/
theorem keepsPlain_record {fields : Entries → Checked α}
    (h : ∀ es, (Value.map es).PlainWithin n → (fields es).Plain n) (model : String) :
    KeepsPlain n (record model fields) := by
  intro v hv
  unfold record
  split
  · exact h _ hv
  · exact .issue hv _

end Shape
end ToolGateway
