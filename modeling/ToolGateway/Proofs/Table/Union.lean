/-
# Unions of tables

A union puts the entries of one table into another.  The names that are there keep their places, the
others follow in the order of their first mention (`names_union`), and of the entries of a name the
last counts (`get?_union`).  A table with distinct names is known by its names and what is found
under each (`eq_of_get?`), so the laws of unions follow from these two: they may be taken in any
grouping (`union_assoc`), and a table is not changed by its own entries (`union_self`).
-/

import ToolGateway.Table
import Mathlib.Data.List.Induction

namespace ToolGateway
namespace Table

variable {α : Type} {t u : Table α} {name : String}

/-! ### Names -/

/-- The names of the first table stay where they are, and the new ones follow, each once. -/
theorem names_union (t u : Table α) :
    (t.union u).names = t.names ++ (u.names.filter (· ∉ t.names)).eraseDups := by
  unfold union
  induction u generalizing t with
  | nil => simp [names]
  | cons e rest ih =>
    obtain ⟨k, a⟩ := e
    have hcons : names ((k, a) :: rest) = k :: names rest := rfl
    rw [List.foldl_cons, ih, names_put, hcons]
    by_cases hk : k ∈ t.names
    · rw [if_pos hk, List.filter_cons_of_neg (by simpa using hk)]
    · rw [if_neg hk, List.filter_cons_of_pos (by simpa using hk), List.eraseDups_cons,
        List.append_assoc, List.singleton_append, List.filter_filter]
      refine congrArg (fun ns => t.names ++ k :: List.eraseDups ns) ?_
      exact List.filter_congr fun n _ => by simp [beq_eq_decide, and_comm]

theorem mem_names_union {n : String} : n ∈ (t.union u).names ↔ n ∈ t.names ∨ n ∈ u.names := by
  rw [names_union, List.mem_append, List.mem_eraseDups, List.mem_filter, decide_eq_true_iff]
  tauto

/-- A table made of entries has their names in the order in which they are first mentioned. -/
theorem names_ofList (entries : List (String × α)) :
    (ofList entries).names = (names entries).eraseDups := by
  have hnew : (names entries).filter (· ∉ names ([] : Table α)) = names entries :=
    List.filter_eq_self.2 fun n _ => decide_eq_true List.not_mem_nil
  rw [ofList, names_union, hnew]
  rfl

/-- A table has the names of the entries that it is made of. -/
theorem mem_names_ofList {entries : List (String × α)} {n : String} :
    n ∈ (ofList entries).names ↔ ∃ a, (n, a) ∈ entries := by
  unfold ofList
  rw [mem_names_union]
  simp [names]

/-! ### Entries -/

theorem get?_union (t u : Table α) (name : String) :
    (t.union u).get? name = (get? u.reverse name).or (t.get? name) := by
  unfold union
  induction u generalizing t with
  | nil => simp
  | cons e rest ih =>
    obtain ⟨k, v⟩ := e
    rw [List.foldl_cons, ih, get?_put, List.reverse_cons, get?_append, get?_cons, get?_nil,
      Option.or_assoc]
    split <;> simp

/-- In the table of a list the last entry of a name counts. -/
theorem get?_ofList (entries : List (String × α)) (name : String) :
    (ofList entries).get? name = get? entries.reverse name := by
  unfold ofList
  rw [get?_union, get?_nil, Option.or_none]

/-- Under distinct names the first entry of a name is the last one. -/
theorem get?_reverse (h : t.names.Nodup) (name : String) : get? t.reverse name = t.get? name := by
  rw [← get?_ofList, ofList_eq_self h]

/-- The last of several tables that has a name decides what is found in all of them together. -/
theorem get?_ofList_flatten {ts : List (Table α)} (h : ∀ t ∈ ts, t.names.Nodup) (name : String) :
    (ofList ts.flatten).get? name = (ts.filterMap (·.get? name)).getLast? := by
  rw [get?_ofList]
  induction ts using List.reverseRecOn with
  | nil => rfl
  | append_singleton ts t ih =>
    have ht : t.names.Nodup := h t (List.mem_append_right _ (List.mem_singleton_self t))
    have hts : ∀ t ∈ ts, t.names.Nodup := fun t hm => h t (List.mem_append_left _ hm)
    rw [List.flatten_concat, List.reverse_append, get?_append, get?_reverse ht, ih hts,
      List.filterMap_append, List.getLast?_append]
    cases hget : t.get? name <;> simp [hget]

/-! ### Putting again -/

theorem get?_put_self (t : Table α) (name : String) (a : α) :
    (t.put name a).get? name = some a := by
  rw [get?_put, if_pos rfl]

/-- Nothing changes if a name is given the entry that it has. -/
theorem put_of_get? {a : α} (h : t.get? name = some a) : t.put name a = t := by
  induction t with
  | nil => cases h
  | cons e rest ih =>
    obtain ⟨k, w⟩ := e
    rw [get?_cons] at h
    by_cases hk : k = name
    · rw [if_pos hk] at h
      cases h
      rw [put, if_pos hk]
    · rw [if_neg hk] at h
      rw [put, if_neg hk, ih h]

/-! ### Laws of unions -/

/-- A table with distinct names is known by its names and its entries. -/
theorem eq_of_get? (ht : t.names.Nodup) (hn : t.names = u.names)
    (h : ∀ name, t.get? name = u.get? name) : t = u := by
  induction t generalizing u with
  | nil =>
    exact (List.map_eq_nil_iff.1 hn.symm).symm
  | cons e rest ih =>
    obtain ⟨k, a⟩ := e
    cases u with
    | nil => cases hn
    | cons e' rest' =>
      obtain ⟨k', a'⟩ := e'
      obtain ⟨hk, hr⟩ := List.nodup_cons.1 ht
      obtain ⟨rfl, hrest⟩ : k = k' ∧ names rest = names rest' := List.cons.inj hn
      obtain rfl : a = a' := by simpa [get?_cons] using h k
      refine congrArg _ (ih hr hrest fun name => ?_)
      by_cases hname : k = name
      · subst hname
        rw [(get?_eq_none_iff rest k).2 hk, (get?_eq_none_iff rest' k).2 (hrest ▸ hk)]
      · simpa [get?_cons, hname] using h name

theorem get?_union_of_nodup (hu : u.names.Nodup) (t : Table α) (name : String) :
    (t.union u).get? name = (u.get? name).or (t.get? name) := by
  rw [get?_union, get?_reverse hu]

/-- An entry may be put into the second table of a union or into the union. -/
theorem union_put (ht : t.names.Nodup) (hu : u.names.Nodup) (name : String) (a : α) :
    t.union (u.put name a) = (t.union u).put name a := by
  by_cases hm : name ∈ u.names
  · have hnames : (u.put name a).names = u.names := by rw [names_put, if_pos hm]
    refine eq_of_get? (nodup_names_union ht _) ?_ fun other => ?_
    · rw [names_union, hnames, ← names_union, names_put, if_pos (mem_names_union.2 (.inr hm))]
    · rw [get?_union_of_nodup (hnames ▸ hu), get?_put, get?_put, get?_union_of_nodup hu]
      split <;> rfl
  · rw [put_of_not_mem hm]
    exact List.foldl_append

theorem union_assoc (ht : t.names.Nodup) (hu : u.names.Nodup) (v : Table α) :
    t.union (u.union v) = (t.union u).union v := by
  induction v generalizing u with
  | nil => rfl
  | cons e rest ih =>
    calc
      t.union ((u.put e.1 e.2).union rest) = (t.union (u.put e.1 e.2)).union rest :=
        ih (nodup_names_put hu _ _)
      _ = ((t.union u).put e.1 e.2).union rest := by rw [union_put ht hu]

theorem union_self (ht : t.names.Nodup) : t.union t = t := by
  refine eq_of_get? (nodup_names_union ht t) ?_ fun name => ?_
  · rw [names_union, List.filter_eq_nil_iff.2 (by simp)]
    simp
  · rw [get?_union_of_nodup ht, Option.or_self]

/-- Tables put one after the other into a first one make the table of all their entries. -/
theorem union_ofList (entries : List (String × α)) (u : Table α) :
    (ofList entries).union u = ofList (entries ++ u) :=
  List.foldl_append.symm

end Table
end ToolGateway
