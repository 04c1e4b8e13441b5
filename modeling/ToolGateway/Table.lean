/-
# Ordered tables

A table maps names to entries and keeps the order in which the names were first put. Putting a
name again changes its entry and leaves its place. Documents, arguments, headers and fields are
tables, and their order shows in every answer.
-/

namespace ToolGateway

/-- Names with their entries, in the order of their first mention. -/
abbrev Table (α : Type) := List (String × α)

namespace Table

variable {α β : Type}

/-- The entry of a name. -/
def get? (t : Table α) (name : String) : Option α :=
  match t with
  | [] => none
  | (k, v) :: rest => if k = name then some v else get? rest name

/-- The names in order. -/
def names (t : Table α) : List String := t.map Prod.fst

/-- The table has an entry of that name. -/
def has (t : Table α) (name : String) : Bool := (t.get? name).isSome

/-- Replaces the entry of a name in place, or adds it at the end. -/
def put (t : Table α) (name : String) (v : α) : Table α :=
  match t with
  | [] => [(name, v)]
  | (k, w) :: rest => if k = name then (k, v) :: rest else (k, w) :: put rest name v

/-- Puts all entries of the second table into the first, in order. -/
def union (t u : Table α) : Table α := u.foldl (fun acc e => acc.put e.1 e.2) t

/-- The table of a list of entries: a repeated name keeps its first place and its last entry. -/
def ofList (entries : List (String × α)) : Table α := union [] entries

@[simp] theorem get?_nil (name : String) : get? ([] : Table α) name = none := rfl

theorem get?_cons (k : String) (v : α) (t : Table α) (name : String) :
    get? ((k, v) :: t) name = if k = name then some v else get? t name := rfl

/-- In tables one behind the other those in front are found first. -/
theorem get?_append (t u : Table α) (name : String) :
    get? (t ++ u) name = (t.get? name).or (u.get? name) := by
  induction t with
  | nil => simp
  | cons e rest ih =>
    obtain ⟨k, w⟩ := e
    rw [List.cons_append, get?_cons, get?_cons, ih]
    by_cases hk : k = name <;> simp [hk]

/-- A put name has the new entry and the other names keep theirs. -/
theorem get?_put (t : Table α) (name : String) (v : α) (other : String) :
    (t.put name v).get? other = if name = other then some v else t.get? other := by
  induction t with
  | nil => simp [put, get?_cons]
  | cons e rest ih =>
    obtain ⟨k, w⟩ := e
    unfold put
    by_cases hk : k = name
    · subst hk
      rw [if_pos rfl, get?_cons, get?_cons]
      by_cases ho : k = other <;> simp [ho]
    · rw [if_neg hk, get?_cons, get?_cons, ih]
      by_cases ho : k = other
      · subst ho
        simp [Ne.symm hk]
      · simp [ho]

/-- The names are kept, and a new one goes to the end. -/
theorem names_put (t : Table α) (name : String) (v : α) :
    (t.put name v).names = if name ∈ t.names then t.names else t.names ++ [name] := by
  induction t with
  | nil => simp [put, names]
  | cons e rest ih =>
    obtain ⟨k, w⟩ := e
    unfold put
    by_cases hk : k = name
    · simp [hk, names]
    · rw [if_neg hk]
      simp only [names, List.map_cons] at ih ⊢
      rw [ih]
      by_cases hm : name ∈ rest.map Prod.fst <;> simp [hm, Ne.symm hk]

theorem get?_eq_none_iff (t : Table α) (name : String) : t.get? name = none ↔ name ∉ t.names := by
  induction t with
  | nil => simp [names]
  | cons e rest ih =>
    obtain ⟨k, w⟩ := e
    rw [get?_cons]
    simp only [names, List.map_cons, List.mem_cons, not_or] at ih ⊢
    by_cases hk : k = name
    · simp [hk]
    · simp [hk, ih, Ne.symm hk]

/-- What is found under a name stands in the table. -/
theorem mem_of_get? {t : Table α} {name : String} {v : α} (h : t.get? name = some v) :
    (name, v) ∈ t := by
  induction t with
  | nil => cases h
  | cons e rest ih =>
    obtain ⟨k, w⟩ := e
    rw [get?_cons] at h
    split at h
    · rename_i hk
      cases h
      exact hk ▸ List.mem_cons_self
    · exact List.mem_cons_of_mem _ (ih h)

/-- Under names that are all different every entry is found under its own. -/
theorem get?_of_mem {t : Table α} (h : t.names.Nodup) {name : String} {v : α}
    (hm : (name, v) ∈ t) : t.get? name = some v := by
  induction t with
  | nil => cases hm
  | cons e rest ih =>
    obtain ⟨k, w⟩ := e
    obtain ⟨hk, hr⟩ := List.nodup_cons.1 h
    rw [get?_cons]
    rcases List.mem_cons.1 hm with he | hm
    · cases he
      rw [if_pos rfl]
    · have hn : name ∈ names rest := List.mem_map.2 ⟨_, hm, rfl⟩
      rw [if_neg fun he : k = name => hk (he ▸ hn)]
      exact ih hr hm

/-- Putting keeps the names distinct. -/
theorem nodup_names_put {t : Table α} (h : t.names.Nodup) (name : String) (v : α) :
    (t.put name v).names.Nodup := by
  rw [names_put]
  split
  · exact h
  · rename_i hm
    rw [List.nodup_append]
    exact ⟨h, by simp, by
      intro a ha b hb
      rw [List.mem_singleton] at hb
      subst hb
      exact fun hab => hm (hab ▸ ha)⟩

/-- A union keeps the names distinct. -/
theorem nodup_names_union {t : Table α} (h : t.names.Nodup) (u : Table α) :
    (t.union u).names.Nodup := by
  unfold union
  induction u generalizing t with
  | nil => exact h
  | cons e rest ih => exact ih (nodup_names_put h e.1 e.2)

/-- The names of a table made from a list are distinct. -/
theorem nodup_names_ofList (entries : List (String × α)) : (ofList entries).names.Nodup :=
  @nodup_names_union α [] List.nodup_nil entries

/-- A name that is not yet there goes to the end. -/
theorem put_of_not_mem {t : Table α} {name : String} (h : name ∉ t.names) (v : α) :
    t.put name v = t ++ [(name, v)] := by
  induction t with
  | nil => rfl
  | cons e rest ih =>
    obtain ⟨k, w⟩ := e
    simp only [names, List.map_cons, List.mem_cons, not_or] at h ih
    rw [put, if_neg (Ne.symm h.1), ih h.2, List.cons_append]

/-- Entries under names that are all different are put one behind the other. -/
theorem union_eq_append {t u : Table α} (h : (t.names ++ u.names).Nodup) :
    t.union u = t ++ u := by
  unfold union
  induction u generalizing t with
  | nil => simp
  | cons e rest ih =>
    obtain ⟨k, v⟩ := e
    have hk : k ∉ t.names := by
      intro hm
      exact (List.nodup_append.1 h).2.2 k hm k (by simp [names]) rfl
    have hr : (names (t ++ [(k, v)]) ++ names rest).Nodup := by
      simpa [names] using h
    rw [List.foldl_cons, put_of_not_mem hk, ih hr, List.append_assoc, List.singleton_append]

/-- A table with distinct names is the table of its entries. -/
theorem ofList_eq_self {t : Table α} (h : t.names.Nodup) : ofList t = t :=
  union_eq_append (t := []) h

end Table
end ToolGateway
