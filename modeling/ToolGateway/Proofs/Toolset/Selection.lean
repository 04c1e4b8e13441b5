/-
# Which tools are selected

A policy and an allow-list select tools by their names.  Under the policy that keeps the first of a
name these are the first ones, and under the others all (`resolve_eq_ok`); the allow-list then lets
some names through.  So the first tool of a name stays the first (`find?_selected`, `find?_filter`),
what stands behind does not touch what stands in front (`selected_prefix`), and tools that look
alike are selected alike (`alike_resolve`, `alike_filter`).
-/

import ToolGateway.Proofs.Tool.Twins
import ToolGateway.Toolset.Assemble

namespace ToolGateway

open Tool (LooksLike)

variable {tools tools' : List Tool} {name : String}

namespace Policy

/-! ### The first tool of each name -/

theorem find?_firstOf (seen : List String) (tools : List Tool) (name : String) :
    (firstOf seen tools).find? (fun t => t.name = name) =
      if name ∈ seen then none else tools.find? fun t => t.name = name := by
  induction tools generalizing seen with
  | nil => simp [firstOf]
  | cons t rest ih =>
    rw [firstOf]
    by_cases ht : t.name ∈ seen
    · rw [if_pos ht, ih]
      by_cases hn : name ∈ seen
      · rw [if_pos hn, if_pos hn]
      · have hne : t.name ≠ name := fun he => hn (he ▸ ht)
        rw [if_neg hn, if_neg hn, List.find?_cons, decide_eq_false hne]
    · rw [if_neg ht, List.find?_cons, List.find?_cons, ih]
      by_cases he : t.name = name
      · subst he
        simp [ht]
      · simp [he, Ne.symm he]

/-- Only those of the seen names count that tools have. -/
theorem firstOf_congr {seen seen' : List String}
    (h : ∀ t ∈ tools, t.name ∈ seen ↔ t.name ∈ seen') : firstOf seen tools = firstOf seen' tools := by
  induction tools generalizing seen seen' with
  | nil => rfl
  | cons t rest ih =>
    rw [List.forall_mem_cons] at h
    rw [firstOf, firstOf, ih h.2]
    have hrest : firstOf (t.name :: seen) rest = firstOf (t.name :: seen') rest := by
      refine ih fun u hu => ?_
      rw [List.mem_cons, List.mem_cons, h.2 u hu]
    by_cases ht : t.name ∈ seen
    · rw [if_pos ht, if_pos (h.1.1 ht)]
    · rw [if_neg ht, if_neg fun h' => ht (h.1.2 h'), hrest]

/-- A filter that looks at names only may come before or after. -/
theorem filter_firstOf {p : Tool → Bool} (hp : ∀ t u : Tool, u.name = t.name → p u = p t)
    (seen : List String) (tools : List Tool) :
    (firstOf seen tools).filter p = firstOf seen (tools.filter p) := by
  induction tools generalizing seen with
  | nil => rfl
  | cons t rest ih =>
    rw [firstOf, List.filter_cons]
    by_cases ht : t.name ∈ seen
    · rw [if_pos ht, ih]
      split
      · rw [firstOf, if_pos ht]
      · rfl
    · rw [if_neg ht, List.filter_cons, ih]
      split
      · rw [firstOf, if_neg ht]
      · rename_i hrefused
        -- No other tool of the name is let through, so it does not matter that the name was seen.
        refine firstOf_congr fun u hu => ?_
        have hne : u.name ≠ t.name := fun he =>
          hrefused ((hp t u he).symm.trans (List.mem_filter.1 hu).2)
        rw [List.mem_cons, or_iff_right hne]

/-- Tools whose names differ are all the first of their names. -/
theorem firstOf_eq_self {seen : List String} (hd : (tools.map (·.name)).Nodup)
    (hs : ∀ t ∈ tools, t.name ∉ seen) : firstOf seen tools = tools := by
  induction tools generalizing seen with
  | nil => rfl
  | cons t rest ih =>
    obtain ⟨ht, hrest⟩ := List.nodup_cons.1 hd
    rw [firstOf, if_neg (hs t List.mem_cons_self), ih hrest]
    intro u hu hmem
    rcases List.mem_cons.1 hmem with he | hmem
    · exact ht (List.mem_map.2 ⟨u, hu, he⟩)
    · exact hs u (List.mem_cons_of_mem _ hu) hmem

/-- Whether a tool in front is the first of its name does not depend on those behind; those behind
have the names of all in front before them. -/
theorem firstOf_append (seen : List String) (tools more : List Tool) :
    firstOf seen (tools ++ more) =
      firstOf seen tools ++ firstOf (seen ++ tools.map (·.name)) more := by
  induction tools generalizing seen with
  | nil => rw [List.map_nil, List.append_nil, List.nil_append, firstOf, List.nil_append]
  | cons t rest ih =>
    rw [List.cons_append, firstOf, firstOf, List.map_cons]
    by_cases ht : t.name ∈ seen
    · rw [if_pos ht, if_pos ht, ih]
      refine congrArg _ (firstOf_congr fun u _ => ?_)
      -- The name of `t` is no new one.
      have hname : u.name = t.name → u.name ∈ seen := fun he => he ▸ ht
      rw [List.mem_append, List.mem_append, List.mem_cons]
      tauto
    · rw [if_neg ht, if_neg ht, ih, List.cons_append]
      refine congrArg (_ :: _ ++ ·) (firstOf_congr fun u _ => ?_)
      rw [List.mem_append, List.mem_cons, List.mem_cons, List.mem_append]
      tauto

/-! ### Policies -/

/-- Without a repeated name all names differ. -/
theorem nodup_of_duplicateNames (h : duplicateNames tools = []) :
    (tools.map (·.name)).Nodup := by
  rw [List.nodup_iff_count_le_one]
  intro n
  by_contra hc
  have hm : n ∈ duplicateNames tools := by
    unfold duplicateNames repeatedNames
    refine List.mem_filter.2 ⟨?_, decide_eq_true (by omega)⟩
    exact List.mem_eraseDups.2 (List.count_pos_iff.1 (by omega))
  rw [h] at hm
  cases hm

/-- The tools that a policy selects. -/
def selected (p : Policy) (tools : List Tool) : List Tool :=
  if p = .first then firstOf [] tools else tools

/-- A policy that does not fail selects its tools. -/
theorem resolve_eq_ok {p : Policy} {out : List Tool} (h : (p.resolve tools).result = .ok out) :
    out = p.selected tools := by
  unfold resolve at h
  dsimp only at h
  split at h
  · rename_i hd
    cases h
    unfold selected
    split
    · rw [firstOf_eq_self (nodup_of_duplicateNames (List.isEmpty_iff.1 hd)) (by simp)]
    · rfl
  · cases p with
    | error => cases h
    | first =>
      cases h
      rfl
    | keep =>
      cases h
      rfl

theorem resolve_keep_result (tools : List Tool) : (keep.resolve tools).result = .ok tools := by
  unfold resolve
  dsimp only
  split <;> rfl

theorem resolve_first_result (tools : List Tool) :
    (first.resolve tools).result = .ok (firstOf [] tools) := by
  unfold resolve
  dsimp only
  split
  · rename_i hd
    rw [firstOf_eq_self (nodup_of_duplicateNames (List.isEmpty_iff.1 hd)) (by simp)]
    rfl
  · rfl

/-- The first tool of a name is selected. -/
theorem find?_selected (p : Policy) (tools : List Tool) (name : String) :
    (p.selected tools).find? (fun t => t.name = name) = tools.find? fun t => t.name = name := by
  unfold selected
  split
  · rw [find?_firstOf, if_neg List.not_mem_nil]
  · rfl

/-- What is selected from tools in front is selected first. -/
theorem selected_prefix (p : Policy) (tools more : List Tool) :
    p.selected tools <+: p.selected (tools ++ more) := by
  unfold selected
  split
  · exact ⟨_, (firstOf_append [] tools more).symm⟩
  · exact List.prefix_append tools more

theorem map_name_eq (h : List.Forall₂ LooksLike tools tools') :
    tools'.map (·.name) = tools.map (·.name) := by
  induction h with
  | nil => rfl
  | cons htu _ ih => rw [List.map_cons, List.map_cons, htu.name_eq, ih]

theorem forall₂_firstOf (h : List.Forall₂ LooksLike tools tools') (seen : List String) :
    List.Forall₂ LooksLike (firstOf seen tools) (firstOf seen tools') := by
  induction h generalizing seen with
  | nil => exact .nil
  | cons htu _ ih =>
    rw [firstOf, firstOf, htu.name_eq]
    split
    · exact ih _
    · exact .cons htu (ih _)

/-- A policy looks at names only. -/
theorem alike_resolve (p : Policy) (h : List.Forall₂ LooksLike tools tools') :
    Outcome.Alike (List.Forall₂ LooksLike) (p.resolve tools) (p.resolve tools') := by
  have hd : duplicateNames tools' = duplicateNames tools := congrArg repeatedNames (map_name_eq h)
  unfold resolve
  rw [hd]
  dsimp only
  split
  · exact .pure h
  · cases p with
    | error => exact ⟨rfl, .error _⟩
    | first => exact ⟨rfl, .ok (forall₂_firstOf h [])⟩
    | keep => exact ⟨rfl, .ok h⟩

end Policy

namespace AllowList

/-- An allow-list looks at names only. -/
theorem allows_congr (a : AllowList) {t u : Tool} (h : u.name = t.name) :
    a.allows u = a.allows t := by
  unfold allows
  rw [h]

theorem filter_everything_result (tools : List Tool) :
    (everything.filter tools).result = .ok tools :=
  congrArg Except.ok (List.filter_eq_self.2 fun t _ => allows_of_not_enabled rfl t)

/-- The first tool of a name is let through, or none of its tools is. -/
theorem find?_filter (a : AllowList) (tools : List Tool) (name : String) :
    (tools.filter a.allows).find? (fun t => t.name = name) =
      (tools.find? fun t => t.name = name).filter a.allows := by
  induction tools with
  | nil => rfl
  | cons t rest ih =>
    rw [List.filter_cons, List.find?_cons]
    by_cases hn : t.name = name
    · by_cases ha : a.allows t = true
      · simp [hn, ha, Option.filter]
      · have hrest : (rest.find? fun u => u.name = name).filter a.allows = none := by
          refine Option.filter_eq_none_iff.2 fun u hu => ?_
          have hun : u.name = name := by simpa using List.find?_some hu
          rwa [a.allows_congr (hun.trans hn.symm)]
        rw [if_neg ha, ih, hrest, decide_eq_true hn]
        simp [ha, Option.filter]
    · by_cases ha : a.allows t = true
      · simp [hn, ha, ih]
      · simp [hn, ha, ih]

theorem forall₂_filter {p : Tool → Bool} (hp : ∀ t u, LooksLike t u → p u = p t)
    (h : List.Forall₂ LooksLike tools tools') :
    List.Forall₂ LooksLike (tools.filter p) (tools'.filter p) := by
  induction h with
  | nil => exact .nil
  | cons htu _ ih =>
    rw [List.filter_cons, List.filter_cons, hp _ _ htu]
    split
    · exact .cons htu ih
    · exact ih

/-- A filter looks at names only. -/
theorem alike_filter (a : AllowList) (h : List.Forall₂ LooksLike tools tools') :
    Outcome.Alike (List.Forall₂ LooksLike) (a.filter tools) (a.filter tools') := by
  have hallowed := forall₂_filter (fun t u htu => a.allows_congr htu.name_eq) h
  have hrefused := @forall₂_filter _ _ (fun t => !a.allows t)
    (fun t u htu => congrArg not (a.allows_congr htu.name_eq)) h
  refine ⟨?_, .ok hallowed⟩
  show a.filterLog tools = a.filterLog tools'
  unfold filterLog
  rw [hallowed.length_eq, h.length_eq, Policy.map_name_eq hrefused]

end AllowList
end ToolGateway
