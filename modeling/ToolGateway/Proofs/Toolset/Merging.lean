/-
# What merging gives

Sets of tools are put one after the other, and a policy says what becomes of the names that occur
more than once.  The tools that are first of their names stand in the order in which their names
first occur (`pairwise_idxOf_firstOf`), and their names are the names without repetitions
(`map_name_firstOf`).  Choosing them twice is choosing them once (`firstOf_firstOf`), within a set or
across sets, so it does not matter in which groups sets are merged (`result_merge_group`).  Together
this is `merge_exact`.
-/

import ToolGateway.Proofs.Toolset.Selection

namespace ToolGateway
namespace Policy

variable {seen : List String} {tools : List Tool}

/-! ### The first tool of each name -/

theorem firstOf_sublist (seen : List String) (tools : List Tool) :
    (firstOf seen tools).Sublist tools := by
  induction tools generalizing seen with
  | nil => exact .slnil
  | cons t rest ih =>
    rw [firstOf]
    split
    · exact (ih seen).cons t
    · exact (ih (t.name :: seen)).cons_cons t

theorem not_mem_seen_of_mem_firstOf {t : Tool} (h : t ∈ firstOf seen tools) : t.name ∉ seen := by
  intro hs
  have hfind := find?_firstOf seen tools t.name
  rw [if_pos hs, List.find?_eq_none] at hfind
  exact hfind t h (decide_eq_true rfl)

/-- The first tools stand in the order in which their names first occur. -/
theorem pairwise_idxOf_firstOf (seen : List String) (tools : List Tool) :
    ((firstOf seen tools).map (·.name)).Pairwise fun m n =>
      (tools.map (·.name)).idxOf m < (tools.map (·.name)).idxOf n := by
  induction tools generalizing seen with
  | nil => exact .nil
  | cons t rest ih =>
    -- Behind `t` its name has been seen, so the places of the others are counted from there.
    have behind : ∀ seen, t.name ∈ seen → ((firstOf seen rest).map (·.name)).Pairwise fun m n =>
        ((t :: rest).map (·.name)).idxOf m < ((t :: rest).map (·.name)).idxOf n := by
      intro seen ht
      refine (ih seen).imp_of_mem fun {m n} hm hn hlt => ?_
      obtain ⟨u, hu, rfl⟩ := List.mem_map.1 hm
      obtain ⟨v, hv, rfl⟩ := List.mem_map.1 hn
      have hu : t.name ≠ u.name := fun he => not_mem_seen_of_mem_firstOf hu (he ▸ ht)
      have hv : t.name ≠ v.name := fun he => not_mem_seen_of_mem_firstOf hv (he ▸ ht)
      rw [List.map_cons, List.idxOf_cons_ne _ hu, List.idxOf_cons_ne _ hv]
      exact Nat.succ_lt_succ hlt
    rw [firstOf]
    split
    · exact behind seen ‹_›
    · refine List.pairwise_cons.2 ⟨fun n hn => ?_, behind _ List.mem_cons_self⟩
      obtain ⟨u, hu, rfl⟩ := List.mem_map.1 hn
      have hne : t.name ≠ u.name := fun he =>
        not_mem_seen_of_mem_firstOf hu (he ▸ List.mem_cons_self)
      rw [List.map_cons, List.idxOf_cons_self, List.idxOf_cons_ne _ hne]
      exact Nat.succ_pos _

theorem nodup_of_pairwise_idxOf {names out : List String}
    (h : out.Pairwise fun m n => names.idxOf m < names.idxOf n) : out.Nodup :=
  h.imp fun hlt he => absurd (congrArg names.idxOf he) (Nat.ne_of_lt hlt)

/-- The names of the first tools are the names that were not seen, without repetitions. -/
theorem map_name_firstOf (seen : List String) (tools : List Tool) :
    (firstOf seen tools).map (·.name) =
      ((tools.map (·.name)).filter (· ∉ seen)).eraseDups := by
  induction tools generalizing seen with
  | nil => rfl
  | cons t rest ih =>
    rw [firstOf, List.map_cons, List.filter_cons]
    by_cases ht : t.name ∈ seen
    · rw [if_pos ht, if_neg (by simpa using ht), ih]
    · rw [if_neg ht, if_pos (by simpa using ht), List.eraseDups_cons, List.map_cons, ih,
        List.filter_filter]
      refine congrArg (fun names => t.name :: List.eraseDups names) (List.filter_congr fun n _ => ?_)
      simp [List.mem_cons, beq_eq_decide, not_or]

theorem map_name_firstOf_nil (tools : List Tool) :
    (firstOf [] tools).map (·.name) = (tools.map (·.name)).eraseDups := by
  rw [map_name_firstOf, List.filter_eq_self.2 fun n _ => decide_eq_true List.not_mem_nil]

/-- Tools that are chosen twice are chosen once. -/
theorem firstOf_firstOf {seen seen' : List String} (h : seen' ⊆ seen) (tools : List Tool) :
    firstOf seen (firstOf seen' tools) = firstOf seen tools := by
  induction tools generalizing seen seen' with
  | nil => rfl
  | cons t rest ih =>
    rw [firstOf, firstOf]
    by_cases ht' : t.name ∈ seen'
    · rw [if_pos ht', if_pos (h ht'), ih h]
    · rw [if_neg ht', firstOf]
      by_cases ht : t.name ∈ seen
      · rw [if_pos ht, if_pos ht, ih (List.cons_subset.2 ⟨ht, h⟩)]
      · rw [if_neg ht, if_neg ht, ih (List.cons_subset_cons _ h)]

/-! ### Repeated names -/

/-- The names that occur more than once among names, each once and in the order in which they first
occur. -/
structure Repeats (names repeated : List String) : Prop where
  mem_iff : ∀ n, n ∈ repeated ↔ 2 ≤ names.count n
  nodup : repeated.Nodup
  ordered : repeated.Pairwise fun m n => names.idxOf m < names.idxOf n

theorem repeats_duplicateNames (tools : List Tool) :
    Repeats (tools.map (·.name)) (duplicateNames tools) := by
  have hordered : (duplicateNames tools).Pairwise fun m n =>
      (tools.map (·.name)).idxOf m < (tools.map (·.name)).idxOf n := by
    unfold duplicateNames repeatedNames
    rw [← map_name_firstOf_nil]
    exact (pairwise_idxOf_firstOf [] tools).sublist List.filter_sublist
  refine ⟨fun n => ?_, nodup_of_pairwise_idxOf hordered, hordered⟩
  unfold duplicateNames repeatedNames
  rw [List.mem_filter, List.mem_eraseDups, decide_eq_true_iff]
  refine and_iff_right_of_imp fun hcount => List.count_pos_iff.1 ?_
  omega

/-! ### The policies -/

/-- The first tool of every name: a part of the tools in their order, in which every name of a tool
is the name of one tool, the one that is found first. -/
structure FirstOfEach (tools out : List Tool) : Prop where
  sublist : out.Sublist tools
  nodup : (out.map (·.name)).Nodup
  find? : ∀ name, out.find? (fun t => t.name = name) = tools.find? fun t => t.name = name
  ordered : (out.map (·.name)).Pairwise fun m n =>
    (tools.map (·.name)).idxOf m < (tools.map (·.name)).idxOf n

theorem firstOfEach_firstOf (tools : List Tool) : FirstOfEach tools (firstOf [] tools) where
  sublist := firstOf_sublist [] tools
  nodup := nodup_of_pairwise_idxOf (pairwise_idxOf_firstOf [] tools)
  find? name := by rw [find?_firstOf, if_neg List.not_mem_nil]
  ordered := pairwise_idxOf_firstOf [] tools

theorem resolve_error_result (tools : List Tool) :
    (error.resolve tools).result =
      if duplicateNames tools = [] then .ok tools
      else .error (.duplicateTools (duplicateNames tools)) := by
  unfold resolve
  simp only [List.isEmpty_iff]
  split <;> rfl

/-! ### Merging in groups -/

/-- Sets of tools, and groups of what is merged on its own first. -/
inductive Grouping where
  | set (tools : List Tool)
  | group (parts : List Grouping)

namespace Grouping

mutual

/-- All sets in a grouping, in their order. -/
def sets : Grouping → List (List Tool)
  | set tools => [tools]
  | group parts => setsOfAll parts

/-- All sets in several groupings. -/
def setsOfAll : List Grouping → List (List Tool)
  | [] => []
  | part :: rest => part.sets ++ setsOfAll rest

end

mutual

/-- Merges every group of what its parts were merged into. -/
def merge (p : Policy) : Grouping → Outcome (List Tool)
  | set tools => pure tools
  | group parts => do p.merge (← mergeAll p parts)

/-- Merges every part. -/
def mergeAll (p : Policy) : List Grouping → Outcome (List (List Tool))
  | [] => pure []
  | part :: rest => do return (← part.merge p) :: (← mergeAll p rest)

end

end Grouping

/-- Tools of which the same are the first of their names, whatever names were seen before. -/
def SameFirst (tools tools' : List Tool) : Prop :=
  ∀ seen, firstOf seen tools = firstOf seen tools'

theorem SameFirst.mem_names {tools tools' : List Tool} (h : SameFirst tools tools') (n : String) :
    n ∈ tools.map (·.name) ↔ n ∈ tools'.map (·.name) := by
  rw [← List.mem_eraseDups, ← map_name_firstOf_nil, h [], map_name_firstOf_nil, List.mem_eraseDups]

theorem SameFirst.append {tools tools' more more' : List Tool} (h : SameFirst tools tools')
    (hmore : SameFirst more more') : SameFirst (tools ++ more) (tools' ++ more') := by
  intro seen
  rw [firstOf_append, firstOf_append, h seen, hmore]
  refine congrArg _ (firstOf_congr fun t _ => ?_)
  rw [List.mem_append, List.mem_append, h.mem_names]

/-- What counts as the same tools, where neither the policy nor putting tools behind each other makes a
difference. -/
structure Respects (p : Policy) (Same : List Tool → List Tool → Prop) : Prop where
  refl : ∀ tools, Same tools tools
  append : ∀ {tools tools' more more'}, Same tools tools' → Same more more' →
    Same (tools ++ more) (tools' ++ more')
  resolve : ∀ {tools tools'}, Same tools tools' →
    ∃ out, (p.resolve tools).result = .ok out ∧ Same out tools'

theorem respects_keep : Respects keep Eq where
  refl _ := rfl
  append h h' := by rw [h, h']
  resolve {tools} _ h := ⟨tools, resolve_keep_result tools, h⟩

theorem respects_first : Respects first SameFirst where
  refl _ _ := rfl
  append h h' := h.append h'
  resolve {tools} _ h := ⟨firstOf [] tools, resolve_first_result tools, fun seen =>
    (firstOf_firstOf (List.nil_subset seen) tools).trans (h seen)⟩

section Grouping

variable {p : Policy} {Same : List Tool → List Tool → Prop}

mutual

/-- A grouping is merged into the same as its sets one after the other. -/
theorem merge_same (h : p.Respects Same) : (g : Grouping) →
    ∃ out, (g.merge p).result = .ok out ∧ Same out g.sets.flatten
  | .set tools => by
    rw [Grouping.sets, List.flatten_singleton]
    exact ⟨tools, rfl, h.refl tools⟩
  | .group parts => by
    obtain ⟨outs, houts, hsame⟩ := mergeAll_same h parts
    obtain ⟨out, hout, hsame⟩ := h.resolve hsame
    rw [Grouping.sets, Grouping.merge]
    exact ⟨out, Outcome.bind_result_eq_ok.2 ⟨outs, houts, hout⟩, hsame⟩

theorem mergeAll_same (h : p.Respects Same) : (parts : List Grouping) →
    ∃ outs, (Grouping.mergeAll p parts).result = .ok outs ∧
      Same outs.flatten (Grouping.setsOfAll parts).flatten
  | [] => ⟨[], rfl, h.refl []⟩
  | part :: rest => by
    obtain ⟨out, hout, hsame⟩ := merge_same h part
    obtain ⟨outs, houts, hsames⟩ := mergeAll_same h rest
    refine ⟨out :: outs, ?_, ?_⟩
    · rw [Grouping.mergeAll]
      exact Outcome.bind_result_eq_ok.2
        ⟨out, hout, Outcome.bind_result_eq_ok.2 ⟨outs, houts, rfl⟩⟩
    · rw [Grouping.setsOfAll, List.flatten_append, List.flatten_cons]
      exact h.append hsame hsames

end

end Grouping

/-- If a policy gives the same for the same tools, groups do not matter. -/
theorem merge_group_result {p : Policy} {Same : List Tool → List Tool → Prop} (h : p.Respects Same)
    (heq : ∀ {tools tools'}, Same tools tools' →
      (p.resolve tools).result = (p.resolve tools').result) (parts : List Grouping) :
    ((Grouping.group parts).merge p).result = (p.merge (Grouping.group parts).sets).result := by
  obtain ⟨outs, houts, hsame⟩ := mergeAll_same h parts
  rw [Grouping.merge, Outcome.bind_result, houts, Grouping.sets]
  exact heq hsame

theorem merge_group_keep (parts : List Grouping) :
    ((Grouping.group parts).merge keep).result =
      (keep.merge (Grouping.group parts).sets).result :=
  merge_group_result respects_keep (fun h => by rw [h]) parts

theorem merge_group_first (parts : List Grouping) :
    ((Grouping.group parts).merge first).result =
      (first.merge (Grouping.group parts).sets).result :=
  merge_group_result respects_first
    (fun h => by rw [resolve_first_result, resolve_first_result, h []]) parts

/-- **Merging is exact.**  The repeated names of several sets are exactly those that occur more than
once among all their tools, each once and in the order of their first occurrence.  The policy that
wants names to differ fails exactly if there are such names, and then with them; otherwise it gives
the tools of the sets one after the other.  The policy that keeps all tools always gives these.  The
policy that keeps the first of a name gives the first tool of every name.  And under these two it
does not matter in which groups, and groups of groups, the sets are merged. -/
theorem merge_exact (sets : List (List Tool)) (parts : List Grouping) :
    Repeats (sets.flatten.map (·.name)) (duplicateNames sets.flatten) ∧
    (error.merge sets).result =
      (if duplicateNames sets.flatten = [] then .ok sets.flatten
      else .error (.duplicateTools (duplicateNames sets.flatten))) ∧
    (keep.merge sets).result = .ok sets.flatten ∧
    (∃ out, (first.merge sets).result = .ok out ∧ FirstOfEach sets.flatten out) ∧
    ((Grouping.group parts).merge keep).result =
      (keep.merge (Grouping.group parts).sets).result ∧
    ((Grouping.group parts).merge first).result =
      (first.merge (Grouping.group parts).sets).result :=
  ⟨repeats_duplicateNames sets.flatten, resolve_error_result sets.flatten,
    resolve_keep_result sets.flatten,
    ⟨_, resolve_first_result sets.flatten, firstOfEach_firstOf sets.flatten⟩,
    merge_group_keep parts, merge_group_first parts⟩

/-- Three sets may be merged from the left, from the right, or all at once. -/
example (a b c : List Tool) :
    (do first.merge [← first.merge [a, b], c]).result = (first.merge [a, b, c]).result ∧
    (do first.merge [a, ← first.merge [b, c]]).result = (first.merge [a, b, c]).result := by
  constructor
  · simpa [Grouping.merge, Grouping.mergeAll, Grouping.sets, Grouping.setsOfAll]
      using merge_group_first [.group [.set a, .set b], .set c]
  · simpa [Grouping.merge, Grouping.mergeAll, Grouping.sets, Grouping.setsOfAll]
      using merge_group_first [.set a, .group [.set b, .set c]]

end Policy
end ToolGateway
