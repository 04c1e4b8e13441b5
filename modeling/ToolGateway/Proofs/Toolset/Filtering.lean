/-
# Filtering and merging

The sets of several surfaces are merged and what comes out is filtered by the allow-list.  Each set
could as well be filtered on its own and the rest be merged: a policy that does not fail of all tools
does not fail of those that are let through, and selects the same of them (`resolve_filter_result`).
The log of a filtering is a summary whose numbers add up (`filterLog_eq`, `accounts_summary`).
Together this is `filter_commutes_with_merge`.
-/

import ToolGateway.Proofs.Toolset.Merging

namespace ToolGateway

variable {p : Policy} {a : AllowList} {tools : List Tool}

namespace Policy

theorem duplicateNames_eq_nil_iff : duplicateNames tools = [] ↔ (tools.map (·.name)).Nodup := by
  refine ⟨nodup_of_duplicateNames, fun hd => List.eq_nil_iff_forall_not_mem.2 fun n hn => ?_⟩
  have htwice := ((repeats_duplicateNames tools).mem_iff n).1 hn
  have honce := List.nodup_iff_count_le_one.1 hd n
  omega

/-- Only the policy that wants names to differ may fail. -/
theorem exists_resolve_result (h : p ≠ .error) (tools : List Tool) :
    ∃ out, (p.resolve tools).result = .ok out := by
  cases p with
  | keep => exact ⟨_, resolve_keep_result tools⟩
  | first => exact ⟨_, resolve_first_result tools⟩
  | error => exact absurd rfl h

/-- **A filter by names may come first.**  If a policy does not fail, it does not fail of the tools
that are let through either, and selects of them what is let through of its selection. -/
theorem resolve_filter_result {q : Tool → Bool} (hq : ∀ t u : Tool, u.name = t.name → q u = q t)
    {out : List Tool} (h : (p.resolve tools).result = .ok out) :
    (p.resolve (tools.filter q)).result = .ok (out.filter q) := by
  obtain rfl := resolve_eq_ok h
  cases p with
  | keep => exact resolve_keep_result _
  | first =>
    rw [resolve_first_result]
    exact congrArg Except.ok (filter_firstOf hq [] tools).symm
  | error =>
    have hnil : duplicateNames tools = [] := by
      by_contra hne
      rw [resolve_error_result, if_neg hne] at h
      cases h
    -- Where all names differ, those of some of the tools do.
    have hnodup := (duplicateNames_eq_nil_iff.1 hnil).sublist
      ((List.filter_sublist (p := q)).map (·.name))
    rw [resolve_error_result, if_pos (duplicateNames_eq_nil_iff.2 hnodup)]
    rfl

end Policy

namespace AllowList

/-- The tools of several sets, merged and then filtered. -/
def mergeThenFilter (p : Policy) (a : AllowList) (sets : List (List Tool)) :
    Outcome (List Tool) := do
  let merged ← p.merge sets
  a.filter merged

/-- The tools of several sets, each set filtered on its own, and then merged. -/
def filterThenMerge (p : Policy) (a : AllowList) (sets : List (List Tool)) :
    Outcome (List Tool) := do
  let kept ← sets.mapM a.filter
  p.merge kept

/-- Sets that are filtered one after the other keep what is let through of each. -/
theorem mapM_filter_result (a : AllowList) (sets : List (List Tool)) :
    (sets.mapM a.filter).result = .ok (sets.map (·.filter a.allows)) := by
  induction sets with
  | nil => rfl
  | cons set rest ih =>
    rw [List.mapM_cons]
    exact Outcome.bind_result_eq_ok.2
      ⟨_, rfl, Outcome.bind_result_eq_ok.2 ⟨_, ih, rfl⟩⟩

variable {sets : List (List Tool)} {merged : List Tool}

theorem mergeThenFilter_result (h : (p.merge sets).result = .ok merged) :
    (mergeThenFilter p a sets).result = .ok (merged.filter a.allows) :=
  Outcome.bind_result_eq_ok.2 ⟨merged, h, rfl⟩

theorem filterThenMerge_result (h : (p.merge sets).result = .ok merged) :
    (filterThenMerge p a sets).result = .ok (merged.filter a.allows) := by
  refine Outcome.bind_result_eq_ok.2 ⟨_, mapM_filter_result a sets, ?_⟩
  unfold Policy.merge
  rw [← List.filter_flatten]
  exact Policy.resolve_filter_result (fun _ _ => a.allows_congr) h

/-! ### The summary of a filtering -/

/-- What the log of a filtering says: how many tools are kept of how many, how many are disabled, the
names of these that are shown, and how many more there are. -/
structure Summary where
  kept : Nat
  total : Nat
  disabled : Nat
  shown : List String
  more : Nat

namespace Summary

/-- What is logged about the disabled tools. -/
def disabledText (s : Summary) : String :=
  "Disabled tools (" ++ toString s.disabled ++ "): " ++ ", ".intercalate s.shown
    ++ (if s.more = 0 then "" else " ... and " ++ toString s.more ++ " more")

/-- The summary as it is logged; without disabled tools nothing is said of them. -/
def entries (s : Summary) : List LogEntry :=
  ⟨.info, keptText s.kept s.total⟩ :: (if s.disabled = 0 then [] else [⟨.info, s.disabledText⟩])

/-- The summary counts the tools with the names of the list and those with other names, shows the
first of the other names, and its numbers add up. -/
structure Accounts (s : Summary) (a : AllowList) (tools : List Tool) : Prop where
  kept_eq : s.kept = (tools.filter fun t => t.name ∈ a.names).length
  total_eq : s.total = tools.length
  disabled_eq : s.disabled = (tools.filter fun t => t.name ∉ a.names).length
  shown_prefix : s.shown <+: (tools.filter fun t => t.name ∉ a.names).map (·.name)
  shown_le : s.shown.length ≤ previewLength
  kept_add_disabled : s.kept + s.disabled = s.total
  shown_add_more : s.shown.length + s.more = s.disabled

end Summary

/-- The names of the tools that are not let through. -/
def disabledNames (a : AllowList) (tools : List Tool) : List String :=
  (tools.filter fun t => !a.allows t).map (·.name)

/-- The summary of a filtering. -/
def summary (a : AllowList) (tools : List Tool) : Summary where
  kept := (tools.filter a.allows).length
  total := tools.length
  disabled := (a.disabledNames tools).length
  shown := (a.disabledNames tools).take previewLength
  more := (a.disabledNames tools).length - previewLength

/-- A list with an effect logs the summary. -/
theorem filterLog_eq (h : a.enabled = true) (tools : List Tool) :
    a.filterLog tools = (a.summary tools).entries := by
  have htext : disabledText (a.disabledNames tools) = (a.summary tools).disabledText := by
    unfold disabledText Summary.disabledText summary
    dsimp only
    by_cases hmore : previewLength < (a.disabledNames tools).length
    · rw [if_pos hmore, if_neg (by omega)]
    · rw [if_neg hmore, if_pos (by omega)]
  unfold filterLog Summary.entries
  rw [if_pos h, ← htext]
  unfold summary disabledNames
  simp only [List.isEmpty_iff, List.length_eq_zero_iff]

/-- With an effect the list lets through what it names. -/
theorem filter_allows_eq (h : a.enabled = true) (tools : List Tool) :
    tools.filter a.allows = tools.filter fun t => t.name ∈ a.names :=
  List.filter_congr fun t _ => by simp [allows_eq_contains h]

theorem disabledNames_eq (h : a.enabled = true) (tools : List Tool) :
    a.disabledNames tools = (tools.filter fun t => t.name ∉ a.names).map (·.name) :=
  congrArg (List.map _) (List.filter_congr fun t _ => by simp [allows_eq_contains h])

/-- **The summary adds up.**  Kept and disabled tools are counted by separate passes, and only some
names are shown. -/
theorem accounts_summary (h : a.enabled = true) (tools : List Tool) :
    (a.summary tools).Accounts a tools where
  kept_eq := congrArg List.length (filter_allows_eq h tools)
  total_eq := rfl
  disabled_eq := by
    show (a.disabledNames tools).length = _
    rw [disabledNames_eq h, List.length_map]
  shown_prefix := by
    rw [← disabledNames_eq h]
    exact List.take_prefix _ _
  shown_le := List.length_take_le _ _
  kept_add_disabled := by
    show (tools.filter a.allows).length + (a.disabledNames tools).length = tools.length
    unfold disabledNames
    rw [List.length_map, ← List.length_eq_length_filter_add]
  shown_add_more := by
    show ((a.disabledNames tools).take previewLength).length
      + ((a.disabledNames tools).length - previewLength) = (a.disabledNames tools).length
    rw [List.length_take]
    omega

/-! ### The theorem -/

/-- **An allow-list commutes with merging.**  The policies that keep all tools, or the first of each
name, always merge.  Whenever sets are merged, filtering what comes out and merging the filtered sets
end well, and with the same tools.  If the list has an effect, these are the merged tools with a name
of the list, in their order; what is logged besides the merging is one summary, whose numbers of kept
and disabled tools add up to all, and whose shown names and further ones to the disabled. -/
theorem filter_commutes_with_merge (a : AllowList) (sets : List (List Tool)) :
    (∀ p, p ≠ Policy.error → ∃ merged, (p.merge sets).result = .ok merged) ∧
    ∀ p merged, (Policy.merge p sets).result = .ok merged →
      ∃ out,
        (mergeThenFilter p a sets).result = .ok out ∧
        (filterThenMerge p a sets).result = .ok out ∧
        (a.enabled = true →
          out = merged.filter (fun t => t.name ∈ a.names) ∧
          ∃ s : Summary, s.Accounts a merged ∧
            (mergeThenFilter p a sets).log = (p.merge sets).log ++ s.entries) := by
  refine ⟨fun p hp => Policy.exists_resolve_result hp sets.flatten, fun p merged h =>
    ⟨merged.filter a.allows, mergeThenFilter_result h, filterThenMerge_result h, fun ha =>
      ⟨filter_allows_eq ha merged, a.summary merged, accounts_summary ha merged, ?_⟩⟩⟩
  unfold mergeThenFilter
  rw [Outcome.bind_log_of_ok h, ← filterLog_eq ha]
  rfl

/-- A tool of which only the name matters. -/
def bareTool (name : String) : Tool := ⟨name, "", [], fun _ => pure .null, none, none, none⟩

/-- Two sets with one name in both of them. -/
def shopSets : List (List Tool) :=
  [["greet", "list", "pay"].map bareTool, ["greet", "sell", "ship", "take", "tell"].map bareTool]

/-- Of eight tools seven have names of their own; one of these is allowed, and of the other six five
are shown. -/
theorem shopSets_filtered :
    let a : AllowList := ⟨false, ["greet"]⟩
    a.enabled = true ∧ ∃ merged out,
      (Policy.first.merge shopSets).result = .ok merged ∧
      (mergeThenFilter .first a shopSets).result = .ok out ∧
      (filterThenMerge .first a shopSets).result = .ok out ∧
      out = merged.filter (fun t => t.name ∈ a.names) ∧ out.map (·.name) = ["greet"] ∧
      (∃ s : Summary, s.Accounts a merged ∧
        (mergeThenFilter .first a shopSets).log
          = (Policy.first.merge shopSets).log ++ s.entries) ∧
      (mergeThenFilter .first a shopSets).log =
        [⟨.warning, "Duplicate tool names, keeping first occurrence: greet"⟩,
          ⟨.info, "Tool filtering enabled: 1/7 tools allowed"⟩,
          ⟨.info, "Disabled tools (6): list, pay, sell, ship, take ... and 1 more"⟩] := by
  intro a
  obtain ⟨hmerges, hcommutes⟩ := filter_commutes_with_merge a shopSets
  obtain ⟨merged, hmerged⟩ := hmerges .first (by decide)
  obtain ⟨out, hout, hout', hsummary⟩ := hcommutes .first merged hmerged
  obtain ⟨hfilter, hlog⟩ := hsummary rfl
  have hnames : (mergeThenFilter .first a shopSets).result.toOption.map (·.map (·.name))
      = some ["greet"] := by decide +kernel
  rw [hout] at hnames
  exact ⟨rfl, merged, out, hmerged, hout, hout', hfilter, Option.some.inj hnames, hlog,
    by decide +kernel⟩

/-- The policy that wants names to differ may fail of names that the list would have taken out. -/
example :
    let a : AllowList := ⟨false, ["list"]⟩
    (mergeThenFilter .error a shopSets).result.toOption.isNone ∧
      (filterThenMerge .error a shopSets).result.toOption.map (·.map (·.name)) = some ["list"] := by
  decide +kernel

end AllowList
end ToolGateway
