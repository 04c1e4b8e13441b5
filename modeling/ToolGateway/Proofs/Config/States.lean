/-
# States of configurations

A configuration whose headers are a table, and whose other settings are no maps, is a state
(`IsState`); what is made of fitting arguments is one (`isState_of_make`).  Merging states is a
right-biased union: associative (`merge_assoc`), and without effect on a configuration merged with
itself (`merge_self`).  So merges of many leave each setting with the last value that is not nothing,
and the headers of all in the order of their first mention (`isMerge_foldl_merge`).
-/

import ToolGateway.Proofs.Config.Merging
import ToolGateway.Proofs.Table.Union

namespace ToolGateway

namespace Value

/-- The entries of a map under texts, as a table. -/
def table : Value → Table Value
  | .map es => es.filterMap fun e =>
    match e.1 with
    | .text name => some (name, e.2)
    | _ => none
  | _ => []

theorem table_ofTable (t : Table Value) : (ofTable t).table = t := by
  simp [ofTable, table, List.filterMap_map]

/-- The last of some values that is not nothing, or else nothing. -/
def lastGiven (vs : List Value) : Value :=
  (vs.filter fun v =>
    match v with
    | .null => false
    | _ => true).getLast?.getD .null

theorem lastGiven_concat_null (vs : List Value) : lastGiven (vs ++ [.null]) = lastGiven vs := by
  simp [lastGiven]

theorem lastGiven_concat (vs : List Value) {v : Value} (h : v ≠ .null) :
    lastGiven (vs ++ [v]) = v := by
  cases v with
  | null => exact absurd rfl h
  | _ => simp [lastGiven]

theorem lastGiven_singleton (v : Value) : lastGiven [v] = v := by
  cases v <;> rfl

end Value

namespace Config

variable {a b c : Config} {s : Setting}

/-- The headers of a configuration, as a table. -/
def headerTable (c : Config) : Table Value := (c.value .headers).table

/-- A configuration with values that the settings can have: the headers are a table, and no other
setting is a map. -/
structure IsState (c : Config) : Prop where
  headers_eq : c.value .headers = .ofTable c.headerTable
  nodup_headers : c.headerTable.names.Nodup
  ne_map : ∀ s es, s ≠ .headers → c.value s ≠ .map es

theorem eq_of_value (h : ∀ s, a.value s = b.value s) : a = b := by
  obtain ⟨f⟩ := a
  obtain ⟨g⟩ := b
  exact congrArg Config.mk (funext h)

/-- What is made of fitting arguments is a state, if the headers among them are a table. -/
theorem isState_of_make {env : Environment} {k : Table Value} (h : Fits k)
    {t : Table Value} (ht : t.names.Nodup) (hk : (given? k .headers).getD (.map []) = .ofTable t)
    (hc : make env k = .ok c) : c.IsState := by
  have hheaders : c.value .headers = .ofTable t := by
    rw [value_headers h hc, givenHeaders, ← hk]
    cases hg : given? k .headers with
    | none => rfl
    | some v =>
      obtain ⟨es, rfl⟩ := (h.map_iff _ _ hg).2 rfl
      rfl
  have htable : c.headerTable = t := by rw [headerTable, hheaders, Value.table_ofTable]
  exact ⟨htable ▸ hheaders, htable ▸ ht, fun s es hs => value_ne_map h hc hs es⟩

/-- So is what is made of a setting and a table of headers. -/
theorem isState_of_pair {env : Environment} (hs : s ≠ .headers) {v : Value}
    (hv : ∀ es, v ≠ .map es) {t : Table Value} (ht : t.names.Nodup)
    (hc : make env [(s.name, v), (Setting.headers.name, .ofTable t)] = .ok c) : c.IsState := by
  refine isState_of_make (fits_pair hs hv _) ht ?_ hc
  have hname : s.name ≠ Setting.headers.name := fun h => hs (Setting.name_injective h)
  unfold given?
  rw [Table.get?_cons, if_neg hname, Table.get?_cons, if_pos rfl]
  rfl

/-! ### One merge -/

theorem mergeValue_null (v : Value) : mergeValue v .null = v := by
  cases v <;> rfl

/-- What is merged last is given last, unless it is a map. -/
theorem mergeValue_lastGiven (vs : List Value) {v : Value} (h : ∀ es, v ≠ .map es) :
    mergeValue (.lastGiven vs) v = .lastGiven (vs ++ [v]) := by
  by_cases hv : v = .null
  · rw [hv, mergeValue_null, Value.lastGiven_concat_null]
  · rw [mergeValue_of_ne hv h, Value.lastGiven_concat vs hv]

/-- Tables are merged by their union. -/
theorem mergeValue_ofTable (t u : Table Value) :
    mergeValue (.ofTable t) (.ofTable u) = .ofTable (t.union u) := by
  show Value.map (List.foldl _ _ (u.map _)) = Value.map _
  rw [List.foldl_map]
  exact congrArg Value.map (Entries.foldl_put_map id t u)

/-- What is no map is merged in any grouping. -/
theorem mergeValue_assoc (x y : Value) {z : Value} (h : ∀ es, z ≠ .map es) :
    mergeValue (mergeValue x y) z = mergeValue x (mergeValue y z) := by
  by_cases hnull : z = .null
  · rw [hnull, mergeValue_null, mergeValue_null]
  · rw [mergeValue_of_ne hnull h, mergeValue_of_ne hnull h, mergeValue_of_ne hnull h]

namespace IsState

theorem value_merge_headers (ha : a.IsState) (hb : b.IsState) :
    (a.merge b).value .headers = .ofTable (a.headerTable.union b.headerTable) := by
  rw [merge_value, ha.headers_eq, hb.headers_eq, mergeValue_ofTable]

theorem headerTable_merge (ha : a.IsState) (hb : b.IsState) :
    (a.merge b).headerTable = a.headerTable.union b.headerTable := by
  rw [headerTable, ha.value_merge_headers hb, Value.table_ofTable]

protected theorem merge (ha : a.IsState) (hb : b.IsState) : (a.merge b).IsState where
  headers_eq := by rw [ha.headerTable_merge hb, ha.value_merge_headers hb]
  nodup_headers := by
    rw [ha.headerTable_merge hb]
    exact Table.nodup_names_union ha.nodup_headers _
  ne_map s es hs := by
    rw [merge_value]
    by_cases hnull : b.value s = .null
    · rw [hnull, mergeValue_null]
      exact ha.ne_map s es hs
    · rw [mergeValue_of_ne hnull fun es => hb.ne_map s es hs]
      exact hb.ne_map s es hs

/-- **Merging is associative.** -/
theorem merge_assoc (ha : a.IsState) (hb : b.IsState) (hc : c.IsState) :
    (a.merge b).merge c = a.merge (b.merge c) := by
  refine eq_of_value fun s => ?_
  by_cases hs : s = .headers
  · rw [hs, (ha.merge hb).value_merge_headers hc, ha.value_merge_headers (hb.merge hc),
      ha.headerTable_merge hb, hb.headerTable_merge hc,
      Table.union_assoc ha.nodup_headers hb.nodup_headers]
  · exact mergeValue_assoc _ _ fun es => hc.ne_map s es hs

/-- A configuration is not changed by its own values. -/
theorem merge_self (ha : a.IsState) : a.merge a = a := by
  refine eq_of_value fun s => ?_
  by_cases hs : s = .headers
  · rw [hs, ha.value_merge_headers ha, Table.union_self ha.nodup_headers, ← ha.headers_eq]
  · rw [merge_value]
    by_cases hnull : a.value s = .null
    · rw [hnull, mergeValue_null]
    · exact mergeValue_of_ne hnull fun es => ha.ne_map s es hs

end IsState

/-! ### Many merges -/

/-- A configuration is the right-biased merge of some: a setting has the last value that is not
nothing, and the headers are those of all, where each name has the place of its first mention and
the entry of its last. -/
structure IsMerge (m : Config) (cs : List Config) : Prop where
  value_eq : ∀ s, s ≠ .headers → m.value s = .lastGiven (cs.map (·.value s))
  headers_eq : m.value .headers = .ofTable m.headerTable
  header_names : m.headerTable.names = (cs.flatMap (·.headerTable.names)).eraseDups
  header_get? : ∀ name, m.headerTable.get? name =
    (cs.filterMap (·.headerTable.get? name)).getLast?

section Many

variable {ds : List Config}

theorem isState_foldl_merge (hc : c.IsState) (hds : ∀ d ∈ ds, d.IsState) :
    (ds.foldl merge c).IsState := by
  induction ds generalizing c with
  | nil => exact hc
  | cons d rest ih =>
    obtain ⟨hd, hrest⟩ := List.forall_mem_cons.1 hds
    exact ih (hc.merge hd) hrest

/-- Each merge in a row gives a setting the last value so far. -/
theorem value_foldl_merge (hds : ∀ d ∈ ds, d.IsState) (hs : s ≠ .headers) :
    (ds.foldl merge c).value s = .lastGiven ((c :: ds).map (·.value s)) := by
  induction ds using List.reverseRecOn with
  | nil => exact (Value.lastGiven_singleton _).symm
  | append_singleton ds d ih =>
    obtain ⟨hds, hd⟩ := List.forall_mem_append.1 hds
    have hd : d.IsState := hd d (List.mem_singleton_self d)
    rw [List.foldl_append, List.foldl_cons, List.foldl_nil, merge_value, ih hds,
      mergeValue_lastGiven _ fun es => hd.ne_map s es hs, ← List.cons_append, List.map_append,
      List.map_singleton]

/-- The headers of many are the table of all their entries. -/
theorem headerTable_foldl_merge (hc : c.IsState) (hds : ∀ d ∈ ds, d.IsState) :
    (ds.foldl merge c).headerTable = .ofList ((c :: ds).map headerTable).flatten := by
  induction ds using List.reverseRecOn with
  | nil => simpa using (Table.ofList_eq_self hc.nodup_headers).symm
  | append_singleton ds d ih =>
    obtain ⟨hds, hd⟩ := List.forall_mem_append.1 hds
    have hd : d.IsState := hd d (List.mem_singleton_self d)
    rw [List.foldl_append, List.foldl_cons, List.foldl_nil,
      (isState_foldl_merge hc hds).headerTable_merge hd, ih hds, Table.union_ofList,
      ← List.cons_append, List.map_append, List.map_singleton, List.flatten_concat]

/-- **Merges in a row are one right-biased merge.** -/
theorem isMerge_foldl_merge (hc : c.IsState) (hds : ∀ d ∈ ds, d.IsState) :
    (ds.foldl merge c).IsMerge (c :: ds) where
  value_eq s hs := value_foldl_merge hds hs
  headers_eq := (isState_foldl_merge hc hds).headers_eq
  header_names := by
    rw [headerTable_foldl_merge hc hds, Table.names_ofList, Table.names, List.map_flatten,
      List.map_map, List.flatMap_def]
    rfl
  header_get? name := by
    have hnodup : ∀ t ∈ (c :: ds).map headerTable, t.names.Nodup := by
      intro t ht
      obtain ⟨d, hd, rfl⟩ := List.mem_map.1 ht
      exact (List.forall_mem_cons.2 ⟨hc, hds⟩ d hd).nodup_headers
    rw [headerTable_foldl_merge hc hds, Table.get?_ofList_flatten hnodup, List.filterMap_map]
    rfl

end Many

/-! ### Merges of some settings -/

/-- A configuration is a state if it has the headers of a state, and each other setting of one. -/
theorem IsState.of_values (ha : a.IsState) (hheaders : c.value .headers = a.value .headers)
    (h : ∀ s, s ≠ .headers → ∃ b : Config, b.IsState ∧ c.value s = b.value s) : c.IsState := by
  have htable : c.headerTable = a.headerTable := congrArg Value.table hheaders
  refine ⟨?_, htable ▸ ha.nodup_headers, fun s es hs => ?_⟩
  · rw [hheaders, htable]
    exact ha.headers_eq
  · obtain ⟨b, hb, hvalue⟩ := h s hs
    exact hvalue ▸ hb.ne_map s es hs

/-- The configuration with some settings merged with those of another one. -/
def mergeOn (settings : List Setting) (c d : Config) : Config :=
  ⟨fun s => if s ∈ settings then (c.merge d).value s else c.value s⟩

theorem IsState.mergeOn (ha : a.IsState) (hb : b.IsState) (settings : List Setting) :
    (Config.mergeOn settings a b).IsState := by
  have hmerged (s : Setting) :
      ∃ c : Config, c.IsState ∧ (Config.mergeOn settings a b).value s = c.value s := by
    by_cases hs : s ∈ settings
    · exact ⟨a.merge b, ha.merge hb, if_pos hs⟩
    · exact ⟨a, ha, if_neg hs⟩
  obtain ⟨c, hc, hheaders⟩ := hmerged .headers
  exact hc.of_values hheaders fun s _ => hmerged s

theorem value_mergeOn_self (a b : Config) (s : Setting) :
    (mergeOn [s] a b).value s = mergeValue (a.value s) (b.value s) :=
  if_pos (List.mem_singleton_self s)

theorem value_mergeOn_of_ne {t : Setting} (h : t ≠ s) (a b : Config) :
    (mergeOn [s] a b).value t = a.value t :=
  if_neg fun ht => h (List.mem_singleton.1 ht)

theorem mergeOn_all (a b : Config) : mergeOn Setting.all a b = a.merge b :=
  eq_of_value fun s => if_pos (by cases s <;> decide)

/-- Settings are merged one after the other. -/
theorem mergeOn_cons {settings : List Setting} (hs : s ∉ settings) (a b : Config) :
    mergeOn (s :: settings) a b = mergeOn settings (mergeOn [s] a b) b := by
  refine eq_of_value fun t => ?_
  unfold mergeOn
  simp only [merge_value, List.mem_cons, List.not_mem_nil, or_false]
  by_cases ht : t = s
  · simp [ht, hs]
  · simp [ht]

/-- The configuration with other headers. -/
def withHeaders (c : Config) (v : Value) : Config :=
  ⟨fun s => if s = .headers then v else c.value s⟩

theorem IsState.withHeaders (hc : c.IsState) (ha : a.IsState) :
    (c.withHeaders (a.value .headers)).IsState := by
  have hheaders : (c.withHeaders (a.value .headers)).value .headers = a.value .headers := rfl
  exact ha.of_values hheaders fun _ hs => ⟨c, hc, if_neg hs⟩

end Config

end ToolGateway
