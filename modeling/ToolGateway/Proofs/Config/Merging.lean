/-
# Merging configurations

Every setting that is not given has a value all the same, that of the environment or a default, and
the configuration does not tell the two apart (`make_eq_ok_iff`).  A merge takes each value of the
newer configuration that is not nothing.  So a setting that is given in the older configuration
alone is lost, unless the newer one has nothing for it: that is the case of the headers, which are
united, and of the time limit where the environment has none (`IsKept`).

`merging_takes_the_newer_settings` compares the merge of two configurations with the one
configuration of the arguments of the first overridden by those of the second.
-/

import ToolGateway.Config
import ToolGateway.Proofs.Http.Headers

namespace ToolGateway

namespace Entries

/-- Entries with those of others put behind them; under one key those of the others win. -/
def union (es fs : Entries) : Entries := fs.foldl (fun acc e => acc.put e.1 e.2) es

/-- What is put under a key that is no text is not found under a text. -/
theorem get?_put_of_ne {es : Entries} {key : Value} (h : ∀ name, key ≠ .text name) (v : Value)
    (name : String) : (es.put key v).get? name = es.get? name := by
  induction es with
  | nil =>
    cases key with
    | text s => exact absurd rfl (h s)
    | _ => rfl
  | cons e rest ih =>
    obtain ⟨k, w⟩ := e
    unfold put
    split
    · rename_i hk
      cases k with
      | text s =>
        cases key with
        | text t => exact absurd rfl (h t)
        | _ => simp [Value.sameKey, Value.integer?] at hk
      | _ => rfl
    · cases k with
      | text s => simp only [get?, ih]
      | _ => exact ih

/-- In united entries the last of the others is found, and else what was there. -/
theorem get?_union (es fs : Entries) (name : String) :
    (es.union fs).get? name = (get? fs.reverse name).or (es.get? name) := by
  unfold union
  induction fs generalizing es with
  | nil => rfl
  | cons e rest ih =>
    obtain ⟨k, v⟩ := e
    rw [List.foldl_cons, ih, List.reverse_cons, get?_append, Option.or_assoc]
    congr 1
    cases k with
    | text k =>
      rw [get?_put]
      by_cases hk : k = name <;> simp [get?, hk]
    | _ => exact get?_put_of_ne (by simp) v name

end Entries

namespace Setting

theorem mem_all (s : Setting) : s ∈ all := by cases s <;> decide

/-- Settings have different names. -/
theorem name_injective {s t : Setting} (h : s.name = t.name) : s = t := by
  cases s <;> cases t <;> first | rfl | exact absurd h (by decide)

end Setting

namespace Config

variable {env : Environment} {k k₁ k₂ : Table Value} {a b c : Config} {s : Setting}

/-! ### The values of the settings -/

/-- What the environment has for a setting, or else its default. -/
def ambient (env : Environment) : Setting → Except SettingFault Value
  | .port => readInteger (ambientText env .port)
  | .timeout => readNumber (ambientText env .timeout)
  | .headers => .ok (.map [])
  | s => .ok (.text (ambientText env s))

/-- The value of a setting: that which is given, or else that of the environment. -/
def resolved (env : Environment) (k : Table Value) (s : Setting) : Except SettingFault Value :=
  match given? k s with
  | some v => .ok v
  | none => ambient env s

/-- Arguments that fit the settings: they have the names of settings, and the headers, and nothing
else, are a map. -/
structure Fits (k : Table Value) : Prop where
  known : ∀ n ∈ k.names, ∃ s : Setting, s.name = n
  map_iff : ∀ s v, given? k s = some v → ((∃ es, v = .map es) ↔ s = .headers)

theorem given?_ne_null : given? k s ≠ some .null := by
  unfold given?
  split
  · simp
  · rename_i h
    exact h

theorem headersOf_eq (h : Fits k) : Except.ok (headersOf k) = resolved env k .headers := by
  unfold headersOf resolved
  cases hg : given? k .headers with
  | none => rfl
  | some v =>
    obtain ⟨es, rfl⟩ := (h.map_iff _ _ hg).2 rfl
    cases es <;> rfl

/-- The configuration of given settings, once those that are read from a text are. -/
def withNumbers (env : Environment) (k : Table Value) (port timeout : Value) : Config :=
  ⟨fun s =>
    match s with
    | .port => port
    | .timeout => timeout
    | .headers => headersOf k
    | s => textOrGiven env k s⟩

theorem make_eq (h : Fits k) : make env k = do
    let port ← portOf env k
    let timeout ← timeoutOf env k
    return withNumbers env k port timeout := by
  have hfind : (k.names.find? fun n => !(Setting.all.map Setting.name).contains n) = none := by
    refine List.find?_eq_none.2 fun n hn => ?_
    obtain ⟨s, rfl⟩ := h.known n hn
    simpa using ⟨s, s.mem_all, rfl⟩
  unfold make
  rw [hfind]
  rfl

theorem resolved_withNumbers (h : Fits k) {port timeout : Value} (hp : portOf env k = .ok port)
    (ht : timeoutOf env k = .ok timeout) (s : Setting) :
    resolved env k s = .ok ((withNumbers env k port timeout).value s) := by
  cases s with
  | port => exact hp
  | timeout => exact ht
  | headers => exact (headersOf_eq h).symm
  | _ =>
    show resolved env k _ = .ok (textOrGiven env k _)
    unfold resolved textOrGiven
    cases given? k _ <;> rfl

/-- **A configuration has the values of all settings**, and is made if each of them has one. -/
theorem make_eq_ok_iff (h : Fits k) :
    make env k = .ok c ↔ ∀ s, resolved env k s = .ok (c.value s) := by
  rw [make_eq h]
  constructor
  · intro hc
    cases hp : portOf env k with
    | error e =>
      rw [hp] at hc
      cases hc
    | ok port =>
      cases ht : timeoutOf env k with
      | error e =>
        rw [hp, ht] at hc
        cases hc
      | ok timeout =>
        rw [hp, ht] at hc
        cases hc
        exact resolved_withNumbers h hp ht
  · intro hc
    have hp : portOf env k = .ok (c.value .port) := hc .port
    have ht : timeoutOf env k = .ok (c.value .timeout) := hc .timeout
    have hvalue : withNumbers env k (c.value .port) (c.value .timeout) = c := by
      obtain ⟨value⟩ := c
      exact congrArg Config.mk
        (funext fun s => Except.ok.inj ((resolved_withNumbers h hp ht s).symm.trans (hc s)))
    rw [hp, ht]
    exact congrArg Except.ok hvalue

theorem value_of_given (h : Fits k) (hc : make env k = .ok c) {v : Value}
    (hg : given? k s = some v) : c.value s = v := by
  have hv := (make_eq_ok_iff h).1 hc s
  rw [resolved, hg] at hv
  exact (Except.ok.inj hv).symm

theorem ambient_value (h : Fits k) (hc : make env k = .ok c) (hg : given? k s = none) :
    ambient env s = .ok (c.value s) := by
  have hv := (make_eq_ok_iff h).1 hc s
  rwa [resolved, hg] at hv

/-- A configuration is made exactly if the environment has a value for what is not given. -/
theorem exists_make_iff (h : Fits k) :
    (∃ c, make env k = .ok c) ↔ ∀ s, given? k s = none → ∃ v, ambient env s = .ok v := by
  constructor
  · rintro ⟨c, hc⟩ s hs
    exact ⟨_, ambient_value h hc hs⟩
  · intro hall
    have hresolved : ∀ s, ∃ v, resolved env k s = .ok v := by
      intro s
      unfold resolved
      cases hg : given? k s with
      | some v => exact ⟨v, rfl⟩
      | none => exact hall s hg
    choose value hvalue using hresolved
    exact ⟨⟨value⟩, (make_eq_ok_iff h).2 hvalue⟩

/-- The settings for which a configuration may have nothing to merge: the headers, which may be
empty, and the time limit where the environment has none. -/
def IsKept (env : Environment) (s : Setting) : Prop :=
  s = .headers ∨ s = .timeout ∧ ambientText env .timeout = ""

/-- For the other settings the environment has something, and no map. -/
theorem ambient_ne (hs : ¬ IsKept env s) {v : Value} (h : ambient env s = .ok v) :
    v ≠ .null ∧ ∀ es, v ≠ .map es := by
  cases s with
  | headers => exact absurd (.inl rfl) hs
  | port =>
    change readInteger _ = _ at h
    unfold readInteger at h
    split at h <;> cases h
    exact ⟨by simp, by simp⟩
  | timeout =>
    change readNumber _ = _ at h
    unfold readNumber at h
    rw [if_neg fun he => hs (.inr ⟨rfl, he⟩)] at h
    split at h <;> cases h
    exact ⟨by simp, by simp⟩
  | _ =>
    cases h
    exact ⟨by simp, by simp⟩

theorem ambient_timeout (h : ambientText env .timeout = "") : ambient env .timeout = .ok .null := by
  rw [ambient, readNumber, if_pos h]

/-! ### Arguments overridden by newer ones -/

/-- The headers that are given. -/
def givenHeaders (k : Table Value) : Entries :=
  match given? k .headers with
  | some (.map es) => es
  | _ => []

/-- What is given for a setting once newer arguments are put over the older ones. The headers of
both are united. -/
def overridden? (k₁ k₂ : Table Value) (s : Setting) : Option Value :=
  if s = .headers then some (.map ((givenHeaders k₁).union (givenHeaders k₂)))
  else (given? k₂ s).or (given? k₁ s)

/-- The older arguments, overridden by the newer ones. -/
def overridden (k₁ k₂ : Table Value) : Table Value :=
  Setting.all.filterMap fun s => (overridden? k₁ k₂ s).map fun v => (s.name, v)

/-- Under the name of a setting stands its value. -/
theorem get?_filterMap (f : Setting → Option Value) {ss : List Setting} (hs : s ∈ ss) :
    Table.get? (ss.filterMap fun s => (f s).map fun v => (s.name, v)) s.name = f s := by
  induction ss with
  | nil => cases hs
  | cons t rest ih =>
    rw [List.filterMap_cons]
    by_cases ht : t = s
    · subst ht
      cases hf : f t with
      | none =>
        -- a later setting has another name, unless it is this one again
        by_cases hm : t ∈ rest
        · simpa [hf] using ih hm
        · refine (Table.get?_eq_none_iff _ _).2 fun hn => ?_
          obtain ⟨e, he, hname⟩ := List.mem_map.1 hn
          obtain ⟨u, hu, hfu⟩ := List.mem_filterMap.1 he
          obtain ⟨v, _, rfl⟩ := Option.map_eq_some_iff.1 hfu
          exact hm (Setting.name_injective hname ▸ hu)
      | some v => simp [Table.get?_cons]
    · have hrest : s ∈ rest := (List.mem_cons.1 hs).resolve_left (Ne.symm ht)
      cases hf : f t with
      | none => simpa using ih hrest
      | some v =>
        have hname : t.name ≠ s.name := fun h => ht (Setting.name_injective h)
        simpa [Table.get?_cons, hname] using ih hrest

theorem given?_overridden : given? (overridden k₁ k₂) s = overridden? k₁ k₂ s := by
  have hget : (overridden k₁ k₂).get? s.name = overridden? k₁ k₂ s := get?_filterMap _ s.mem_all
  have hnull : overridden? k₁ k₂ s ≠ some .null := by
    unfold overridden?
    split
    · simp
    · intro h
      rcases Option.or_eq_some_iff.1 h with h | ⟨_, h⟩
      · exact given?_ne_null h
      · exact given?_ne_null h
  unfold given?
  rw [hget]
  split
  · rename_i h
    exact absurd h hnull
  · rfl

theorem fits_overridden (h₁ : Fits k₁) (h₂ : Fits k₂) : Fits (overridden k₁ k₂) where
  known n hn := by
    obtain ⟨e, he, rfl⟩ := List.mem_map.1 hn
    obtain ⟨s, _, hs⟩ := List.mem_filterMap.1 he
    obtain ⟨v, _, rfl⟩ := Option.map_eq_some_iff.1 hs
    exact ⟨s, rfl⟩
  map_iff s v hv := by
    rw [given?_overridden, overridden?] at hv
    split at hv
    · rename_i hs
      cases hv
      exact ⟨fun _ => hs, fun _ => ⟨_, rfl⟩⟩
    · rcases Option.or_eq_some_iff.1 hv with hv | ⟨_, hv⟩
      · exact h₂.map_iff s v hv
      · exact h₁.map_iff s v hv

/-! ### Merging -/

theorem value_headers (h : Fits k) (hc : make env k = .ok c) :
    c.value .headers = .map (givenHeaders k) := by
  unfold givenHeaders
  cases hg : given? k .headers with
  | none => exact (Except.ok.inj (ambient_value h hc hg)).symm
  | some v =>
    obtain ⟨es, rfl⟩ := (h.map_iff _ _ hg).2 rfl
    exact value_of_given h hc hg

/-- No other setting than the headers is a map. -/
theorem value_ne_map (h : Fits k) (hc : make env k = .ok c) (hs : s ≠ .headers) (es : Entries) :
    c.value s ≠ .map es := by
  intro hm
  cases hg : given? k s with
  | some v => exact hs ((h.map_iff s v hg).1 ⟨es, (value_of_given h hc hg).symm.trans hm⟩)
  | none =>
    have hv := ambient_value h hc hg
    by_cases hk : IsKept env s
    · obtain ⟨rfl, htext⟩ := hk.resolve_left hs
      cases (Except.ok.inj ((ambient_timeout htext).symm.trans hv)).trans hm
    · exact (ambient_ne hk hv).2 es hm

/-- Entries are added to entries, so configurations without other maps can be merged. -/
theorem update_eq_merge (ha : ∃ es, a.value .headers = .map es)
    (hb : ∃ es, b.value .headers = .map es)
    (hmap : ∀ s es, s ≠ .headers → b.value s ≠ .map es) : a.update [some b] = .ok (a.merge b) := by
  obtain ⟨es, ha⟩ := ha
  obtain ⟨fs, hb⟩ := hb
  have hfault : a.updateFault? b = none := by
    refine List.findSome?_eq_none_iff.2 fun s _ => Option.map_eq_none_iff.2 ?_
    by_cases hs : s = .headers
    · rw [hs, clashAt?, ha, hb]
    · unfold clashAt?
      split
      · rfl
      · rename_i h _
        exact absurd h (hmap s _ hs)
      · rfl
  rw [update, hfault, update]

/-- Configurations that are made can be merged. -/
theorem update_of_make (h₁ : Fits k₁) (h₂ : Fits k₂) (ha : make env k₁ = .ok a)
    (hb : make env k₂ = .ok b) : a.update [some b] = .ok (a.merge b) :=
  update_eq_merge ⟨_, value_headers h₁ ha⟩ ⟨_, value_headers h₂ hb⟩
    fun _ es hs => value_ne_map h₂ hb hs es

/-- What is no map and not nothing replaces what was there. -/
theorem mergeValue_of_ne {old new : Value} (hnull : new ≠ .null) (hmap : ∀ es, new ≠ .map es) :
    mergeValue old new = new := by
  cases new with
  | null => exact absurd rfl hnull
  | map es => exact absurd rfl (hmap es)
  | _ => rfl

theorem merge_value : (a.merge b).value s = mergeValue (a.value s) (b.value s) := rfl

/-- The headers of a merge are those of the overridden arguments. -/
theorem value_merge_headers (h₁ : Fits k₁) (h₂ : Fits k₂) (ha : make env k₁ = .ok a)
    (hb : make env k₂ = .ok b) (hc : make env (overridden k₁ k₂) = .ok c) :
    (a.merge b).value .headers = c.value .headers := by
  have hgiven : given? (overridden k₁ k₂) .headers = some (.map _) := given?_overridden
  rw [value_of_given (fits_overridden h₁ h₂) hc hgiven, merge_value, value_headers h₁ ha,
    value_headers h₂ hb]
  rfl

/-- A header has the newer value, and else the older one. -/
theorem get?_headers_merge (h₁ : Fits k₁) (h₂ : Fits k₂) (ha : make env k₁ = .ok a)
    (hb : make env k₂ = .ok b) : ∃ es, (a.merge b).value .headers = .map es ∧ ∀ name,
      Entries.get? es name =
        (Entries.get? (givenHeaders k₂).reverse name).or (Entries.get? (givenHeaders k₁) name) := by
  refine ⟨(givenHeaders k₁).union (givenHeaders k₂), ?_, Entries.get?_union _ _⟩
  rw [merge_value, value_headers h₁ ha, value_headers h₂ hb]
  rfl

/-- What is given in the newer arguments is the value of the merge. -/
theorem value_merge_of_given (h₂ : Fits k₂) (hb : make env k₂ = .ok b) (hs : s ≠ .headers)
    {v : Value} (hg : given? k₂ s = some v) : (a.merge b).value s = v := by
  have hv : b.value s = v := value_of_given h₂ hb hg
  have hnull : v ≠ .null := fun h => given?_ne_null (h ▸ hg)
  exact hv ▸ mergeValue_of_ne (hv ▸ hnull) (value_ne_map h₂ hb hs)

/-- What is not given in the newer arguments comes from the environment all the same. -/
theorem ambient_merge (h₂ : Fits k₂) (hb : make env k₂ = .ok b) (hg : given? k₂ s = none)
    (hk : ¬ IsKept env s) : ambient env s = .ok ((a.merge b).value s) := by
  have hv := ambient_value h₂ hb hg
  obtain ⟨hnull, hmap⟩ := ambient_ne hk hv
  rw [hv, merge_value, mergeValue_of_ne hnull hmap]

/-- A time limit that neither the newer arguments nor the environment has stays as it was. -/
theorem value_merge_timeout (h₂ : Fits k₂) (hb : make env k₂ = .ok b)
    (hg : given? k₂ .timeout = none) (htext : ambientText env .timeout = "") :
    (a.merge b).value .timeout = a.value .timeout := by
  have hnull : b.value .timeout = .null :=
    Except.ok.inj ((ambient_value h₂ hb hg).symm.trans (ambient_timeout htext))
  rw [merge_value, hnull]
  cases a.value .timeout <;> rfl

/-- A setting that is given in neither, or in the older arguments only, has its value from these. -/
theorem resolved_overridden (hs : s ≠ .headers) (hg : given? k₂ s = none) :
    resolved env (overridden k₁ k₂) s = resolved env k₁ s := by
  rw [resolved, given?_overridden, overridden?, if_neg hs, hg, Option.none_or, resolved]

/-- The value of a merge, where it is that of the overridden arguments. -/
theorem value_merge (h₁ : Fits k₁) (h₂ : Fits k₂) (ha : make env k₁ = .ok a)
    (hb : make env k₂ = .ok b) (hc : make env (overridden k₁ k₂) = .ok c)
    (h : (given? k₂ s).isSome ∨ given? k₁ s = none ∨ IsKept env s) :
    (a.merge b).value s = c.value s := by
  by_cases hs : s = .headers
  · subst hs
    exact value_merge_headers h₁ h₂ ha hb hc
  have hcv := (make_eq_ok_iff (fits_overridden h₁ h₂)).1 hc s
  cases hg : given? k₂ s with
  | some v =>
    have hgiven : given? (overridden k₁ k₂) s = some v := by
      rw [given?_overridden, overridden?, if_neg hs, hg, Option.some_or]
    rw [value_merge_of_given h₂ hb hs hg, value_of_given (fits_overridden h₁ h₂) hc hgiven]
  | none =>
    rw [resolved_overridden hs hg] at hcv
    by_cases hk : IsKept env s
    · obtain ⟨rfl, htext⟩ := hk.resolve_left hs
      rw [value_merge_timeout h₂ hb hg htext]
      exact Except.ok.inj (((make_eq_ok_iff h₁).1 ha .timeout).symm.trans hcv)
    · have hg₁ : given? k₁ s = none := by simpa [hg, hk] using h
      rw [resolved, hg₁] at hcv
      exact Except.ok.inj ((ambient_merge h₂ hb hg hk).symm.trans hcv)

/-- The overridden arguments are made to a configuration exactly if the environment has a value for
what is given in neither. -/
theorem exists_make_overridden_iff (h₁ : Fits k₁) (h₂ : Fits k₂) :
    (∃ c, make env (overridden k₁ k₂) = .ok c) ↔
      ∀ s, given? k₁ s = none → given? k₂ s = none → ∃ v, ambient env s = .ok v := by
  rw [exists_make_iff (fits_overridden h₁ h₂)]
  refine forall_congr' fun s => ?_
  rw [given?_overridden, overridden?]
  split
  · rename_i hs
    subst hs
    exact ⟨fun _ _ _ => ⟨_, rfl⟩, fun _ h => (nomatch h)⟩
  · rw [Option.or_eq_none_iff]
    exact ⟨fun h hg₁ hg₂ => h ⟨hg₂, hg₁⟩, fun h hg => h hg.2 hg.1⟩

/-- **Merging takes the newer settings, given or not.**  Two configurations that are made can be
merged.  The merge has the value of the overridden arguments for a setting that is given in the
newer ones, or not given in the older ones, and for one that the newer configuration has nothing
for.  Else it has the value of the environment, whatever is given.  The headers of both are united.
And both configurations are made only if the environment has a value for what is given in one of the
two alone. -/
theorem merging_takes_the_newer_settings (h₁ : Fits k₁) (h₂ : Fits k₂) :
    (∀ a b, make env k₁ = .ok a → make env k₂ = .ok b →
      ∃ m c, a.update [some b] = .ok m ∧ make env (overridden k₁ k₂) = .ok c ∧
        (∀ s, ((given? k₂ s).isSome ∨ given? k₁ s = none ∨ IsKept env s → m.value s = c.value s) ∧
          (given? k₂ s = none → ¬ IsKept env s → ambient env s = .ok (m.value s))) ∧
        ∃ es, m.value .headers = .map es ∧ ∀ name, Entries.get? es name =
          (Entries.get? (givenHeaders k₂).reverse name).or
            (Entries.get? (givenHeaders k₁) name)) ∧
    ((∃ a, make env k₁ = .ok a) ∧ (∃ b, make env k₂ = .ok b) ↔
      ∀ s, given? k₁ s = none ∨ given? k₂ s = none → ∃ v, ambient env s = .ok v) ∧
    ((∃ c, make env (overridden k₁ k₂) = .ok c) ↔
      ∀ s, given? k₁ s = none → given? k₂ s = none → ∃ v, ambient env s = .ok v) := by
  refine ⟨fun a b ha hb => ?_, ?_, exists_make_overridden_iff h₁ h₂⟩
  · obtain ⟨c, hc⟩ := (exists_make_overridden_iff h₁ h₂).2 fun s hg _ =>
      (exists_make_iff h₁).1 ⟨a, ha⟩ s hg
    exact ⟨a.merge b, c, update_of_make h₁ h₂ ha hb, hc,
      fun s => ⟨value_merge h₁ h₂ ha hb hc, fun hg hk => ambient_merge h₂ hb hg hk⟩,
      get?_headers_merge h₁ h₂ ha hb⟩
  · rw [exists_make_iff h₁, exists_make_iff h₂]
    exact ⟨fun h s hg => hg.elim (h.1 s) (h.2 s),
      fun h => ⟨fun s hg => h s (.inl hg), fun s hg => h s (.inr hg)⟩⟩

/-- A setting that is no map and headers that are one fit. -/
theorem fits_pair (hs : s ≠ .headers) {v : Value} (hv : ∀ es, v ≠ .map es) (es : Entries) :
    Fits [(s.name, v), (Setting.headers.name, .map es)] where
  known n hn := by
    rcases List.mem_pair.1 hn with rfl | rfl
    · exact ⟨s, rfl⟩
    · exact ⟨.headers, rfl⟩
  map_iff t w hw := by
    have hname : ∀ u : Setting, u.name = t.name ↔ u = t :=
      fun u => ⟨Setting.name_injective, congrArg Setting.name⟩
    simp only [given?, Table.get?_cons, Table.get?_nil, hname] at hw
    by_cases hst : s = t
    · have hwv : w = v := by cases v <;> simp_all
      exact ⟨fun ⟨es, hes⟩ => absurd (hwv.symm.trans hes) (hv es), fun h => absurd (hst.trans h) hs⟩
    · by_cases ht : Setting.headers = t
      · have hwes : w = .map es := by simpa [hst, ht] using hw.symm
        exact ⟨fun _ => ht.symm, fun _ => ⟨es, hwes⟩⟩
      · simp [hst, ht] at hw

/-- Arguments of a configuration with a host and a header. -/
def shopArguments : Table Value :=
  [("host", .text "shop"), ("headers", .map [(.text "X-A", .text "1")])]

/-- Newer arguments with another header, and without a host. -/
def newerArguments : Table Value :=
  [("backend_url", .text "http://shop"), ("headers", .map [(.text "X-B", .text "2")])]

/-- The merge has the newer address and the headers of both, but not the older host. -/
theorem shop_is_merged :
    ∃ a b m, make [] shopArguments = .ok a ∧ make [] newerArguments = .ok b ∧
      a.update [some b] = .ok m ∧ m.value .backendUrl = .text "http://shop" ∧
      m.value .headers = .map [(.text "X-A", .text "1"), (.text "X-B", .text "2")] ∧
      ambient [] .host = .ok (m.value .host) := by
  have hshop : Fits shopArguments := fits_pair (s := .host) (by decide) (by simp) _
  have hnewer : Fits newerArguments := fits_pair (s := .backendUrl) (by decide) (by simp) _
  obtain ⟨hmerge, _⟩ := @merging_takes_the_newer_settings [] _ _ hshop hnewer
  obtain ⟨m, c, hm, hc, hvalue, _⟩ := hmerge _ _ rfl rfl
  cases hc
  exact ⟨_, _, m, rfl, rfl, hm, (hvalue .backendUrl).1 (.inl rfl),
    (hvalue .headers).1 (.inl rfl), (hvalue .host).2 rfl (by simp [IsKept])⟩

/-- **A host that is given is forgotten.**  The newer configuration has the default of the host,
though it was given none, and the merge takes it. -/
theorem given_host_is_forgotten :
    given? newerArguments .host = none ∧
    ∃ a b m c, make [] shopArguments = .ok a ∧ make [] newerArguments = .ok b ∧
      a.update [some b] = .ok m ∧ make [] (overridden shopArguments newerArguments) = .ok c ∧
      c.value .host = .text "shop" ∧ m.value .host = .text "0.0.0.0" :=
  ⟨rfl, _, _, _, _, rfl, rfl, rfl, rfl, rfl, rfl⟩

end Config
end ToolGateway
