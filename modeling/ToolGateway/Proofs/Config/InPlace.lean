/-
# Updating configurations in place

An update in place takes over one setting after the other (`takeOver_spec`), and one listed
configuration after the other.  It writes to the slots of the configuration that it is about and to
its map of headers, and nowhere else (`OnlyChanges`), so the listed ones are still as they were when
their turn comes, unless they are listed in their own update or have their map of headers in common
with it.  Apart from these, an update is the merge of the listed configurations (`update_run`).  A
configuration that is listed itself brings nothing new by then, and neither does one that has the
same map: what it had at the beginning does not come back (`listed_itself_is_overwritten`).
-/

import ToolGateway.Configs
import ToolGateway.Proofs.Config.States

namespace ToolGateway
namespace Configs

variable {cs cs' : Configs} {name other : String} {c d m : Config} {s : Setting}
  {slots : Setting → Slot} {p : Nat}

/-- All configurations are states. -/
def AreStates (cs : Configs) : Prop := ∀ name c, cs.get? name = some c → c.IsState

theorem areStates_empty : AreStates empty := fun _ _ h => nomatch h

/-- The place of the headers of a configuration. -/
def place? (cs : Configs) (name : String) : Option Nat :=
  (cs.slots.get? name).bind fun slots =>
    match slots .headers with
    | .map p => some p
    | .plain _ _ => none

/-! ### Slots -/

theorem get?_eq_none (h : cs.get? name = none) : cs.slots.get? name = none :=
  Option.map_eq_none_iff.1 h

theorem get?_of_slots (h : cs.slots.get? name = some slots) :
    cs.get? name = some ⟨fun s => (slots s).read cs.maps⟩ := by
  unfold get?
  rw [h]
  rfl

theorem value_of_get? (h : cs.get? name = some c) (hslots : cs.slots.get? name = some slots)
    (s : Setting) : c.value s = (slots s).read cs.maps := by
  cases h.symm.trans (get?_of_slots hslots)
  rfl

/-- The slots of a state: a map of headers at its place, and no other map. -/
structure Holds (cs : Configs) (name : String) (slots : Setting → Slot) (p : Nat) : Prop where
  slots_eq : cs.slots.get? name = some slots
  headers : slots .headers = .map p
  plain : ∀ s, s ≠ .headers → ∃ v hv, slots s = .plain v hv

theorem exists_holds (hc : cs.get? name = some c) (hs : c.IsState) :
    ∃ slots p, Holds cs name slots p := by
  obtain ⟨slots, hslots, rfl⟩ := Option.map_eq_some_iff.1 hc
  have hheaders := hs.headers_eq
  have hplain := hs.ne_map
  dsimp only at hheaders hplain
  cases hh : slots .headers with
  | plain v hv =>
    rw [hh] at hheaders
    change v = _ at hheaders
    rw [hheaders] at hv
    cases hv
  | map p =>
    refine ⟨slots, p, hslots, hh, fun s hne => ?_⟩
    cases hslot : slots s with
    | plain v hv => exact ⟨v, hv, rfl⟩
    | map q =>
      have hmap := hplain s (cs.maps q) hne
      rw [hslot] at hmap
      exact absurd rfl hmap

namespace Holds

theorem get?_eq (h : Holds cs name slots p) :
    cs.get? name = some ⟨fun s => (slots s).read cs.maps⟩ := get?_of_slots h.slots_eq

theorem place?_eq (h : Holds cs name slots p) : cs.place? name = some p := by
  unfold place?
  rw [h.slots_eq, Option.bind_some, h.headers]

/-- Of the maps, only the one of the headers is read. -/
theorem get?_congr (h : Holds cs name slots p) (cs' : Configs)
    (hslots : cs'.slots.get? name = some slots) (hmaps : cs'.maps p = cs.maps p) :
    cs'.get? name = cs.get? name := by
  rw [h.get?_eq, get?_of_slots hslots]
  refine congrArg some (Config.eq_of_value fun s => ?_)
  dsimp only
  by_cases hs : s = .headers
  · rw [hs, h.headers, Slot.read, Slot.read, hmaps]
  · obtain ⟨v, hv, hplain⟩ := h.plain s hs
    rw [hplain]
    rfl

end Holds

/-! ### What is changed -/

/-- Nothing is changed but the slots of a configuration and the map of its headers, which stays in
its place. -/
structure OnlyChanges (name : String) (cs cs' : Configs) : Prop where
  slots_eq : ∀ other, other ≠ name → cs'.slots.get? other = cs.slots.get? other
  place_eq : cs'.place? name = cs.place? name
  maps_eq : ∀ p, cs.place? name ≠ some p → cs'.maps p = cs.maps p

namespace OnlyChanges

theorem refl (name : String) (cs : Configs) : OnlyChanges name cs cs :=
  ⟨fun _ _ => rfl, rfl, fun _ _ => rfl⟩

theorem trans {cs'' : Configs} (h : OnlyChanges name cs cs') (h' : OnlyChanges name cs' cs'') :
    OnlyChanges name cs cs'' where
  slots_eq other hne := (h'.slots_eq other hne).trans (h.slots_eq other hne)
  place_eq := h'.place_eq.trans h.place_eq
  maps_eq p hp := (h'.maps_eq p (h.place_eq ▸ hp)).trans (h.maps_eq p hp)

theorem place?_eq (h : OnlyChanges name cs cs') (other : String) :
    cs'.place? other = cs.place? other := by
  by_cases hne : other = name
  · exact hne ▸ h.place_eq
  · unfold place?
    rw [h.slots_eq other hne]

/-- **Other configurations are as they were**, but for those that have the same map of headers. -/
theorem get?_other (h : OnlyChanges name cs cs') (hs : AreStates cs) (hc : cs.get? name = some c)
    (hm : cs'.get? name = some m) (hms : m.IsState) (hne : other ≠ name) :
    cs'.get? other = (cs.get? other).map fun d =>
      if cs.place? other = cs.place? name then d.withHeaders (m.value .headers) else d := by
  have hslots := h.slots_eq other hne
  cases hd : cs.get? other with
  | none =>
    unfold get?
    rw [hslots, get?_eq_none hd]
    rfl
  | some d =>
    obtain ⟨slots, q, hq⟩ := exists_holds hd (hs other d hd)
    obtain ⟨_, p, hp⟩ := exists_holds hc (hs name c hc)
    rw [Option.map_some, hq.place?_eq, hp.place?_eq]
    by_cases hqp : q = p
    · subst hqp
      obtain ⟨slots', p', hp'⟩ := exists_holds hm hms
      obtain rfl : p' = q := Option.some.inj
        (hp'.place?_eq.symm.trans (h.place_eq.trans hp.place?_eq))
      rw [if_pos rfl, get?_of_slots (hslots.trans hq.slots_eq)]
      cases hm.symm.trans hp'.get?_eq
      cases hd.symm.trans hq.get?_eq
      refine congrArg some (Config.eq_of_value fun s => ?_)
      unfold Config.withHeaders
      dsimp only
      by_cases hheaders : s = .headers
      · rw [if_pos hheaders, hheaders, hq.headers, hp'.headers]
      · obtain ⟨v, hv, hplain⟩ := hq.plain s hheaders
        rw [if_neg hheaders, hplain]
        rfl
    · have hmaps : cs'.maps q = cs.maps q :=
        h.maps_eq q (hp.place?_eq ▸ fun he => hqp (Option.some.inj he).symm)
      rw [if_neg fun he => hqp (Option.some.inj he), ← hd]
      exact hq.get?_congr cs' (hslots.trans hq.slots_eq) hmaps

protected theorem areStates (h : OnlyChanges name cs cs') (hs : AreStates cs)
    (hc : cs.get? name = some c) (hm : cs'.get? name = some m) (hms : m.IsState) :
    AreStates cs' := by
  intro other e he
  by_cases hne : other = name
  · subst hne
    exact Option.some.inj (hm.symm.trans he) ▸ hms
  · rw [h.get?_other hs hc hm hms hne] at he
    obtain ⟨d, hd, rfl⟩ := Option.map_eq_some_iff.1 he
    have hds : d.IsState := hs other d hd
    split
    · exact hds.withHeaders hms
    · exact hds

end OnlyChanges

/-! ### One setting -/

theorem slots_assign (h : cs.slots.get? name = some slots) (s : Setting) {v : Value}
    (hv : v.entries? = none) :
    (cs.assign name s v hv).slots =
      cs.slots.put name fun t => if t = s then .plain v hv else slots t := by
  unfold assign
  split
  · rename_i hnone
    cases hnone.symm.trans h
  · rename_i slots' hsome
    cases hsome.symm.trans h
    rfl

theorem maps_assign (name : String) (s : Setting) {v : Value} (hv : v.entries? = none) :
    (cs.assign name s v hv).maps = cs.maps := by
  unfold assign
  split <;> rfl

theorem takeOver_null (hd : cs.slots.get? other = some slots) {hv : Value.null.entries? = none}
    (hs : slots s = .plain .null hv) : takeOver name other cs s = .ok cs := by
  unfold takeOver
  rw [hd]
  cases cs.slots.get? name with
  | none => rfl
  | some _ =>
    dsimp only
    rw [hs]

theorem takeOver_plain {slots' : Setting → Slot} (hc : cs.slots.get? name = some slots')
    (hd : cs.slots.get? other = some slots) {v : Value} {hv : v.entries? = none}
    (hs : slots s = .plain v hv) (hnull : v ≠ .null) :
    takeOver name other cs s = .ok (cs.assign name s v hv) := by
  unfold takeOver
  rw [hc, hd]
  dsimp only
  rw [hs]
  cases v with
  | null => exact absurd rfl hnull
  | _ => rfl

theorem takeOver_headers {slots' : Setting → Slot} {q : Nat} (hc : Holds cs name slots p)
    (hd : Holds cs other slots' q) :
    takeOver name other cs .headers = .ok (cs.putEntries p (cs.maps q)) := by
  unfold takeOver
  rw [hc.slots_eq, hd.slots_eq]
  dsimp only
  rw [hc.headers, hd.headers]

/-- The entries of a table bring nothing new to the table. -/
theorem foldl_put_self (hs : d.IsState) (hget : cs.get? other = some d)
    (hd : Holds cs other slots p) :
    (cs.maps p).foldl (fun acc e => Entries.put acc e.1 e.2) (cs.maps p) = cs.maps p := by
  have hself : (d.merge d).value .headers = d.value .headers := by rw [hs.merge_self]
  rw [Config.merge_value, value_of_get? hget hd.slots_eq, hd.headers] at hself
  exact Value.map.inj hself

/-- What follows when a setting is taken over by a merge: the configuration that is read stays as it
is. -/
structure Takes (cs cs' : Configs) (name other : String) (c d : Config) : Prop where
  onlyChanges : OnlyChanges name cs cs'
  merged : cs'.get? name = some c
  kept : cs'.get? other = some d

/-- Headers are written into the map that is there. -/
theorem takes_putEntries (hc : cs.get? name = some c) (hd : cs.get? other = some d)
    (hds : d.IsState) (hp : Holds cs name slots p) {slots' : Setting → Slot} {q : Nat}
    (hq : Holds cs other slots' q) :
    Takes cs (cs.putEntries p (cs.maps q)) name other (c.mergeOn [.headers] d) d := by
  have hcvalue := value_of_get? hc hp.slots_eq
  have hdvalue := value_of_get? hd hq.slots_eq
  have hmaps (r : Nat) : (cs.putEntries p (cs.maps q)).maps r = if r = p then
      (cs.maps q).foldl (fun acc e => Entries.put acc e.1 e.2) (cs.maps r) else cs.maps r := rfl
  refine ⟨⟨fun _ _ => rfl, rfl, fun r hr => ?_⟩, ?_, ?_⟩
  · rw [hmaps, if_neg]
    rintro rfl
    exact hr hp.place?_eq
  · rw [get?_of_slots (show (cs.putEntries p (cs.maps q)).slots.get? name = _ from hp.slots_eq)]
    refine congrArg some (Config.eq_of_value fun t => ?_)
    dsimp only
    by_cases ht : t = .headers
    · rw [ht, Config.value_mergeOn_self, hcvalue, hdvalue, hp.headers, hq.headers, Slot.read,
        hmaps p, if_pos rfl]
      rfl
    · obtain ⟨w, hw, hplain⟩ := hp.plain t ht
      rw [Config.value_mergeOn_of_ne ht, hcvalue, hplain]
      rfl
  · have hsame : (cs.putEntries p (cs.maps q)).maps q = cs.maps q := by
      rw [hmaps]
      split
      · exact foldl_put_self hds hd hq
      · rfl
    exact (hq.get?_congr (cs.putEntries p (cs.maps q)) hq.slots_eq hsame).trans hd

/-- What is no map and not nothing replaces what was there. -/
theorem takes_assign (hc : cs.get? name = some c) (hd : cs.get? other = some d) (hne : other ≠ name)
    (hp : Holds cs name slots p) {slots' : Setting → Slot} {q : Nat} (hq : Holds cs other slots' q)
    (hs : s ≠ .headers) {v : Value} {hv : v.entries? = none} (hslot : slots' s = .plain v hv)
    (hnull : v ≠ .null) :
    Takes cs (cs.assign name s v hv) name other (c.mergeOn [s] d) d := by
  have hslots := slots_assign hp.slots_eq s hv
  have hmaps := @maps_assign cs name s v hv
  have hnew : (cs.assign name s v hv).slots.get? name
      = some fun t => if t = s then .plain v hv else slots t := by
    rw [hslots, Table.get?_put_self]
  have hother (n : String) (hn : n ≠ name) :
      (cs.assign name s v hv).slots.get? n = cs.slots.get? n := by
    rw [hslots, Table.get?_put, if_neg hn.symm]
  refine ⟨⟨hother, ?_, fun r _ => congrFun hmaps r⟩, ?_, ?_⟩
  · unfold place?
    rw [hnew, hp.slots_eq, Option.bind_some, Option.bind_some]
    dsimp only
    rw [if_neg (Ne.symm hs)]
  · rw [get?_of_slots hnew, hmaps]
    refine congrArg some (Config.eq_of_value fun t => ?_)
    dsimp only
    by_cases ht : t = s
    · have hdv : d.value s = v := by
        rw [value_of_get? hd hq.slots_eq, hslot]
        rfl
      have hmap (es : Entries) : v ≠ .map es := by
        rintro rfl
        cases hv
      rw [if_pos ht, ht, Config.value_mergeOn_self, hdv, Config.mergeValue_of_ne hnull hmap]
      rfl
    · rw [if_neg ht, Config.value_mergeOn_of_ne ht, value_of_get? hc hp.slots_eq]
  · rw [hq.get?_congr _ ((hother other hne).trans hq.slots_eq) (congrFun hmaps q), hd]

/-- **A setting is taken over by a merge.** -/
theorem takeOver_spec (hc : cs.get? name = some c) (hd : cs.get? other = some d)
    (hcs : c.IsState) (hds : d.IsState) (hne : other ≠ name) (s : Setting) :
    ∃ cs', takeOver name other cs s = .ok cs' ∧ Takes cs cs' name other (c.mergeOn [s] d) d := by
  obtain ⟨slots, p, hp⟩ := exists_holds hc hcs
  obtain ⟨slots', q, hq⟩ := exists_holds hd hds
  by_cases hs : s = .headers
  · subst hs
    exact ⟨_, takeOver_headers hp hq, takes_putEntries hc hd hds hp hq⟩
  · obtain ⟨v, hv, hslot⟩ := hq.plain s hs
    by_cases hnull : v = .null
    · subst hnull
      have hsame : c.mergeOn [s] d = c := by
        refine Config.eq_of_value fun t => ?_
        by_cases ht : t = s
        · have hdv : d.value s = .null := by
            rw [value_of_get? hd hq.slots_eq, hslot]
            rfl
          rw [ht, Config.value_mergeOn_self, hdv, Config.mergeValue_null]
        · rw [Config.value_mergeOn_of_ne ht]
      exact ⟨cs, takeOver_null hq.slots_eq hslot, .refl name cs, hc.trans (congrArg some hsame.symm),
        hd⟩
    · exact ⟨_, takeOver_plain hp.slots_eq hq.slots_eq hslot hnull,
        takes_assign hc hd hne hp hq hs hslot hnull⟩

/-! ### One configuration -/

/-- **A configuration is taken over by a merge**, setting by setting. -/
theorem foldlM_takeOver {settings : List Setting} (hnodup : settings.Nodup)
    (hc : cs.get? name = some c) (hd : cs.get? other = some d) (hcs : c.IsState) (hds : d.IsState)
    (hne : other ≠ name) :
    ∃ cs', settings.foldlM (takeOver name other) cs = .ok cs' ∧
      Takes cs cs' name other (c.mergeOn settings d) d := by
  induction settings generalizing cs c with
  | nil => exact ⟨cs, rfl, .refl name cs, hc, hd⟩
  | cons s rest ih =>
    obtain ⟨hs, hrest⟩ := List.nodup_cons.1 hnodup
    obtain ⟨cs₁, hfirst, htakes⟩ := takeOver_spec hc hd hcs hds hne s
    obtain ⟨cs₂, hall, hthen⟩ := ih hrest htakes.merged htakes.kept (hcs.mergeOn hds [s])
    refine ⟨cs₂, ?_, htakes.onlyChanges.trans hthen.onlyChanges, ?_, hthen.kept⟩
    · rw [List.foldlM_cons, hfirst]
      exact hall
    · rw [Config.mergeOn_cons hs]
      exact hthen.merged

/-- The listed configurations that are there, but for the one that is updated. -/
def others (cs : Configs) (name : String) (listed : List (Option String)) : List Config :=
  listed.filterMap fun l => (l.filter (· ≠ name)).bind cs.get?

/-- A configuration is passed over if it is the one that is updated. -/
theorem others_cons_self (rest : List (Option String)) :
    others cs name (some name :: rest) = others cs name rest :=
  List.filterMap_cons_none (by simp)

theorem others_cons_missing (hother : cs.get? other = none) (rest : List (Option String)) :
    others cs name (some other :: rest) = others cs name rest := by
  refine List.filterMap_cons_none (Option.bind_eq_none_iff.2 fun n hn => ?_)
  obtain ⟨hsome, _⟩ := Option.filter_eq_some_iff.1 hn
  exact Option.some.inj hsome ▸ hother

theorem others_cons_some (hne : other ≠ name) (hd : cs.get? other = some d)
    (rest : List (Option String)) :
    others cs name (some other :: rest) = d :: others cs name rest :=
  List.filterMap_cons_some <| by
    rw [Option.filter_some_pos (by simpa using hne), Option.bind_some, hd]

theorem isState_of_mem_others (h : AreStates cs) {listed : List (Option String)}
    (hd : d ∈ others cs name listed) : d.IsState := by
  obtain ⟨l, _, hl⟩ := List.mem_filterMap.1 hd
  obtain ⟨other, _, hother⟩ := Option.bind_eq_some_iff.1 hl
  exact h other d hother

/-- No setting is taken over if none changes anything. -/
theorem foldlM_takeOver_of_idle (h : ∀ s, takeOver name other cs s = .ok cs)
    (settings : List Setting) : settings.foldlM (takeOver name other) cs = .ok cs := by
  induction settings with
  | nil => rfl
  | cons s rest ih =>
    rw [List.foldlM_cons, h s]
    exact ih

theorem takeOver_missing (hd : cs.get? other = none) (s : Setting) :
    takeOver name other cs s = .ok cs := by
  unfold takeOver
  rw [get?_eq_none hd]
  cases cs.slots.get? name <;> rfl

theorem assign_self (hc : cs.slots.get? name = some slots) {v : Value} {hv : v.entries? = none}
    (hs : slots s = .plain v hv) : cs.assign name s v hv = cs := by
  have hsame : (fun t => if t = s then .plain v hv else slots t) = slots := by
    funext t
    split
    · rename_i ht
      rw [ht, hs]
    · rfl
  refine Configs.ext ?_ (maps_assign name s hv) ?_
  · rw [slots_assign hc, hsame, Table.put_of_get? hc]
  · unfold assign
    split <;> rfl

/-- A configuration has nothing new for itself. -/
theorem takeOver_self (hc : cs.get? name = some c) (hcs : c.IsState) (s : Setting) :
    takeOver name name cs s = .ok cs := by
  obtain ⟨slots, p, hp⟩ := exists_holds hc hcs
  by_cases hs : s = .headers
  · subst hs
    rw [takeOver_headers hp hp]
    refine congrArg Except.ok (Configs.ext rfl (funext fun r => ?_) rfl)
    unfold putEntries
    dsimp only
    split
    · rename_i hr
      rw [hr]
      exact foldl_put_self hcs hc hp
    · rfl
  · obtain ⟨v, hv, hslot⟩ := hp.plain s hs
    by_cases hnull : v = .null
    · subst hnull
      exact takeOver_null hp.slots_eq hslot
    · rw [takeOver_plain hp.slots_eq hp.slots_eq hslot hnull, assign_self hp.slots_eq hslot]

/-- **One that is listed is merged**, if it is there and not the one that is updated. -/
theorem updateOnce_spec (h : AreStates cs) (hc : cs.get? name = some c) (l : Option String) :
    ∃ cs' m, updateOnce name cs l = .ok cs' ∧ OnlyChanges name cs cs' ∧ cs'.get? name = some m ∧
      m = (others cs name [l]).foldl Config.merge c := by
  have hcs : c.IsState := h name c hc
  cases l with
  | none => exact ⟨cs, c, rfl, .refl name cs, hc, rfl⟩
  | some other =>
    by_cases hname : other = name
    · subst hname
      refine ⟨cs, c, foldlM_takeOver_of_idle (takeOver_self hc hcs) _, .refl other cs, hc, ?_⟩
      rw [others_cons_self]
      rfl
    · cases hd : cs.get? other with
      | none =>
        refine ⟨cs, c, foldlM_takeOver_of_idle (takeOver_missing hd) _, .refl name cs, hc, ?_⟩
        rw [others_cons_missing hd]
        rfl
      | some d =>
        obtain ⟨cs', hcs', htakes⟩ :=
          foldlM_takeOver (show Setting.all.Nodup by decide) hc hd hcs (h other d hd) hname
        refine ⟨cs', _, hcs', htakes.onlyChanges, htakes.merged, ?_⟩
        rw [others_cons_some hname hd, Config.mergeOn_all]
        rfl

/-! ### Updates -/

/-- No other configuration among the listed ones has its map of headers in common with the one that
is updated. -/
def Apart (cs : Configs) (name : String) (listed : List (Option String)) : Prop :=
  ∀ other, some other ∈ listed → other ≠ name → cs.place? other ≠ cs.place? name

/-- What is listed apart from the configuration that is changed is listed as it was. -/
theorem others_congr (h : OnlyChanges name cs cs') (hs : AreStates cs)
    (hc : cs.get? name = some c) (hm : cs'.get? name = some m) (hms : m.IsState)
    {listed : List (Option String)} (hapart : Apart cs name listed) :
    others cs' name listed = others cs name listed := by
  refine List.filterMap_congr fun l hl => ?_
  refine Option.bind_congr fun other hother => ?_
  obtain ⟨rfl, hne⟩ := Option.filter_eq_some_iff.1 hother
  have hne : other ≠ name := of_decide_eq_true hne
  rw [h.get?_other hs hc hm hms hne]
  simp only [if_neg (hapart other hl hne), Option.map_id']

/-- An update with many is one update after another, whether it ends well or not. -/
theorem update_append (cs : Configs) (name : String) (xs ys : List (Option String)) :
    update cs name (xs ++ ys) = update cs name xs >>= fun cs => update cs name ys :=
  List.foldlM_append

theorem update_singleton (cs : Configs) (name : String) (l : Option String) :
    update cs name [l] = updateOnce name cs l := by
  unfold update
  rw [List.foldlM_cons]
  exact bind_pure _

/-- **An update is the merge of the others** that are listed, if they are apart from the
configuration that is updated. -/
theorem update_run (h : AreStates cs) (hc : cs.get? name = some c) (listed : List (Option String)) :
    ∃ cs' m, update cs name listed = .ok cs' ∧ OnlyChanges name cs cs' ∧
      cs'.get? name = some m ∧ m.IsState ∧
      (Apart cs name listed → m = (others cs name listed).foldl Config.merge c) := by
  induction listed generalizing cs c with
  | nil => exact ⟨cs, c, rfl, .refl name cs, hc, h name c hc, fun _ => rfl⟩
  | cons l rest ih =>
    obtain ⟨cs₁, m₁, hfirst, hchanges, hm₁, hmerged⟩ := updateOnce_spec h hc l
    have hm₁State : m₁.IsState := hmerged ▸
      Config.isState_foldl_merge (h name c hc) fun d hd => isState_of_mem_others h hd
    obtain ⟨cs₂, m₂, hall, hthen, hm₂, hm₂State, hvalue⟩ :=
      ih (hchanges.areStates h hc hm₁ hm₁State) hm₁
    refine ⟨cs₂, m₂, ?_, hchanges.trans hthen, hm₂, hm₂State, fun hapart => ?_⟩
    · unfold update
      rw [List.foldlM_cons, hfirst]
      exact hall
    · have hrest : Apart cs name rest := fun other hl => hapart other (List.mem_cons_of_mem l hl)
      have hrest₁ : Apart cs₁ name rest := fun other hl hne => by
        rw [hchanges.place?_eq, hchanges.place?_eq]
        exact hrest other hl hne
      have hsplit : others cs name (l :: rest) = others cs name [l] ++ others cs name rest :=
        List.filterMap_append (l := [l])
      rw [hvalue hrest₁, others_congr hchanges h hc hm₁ hm₁State hrest, hmerged, hsplit,
        List.foldl_append]

/-- **Updates may be nested.**  A configuration that is updated with another one brings as much as
the two of them listed one behind the other. -/
theorem get?_update_nested (h : AreStates cs) (hc : cs.get? name = some c) {x y : String}
    (hx : x ≠ name) (hy : y ≠ name) (hapart : Apart cs name [some x, some y])
    (hd : cs.get? x = some d) :
    ∃ cs₁ cs₂ cs₃, update cs x [some y] = .ok cs₁ ∧ update cs₁ name [some x] = .ok cs₂ ∧
      update cs name [some x, some y] = .ok cs₃ ∧ cs₂.get? name = cs₃.get? name := by
  have hcs : c.IsState := h name c hc
  have hds : d.IsState := h x d hd
  -- the first configuration, once it is updated
  obtain ⟨cs₁, d', hfirst, hchanges, hd', hd'eq⟩ := updateOnce_spec h hd (some y)
  have hd's : d'.IsState := hd'eq ▸
    Config.isState_foldl_merge hds fun e he => isState_of_mem_others h he
  have hc₁ : cs₁.get? name = some c := by
    rw [hchanges.get?_other h hd hd' hd's (Ne.symm hx), hc, Option.map_some,
      if_neg (hapart x List.mem_cons_self hx).symm]
  -- the configuration, once it is updated with the first one
  obtain ⟨cs₂, m₂, hsecond, _, hm₂, hm₂eq⟩ :=
    updateOnce_spec (hchanges.areStates h hd hd' hd's) hc₁ (some x)
  rw [others_cons_some hx hd'] at hm₂eq
  -- the configuration, once it is updated with both
  obtain ⟨cs₃, m₃, hboth, _, hm₃, _, hm₃eq⟩ := update_run h hc [some x, some y]
  refine ⟨cs₁, cs₂, cs₃, (update_singleton cs x _).trans hfirst,
    (update_singleton cs₁ name _).trans hsecond, hboth, ?_⟩
  rw [hm₂, hm₃, hm₂eq, hm₃eq hapart, others_cons_some hx hd, hd'eq]
  refine congrArg some ?_
  cases he : cs.get? y with
  | none =>
    rw [others_cons_missing he, others_cons_missing he]
    rfl
  | some e =>
    have hes : e.IsState := h y e he
    rw [others_cons_some hy he]
    show c.merge _ = (c.merge d).merge e
    by_cases hyx : y = x
    · subst hyx
      obtain rfl : d = e := Option.some.inj (hd.symm.trans he)
      rw [others_cons_self, hcs.merge_assoc hds hds, hds.merge_self]
      rfl
    · rw [others_cons_some hyx he, hcs.merge_assoc hds hes]
      rfl

/-- **Updates are right-biased merges.**  An update ends well.  It changes nothing but the
configuration that it is about, and the headers of those that have its map of headers in common.
What is listed may be given in one update or in two.  If no other one that is listed has the map of
headers in common with it, the configuration becomes the right-biased merge of itself and of the
others that are listed, wherever it is listed too; and of two others the second may be merged into
the first beforehand. -/
theorem updates_are_right_biased (h : AreStates cs) (hc : cs.get? name = some c) :
    (∀ xs ys, ∃ cs' m, update cs name (xs ++ ys) = .ok cs' ∧
      (update cs name xs >>= fun cs => update cs name ys) = .ok cs' ∧ AreStates cs' ∧
      cs'.get? name = some m ∧
      (∀ other, other ≠ name → cs'.get? other = (cs.get? other).map fun d =>
        if cs.place? other = cs.place? name then d.withHeaders (m.value .headers) else d) ∧
      (Apart cs name (xs ++ ys) → m.IsMerge (c :: others cs name (xs ++ ys)))) ∧
    ∀ x y, x ≠ name → y ≠ name → Apart cs name [some x, some y] → (cs.get? x).isSome →
      ∃ cs₁ cs₂ cs₃, update cs x [some y] = .ok cs₁ ∧ update cs₁ name [some x] = .ok cs₂ ∧
        update cs name [some x, some y] = .ok cs₃ ∧ cs₂.get? name = cs₃.get? name := by
  refine ⟨fun xs ys => ?_, fun x y hx hy hapart hd => ?_⟩
  · obtain ⟨cs', m, hall, hchanges, hm, hms, hvalue⟩ := update_run h hc (xs ++ ys)
    refine ⟨cs', m, hall, update_append cs name xs ys ▸ hall, hchanges.areStates h hc hm hms, hm,
      fun other hne => hchanges.get?_other h hc hm hms hne, fun hapart => ?_⟩
    rw [hvalue hapart]
    exact Config.isMerge_foldl_merge (h name c hc) fun d hd => isState_of_mem_others h hd
  · obtain ⟨d, hd⟩ := Option.isSome_iff_exists.1 hd
    exact get?_update_nested h hc hx hy hapart hd

/-! ### A shop and its till -/

/-- A slot has the value that it is made for, if a map has its entries at the place. -/
theorem read_slotAt {maps : Nat → Entries} {v : Value} (h : maps p = v.entries?.getD []) :
    (slotAt p v).read maps = v := by
  unfold slotAt
  split
  · rename_i es hes
    rw [Slot.read, h, hes, Option.getD_some]
    cases v with
    | map fs => exact congrArg Value.map (Option.some.inj hes).symm
    | _ => cases hes
  · rfl

/-- What is added is there, and the others are as they were. -/
theorem get?_add (cs : Configs) (name : String) (c : Config) (other : String) :
    (cs.add name c).get? other = if name = other then some c else cs.get? other := by
  unfold add get?
  dsimp only
  rw [Table.get?_put]
  split
  · refine congrArg some (Config.eq_of_value fun s => read_slotAt ?_)
    have hplace : Setting.all[cs.free + Setting.all.idxOf s - cs.free]? = some s := by
      rw [Nat.add_sub_cancel_left]
      cases s <;> rfl
    rw [if_neg (by omega), hplace, Option.bind_some]
  · cases hslots : cs.slots.get? other with
    | none => rfl
    | some slots =>
      refine congrArg some (Config.eq_of_value fun s => ?_)
      dsimp only
      cases hs : slots s with
      | plain v hv => rfl
      | map p => rw [Slot.read, Slot.read, if_pos (cs.taken other slots hslots s p hs)]

theorem areStates_add (h : AreStates cs) (hc : c.IsState) : AreStates (cs.add name c) := by
  intro other d hd
  rw [get?_add] at hd
  split at hd
  · cases hd
    exact hc
  · exact h other d hd

/-- Arguments with a time limit and a header that the shop has too. -/
def tillArguments : Table Value :=
  [("timeout", .int 5), ("headers", .map [(.text "X-A", .text "3")])]

/-- The shop, updated with a missing configuration, the newer one, itself and the till. -/
theorem shop_is_updated_in_place :
    ∃ a b d, Config.make [] Config.shopArguments = .ok a ∧
      Config.make [] Config.newerArguments = .ok b ∧ Config.make [] tillArguments = .ok d ∧
      let shops := ((empty.add "shop" a).add "newer" b).add "till" d
      ∃ cs m, update shops "shop" ([none, some "newer"] ++ [some "shop", some "till"]) = .ok cs ∧
        cs.get? "shop" = some m ∧ m.value .timeout = .int 5 ∧
        m.headerTable.names = ["X-A", "X-B"] ∧ m.headerTable.get? "X-A" = some (.text "3") ∧
        cs.get? "till" = some d ∧
        ∃ cs₁ cs₂ cs₃, update shops "newer" [some "till"] = .ok cs₁ ∧
          update cs₁ "shop" [some "newer"] = .ok cs₂ ∧
          update shops "shop" [some "newer", some "till"] = .ok cs₃ ∧
          cs₂.get? "shop" = cs₃.get? "shop" := by
  obtain ⟨a, ha⟩ : ∃ a, Config.make [] Config.shopArguments = .ok a := ⟨_, rfl⟩
  obtain ⟨b, hb⟩ : ∃ b, Config.make [] Config.newerArguments = .ok b := ⟨_, rfl⟩
  obtain ⟨d, hd⟩ : ∃ d, Config.make [] tillArguments = .ok d := ⟨_, rfl⟩
  have haState : a.IsState :=
    Config.isState_of_pair (s := .host) (by decide) (by simp) (t := [("X-A", .text "1")])
      (by decide) ha
  have hbState : b.IsState :=
    Config.isState_of_pair (s := .backendUrl) (by decide) (by simp) (t := [("X-B", .text "2")])
      (by decide) hb
  have hdState : d.IsState :=
    Config.isState_of_pair (s := .timeout) (by decide) (by simp) (t := [("X-A", .text "3")])
      (by decide) hd
  have hstates : AreStates (((empty.add "shop" a).add "newer" b).add "till" d) :=
    areStates_add (areStates_add (areStates_add areStates_empty haState) hbState) hdState
  have hshop : (((empty.add "shop" a).add "newer" b).add "till" d).get? "shop" = some a := by
    rw [get?_add, if_neg (by decide), get?_add, if_neg (by decide), get?_add, if_pos rfl]
  have hapart : Apart (((empty.add "shop" a).add "newer" b).add "till" d) "shop"
      [some "newer", some "till"] := by
    cases ha
    cases hb
    cases hd
    intro other hl _
    rcases List.mem_cons.1 hl with hl | hl
    · cases hl
      decide
    · cases List.mem_singleton.1 hl
      decide
  obtain ⟨hall, hnested⟩ := updates_are_right_biased hstates hshop
  obtain ⟨cs, m, hcs, _, _, hm, hother, hmerge⟩ :=
    hall [none, some "newer"] [some "shop", some "till"]
  have hmerge := hmerge fun other hl hne => hapart other (by simpa [hne] using hl) hne
  have htill := hother "till" (by decide)
  rw [get?_add, if_pos rfl, Option.map_some,
    if_neg (hapart "till" (by decide) (by decide))] at htill
  refine ⟨a, b, d, ha, hb, hd, cs, m, hcs, hm, ?_, ?_, ?_, htill,
    hnested "newer" "till" (by decide) (by decide) hapart ?_⟩
  all_goals
    cases ha
    cases hb
    cases hd
  · rw [hmerge.value_eq .timeout (by decide)]
    rfl
  · rw [hmerge.header_names]
    rfl
  · rw [hmerge.header_get? "X-A"]
    rfl
  · rfl

/-- A configuration under another name that is made of the same maps. -/
def twin (cs : Configs) (name other : String) : Configs :=
  match hc : cs.slots.get? name with
  | none => cs
  | some slots =>
    { cs with
      slots := cs.slots.put other slots
      taken := fun n d hd => by
        rw [Table.get?_put] at hd
        split at hd
        · cases hd
          exact cs.taken name slots hc
        · exact cs.taken n d hd }

/-- **What is there already does not come back.**  A shop that is listed last in its own update has
the host of the desk by then.  So has a till that is made of the shop's map of headers the headers of
the desk, and these it keeps. -/
theorem listed_itself_is_overwritten :
    (∃ a b cs m, Config.make [] [("host", .text "shop")] = .ok a ∧
      Config.make [] [("host", .text "desk")] = .ok b ∧
      update ((empty.add "shop" a).add "desk" b) "shop" [some "desk", some "shop"] = .ok cs ∧
      cs.get? "shop" = some m ∧ ¬ m.IsMerge [a, b, a]) ∧
    ∃ a b cs m till, Config.make [] [("headers", .map [(.text "X", .text "1")])] = .ok a ∧
      Config.make [] [("headers", .map [(.text "X", .text "2")])] = .ok b ∧
      (((empty.add "shop" a).add "desk" b).twin "shop" "till").get? "till" = some a ∧
      update (((empty.add "shop" a).add "desk" b).twin "shop" "till") "shop"
        [some "desk", some "till"] = .ok cs ∧
      cs.get? "shop" = some m ∧ ¬ m.IsMerge [a, b, a] ∧
      cs.get? "till" = some till ∧ till.headerTable.get? "X" = some (.text "2") := by
  refine ⟨⟨_, _, _, _, rfl, rfl, rfl, rfl, fun h => ?_⟩,
    ⟨_, _, _, _, _, rfl, rfl, ?_, rfl, rfl, fun h => ?_, rfl, rfl⟩⟩
  · have hhost : Value.text "desk" = .text "shop" := h.value_eq .host (by decide)
    exact absurd (Value.text.inj hhost) (by decide)
  · exact (get?_add _ "desk" _ "shop").trans ((if_neg (by decide)).trans (get?_add empty "shop" _ _))
  · have hheader : some (Value.text "2") = some (.text "1") := h.header_get? "X"
    exact absurd (Value.text.inj (Option.some.inj hheader)) (by decide)

end Configs
end ToolGateway
