/-
# Configurations in place

A configuration keeps the map of headers that it is made of, and an update writes into this map
where it is. So configurations that are made of one map have their headers in common, and an update
of one changes the headers of all. An update reads the listed configurations one after the other,
setting by setting, each as it is by then: one that is listed in its own update has by then what
those in front of it have brought. This is `Config.update` of `SPEC_FULL.md`, 9.
-/
import ToolGateway.Config

namespace ToolGateway

/-- The entries of a map. -/
def Value.entries? : Value → Option Entries
  | .map es => some es
  | _ => none

/-- What a configuration has for a setting: the place of a map, or a value that is no map. -/
inductive Slot where
  | map (place : Nat)
  | plain (v : Value) (h : v.entries? = none)

/-- The value of a slot, where the maps are at their places. -/
def Slot.read (maps : Nat → Entries) : Slot → Value
  | map place => .map (maps place)
  | plain v _ => v

/-- Configurations by name, with the maps that they refer to. -/
@[ext]
structure Configs where
  slots : Table (Setting → Slot)
  maps : Nat → Entries
  /-- The first place that is free. -/
  free : Nat
  taken : ∀ name c, slots.get? name = some c → ∀ s p, c s = .map p → p < free

namespace Configs

/-- No configurations. -/
def empty : Configs := ⟨[], fun _ => [], 0, fun _ _ h => nomatch h⟩

/-- The configuration of a name, as it is now. -/
def get? (cs : Configs) (name : String) : Option Config :=
  (cs.slots.get? name).map fun c => ⟨fun s => (c s).read cs.maps⟩

/-- The slot of a value, with the place that the value has if it is a map. -/
def slotAt (place : Nat) (v : Value) : Slot :=
  match h : v.entries? with
  | some _ => .map place
  | none => .plain v h

theorem place_of_slotAt {place p : Nat} {v : Value} (h : slotAt place v = .map p) : place = p := by
  unfold slotAt at h
  split at h
  · cases h
    rfl
  · cases h

/-- A configuration under a name, with maps of its own. -/
def add (cs : Configs) (name : String) (c : Config) : Configs where
  slots := cs.slots.put name fun s => slotAt (cs.free + Setting.all.idxOf s) (c.value s)
  maps p :=
    if p < cs.free then cs.maps p
    else (Setting.all[p - cs.free]?.bind fun s => (c.value s).entries?).getD []
  free := cs.free + Setting.all.length
  taken other d hd s p hp := by
    rw [Table.get?_put] at hd
    split at hd
    · cases hd
      have hs : Setting.all.idxOf s < Setting.all.length := by cases s <;> decide
      rw [← place_of_slotAt hp]
      omega
    · exact Nat.lt_add_right _ (cs.taken other d hd s p hp)

/-- A value in the place of what a configuration has for a setting. -/
def assign (cs : Configs) (name : String) (s : Setting) (v : Value) (hv : v.entries? = none) :
    Configs :=
  match hc : cs.slots.get? name with
  | none => cs
  | some c =>
    { cs with
      slots := cs.slots.put name fun t => if t = s then .plain v hv else c t
      taken := fun other d hd t p hp => by
        rw [Table.get?_put] at hd
        split at hd
        · cases hd
          dsimp only at hp
          split at hp
          · cases hp
          · exact cs.taken name c hc t p hp
        · exact cs.taken other d hd t p hp }

/-- Entries put into the map at a place. -/
def putEntries (cs : Configs) (place : Nat) (es : Entries) : Configs :=
  { cs with maps := fun p =>
      if p = place then es.foldl (fun acc e => Entries.put acc e.1 e.2) (cs.maps p) else cs.maps p }

/-- An update that stopped: the fault, and the configurations reached. -/
structure UpdateFault where
  fault : RawFault
  reached : Configs

/-- The configurations once that of a name has taken over one setting of another one: nothing changes
nothing, entries are put into the map that is there, and all else replaces. -/
def takeOver (name other : String) (cs : Configs) (s : Setting) : Except UpdateFault Configs :=
  match cs.slots.get? name, cs.slots.get? other with
  | some c, some d =>
    match d s, c s with
    | .plain .null _, _ => .ok cs
    | .plain v hv, _ => .ok (cs.assign name s v hv)
    | .map p, .map q => .ok (cs.putEntries q (cs.maps p))
    | .map _, .plain v _ => .error ⟨.noMember v.kindName "update", cs⟩
  | _, _ => .ok cs

/-- The configurations once that of a name is updated with a listed one, if that is there. -/
def updateOnce (name : String) (cs : Configs) : Option String → Except UpdateFault Configs
  | none => .ok cs
  | some other => Setting.all.foldlM (takeOver name other) cs

/-- The configurations once that of a name is updated with listed ones, of which some may be
missing. -/
def update (cs : Configs) (name : String) (listed : List (Option String)) :
    Except UpdateFault Configs :=
  listed.foldlM (updateOnce name) cs

end Configs
end ToolGateway
