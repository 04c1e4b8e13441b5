/-
# The registry answers for the first tool of each name

A server knows all tools that it was given, and its registry has the first of each name.  What is
listed and what is called are both read from it: a name leads to the first tool of the name
(`tool?_ofTools`), and the tools that are listed are just those (`mem_registered_iff`).
-/

import ToolGateway.Server.Protocol

namespace ToolGateway
namespace Server

variable {known : Table Tool} {tools : List Tool} {t : Tool} {name : String}

/-! ### Registration -/

theorem get?_register (known : Table Tool) (tools : List Tool) (name : String) :
    (register known tools).get? name
      = (known.get? name).or (tools.find? fun t => t.name = name) := by
  induction tools generalizing known with
  | nil => simp [register]
  | cons t rest ih =>
    rw [register, ih]
    by_cases hk : known.has t.name
    · rw [if_pos hk, List.find?_cons]
      by_cases hn : t.name = name
      · subst hn
        obtain ⟨u, hu⟩ := Option.isSome_iff_exists.1 hk
        simp [hu]
      · simp [hn]
    · rw [if_neg hk, Table.get?_append, List.find?_cons]
      by_cases hn : t.name = name
      · subst hn
        simp [Table.get?_cons]
      · simp [Table.get?_cons, hn]

/-- Tools stand in the registry under their own names. -/
theorem key_eq_name_of_mem_register (h : ∀ p ∈ known, p.1 = p.2.name) :
    ∀ p ∈ register known tools, p.1 = p.2.name := by
  induction tools generalizing known with
  | nil => exact h
  | cons t rest ih =>
    rw [register]
    refine ih ?_
    split
    · exact h
    · rintro p hp
      rcases List.mem_append.1 hp with hp | hp
      · exact h p hp
      · cases List.mem_singleton.1 hp
        rfl

/-- The names in the registry are distinct. -/
theorem nodup_names_register (h : known.names.Nodup) : (register known tools).names.Nodup := by
  induction tools generalizing known with
  | nil => exact h
  | cons t rest ih =>
    rw [register]
    refine ih ?_
    split
    · exact h
    · rename_i hk
      rw [← Table.put_of_not_mem]
      · exact Table.nodup_names_put h _ _
      · rw [← Table.get?_eq_none_iff]
        simpa [Table.has] using hk

/-! ### Servers -/

/-- The server for tools. -/
def ofTools (tools : List Tool) : Server := ⟨tools, register [] tools⟩

theorem make_result (tools : List Tool) : (make tools).result = .ok (ofTools tools) := rfl

/-- A name leads to the first tool of the name. -/
theorem tool?_ofTools (tools : List Tool) (name : String) :
    (ofTools tools).tool? name = tools.find? fun t => t.name = name :=
  get?_register [] tools name

/-- The server answers for a tool if it is the first of its name. -/
theorem mem_registered_iff :
    t ∈ (ofTools tools).registered ↔ tools.find? (fun u => u.name = t.name) = some t := by
  rw [← tool?_ofTools]
  constructor
  · intro ht
    obtain ⟨⟨k, t⟩, hp, rfl⟩ := List.mem_map.1 ht
    have hk : k = t.name :=
      key_eq_name_of_mem_register (fun _ h => absurd h List.not_mem_nil) _ hp
    subst hk
    exact Table.get?_of_mem (@nodup_names_register [] tools List.nodup_nil) hp
  · exact fun h => List.mem_map.2 ⟨_, Table.mem_of_get? h, rfl⟩

/-- What a client is told about the tools: an entry for each that the server answers for. -/
def listings (s : Server) : List Value := s.registered.map listing

theorem get?_name_listing (t : Tool) : (listing t).get? "name" = some (.text t.name) := rfl

theorem get?_inputSchema_listing (t : Tool) :
    (listing t).get? "inputSchema" = some t.inputSchema := rfl

/-- A name is listed at most once, with the tool that it leads to. -/
theorem mem_listings_iff {entry : Value} :
    entry ∈ (ofTools tools).listings ∧ entry.get? "name" = some (.text name) ↔
      ∃ t, (ofTools tools).tool? name = some t ∧ entry = listing t := by
  rw [tool?_ofTools]
  constructor
  · rintro ⟨he, hn⟩
    obtain ⟨t, ht, rfl⟩ := List.mem_map.1 he
    rw [get?_name_listing] at hn
    cases hn
    exact ⟨t, mem_registered_iff.1 ht, rfl⟩
  · rintro ⟨t, ht, rfl⟩
    have hn : t.name = name := by simpa using List.find?_some ht
    subst hn
    exact ⟨List.mem_map.2 ⟨t, mem_registered_iff.2 ht, rfl⟩, get?_name_listing t⟩

end Server
end ToolGateway
