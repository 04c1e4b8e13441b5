/-
# What a server does under the policies for equal names

Tools of one name are looked at twice: when the sets are merged, by the policy, and when the server
registers its tools.  Registering passes over the tools that the policy of the first ones leaves out
(`register_firstOf`), whatever names the allow-list takes out in between.  So a server that was given
all tools answers like one that was given the first of each name (`keep_and_first_serve_alike`).  The
two know different tools and warn of different things, and the filtering between the two counts what
it is given (`filtering_counts_what_is_kept`).
-/

import ToolGateway.Proofs.Server.Enforcement
import ToolGateway.Proofs.Toolset.Selection

namespace ToolGateway
namespace Server

variable {known : Table Tool} {seen : List String}

/-! ### Registration -/

theorem has_append_singleton (known : Table Tool) (t : Tool) (name : String) :
    Table.has (known ++ [(t.name, t)]) name = true ↔ known.has name = true ∨ t.name = name := by
  unfold Table.has
  rw [Table.get?_append, Option.isSome_or, Table.get?_cons, Table.get?_nil, Bool.or_eq_true]
  by_cases hn : t.name = name
  · simp [hn]
  · simp [hn]

/-- Tools of names that are registered already make no difference, whether they are there or not. -/
theorem register_firstOf (hs : ∀ n ∈ seen, known.has n = true) (tools : List Tool) :
    register known (Policy.firstOf seen tools) = register known tools := by
  induction tools generalizing seen known with
  | nil => rfl
  | cons t rest ih =>
    rw [Policy.firstOf]
    by_cases ht : t.name ∈ seen
    · rw [if_pos ht, register, if_pos (hs _ ht)]
      exact ih hs
    · rw [if_neg ht, register, register]
      refine ih fun n hn => ?_
      rcases List.mem_cons.1 hn with rfl | hn
      · split
        · assumption
        · exact (has_append_singleton _ _ _).2 (Or.inr rfl)
      · split
        · exact hs n hn
        · exact (has_append_singleton _ _ _).2 (Or.inl (hs n hn))

/-! ### Servers of merged tools -/

/-- The server for the tools of several sets, merged by the policy and then filtered. -/
def ofSets (policy : Policy) (allowed : AllowList) (sets : List (List Tool)) : Outcome Server := do
  let merged ← policy.merge sets
  let tools ← allowed.filter merged
  make tools

/-- What is logged besides warnings. -/
def remarks (log : List LogEntry) : List LogEntry := log.filter (·.level != .warning)

theorem remarks_append (log log' : List LogEntry) :
    remarks (log ++ log') = remarks log ++ remarks log' := List.filter_append log log'

theorem remarks_eq_nil {log : List LogEntry} (h : ∀ e ∈ log, e.level = .warning) :
    remarks log = [] :=
  List.filter_eq_nil_iff.2 fun e he => by simp [h e he]

/-- Registering logs warnings only. -/
theorem level_of_mem_registrationLog {tools : List Tool} :
    ∀ e ∈ registrationLog known tools, e.level = .warning := by
  induction tools generalizing known with
  | nil => exact fun e he => absurd he List.not_mem_nil
  | cons t rest ih =>
    rw [registrationLog]
    split
    · exact List.forall_mem_cons.2 ⟨rfl, ih⟩
    · exact ih

/-- Merging logs warnings only. -/
theorem level_of_mem_resolve (policy : Policy) (tools : List Tool) :
    ∀ e ∈ (policy.resolve tools).log, e.level = .warning := by
  unfold Policy.resolve
  dsimp only
  split
  · exact fun e he => absurd he List.not_mem_nil
  · cases policy with
    | error => exact fun e he => absurd he List.not_mem_nil
    | first => exact fun e he => List.mem_singleton.1 he ▸ rfl
    | keep => exact fun e he => List.mem_singleton.1 he ▸ rfl

/-- Filtering logs no warnings. -/
theorem remarks_filterLog (allowed : AllowList) (tools : List Tool) :
    remarks (allowed.filterLog tools) = allowed.filterLog tools := by
  unfold AllowList.filterLog
  dsimp only
  split
  · split <;> rfl
  · rfl

/-- A server is made of what a policy that does not fail lets through. -/
theorem ofSets_of_resolve {policy : Policy} {sets : List (List Tool)} {merged : List Tool}
    (h : (policy.resolve sets.flatten).result = .ok merged) (allowed : AllowList) :
    (ofSets policy allowed sets).result = .ok (ofTools (merged.filter allowed.allows)) ∧
      remarks (ofSets policy allowed sets).log = allowed.filterLog merged := by
  have hmerge : (policy.merge sets).result = .ok merged := h
  have hlog : (ofSets policy allowed sets).log = (policy.resolve sets.flatten).log ++
      (allowed.filterLog merged ++ registrationLog [] (merged.filter allowed.allows)) := by
    unfold ofSets
    rw [Outcome.bind_log_of_ok hmerge]
    rfl
  constructor
  · exact Outcome.bind_result_eq_ok.2 ⟨merged, hmerge, rfl⟩
  · rw [hlog, remarks_append, remarks_append, remarks_filterLog,
      remarks_eq_nil (level_of_mem_resolve policy _), remarks_eq_nil level_of_mem_registrationLog,
      List.nil_append, List.append_nil]

/-- **All tools are served like the first of each name.**  Let tools be merged under the policy that
keeps all of them, or under the one that keeps the first of each name, and then filtered by an
allow-list; where there is none, everything is allowed.  Both times there is a server, and the two
differ in the tools that they know and in nothing else: they list the same, a name leads both to the
first tool of the name that the list allows, and they answer calls and messages alike.  What is
logged on the way differs in warnings, and in what the filtering says of the tools it is given. -/
theorem keep_and_first_serve_alike (allowed : AllowList) (sets : List (List Tool)) :
    ∃ all firsts : Server,
      (ofSets .keep allowed sets).result = .ok all ∧
      (ofSets .first allowed sets).result = .ok firsts ∧
      all.tools = sets.flatten.filter allowed.allows ∧
      firsts = { all with tools := Policy.firstOf [] all.tools } ∧
      firsts.listings = all.listings ∧
      (∀ name,
        all.tool? name = (sets.flatten.filter allowed.allows).find? (fun t => t.name = name) ∧
        firsts.tool? name = all.tool? name) ∧
      (∀ name arguments, firsts.call name arguments = all.call name arguments) ∧
      (∀ address message, firsts.answerAt address message = all.answerAt address message) ∧
      remarks (ofSets .keep allowed sets).log = allowed.filterLog sets.flatten ∧
      remarks (ofSets .first allowed sets).log
        = allowed.filterLog (Policy.firstOf [] sets.flatten) := by
  obtain ⟨hall, hallLog⟩ := ofSets_of_resolve (Policy.resolve_keep_result sets.flatten) allowed
  obtain ⟨hfirsts, hfirstsLog⟩ :=
    ofSets_of_resolve (Policy.resolve_first_result sets.flatten) allowed
  have htools : (Policy.firstOf [] sets.flatten).filter allowed.allows
      = Policy.firstOf [] (sets.flatten.filter allowed.allows) :=
    Policy.filter_firstOf (fun _ _ => allowed.allows_congr) [] _
  have hregistry : register [] ((Policy.firstOf [] sets.flatten).filter allowed.allows)
      = register [] (sets.flatten.filter allowed.allows) := by
    rw [htools]
    exact register_firstOf (fun n hn => absurd hn List.not_mem_nil) _
  have hservers : ofTools ((Policy.firstOf [] sets.flatten).filter allowed.allows)
      = { ofTools (sets.flatten.filter allowed.allows) with
          tools := Policy.firstOf [] (sets.flatten.filter allowed.allows) } := by
    unfold ofTools
    rw [hregistry, htools]
  rw [hservers] at hfirsts
  -- Listing, finding, calling and answering look at the registry only, which is the same.
  exact ⟨_, _, hall, hfirsts, rfl, rfl, rfl, fun name => ⟨tool?_ofTools _ name, rfl⟩,
    fun _ _ => rfl, fun _ _ => rfl, hallLog, hfirstsLog⟩

/-- **Filtering counts what it is given.**  Of two tools with one name both are counted if all are
kept, and one if the first of each name is: a difference that is neither in the tools of the servers
nor in the warnings. -/
theorem filtering_counts_what_is_kept :
    let sets := [[greetTool], [lateTool]]
    remarks (ofSets .keep .everything sets).log
        = [⟨.info, "All tools enabled: 2 tools available"⟩] ∧
      remarks (ofSets .first .everything sets).log
        = [⟨.info, "All tools enabled: 1 tools available"⟩] ∧
      remarks (ofSets .keep .everything sets).log
        ≠ remarks (ofSets .first .everything sets).log := by
  intro sets
  obtain ⟨_, hall⟩ := ofSets_of_resolve (Policy.resolve_keep_result sets.flatten) .everything
  obtain ⟨_, hfirsts⟩ := ofSets_of_resolve (Policy.resolve_first_result sets.flatten) .everything
  rw [hall, hfirsts]
  decide +kernel

end Server
end ToolGateway
