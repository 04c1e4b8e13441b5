/-
# Tools of one document for two targets

What a tool looks like does not depend on the credential or on the configuration that it is compiled
for; only the handler does, and the handlers for two targets follow one plan.  So the compilations
of a document for two targets of one surface log the same, fail alike, and else give tools that look
alike one by one (`alike_ofDocument`).
-/

import ToolGateway.Proofs.Tool.Origin

namespace ToolGateway
namespace Tool

/-- The tools differ in the handler at most. -/
def LooksLike (t u : Tool) : Prop := ∃ handler, u = { t with handler }

/-- The same tool, made for two targets. -/
def Twins (target target' : Target) (t u : Tool) : Prop :=
  ∃ plan, t.handler = handlerOf target plan ∧ u = { t with handler := handlerOf target' plan }

theorem Twins.looksLike {target target' : Target} {t u : Tool} :
    Twins target target' t u → LooksLike t u
  | ⟨_, _, hu⟩ => ⟨_, hu⟩

theorem LooksLike.name_eq {t u : Tool} : LooksLike t u → u.name = t.name
  | ⟨_, hu⟩ => hu ▸ rfl

variable {schemas : Schema.Schemas} {target target' : Target} {path : String}

theorem alike_ofNamedOperation (h : target.surface = target'.surface) (m : Http.Method)
    (o : Operation) (id : String) :
    Outcome.Alike (Twins target target') (ofNamedOperation schemas target path m o id)
      (ofNamedOperation schemas target' path m o id) := by
  unfold ofNamedOperation
  rw [h]
  refine Outcome.Alike.bind_congr fun body => ?_
  refine Outcome.Alike.bind_congr fun parameterFields => ?_
  refine Outcome.Alike.bind_congr fun bodyFields => ?_
  refine Outcome.Alike.bind_congr fun description => ?_
  refine Outcome.Alike.bind_congr fun fields => ?_
  exact .pure ⟨⟨m, routerOf path o body⟩, rfl, rfl⟩

theorem alike_ofOperation (h : target.surface = target'.surface) (m : Http.Method)
    (o : Operation) :
    Outcome.Alike (Twins target target') (ofOperation schemas target path m o)
      (ofOperation schemas target' path m o) := by
  rw [ofOperation_eq, ofOperation_eq]
  split
  · exact ⟨rfl, .error _⟩
  · exact alike_ofNamedOperation h m o _

theorem alike_ofPath (h : target.surface = target'.surface) (item : PathItem) :
    Outcome.Alike (Option.Rel (Twins target target')) (ofPath schemas target path item)
      (ofPath schemas target' path item) := by
  have hsome : ∀ m o, Outcome.Alike (Option.Rel (Twins target target'))
      (some <$> ofOperation schemas target path m o)
      (some <$> ofOperation schemas target' path m o) := by
    intro m o
    rw [map_eq_pure_bind, map_eq_pure_bind]
    exact (alike_ofOperation h m o).bind fun _ _ htu => .pure (.some htu)
  unfold ofPath
  split
  · exact Outcome.Alike.bind_congr fun _ => .pure .none
  · rename_i m o _
    dsimp only
    split
    · exact Outcome.Alike.bind_congr fun _ => hsome m o
    · exact hsome m o

theorem forall₂_filterMap {R : Tool → Tool → Prop} {xs ys : List (Option Tool)}
    (h : List.Forall₂ (Option.Rel R) xs ys) :
    List.Forall₂ R (xs.filterMap id) (ys.filterMap id) := by
  induction h with
  | nil => exact .nil
  | cons hxy _ ih =>
    cases hxy with
    | none => exact ih
    | some htu => exact .cons htu ih

/-- **For two targets of one surface a document is compiled alike**, tool by tool. -/
theorem alike_ofDocument (d : Document) (h : target.surface = target'.surface) :
    Outcome.Alike (List.Forall₂ (Twins target target')) (ofDocument d target)
      (ofDocument d target') := by
  unfold ofDocument
  refine Outcome.Alike.bind (Outcome.Alike.lifting.mapM (List.forall₂_same.2 fun p _ => ?_))
    fun _ _ hts => .pure (forall₂_filterMap hts)
  exact alike_ofPath h p.2

end Tool
end ToolGateway
