/-
# What tools depend on

Of a document the tools depend on the preferred operation of each path and on the schemas that are
looked up for it: under the reference of its body, and under those that are met when its parameters and
the fields of its body are compiled (`Operation.LooksUp`).  Two documents that agree about these have
the same tools (`ofDocument_congr`).

So a document may grow and keep its tools, as long as the schemas that are added have names under
which nothing is looked up (`tools_depend_on_what_is_reached`).
-/

import ToolGateway.Document.Source
import ToolGateway.Proofs.Document.Growth
import ToolGateway.Proofs.Schema.Reach
import ToolGateway.Proofs.Tool.Delivery
import ToolGateway.Proofs.Tool.PathByPath

namespace ToolGateway

/-- The schema of this name is looked up when the tool of the operation is made. -/
inductive Operation.LooksUp (schemas : Schema.Schemas) (m : Http.Method) (o : Operation) :
    String → Prop
  | body {ref : String} : m = .post → Schema.refOf? o.bodySchema = some ref →
      LooksUp schemas m o (Schema.refName ref)
  | parameter {p : Parameter} {name : String} : p ∈ Parameter.inputs o.parameters →
      Schema.LooksUp schemas (p.schema.getD .null) name → LooksUp schemas m o name
  | field {fields : Entries} {e : Value × Value} {name : String} :
      (Tool.bodyProperties schemas m o).result = .ok (.map fields) → e ∈ fields →
      Schema.LooksUp schemas e.2 name → LooksUp schemas m o name

/-- The schema of this name is looked up when the tools of the document are made. -/
def Document.LooksUp (d : Document) (name : String) : Prop :=
  ∃ path item m o, (path, item) ∈ d.paths ∧ item.selected? = some (m, o) ∧
    o.LooksUp d.schemas m name

namespace Tool

variable {schemas schemas' : Schema.Schemas} {target : Target} {path : String}
  {m : Http.Method} {o : Operation}

theorem bodyProperties_congr
    (h : ∀ name, o.LooksUp schemas m name → schemas'.get? name = schemas.get? name) :
    bodyProperties schemas' m o = bodyProperties schemas m o := by
  unfold bodyProperties
  by_cases hm : m = .post
  · rw [if_pos hm, if_pos hm]
    suffices hresolve : Schema.resolve schemas' o.bodySchema = Schema.resolve schemas o.bodySchema by
      rw [hresolve]
    unfold Schema.resolve
    split
    · rfl
    · cases href : Schema.refOf? o.bodySchema with
      | none => rfl
      | some ref =>
        dsimp only
        unfold Schema.lookUp
        rw [Schema.target?_congr (h _ (.body hm href))]
  · rw [if_neg hm, if_neg hm]

theorem compileParameters_congr
    (h : ∀ name, o.LooksUp schemas m name → schemas'.get? name = schemas.get? name) :
    compileParameters schemas' (Parameter.inputs o.parameters)
      = compileParameters schemas (Parameter.inputs o.parameters) := by
  unfold compileParameters
  rw [Outcome.mapM_congr fun p hp => ?_]
  unfold compileParameter Schema.compile
  rw [Schema.compileOn_congr fun name hn => h name (.parameter hp hn)]

/-- The tool of an operation depends on the schemas that are looked up for it. -/
theorem ofOperation_congr
    (h : ∀ name, o.LooksUp schemas m name → schemas'.get? name = schemas.get? name) :
    ofOperation schemas' target path m o = ofOperation schemas target path m o := by
  rw [ofOperation_eq, ofOperation_eq]
  cases o.operationId.filter (· ≠ "") with
  | none => rfl
  | some id =>
    dsimp only
    unfold ofNamedOperation
    rw [bodyProperties_congr h, compileParameters_congr h]
    refine Outcome.bind_congr_of_ok fun body hbody => ?_
    have hfields : Schema.compileFields schemas' body = Schema.compileFields schemas body := by
      refine Schema.compileFields_congr fun es hes e he name hn => h name (.field ?_ he hn)
      rw [hbody, hes]
    rw [hfields]

/-- The tool of a path depends on the preferred operation. -/
theorem ofPath_result_congr {item item' : PathItem} (hitem : item'.selected? = item.selected?)
    (h : ∀ m o name, item.selected? = some (m, o) → o.LooksUp schemas m name →
      schemas'.get? name = schemas.get? name) :
    (ofPath schemas' target path item').result = (ofPath schemas target path item).result := by
  cases hs : item.selected? with
  | none =>
    unfold ofPath
    rw [hitem, hs]
  | some chosen =>
    obtain ⟨m, o⟩ := chosen
    rw [ofPath_result_of_selected (hitem.trans hs), ofPath_result_of_selected hs,
      ofOperation_congr fun name => h m o name hs]

/-- **What is not looked up does not matter.**  Documents with the same paths and preferred
operations, and with the same schemas under all names that are looked up, have the same tools. -/
theorem ofDocument_congr {d d' : Document} (h : Document.SameBut (fun name => ¬ d.LooksUp name) d d')
    (target : Target) : (ofDocument d' target).result = (ofDocument d target).result := by
  have hpaths : List.Forall₂
      (fun p p' => (ofPath d.schemas target p.1 p.2).result
        = (ofPath d'.schemas target p'.1 p'.2).result) d.paths d'.paths := by
    have hmem := (List.forall₂_and_left d.paths d'.paths).2 ⟨fun _ hp => hp, h.paths⟩
    refine hmem.imp fun p p' ⟨hp, hname, hitem⟩ => ?_
    rw [hname]
    exact (ofPath_result_congr hitem fun m o name hs hn =>
      h.schemas name (not_not_intro ⟨p.1, p.2, m, o, hp, hs, hn⟩)).symm
  unfold ofDocument
  rw [Outcome.bind_result, Outcome.bind_result, Outcome.mapM_result_congr hpaths]

/-- **Tools depend only on what is reached.**  Where a document is loaded and compiled, every document
that has grown out of it is loaded too, and its tools are the same, handlers included: whatever paths
without items, keys that are not read, and operations behind the preferred ones were added, and
whatever schemas under names under which nothing is looked up. -/
theorem tools_depend_on_what_is_reached {files : Files} {es es' : Entries} {d : Document}
    {target : Target} {tools : List Tool}
    (hd : Document.load files (.value (.map es)) = .ok d)
    (ht : (ofDocument d target).result = .ok tools)
    (hg : Document.Grows (fun name => ¬ d.LooksUp name) es es') :
    ∃ d', Document.load files (.value (.map es')) = .ok d' ∧
      (ofDocument d' target).result = .ok tools := by
  obtain ⟨d', hd', hsame⟩ := Document.ofEntries_of_grows hd hg
  exact ⟨d', hd', (ofDocument_congr hsame target).trans ht⟩

/-! ### A document that has grown at every level -/

/-- The word that items are searched for; what it may be is said elsewhere. -/
def wordParameter : Entries :=
  [(.text "name", .text "word"), (.text "in", .text "query"),
    (.text "schema", .map [(.text "$ref", .text "Word")])]

/-- A schema of texts. -/
def wordSchema : Value := .map [(.text "type", .text "string")]

/-- A raw document with one operation. -/
def catalog : Entries :=
  [(.text "paths", .map [(.text "/items", .map [(.text "get", .map
      [(.text "operationId", .text "list"), (.text "parameters", .list [.map wordParameter])])])]),
    (.text "components", .map [(.text "schemas", .map [(.text "Word", wordSchema)])])]

/-- The same with a path that is no item, with a method that is not supported and one that comes
behind, with keys that are not read, and with a schema that is not referred to. -/
def grownCatalog : Entries :=
  [(.text "paths", .map [
      (.text "/notes", .text "none yet"),
      (.text "/items", .map [
        (.text "put", .map []),
        (.text "get", .map [(.text "operationId", .text "list"), (.text "tags", .list []),
          (.text "parameters", .list [.map (wordParameter ++ [(.text "example", .text "cup")])])]),
        (.text "post", .map [(.text "summary", .text "Adds an item")])])]),
    (.text "components", .map [
      (.text "examples", .map []),
      (.text "schemas", .map [(.text "Word", wordSchema),
        (.text "Spare", .map [(.text "$ref", .text "Word")])])])]

/-- The operation of the document. -/
def listOperation : Operation :=
  ⟨some "list", none, none,
    [⟨"word", "query", some (.map [(.text "$ref", .text "Word")]), none, false⟩], none⟩

/-- The document as it is loaded. -/
def catalogDocument : Document :=
  ⟨[("/items", ⟨some listOperation, none, none⟩)], [("Word", wordSchema)]⟩

/-- The tool of the operation. -/
def listTool : Tool :=
  ⟨"list", "", [("word", ⟨.string, true, none, none, none⟩)],
    handlerOf shopTarget ⟨.get, ⟨"/items", listOperation.parameters, []⟩⟩, some .get, some "/items",
    some "store"⟩

theorem ofDocument_catalog : (ofDocument catalogDocument shopTarget).result = .ok [listTool] := by
  have hword : Schema.compile [("Word", wordSchema)] (.map [(.text "$ref", .text "Word")]) true
      = pure ⟨.string, true, none, none, none⟩ :=
    (Schema.compileOn_of_target (show Schema.view _ = .reference "Word" from rfl) List.not_mem_nil
      rfl).trans (Schema.compileOn_of_plain rfl)
  have hparameters : compileParameters [("Word", wordSchema)]
      (Parameter.inputs listOperation.parameters)
      = pure [("word", ⟨.string, true, none, none, none⟩)] := by
    unfold compileParameters
    show (do return Table.ofList (← [_].mapM (compileParameter _))) = _
    simp only [List.mapM_cons, List.mapM_nil, compileParameter, Option.getD_some, hword]
    rfl
  have hbody : bodyProperties [("Word", wordSchema)] .get listOperation = pure (.map []) := rfl
  have hcompiled : Schema.compileFields [("Word", wordSchema)] (.map []) = pure [] := rfl
  have hdescription : shopTarget.surface.describe listOperation.description = .ok "" :=
    describe_store_none
  have hfields : Schema.properties "Tool" "input_schema"
      (addRaw [("word", ⟨.string, true, none, none, none⟩)] []) = pure listTool.fields := rfl
  have htool : ofOperation [("Word", wordSchema)] shopTarget "/items" .get listOperation
      = pure listTool :=
    ofOperation_of_parts rfl hbody hparameters hcompiled hdescription hfields
  exact congrArg Outcome.result (ofDocument_of_operation rfl rfl htool)

/-- Only the schema of words is looked up. -/
theorem not_looksUp_spare : ¬ catalogDocument.LooksUp "Spare" := by
  rintro ⟨path, item, m, o, hp, hs, hl⟩
  cases List.mem_singleton.1 hp
  cases hs
  generalize hname : "Spare" = name at hl
  cases hl with
  | body hm => cases hm
  | field hbody he =>
    cases hbody
    cases he
  | parameter hparameter hl =>
    cases List.mem_singleton.1 hparameter
    obtain ⟨n, ref, ⟨refs, hpath⟩, hv, rfl⟩ := hl
    have hreference : Schema.view (.map [(.text "$ref", .text "Word")]) = .reference "Word" := rfl
    rcases hpath.of_reference hreference with ⟨_, rfl⟩ | ⟨t, rest, ht, _, hpath⟩
    · cases hv
      revert hname
      decide
    · cases ht
      obtain ⟨_, rfl⟩ := hpath.of_leaf rfl
      cases hv

/-- The additions are such that the tools stay the same. -/
theorem grownCatalog_has_same_tools :
    Document.load [] (.value (.map catalog)) = .ok catalogDocument ∧
      (ofDocument catalogDocument shopTarget).result = .ok [listTool] ∧
      Document.Grows (fun name => ¬ catalogDocument.LooksUp name) catalog grownCatalog ∧
      ∃ d', Document.load [] (.value (.map grownCatalog)) = .ok d' ∧
        (ofDocument d' shopTarget).result = .ok [listTool] := by
  have hd : Document.load [] (.value (.map catalog)) = .ok catalogDocument := rfl
  have hparameter : Parameter.Grows (.map wordParameter)
      (.map (wordParameter ++ [(.text "example", .text "cup")])) :=
    .map (.keep rfl (.keep rfl (.keep rfl (.add (isOther_text (by decide)) .nil))))
  have hoperation : Operation.Grows
      (.map [(.text "operationId", .text "list"), (.text "parameters", .list [.map wordParameter])])
      (.map [(.text "operationId", .text "list"), (.text "tags", .list []),
        (.text "parameters", .list [.map (wordParameter ++ [(.text "example", .text "cup")])])]) :=
    .map (.keep (Or.inl rfl) (.add (isOther_text (by decide)) (.keep
      (Or.inr ⟨rfl, _, _, rfl, rfl, .cons hparameter .nil⟩) .nil)))
  have hg : Document.Grows (fun name => ¬ catalogDocument.LooksUp name) catalog grownCatalog := by
    refine ⟨⟨_, _, rfl, rfl, .add rfl (.keep (.map ?_) .nil)⟩,
      ⟨_, _, rfl, rfl, .keep rfl (.add ⟨⟨_, rfl, not_looksUp_spare⟩, _, rfl, ?_⟩ .nil)⟩⟩
    · have hbehind : [Http.Method.get, .post].Sublist PathItem.precedence := by decide
      exact .add (.other (isOther_text (by decide))) (.keep hoperation
        (.add (.behind (m := .post) hbehind ⟨_, rfl, fun h => nomatch h⟩ rfl) .nil))
    · intro e he
      exact ⟨"$ref", congrArg Prod.fst (List.mem_singleton.1 he)⟩
  exact ⟨hd, ofDocument_catalog, hg, tools_depend_on_what_is_reached hd ofDocument_catalog hg⟩

end Tool
end ToolGateway
