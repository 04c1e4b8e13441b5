/-
# What the check of a document finds

The checks of a parameter, an operation, a path item and a document keep plain what is plain, and what
is checked of a plain document is plain.  So the issues of a plain document have a JSON form, unless it
is nested too deeply for them (`hasForm_issuesDetail`).
-/

import ToolGateway.Proofs.Check.Findings
import ToolGateway.Proofs.Document.Growth

namespace ToolGateway

open Shape (KeepsPlain)

variable {n : Nat}

theorem Shape.keepsPlain_mapping : KeepsPlain n mapping := fun v hv =>
  (keepsPlain_any.table v hv).map Value.ofTable

theorem Parameter.keepsPlain_shape : KeepsPlain n Parameter.shape := by
  refine Shape.keepsPlain_record (fun es hes => ?_) _
  have hname := Shape.keepsPlain_text.required hes ⟨"name", "name"⟩
  have hlocation := Shape.keepsPlain_text.withDefault hes ⟨"in", "location"⟩ defaultLocation
  have hschema := Shape.keepsPlain_mapping.orNull.withDefault hes ⟨"schema", "param_schema"⟩ none
  have hdescription :=
    Shape.keepsPlain_text.orNull.withDefault hes ⟨"description", "description"⟩ none
  have hrequired := Shape.keepsPlain_truth.withDefault hes ⟨"required", "required"⟩ false
  exact ((((hname.map Parameter.mk).ap hlocation).ap hschema).ap hdescription).ap hrequired

theorem Operation.keepsPlain_shape : KeepsPlain n Operation.shape := by
  refine Shape.keepsPlain_record (fun es hes => ?_) _
  have htext (naming : Shape.Naming) :=
    Shape.keepsPlain_text.orNull.withDefault hes naming none
  have hparameters :=
    Parameter.keepsPlain_shape.list.withDefault hes ⟨"parameters", "parameters"⟩ []
  have hbody :=
    Shape.keepsPlain_mapping.orNull.withDefault hes ⟨"requestBody", "request_body"⟩ none
  exact (((((htext _).map Operation.mk).ap (htext _)).ap (htext _)).ap hparameters).ap hbody

theorem PathItem.keepsPlain_shape : KeepsPlain n PathItem.shape := by
  refine Shape.keepsPlain_record (fun es hes => ?_) _
  have hoperation (naming : Shape.Naming) :=
    Operation.keepsPlain_shape.orNull.withDefault hes naming none
  exact (((hoperation _).map PathItem.mk).ap (hoperation _)).ap (hoperation _)

namespace Document

variable {es : Entries}

theorem keepsPlain_schemasOf : KeepsPlain n schemasOf :=
  Shape.keepsPlain_record (fun _ hes => Shape.keepsPlain_mapping.table.withDefault hes _ []) _

theorem keepsPlain_shape : KeepsPlain n shape := by
  refine Shape.keepsPlain_record (fun es hes => ?_) _
  have hpaths := PathItem.keepsPlain_shape.table.withDefault hes ⟨"paths", "paths"⟩ []
  have hcomponents := keepsPlain_schemasOf.withDefault hes ⟨"components", "components"⟩ []
  exact (hpaths.map Document.mk).ap hcomponents

theorem plain_rawPaths (hes : (Value.map es).PlainWithin (n + 1)) :
    (rawPaths es).PlainWithin (n + 1) := by
  unfold rawPaths Schema.keyword
  split
  · split
    · exact hes.get? ‹_›
    · exact .empty
  · exact .empty

theorem plain_rawSchemas (hes : (Value.map es).PlainWithin (n + 1)) :
    (rawSchemas es).PlainWithin (n + 1) := by
  unfold rawSchemas
  cases hschemas : ((Value.map es).at? ["components", "schemas"]).bind Value.given? with
  | none => exact .empty
  | some v =>
    obtain ⟨w, hw, hv⟩ := Option.bind_eq_some_iff.1 hschemas
    unfold Value.given? at hv
    split at hv
    · cases hv
      exact hes.at? hw
    · cases hv

/-- Two levels are put around the schemas, and one around the paths. -/
theorem plain_checkedPart {ps : Entries} (hp : (Value.map ps).PlainWithin (n + 1)) {schemas : Value}
    (hs : schemas.PlainWithin (n + 1)) : (checkedPart ps schemas).PlainWithin (n + 3) := by
  have hitems : (Value.map (items ps)).PlainWithin (n + 2) :=
    .map (fun e he => hp.keys e (List.mem_filter.1 he).1) fun e he =>
      hp.values e (List.mem_filter.1 he).1
  have hcomponents : (Value.ofTable [("schemas", schemas)]).PlainWithin (n + 2) :=
    .ofTable (List.forall_mem_singleton.2 hs)
  refine .ofTable ?_
  simp only [List.forall_mem_cons]
  exact ⟨hitems, hcomponents, fun _ h => nomatch h⟩

/-- The issues as a detail. -/
def issuesDetail (issues : List Issue) : Value := .list (issues.map Issue.value)

/-- How deep a document may be nested so that its issues can be told whatever they show: the report
puts three levels around a part of it, and what is checked has up to two of its own. -/
def depthLimit : Nat := Json.nestingLimit - 5

/-- **The issues of a plain document have a JSON form**, unless it is nested too deeply. -/
theorem hasForm_issuesDetail {ps : Entries} {issues : List Issue}
    (hes : (Value.map es).PlainWithin depthLimit) (hp : rawPaths es = .map ps)
    (hflawed : shape (checkedPart ps (rawSchemas es)) = .flawed issues) :
    Json.HasForm (Json.nestingLimit - 1) (issuesDetail issues) := by
  have hlimit : depthLimit = (depthLimit - 1) + 1 := by decide
  rw [hlimit] at hes
  have hpaths : (Value.map ps).PlainWithin (depthLimit - 1 + 1) := hp ▸ plain_rawPaths hes
  have hissues := keepsPlain_shape _ (plain_checkedPart hpaths (plain_rawSchemas hes))
  rw [hflawed] at hissues
  refine Json.hasForm_list fun v hv => ?_
  obtain ⟨i, hi, rfl⟩ := List.mem_map.1 hv
  exact (hissues i hi).hasForm

end Document
end ToolGateway
