/-
# Documents are compiled path by path

One compiler goes through the paths of a document, and the stack of the references that it is
expanding is its own: what the compilation of one path left on it would be found by the next.
`sharedDocument` is the compilation of a document as it goes with such a stack.

Nothing is left on it (`does_sharedDocument`), so each path is compiled as by a compiler of its own.
The tools of a document are those of its paths one behind the other, and its failure is that of the
first path that fails alone (`documents_are_compiled_path_by_path`).
-/

import ToolGateway.Proofs.Schema.SharedStack
import ToolGateway.Proofs.Tool.Origin

namespace ToolGateway

namespace PathItem

/-- The operation of the preferred method: one that creates counts only without one that reads, and
one that deletes only without both. -/
inductive Prefers (item : PathItem) : Http.Method → Operation → Prop
  | get {o : Operation} : item.get = some o → Prefers item .get o
  | post {o : Operation} : item.get = none → item.post = some o → Prefers item .post o
  | delete {o : Operation} :
      item.get = none → item.post = none → item.delete = some o → Prefers item .delete o

variable {item : PathItem} {m : Http.Method} {o : Operation}

theorem selected?_eq_none_iff :
    item.selected? = none ↔ item.get = none ∧ item.post = none ∧ item.delete = none := by
  simp [selected?, precedence, operation?]

theorem prefers_of_selected? (h : item.selected? = some (m, o)) : item.Prefers m o := by
  unfold selected? precedence at h
  cases hg : item.get with
  | some o' =>
    simp only [List.findSome?_cons, operation?, hg, Option.map_some, Option.some.injEq,
      Prod.mk.injEq] at h
    obtain ⟨rfl, rfl⟩ := h
    exact .get hg
  | none =>
    cases hp : item.post with
    | some o' =>
      simp only [List.findSome?_cons, operation?, hg, hp, Option.map_none, Option.map_some,
        Option.some.injEq, Prod.mk.injEq] at h
      obtain ⟨rfl, rfl⟩ := h
      exact .post hg hp
    | none =>
      cases hd : item.delete with
      | some o' =>
        simp only [List.findSome?_cons, operation?, hg, hp, hd, Option.map_none, Option.map_some,
          Option.some.injEq, Prod.mk.injEq] at h
        obtain ⟨rfl, rfl⟩ := h
        exact .delete hg hp hd
      | none => simp [operation?, hg, hp, hd] at h

end PathItem

namespace Tool

open Schema (Compiling sharedCompile does_sharedCompile)
open Schema.Compiling (Does)

/-! ### The compiler of a document -/

/-- The validator of a parameter, by a compiler with one stack. -/
noncomputable def sharedParameter (schemas : Schema.Schemas) (p : Parameter) :
    Compiling (String × Validator) := do
  let v ← sharedCompile schemas (p.schema.getD .null) true
  let own := p.description.filter (· ≠ "")
  return (p.name, if v.description.isNone then { v with description := own.map .text } else v)

/-- The validators of an operation's parameters, one after the other on the same stack. -/
noncomputable def sharedParameters (schemas : Schema.Schemas) (ps : List Parameter) :
    Compiling (Table Validator) := do
  return Table.ofList (← ps.mapM (sharedParameter schemas))

/-- The validators of the fields of a body, one after the other on the same stack. -/
noncomputable def sharedFields (schemas : Schema.Schemas) :
    Value → Compiling (List (Value × Validator)) :=
  Schema.stepFields .of (sharedCompile schemas)

/-- The tool of an operation: the parameters are compiled first, and the fields of the body on the
stack that they leave. -/
noncomputable def sharedOperation (schemas : Schema.Schemas) (target : Target) (path : String)
    (m : Http.Method) (o : Operation) : Compiling Tool :=
  match o.operationId.filter (· ≠ "") with
  | none => .of (.fail (.missingOperationId path m.name))
  | some id => do
    let body ← .of (bodyProperties schemas m o)
    let parameterFields ← sharedParameters schemas (Parameter.inputs o.parameters)
    let bodyFields ← sharedFields schemas body
    let description ← .of (Outcome.ofExcept
      ((target.surface.describe o.description).mapError .template))
    let fields ← .of
      (Schema.properties "Tool" "input_schema" (addRaw parameterFields bodyFields))
    return ⟨target.surface.toolName id, description, fields,
      handlerOf target ⟨m, routerOf path o body⟩, some m, some path, some target.surface.name⟩

/-- The tool of a path, if it has an operation. -/
noncomputable def sharedPath (schemas : Schema.Schemas) (target : Target) (path : String)
    (item : PathItem) : Compiling (Option Tool) :=
  match item.selected? with
  | none => do
    .of (Outcome.note .debug (skippedText path))
    return none
  | some (m, o) => do
    let others := item.others m
    if !others.isEmpty then .of (Outcome.note .debug (ignoredText path m others))
    let tool ← sharedOperation schemas target path m o
    return some tool

/-- The tools of a document: its paths are compiled one after the other, each on the stack that the
one before it leaves. -/
noncomputable def sharedDocument (d : Document) (target : Target) : Compiling (List Tool) := do
  let tools ← d.paths.mapM fun p => sharedPath d.schemas target p.1 p.2
  return tools.filterMap id

/-! ### Nothing is left on the stack -/

section Does

variable {schemas : Schema.Schemas} {target : Target} {path : String} {stack : List String}

/-- From the empty stack a parameter is compiled as it is alone, and the stack is empty again. -/
theorem does_sharedParameter (p : Parameter) :
    Does (sharedParameter schemas p) [] (compileParameter schemas p) :=
  (does_sharedCompile schemas [] _ true).bind fun _ => .pure _

theorem does_sharedParameters (ps : List Parameter) :
    Does (sharedParameters schemas ps) [] (compileParameters schemas ps) :=
  (Does.mapM fun p _ => does_sharedParameter p).bind fun _ => .pure _

theorem does_sharedFields (fields : Value) :
    Does (sharedFields schemas fields) [] (Schema.compileFields schemas fields) := by
  unfold sharedFields Schema.compileFields Schema.stepFields
  cases fields with
  | map es => exact .mapM fun e _ => (does_sharedCompile schemas [] e.2 true).bind fun _ => .pure _
  | _ => exact .of _

theorem does_sharedOperation (m : Http.Method) (o : Operation) :
    Does (sharedOperation schemas target path m o) [] (ofOperation schemas target path m o) := by
  rw [ofOperation_eq]
  unfold sharedOperation
  cases o.operationId.filter (· ≠ "") with
  | none => exact .of _
  | some id =>
    exact (Does.of _).bind fun body => (does_sharedParameters _).bind fun _ =>
      (does_sharedFields body).bind fun _ => (Does.of _).bind fun _ => (Does.of _).bind fun _ =>
        .pure _

theorem does_sharedPath (item : PathItem) :
    Does (sharedPath schemas target path item) [] (ofPath schemas target path item) := by
  unfold sharedPath ofPath
  cases item.selected? with
  | none => exact (Does.of _).bind fun _ => .pure _
  | some chosen =>
    obtain ⟨m, o⟩ := chosen
    simp only [map_eq_pure_bind]
    split
    · exact (Does.of _).bind fun _ => (does_sharedOperation m o).bind fun _ => .pure _
    · exact (does_sharedOperation m o).bind fun _ => .pure _

/-- **The stack is empty between the paths.**  The compiler that goes through all paths with one
stack does what is done without one. -/
theorem does_sharedDocument (d : Document) (target : Target) :
    Does (sharedDocument d target) [] (ofDocument d target) :=
  (Does.mapM fun p _ => does_sharedPath p.2).bind fun _ => .pure _

end Does

/-! ### Documents of one path -/

variable {schemas : Schema.Schemas} {target : Target} {p : String × PathItem}

/-- A path with an operation is compiled if that of the preferred method is. -/
theorem ofPath_result_of_selected {path : String} {item : PathItem} {m : Http.Method}
    {o : Operation} (h : item.selected? = some (m, o)) :
    (ofPath schemas target path item).result
      = some <$> (ofOperation schemas target path m o).result := by
  unfold ofPath
  rw [h]
  dsimp only
  split
  · rw [Outcome.bind_result, map_eq_pure_bind, map_eq_pure_bind]
    exact Outcome.bind_result _ _
  · rw [map_eq_pure_bind, map_eq_pure_bind]
    exact Outcome.bind_result _ _

/-- The tool of a path is that of a document with this path alone. -/
theorem ofDocument_singleton :
    ofDocument ⟨[p], schemas⟩ target = Option.toList <$> ofPath schemas target p.1 p.2 := by
  unfold ofDocument
  simp only [List.mapM_cons, List.mapM_nil, bind_assoc, pure_bind, map_eq_pure_bind]
  congr 1

/-- The first path is compiled first. -/
theorem ofDocument_cons (p : String × PathItem) (rest : Table PathItem) :
    ofDocument ⟨p :: rest, schemas⟩ target = do
      let front ← ofDocument ⟨[p], schemas⟩ target
      let behind ← ofDocument ⟨rest, schemas⟩ target
      return front ++ behind := by
  rw [ofDocument_singleton]
  unfold ofDocument
  simp only [List.mapM_cons, bind_assoc, pure_bind, map_eq_pure_bind]
  congr 1
  funext found
  congr 1
  funext tools
  cases found <;> rfl

/-- Paths one behind the other are compiled to the tools of both, one behind the other. -/
theorem ofDocument_append {ps qs : Table PathItem} :
    ofDocument ⟨ps ++ qs, schemas⟩ target = do
      let front ← ofDocument ⟨ps, schemas⟩ target
      let behind ← ofDocument ⟨qs, schemas⟩ target
      return front ++ behind := by
  induction ps with
  | nil =>
    have hnil : ofDocument ⟨[], schemas⟩ target = pure [] := rfl
    rw [hnil, pure_bind, List.nil_append]
    simp only [List.nil_append, bind_pure]
  | cons p ps ih =>
    rw [List.cons_append, ofDocument_cons p (ps ++ qs), ih, ofDocument_cons p ps]
    simp only [bind_assoc, pure_bind, List.append_assoc]

/-- The tools of a document are those of its paths, each compiled alone. -/
theorem ofDocument_eq_flatten {ps : Table PathItem} :
    ofDocument ⟨ps, schemas⟩ target
      = List.flatten <$> ps.mapM fun p => ofDocument ⟨[p], schemas⟩ target := by
  induction ps with
  | nil => rfl
  | cons p ps ih =>
    rw [ofDocument_cons, ih, List.mapM_cons]
    simp only [bind_assoc, pure_bind, map_eq_pure_bind, List.flatten_cons]

/-- What a path gives: no tool without an operation, and else one, with the method of the preferred
operation, the front of the surface before its id, and the path as it stands in the document. -/
inductive IsShare (target : Target) (p : String × PathItem) : List Tool → Prop
  | skipped : p.2.get = none → p.2.post = none → p.2.delete = none → IsShare target p []
  | tool {t : Tool} {m : Http.Method} {o : Operation} {id : String} :
      p.2.Prefers m o → o.operationId = some id → id ≠ "" → t.method = some m →
      t.name = target.surface.front ++ id → t.path = some p.1 → IsShare target p [t]

theorem isShare_of_ofDocument {tools : List Tool}
    (h : (ofDocument ⟨[p], schemas⟩ target).result = .ok tools) : IsShare target p tools := by
  rw [ofDocument_singleton, map_eq_pure_bind] at h
  obtain ⟨found, hpath, h⟩ := Outcome.bind_result_eq_ok.1 h
  cases h
  cases hs : p.2.selected? with
  | none =>
    obtain ⟨hg, hp, hd⟩ := PathItem.selected?_eq_none_iff.1 hs
    unfold ofPath at hpath
    rw [hs] at hpath
    cases hpath
    exact .skipped hg hp hd
  | some chosen =>
    obtain ⟨m, o⟩ := chosen
    rw [ofPath_result_of_selected hs] at hpath
    cases ho : (ofOperation schemas target p.1 m o).result with
    | error e =>
      rw [ho] at hpath
      cases hpath
    | ok t =>
      rw [ho] at hpath
      cases hpath
      obtain ⟨id, _, _, _, _, _, hid, _, _, _, _, _, rfl⟩ := ofOperation_eq_ok ho
      obtain ⟨hid, hne⟩ := Option.filter_eq_some_iff.1 hid
      exact .tool (PathItem.prefers_of_selected? hs) hid (by simpa using hne) rfl rfl rfl

/-- **Documents are compiled path by path.**  A compiler that goes through a document with one stack
logs and gives what comes of compiling each path alone, and leaves its stack empty.  If all paths
succeed alone, the tools are theirs in the order of the document, at most one for each path; else
there are none, and the failure is that of the first path that fails alone.  So the tools of paths
one behind the other are those of the paths in front and then those of the paths behind. -/
theorem documents_are_compiled_path_by_path (d : Document) (target : Target) :
    (∀ d' : Document, (sharedDocument d' target).run [] = (ofDocument d' target, [])) ∧
    ofDocument d target
      = List.flatten <$> d.paths.mapM (fun p => ofDocument ⟨[p], d.schemas⟩ target) ∧
    (∀ tools, (ofDocument d target).result = .ok tools ↔
      ∃ shares, List.Forall₂
          (fun p share => (ofDocument ⟨[p], d.schemas⟩ target).result = .ok share ∧
            IsShare target p share) d.paths shares ∧
        tools = shares.flatten) ∧
    (∀ failure, (ofDocument d target).result = .error failure ↔
      ∃ front p behind, d.paths = front ++ p :: behind ∧
        (∀ q ∈ front, ∃ share, (ofDocument ⟨[q], d.schemas⟩ target).result = .ok share) ∧
        (ofDocument ⟨[p], d.schemas⟩ target).result = .error failure) ∧
    (∀ front behind, ofDocument ⟨front ++ behind, d.schemas⟩ target = do
        let tools ← ofDocument ⟨front, d.schemas⟩ target
        let others ← ofDocument ⟨behind, d.schemas⟩ target
        return tools ++ others) := by
  have hflat : ofDocument d target
      = List.flatten <$> d.paths.mapM (fun p => ofDocument ⟨[p], d.schemas⟩ target) :=
    ofDocument_eq_flatten
  refine ⟨fun d' => does_sharedDocument d' target, hflat, fun tools => ?_, fun failure => ?_,
    fun front behind => ofDocument_append⟩
  · rw [hflat, map_eq_pure_bind, Outcome.bind_result_eq_ok]
    simp only [Outcome.mapM_result_eq_ok_iff, Outcome.pure_result, Except.ok.injEq]
    constructor
    · rintro ⟨shares, hshares, rfl⟩
      exact ⟨shares, hshares.imp fun p share h => ⟨h, isShare_of_ofDocument h⟩, rfl⟩
    · rintro ⟨shares, hshares, rfl⟩
      exact ⟨shares, hshares.imp fun p share h => h.1, rfl⟩
  · rw [hflat, map_eq_pure_bind, Outcome.bind_result_eq_error, Outcome.mapM_result_eq_error_iff]
    constructor
    · rintro (h | ⟨_, _, h⟩)
      · exact h
      · cases h
    · exact Or.inl

end Tool
end ToolGateway
