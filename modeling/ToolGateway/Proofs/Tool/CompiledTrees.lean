/-
# The compiled trees of a document

`compiled_trees_are_in_order` gathers what holds of the trees that a document is compiled to.  The
flag of a schema is the flag of its tree, and changes nothing below.  Every part of the tree is in
order, given the schema that it comes from.  The fields of a tool are such trees, all of them
optional (`HasOptionalFields`), so a tool can be called without any arguments.

The names of an object's properties are compared with the required ones before the keys become
texts. A key that is the octets of a required name is not found there, and its property becomes
optional (`octets_are_not_required`).
-/

import ToolGateway.Proofs.Schema.CompiledTree
import ToolGateway.Proofs.Tool.BodyFields
import ToolGateway.Proofs.Validator.Publication

namespace ToolGateway

open Schema (Source InOrder IsResolved)

/-- What yields a validator is clean where nothing is expanded yet. -/
theorem Schema.Yields.clean {schemas : Schema.Schemas} {node : Value} {optional : Bool}
    {w : Validator} (h : Schema.Yields schemas node optional w) : Schema.Clean schemas [] node := by
  obtain ⟨stack, h⟩ := h
  exact (Schema.compileOn_eq_ok_iff.1 h).2.of_stack

namespace Validator

/-- Optional fields are not among the mandatory ones. -/
theorem mandatoryNames_eq_nil {ps : List (String × Validator)}
    (h : ∀ p ∈ ps, p.2.optional = true) : mandatoryNames ps = [] := by
  refine List.eq_nil_iff_forall_not_mem.2 fun name hm => ?_
  obtain ⟨w, hw, ha⟩ := mem_mandatoryNames.1 hm
  have ho : w.optional = true := h _ hw
  simp [mayBeAbsent, ho] at ha

/-- Optional fields may all be left out. -/
theorem checkFields_nil {ps : List (String × Validator)} (h : ∀ p ∈ ps, p.2.optional = true)
    (name : String) : checkFields ps name [] = .fine [] := by
  induction ps with
  | nil => rfl
  | cons p rest ih =>
    obtain ⟨hp, hrest⟩ := List.forall_mem_cons.1 h
    rw [checkFields, Entries.get?]
    simpa [mayBeAbsent, hp] using ih hrest

end Validator

namespace Tool

variable {schemas : Schema.Schemas} {target : Target} {path : String} {m : Http.Method}
  {o : Operation} {t : Tool}

/-! ### The fields of a tool -/

/-- What a schema is compiled to where it may be left out, perhaps with another description. -/
def IsField (schemas : Schema.Schemas) (v : Validator) : Prop :=
  ∃ node w, (Schema.compile schemas node true).result = .ok w ∧
    v = { w with description := v.description }

theorem IsField.optional {v : Validator} (h : IsField schemas v) : v.optional = true := by
  obtain ⟨node, w, hw, he⟩ := h
  have hyields : Schema.Yields schemas node true w := ⟨[], hw⟩
  rw [he]
  exact hyields.optional_eq

theorem isField_of_compileParameter {p : Parameter} {f : String × Validator}
    (h : (compileParameter schemas p).result = .ok f) : IsField schemas f.2 := by
  obtain ⟨w, hw, h⟩ := Outcome.bind_result_eq_ok.1 h
  cases h
  refine ⟨_, w, hw, ?_⟩
  obtain ⟨_, _, _, _, _⟩ := w
  dsimp only
  split <;> rfl

theorem isField_of_compileParameters {ps : List Parameter} {fields : Table Validator}
    (h : (compileParameters schemas ps).result = .ok fields) :
    ∀ f ∈ fields, IsField schemas f.2 := by
  intro f hf
  obtain ⟨found, hfound, h⟩ := Outcome.bind_result_eq_ok.1 h
  cases h
  obtain ⟨p, _, hc⟩ := Schema.exists_mem_of_forall₂ (Outcome.mapM_result_eq_ok_iff.1 hfound).flip _
    (Table.mem_of_mem_ofList hf)
  exact isField_of_compileParameter hc

theorem isField_of_compileFields {body : Value} {fields : List (Value × Validator)}
    (h : (Schema.compileFields schemas body).result = .ok fields) :
    ∀ f ∈ fields, IsField schemas f.2 := by
  intro f hf
  unfold Schema.compileFields Schema.stepFields at h
  dsimp only at h
  split at h
  · obtain ⟨e, _, hc⟩ :=
      Schema.exists_mem_of_forall₂ (Outcome.mapM_result_eq_ok_iff.1 h).flip _ hf
    obtain ⟨w, hw, hc⟩ := Outcome.bind_result_eq_ok.1 hc
    cases hc
    exact ⟨e.2, w, hw, by cases w; rfl⟩
  · split at h
    · cases h
    · cases h
      cases hf

/-- The fields of an operation's tool are compiled from the schemas of its parameters and body. -/
theorem isField_of_ofOperation (h : (ofOperation schemas target path m o).result = .ok t) :
    ∀ p ∈ t.fields, IsField schemas p.2 := by
  intro p hp
  obtain ⟨_, body, pf, bf, _, fields, _, _, hpf, hbf, _, hf, rfl⟩ := ofOperation_eq_ok h
  obtain ⟨named, hnamed, rfl⟩ := Schema.properties_eq_ok_iff.1 hf
  obtain ⟨f, hfm, _, hval⟩ := Schema.exists_mem_of_forall₂ (Schema.forall₂_nameFields hnamed).flip _
    (Table.mem_of_mem_ofList hp)
  rw [hval]
  rcases (parts_of_mem_addRaw hfm).2 with ⟨q, hq, he⟩ | ⟨e, hm, he⟩
  · exact he ▸ isField_of_compileParameters hpf q hq
  · exact he ▸ isField_of_compileFields hbf e hm

/-- The fields of a tool are compiled, and all of them are optional. -/
structure HasOptionalFields (schemas : Schema.Schemas) (t : Tool) : Prop where
  compiled : ∀ p ∈ t.fields, IsField schemas p.2
  optional : ∀ p ∈ t.fields, p.2.optional = true
  /-- The published schema requires nothing. -/
  unrequired : t.inputSchema.get? "required" = none
  /-- The call without arguments is accepted, whether it has none or they are not given. -/
  empty : t.validate (.map []) = .ok [] ∧ t.validate .null = .ok []

theorem hasOptionalFields (h : ∀ p ∈ t.fields, IsField schemas p.2) :
    HasOptionalFields schemas t := by
  have hoptional : ∀ p ∈ t.fields, p.2.optional = true := fun p hp => (h p hp).optional
  have hcheck (arguments : Value) (hnone : arguments = .map [] ∨ arguments = .null) :
      t.checkArguments arguments = .fine [] := by
    rcases hnone with rfl | rfl <;> exact Validator.checkFields_nil hoptional t.argumentsName
  refine ⟨h, hoptional, ?_, ?_, ?_⟩
  · rw [inputSchema, Validator.objectSchema, Validator.mandatoryNames_eq_nil hoptional]
    rfl
  · rw [validate, hcheck _ (.inl rfl)]
  · rw [validate, hcheck _ (.inr rfl)]

/-! ### The trees of a document -/

/-- **The trees of a document are in order.**  The tree that a schema is compiled to has the flag
that is asked for, and under another flag the rest of it is the same.  Every part of it has a
source, which is no reference and yields the part, and the part is in order, given this source: it
has items or properties if its kind has use for them, its items are not optional, and its properties
are optional unless the source requires them, in the order of the source.  The fields of every tool
are trees of this kind and optional, so the tool requires no argument. -/
theorem compiled_trees_are_in_order (d : Document) :
    (∀ stack node optional w, (Schema.compileOn d.schemas stack node optional).result = .ok w →
      w.optional = optional ∧
      (∀ flag, (Schema.compileOn d.schemas stack node flag).result
        = .ok { w with optional := flag }) ∧
      (∀ v, w.Includes v → ∃ m, Source d.schemas node w m v) ∧
      ∀ m v, Source d.schemas node w m v → IsResolved d.schemas m ∧
        (Schema.compile d.schemas m v.optional).result = .ok v ∧ InOrder m v) ∧
    ∀ target tools, (ofDocument d target).result = .ok tools →
      ∀ t ∈ tools, HasOptionalFields d.schemas t := by
  refine ⟨fun stack node optional w h => ?_, fun target tools h t ht => ?_⟩
  · have hyields : Schema.Yields d.schemas node optional w := ⟨stack, h⟩
    refine ⟨hyields.optional_eq, Schema.compileOn_withOptional h,
      fun v hv => Schema.exists_source hyields hv, fun m v hs => ?_⟩
    obtain ⟨hr, hy⟩ := hs.yields hyields
    exact ⟨hr, Schema.compileOn_eq_ok_iff.2 ⟨hy, hy.clean⟩, hy.inOrder hr⟩
  · obtain ⟨path, item, m, o, _, _, ho⟩ := exists_operation h ht
    exact hasOptionalFields (isField_of_ofOperation ho)

/-- The document of memos. -/
def memoDocument : Document :=
  ⟨[(memoPath, ⟨none, some (memoOperation "Memo"), none⟩)], memoSchemas (.text "content")⟩

/-- A memo keeps its required content under two names that lead to it and where it may be left out
itself, and its tool can be called without it. -/
theorem memo_is_in_order :
    Source memoDocument.schemas (refTo "Note") memoValidator (memoSchema (.text "content"))
        memoValidator ∧
      InOrder (memoSchema (.text "content")) memoValidator ∧
      ∃ t, (ofDocument memoDocument shopTarget).result = .ok [t] ∧
        t.fields.names = ["id", "content"] ∧ HasOptionalFields memoDocument.schemas t := by
  have hsource : Source memoDocument.schemas (refTo "Note") memoValidator
      (memoSchema (.text "content")) memoValidator :=
    .target rfl rfl (.target rfl rfl (.here fun _ h => (nomatch h)))
  obtain ⟨t, htool, hfields⟩ : ∃ t, ofOperation memoDocument.schemas shopTarget memoPath .post
      (memoOperation "Memo") = pure t ∧ t.fields.names = ["id", "content"] :=
    ⟨_, ofOperation_memo (.text "content") "Memo" rfl (compileFields_memo _) rfl, rfl⟩
  have hdocument : (ofDocument memoDocument shopTarget).result = .ok [t] :=
    congrArg Outcome.result (ofDocument_of_operation rfl rfl htool)
  obtain ⟨htrees, htools⟩ := compiled_trees_are_in_order memoDocument
  obtain ⟨_, _, _, hparts⟩ := htrees [] _ _ _ (compile_memo (.inl rfl)).2
  exact ⟨hsource, (hparts _ _ hsource).2.2, t, hdocument, hfields,
    htools _ _ hdocument _ List.mem_cons_self⟩

/-- The keywords of an object that requires a content, whose property is named by octets. -/
def octetsEntries : Entries :=
  [(.text "type", .text "object"), (.text "required", .list [.text "content"]),
    (.text "properties", memoFields (.bytes [0x63, 0x6f, 0x6e, 0x74, 0x65, 0x6e, 0x74]))]

/-- **The octets of a required name are not required.**  The schema requires the content and has a
property that counts as it.  But it is compiled to an object in which the content is optional, and
what is published requires nothing. -/
theorem octets_are_not_required :
    Schema.Requires octetsEntries "content" ∧
      ∃ w, (Schema.compile [] (.map octetsEntries) true).result = .ok w ∧
        w.properties = some [("content", ⟨.string, true, none, none, none⟩)] ∧
        w.schema.get? "required" = none := by
  refine ⟨⟨_, rfl, List.mem_cons_self⟩, ⟨.object, true, none, none, some _⟩, ?_, rfl, rfl⟩
  unfold Schema.compile
  rw [Schema.compileOn_of_object (show Schema.view (.map octetsEntries)
    = .object (.list [.text "content"]) (memoFields _) from rfl)]
  refine Outcome.bind_result_eq_ok.2 ⟨[(_, ⟨.string, true, none, none, none⟩)],
    Schema.compileEntries_eq_ok_iff.2 (.cons ⟨rfl, false, rfl, ?_⟩ .nil), rfl⟩
  exact congrArg Outcome.result (Schema.compileOn_of_plain rfl)

end Tool
end ToolGateway
