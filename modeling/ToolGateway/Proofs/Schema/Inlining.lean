/-
# References are transparent

A schema is inlined by putting what its references stand for in their place: below items, below
properties, and through references that lead to other references.  A reference without a target
becomes the empty schema.  The stack of `inlineOn` only keeps the function total, since a cyclic
table has no inlined form; `inlineOn_eq_of_clean` says that where compilation succeeds it makes no
difference.

`compileOn_inlineOn` is the main statement: the inlined schema needs no table, and is compiled to
the same validator, description and order of the properties included.
-/

import ToolGateway.Proofs.Schema.Compiled
import ToolGateway.Proofs.Schema.Keywords

namespace ToolGateway

/-- A value under a text key replaced where it stands. -/
def Entries.replace : Entries → String → Value → Entries
  | [], _, _ => []
  | (.text k, w) :: rest, name, v =>
    (.text k, if k = name then v else w) :: replace rest name v
  | e :: rest, name, v => e :: replace rest name v

theorem Entries.get?_replace (es : Entries) (name : String) (v : Value) (k : String) :
    Entries.get? (Entries.replace es name v) k
      = if k = name then (Entries.get? es k).map fun _ => v else Entries.get? es k := by
  induction es with
  | nil => simp [replace, get?]
  | cons e rest ih =>
    obtain ⟨key, w⟩ := e
    cases key with
    | text s =>
      rw [replace, get?, ih, get?]
      by_cases hs : s = k
      · subst hs
        by_cases hn : s = name <;> simp [hn]
      · simp [hs]
    | _ => simpa [replace, get?] using ih

namespace Schema

/-- A schema with the value of a keyword replaced, if it has the keyword. -/
def replaceIn : Value → String → Value → Value
  | .map es, name, v => .map (Entries.replace es name v)
  | node, _, _ => node

mutual

/-- A schema with all references replaced by what they stand for, while those of the stack are being
replaced. -/
def inlineOn (schemas : Schemas) (stack : List String) (node : Value) : Value :=
  match _hv : view node with
  | .reference ref =>
    if _hs : ref ∈ stack then .map []
    else
      match _ht : target? schemas ref with
      | none => .map []
      | some target => inlineOn schemas (stack ++ [ref]) target
  | .array items => replaceIn node "items" (inlineOn schemas stack items)
  | .object _ (.map (e :: ps)) =>
    replaceIn node "properties" (.map (inlineEntries schemas stack (e :: ps)))
  | _ => node
termination_by (room schemas stack, sizeOf node)
decreasing_by
  · exact Prod.Lex.left _ _ (room_lt _ht _hs)
  · exact Prod.Lex.right _ (sizeOf_items_lt _hv)
  · exact Prod.Lex.right _ (sizeOf_properties_lt _hv)

/-- Properties with all references replaced, under their keys. -/
def inlineEntries (schemas : Schemas) (stack : List String) (ps : Entries) : Entries :=
  match ps with
  | [] => []
  | (key, node) :: rest =>
    (key, inlineOn schemas stack node) :: inlineEntries schemas stack rest
termination_by (room schemas stack, sizeOf ps)
decreasing_by
  · apply Prod.Lex.right
    simp only [List.cons.sizeOf_spec, Prod.mk.sizeOf_spec]
    omega
  · apply Prod.Lex.right
    simp only [List.cons.sizeOf_spec]
    omega

end

/-- A schema with all references replaced by what they stand for. -/
def inline (schemas : Schemas) (node : Value) : Value := inlineOn schemas [] node

variable {schemas : Schemas} {stack : List String} {node : Value} {optional : Bool}

/-! ### One step of inlining -/

theorem inlineEntries_eq_map (ps : Entries) :
    inlineEntries schemas stack ps = ps.map fun e => (e.1, inlineOn schemas stack e.2) := by
  induction ps with
  | nil => rw [inlineEntries, List.map_nil]
  | cons e rest ih => rw [inlineEntries, ih, List.map_cons]

/-- Inlining as it goes by the view, without what it needs for its termination. -/
theorem inlineOn_eq (schemas : Schemas) (stack : List String) (node : Value) :
    inlineOn schemas stack node = match view node with
      | .reference ref =>
        if ref ∈ stack then .map []
        else
          match target? schemas ref with
          | none => .map []
          | some target => inlineOn schemas (stack ++ [ref]) target
      | .array items => replaceIn node "items" (inlineOn schemas stack items)
      | .object _ (.map (e :: ps)) =>
        replaceIn node "properties" (.map (inlineEntries schemas stack (e :: ps)))
      | _ => node := by
  rw [inlineOn]
  split
  · rename_i hv
    rw [hv]
    dsimp only
    split
    · rfl
    · split <;> simp_all
  · rename_i hv
    rw [hv]
  · rename_i hv
    rw [hv]
  · split <;> simp_all

theorem inlineOn_of_mem {ref : String} (hv : view node = .reference ref) (hs : ref ∈ stack) :
    inlineOn schemas stack node = .map [] := by
  rw [inlineOn_eq, hv]
  exact if_pos hs

theorem inlineOn_of_unresolved {ref : String} (hv : view node = .reference ref)
    (hs : ref ∉ stack) (ht : target? schemas ref = none) :
    inlineOn schemas stack node = .map [] := by
  rw [inlineOn_eq, hv]
  dsimp only
  rw [if_neg hs, ht]

theorem inlineOn_of_target {ref : String} {target : Value} (hv : view node = .reference ref)
    (hs : ref ∉ stack) (ht : target? schemas ref = some target) :
    inlineOn schemas stack node = inlineOn schemas (stack ++ [ref]) target := by
  rw [inlineOn_eq, hv]
  dsimp only
  rw [if_neg hs, ht]

theorem inlineOn_of_array {items : Value} (hv : view node = .array items) :
    inlineOn schemas stack node = replaceIn node "items" (inlineOn schemas stack items) := by
  rw [inlineOn_eq, hv]

theorem inlineOn_of_object {required : Value} {e : Value × Value} {ps : Entries}
    (hv : view node = .object required (.map (e :: ps))) :
    inlineOn schemas stack node
      = replaceIn node "properties" (.map (inlineEntries schemas stack (e :: ps))) := by
  rw [inlineOn_eq, hv]

theorem inlineOn_of_leaf (hl : (view node).isLeaf = true) : inlineOn schemas stack node = node := by
  rw [inlineOn_eq]
  split <;> simp_all [View.isLeaf]

/-- Without properties an object has none to replace. -/
theorem inlineOn_of_bare {required : Value} (hv : view node = .object required (.map [])) :
    inlineOn schemas stack node = node := by
  rw [inlineOn_eq, hv]

/-! ### What a replaced keyword leaves alone -/

/-- The reference and the description stand under keywords of their own. -/
theorem get?_replaceIn (node : Value) (name : String) (v : Value) {k : String} (h : k ≠ name) :
    (replaceIn node name v).get? k = node.get? k := by
  cases node with
  | map es => exact (Entries.get?_replace es name v k).trans (if_neg h)
  | _ => rfl

theorem refOf?_replaceIn (node : Value) {name : String} (v : Value) (h : name ≠ "$ref") :
    refOf? (replaceIn node name v) = refOf? node := by
  unfold refOf?
  rw [get?_replaceIn node name v (Ne.symm h)]

theorem description?_replaceIn (node : Value) {name : String} (v : Value)
    (h : name ≠ "description") : description? (replaceIn node name v) = description? node := by
  unfold description?
  rw [get?_replaceIn node name v (Ne.symm h)]

/-- An array with other items.  Without items it has none to replace. -/
theorem view_replaceIn_items {items v : Value} (hv : view node = .array items)
    (h : items = .null → v = .null) : view (replaceIn node "items" v) = .array v := by
  obtain ⟨es, rfl, hr, ht, hi⟩ := view_eq_array_iff.1 hv
  refine view_eq_array_iff.2 ⟨_, rfl, ?_, ?_, ?_⟩
  · exact (refOf?_replaceIn _ v (by decide)).trans hr
  · rw [Entries.get?_replace, if_neg (by decide), ht]
  · rw [Entries.get?_replace, if_pos rfl]
    cases hg : Entries.get? es "items" with
    | none => simpa using h (by simpa [hg] using hi)
    | some w => rfl

/-- An object with other properties, as long as there are some. -/
theorem view_replaceIn_properties {required : Value} {e e' : Value × Value} {ps qs : Entries}
    (hv : view node = .object required (.map (e :: ps))) :
    view (replaceIn node "properties" (.map (e' :: qs))) = .object required (.map (e' :: qs)) := by
  obtain ⟨es, rfl, hr, ht, hreq, hp⟩ := view_eq_object_iff.1 hv
  refine view_eq_object_iff.2 ⟨_, rfl, ?_, ?_, ?_, ?_⟩
  · exact (refOf?_replaceIn _ _ (by decide)).trans hr
  · rw [Entries.get?_replace, if_neg (by decide), ht]
  · rw [hreq]
    unfold keyword
    rw [Entries.get?_replace, if_neg (by decide)]
  · unfold keyword at hp ⊢
    rw [Entries.get?_replace, if_pos rfl]
    cases hg : Entries.get? es "properties" with
    | none => simp [hg] at hp
    | some w => simp [Value.isGiven]

/-! ### The inlined schema -/

/-- An inlined array is one of inlined items. -/
theorem view_inlineOn_array {items : Value} (hv : view node = .array items) :
    view (inlineOn schemas stack node) = .array (inlineOn schemas stack items) := by
  rw [inlineOn_of_array hv]
  refine view_replaceIn_items hv fun hi => ?_
  subst hi
  exact inlineOn_of_leaf rfl

/-- An inlined object has the same required names, and inlined properties. -/
theorem view_inlineOn_object {required : Value} {ps : Entries}
    (hv : view node = .object required (.map ps)) :
    view (inlineOn schemas stack node)
      = .object required (.map (inlineEntries schemas stack ps)) := by
  cases ps with
  | nil =>
    rw [inlineOn_of_bare hv, hv, inlineEntries]
  | cons e ps =>
    rw [inlineOn_of_object hv, inlineEntries]
    exact view_replaceIn_properties hv

/-- Inlining leaves the description of a schema that is no reference. -/
theorem description?_inlineOn (hr : ∀ ref, view node ≠ .reference ref) :
    description? (inlineOn schemas stack node) = description? node := by
  rw [inlineOn_eq]
  split
  · rename_i h
    exact absurd h (hr _)
  · exact description?_replaceIn _ _ (by decide)
  · exact description?_replaceIn _ _ (by decide)
  · rfl

/-- A schema without parts is met alone, and here it is no reference. -/
theorem view_ne_reference_of_leaf (hl : (view node).isLeaf = true) {m : Value}
    (hm : Met schemas node m) (ref : String) : view m ≠ .reference ref := by
  obtain ⟨refs, hp⟩ := hm
  obtain ⟨_, rfl⟩ := hp.of_leaf hl
  intro hv
  simp [hv, View.isLeaf] at hl

/-- **No reference is left** in an inlined schema, whatever the table. -/
theorem view_ne_reference_of_met_inlineOn {m : Value}
    (hm : Met [] (inlineOn schemas stack node) m) (ref : String) : view m ≠ .reference ref := by
  have hempty : ∀ m, Met [] (.map []) m → ∀ ref, view m ≠ .reference ref :=
    fun m hm ref => view_ne_reference_of_leaf rfl hm ref
  induction stack, node, (false : Bool) using compileOn.induct schemas _
    (fun stack _ ps => ∀ e ∈ ps, ∀ m, Met [] (inlineOn schemas stack e.2) m →
      ∀ ref, view m ≠ .reference ref) generalizing m ref with
  | case1 stack node _ hv =>
    have hl : (view node).isLeaf = true := hv ▸ rfl
    rw [inlineOn_of_leaf hl] at hm
    exact view_ne_reference_of_leaf hl hm ref
  | case2 stack node _ r hv hs =>
    rw [inlineOn_of_mem hv hs] at hm
    exact hempty m hm ref
  | case3 stack node _ r hv hs ht =>
    rw [inlineOn_of_unresolved hv hs ht] at hm
    exact hempty m hm ref
  | case4 stack node _ r hv hs t ht ih =>
    rw [inlineOn_of_target hv hs ht] at hm
    exact ih hm ref
  | case5 stack node _ kind hv =>
    have hl : (view node).isLeaf = true := hv ▸ rfl
    rw [inlineOn_of_leaf hl] at hm
    exact view_ne_reference_of_leaf hl hm ref
  | case6 stack node _ items hv ih =>
    obtain ⟨refs, hp⟩ := hm
    have hvi : view (inlineOn schemas stack node) = .array (inlineOn schemas stack items) :=
      view_inlineOn_array hv
    rcases hp.of_array hvi with ⟨_, rfl⟩ | hp
    · simp [hvi]
    · exact ih ⟨_, hp⟩ ref
  | case7 stack node _ required ps hv ih =>
    obtain ⟨refs, hp⟩ := hm
    have hvo : view (inlineOn schemas stack node)
        = .object required (.map (inlineEntries schemas stack ps)) := view_inlineOn_object hv
    rcases hp.of_object hvo with ⟨_, rfl⟩ | ⟨e, he, hp⟩
    · simp [hvo]
    · rw [inlineEntries_eq_map] at he
      obtain ⟨e', he', rfl⟩ := List.mem_map.1 he
      exact ih e' he' m ⟨_, hp⟩ ref
  | case8 stack node _ required other ho hv =>
    have hl : (view node).isLeaf = true := by
      rw [hv]
      cases other with
      | map ps => exact absurd rfl (ho ps)
      | _ => rfl
    rw [inlineOn_of_leaf hl] at hm
    exact view_ne_reference_of_leaf hl hm ref
  | case9 stack required e he => cases he
  | case10 stack required key node rest ih ihs e he m hm ref =>
    rcases List.mem_cons.1 he with rfl | he
    · exact ih false hm ref
    · exact ihs e he m hm ref

/-- **An inlined schema is compiled without the table,** to the validator of the schema. -/
theorem compileOn_inlineOn {w : Validator} (h : Yields schemas node optional w)
    (hc : Clean schemas stack node) :
    (compileOn [] [] (inlineOn schemas stack node) optional).result = .ok w := by
  induction h using Yields.induct generalizing stack with
  | notSchema node optional hv _ =>
    rw [inlineOn_of_leaf (hv ▸ rfl), compileOn_of_notSchema hv, Outcome.pure_result]
  | unresolved node optional ref hv ht _ =>
    rw [inlineOn_of_unresolved hv ((clean_of_unresolved hv ht).1 hc) ht,
      compileOn_of_plain (show view (.map []) = .plain .any from rfl)]
    rfl
  | target node optional ref target w hv ht _ _ ih =>
    obtain ⟨hs, hc⟩ := (clean_of_target hv ht).1 hc
    rw [inlineOn_of_target hv hs ht]
    exact ih hc
  | plain node optional kind hv _ =>
    rw [inlineOn_of_leaf (hv ▸ rfl), compileOn_of_plain hv, Outcome.pure_result]
  | array node optional items item hv _ _ ih =>
    rw [compileOn_of_array (view_inlineOn_array hv), description?_inlineOn (by simp [hv])]
    exact Outcome.bind_result_eq_ok.2 ⟨item, ih ((clean_of_array hv).1 hc), rfl⟩
  | object node optional required ps fields named hv hf hn _ =>
    have hc := (clean_of_object hv).1 hc
    rw [compileOn_of_object (view_inlineOn_object hv), description?_inlineOn (by simp [hv])]
    refine Outcome.bind_result_eq_ok.2 ⟨fields, compileEntries_eq_ok_iff.2 ?_, ?_⟩
    · rw [inlineEntries_eq_map, List.forall₂_map_left_iff]
      refine ((List.forall₂_and_left ps fields).2 ⟨hc, hf⟩).imp fun e f ⟨hce, hef⟩ => ?_
      obtain ⟨hk, listed, hl, _, ih⟩ := hef
      exact ⟨hk, listed, hl, ih hce⟩
    · exact Outcome.bind_result_eq_ok.2 ⟨_, properties_eq_ok_iff.2 ⟨named, hn, rfl⟩, rfl⟩

/-- Where no reference of the stack comes up, the stack makes no difference to the inlined form. -/
theorem inlineOn_eq_of_clean {stack' : List String} {w : Validator}
    (h : Yields schemas node optional w) (hc : Clean schemas stack node)
    (hc' : Clean schemas stack' node) :
    inlineOn schemas stack node = inlineOn schemas stack' node := by
  induction h using Yields.induct generalizing stack stack' with
  | notSchema node optional hv _ =>
    have hl : (view node).isLeaf = true := hv ▸ rfl
    rw [inlineOn_of_leaf hl, inlineOn_of_leaf hl]
  | unresolved node optional ref hv ht _ =>
    rw [inlineOn_of_unresolved hv ((clean_of_unresolved hv ht).1 hc) ht,
      inlineOn_of_unresolved hv ((clean_of_unresolved hv ht).1 hc') ht]
  | target node optional ref target w hv ht _ _ ih =>
    obtain ⟨hs, hc⟩ := (clean_of_target hv ht).1 hc
    obtain ⟨hs', hc'⟩ := (clean_of_target hv ht).1 hc'
    rw [inlineOn_of_target hv hs ht, inlineOn_of_target hv hs' ht]
    exact ih hc hc'
  | plain node optional kind hv _ =>
    have hl : (view node).isLeaf = true := hv ▸ rfl
    rw [inlineOn_of_leaf hl, inlineOn_of_leaf hl]
  | array node optional items item hv _ _ ih =>
    rw [inlineOn_of_array hv, inlineOn_of_array hv,
      ih ((clean_of_array hv).1 hc) ((clean_of_array hv).1 hc')]
  | object node optional required ps fields named hv hf hn _ =>
    have hps : inlineEntries schemas stack ps = inlineEntries schemas stack' ps := by
      rw [inlineEntries_eq_map, inlineEntries_eq_map]
      refine List.map_congr_left fun e he => ?_
      obtain ⟨f, _, _, _, _, _, ih⟩ := exists_mem_of_forall₂ hf e he
      rw [ih ((clean_of_object hv).1 hc e he) ((clean_of_object hv).1 hc' e he)]
    cases ps with
    | nil =>
      rw [inlineOn_of_bare hv, inlineOn_of_bare hv]
    | cons e ps => rw [inlineOn_of_object hv, inlineOn_of_object hv, hps]

/-- Resolving a reference gives its target. -/
theorem resolve_result {ref : String} (hr : refOf? node = some ref) :
    (resolve schemas node).result = .ok (target? schemas ref) := by
  unfold resolve
  split
  · cases hr
  · rw [hr]
    show (lookUp schemas ref).result = _
    unfold lookUp
    cases target? schemas ref <;> rfl

/-- **References are transparent.**  What compilation gives for a schema it gives, without a table,
for the schema with its references inlined, in which none is left.  And a reference with a target is
compiled if and only if the target is, to the same validator; then its inlined form is that of the
target, so nothing that stands beside the reference counts. -/
theorem references_are_transparent (schemas : Schemas) (node : Value) (optional : Bool) :
    (∀ w, (compile schemas node optional).result = .ok w →
      (compile [] (inline schemas node) optional).result = .ok w ∧
        ∀ m, Met [] (inline schemas node) m → refOf? m = none) ∧
    (∀ ref target, refOf? node = some ref →
      (resolve schemas node).result = .ok (some target) →
      (∀ w, (compile schemas node optional).result = .ok w ↔
        (compile schemas target optional).result = .ok w) ∧
      ((∃ w, (compile schemas node optional).result = .ok w) →
        inline schemas node = inline schemas target)) := by
  constructor
  · intro w h
    obtain ⟨hy, hc⟩ := compileOn_eq_ok_iff.1 h
    refine ⟨compileOn_inlineOn hy hc, fun m hm => ?_⟩
    have hm := view_ne_reference_of_met_inlineOn hm
    exact Option.eq_none_iff_forall_ne_some.2 fun ref hr => hm ref (view_eq_reference_iff.2 hr)
  · intro ref target hr hres
    rw [resolve_result hr, Except.ok.injEq] at hres
    have hv := view_eq_reference_iff.2 hr
    have hiff : ∀ w, (compile schemas node optional).result = .ok w ↔
        (compile schemas target optional).result = .ok w := by
      intro w
      unfold compile
      rw [compileOn_eq_ok_iff, compileOn_eq_ok_iff, yields_reference_iff hv hres,
        clean_reference_iff hv hres]
    refine ⟨hiff, fun ⟨w, h⟩ => ?_⟩
    obtain ⟨_, hc⟩ := compileOn_eq_ok_iff.1 h
    obtain ⟨hy, hct⟩ := compileOn_eq_ok_iff.1 ((hiff w).1 h)
    obtain ⟨hs, hc⟩ := (clean_of_target hv hres).1 hc
    unfold inline
    rw [inlineOn_of_target hv hs hres]
    exact inlineOn_eq_of_clean hy hc hct

/-- A table in which one name stands for another. -/
def aliasSchemas : Schemas :=
  [("Name", .map [(.text "type", .text "string"), (.text "description", .text "A name.")]),
    ("Alias", .map [(.text "$ref", .text "Name")])]

/-- The hypotheses are met by references to references below the items of an array. -/
theorem aliasSchemas_transparent :
    let node : Value := .map [(.text "type", .text "array"),
      (.text "items", .map [(.text "$ref", .text "Alias")])]
    let item : Validator := ⟨.string, false, some (.text "A name."), none, none⟩
    let w : Validator := ⟨.array, true, none, some item, none⟩
    let ref : Value := .map [(.text "$ref", .text "Alias")]
    (compile aliasSchemas node true).result = .ok w ∧
      (compile [] (inline aliasSchemas node) true).result = .ok w ∧
      (resolve aliasSchemas ref).result = .ok (some (.map [(.text "$ref", .text "Name")])) ∧
      inline aliasSchemas ref = inline aliasSchemas (.map [(.text "$ref", .text "Name")]) := by
  intro node item w ref
  have href : ∀ optional, (compile aliasSchemas ref optional).result
      = .ok { item with optional } := by
    intro optional
    have halias : view ref = .reference "Alias" := rfl
    have hname : view (.map [(.text "$ref", .text "Name")]) = .reference "Name" := rfl
    have hstring : view (.map [(.text "type", .text "string"),
      (.text "description", .text "A name.")]) = .plain .string := rfl
    unfold compile
    rw [compileOn_of_target halias (by decide) rfl, compileOn_of_target hname (by decide) rfl,
      compileOn_of_plain hstring]
    rfl
  have hnode : (compile aliasSchemas node true).result = .ok w := by
    unfold compile
    rw [compileOn_of_array (show view node = .array ref from rfl)]
    exact Outcome.bind_result_eq_ok.2 ⟨item, href false, rfl⟩
  have hresolve : (resolve aliasSchemas ref).result
      = .ok (some (.map [(.text "$ref", .text "Name")])) := rfl
  exact ⟨hnode, ((references_are_transparent aliasSchemas node true).1 w hnode).1, hresolve,
    ((references_are_transparent aliasSchemas ref true).2 "Alias" _ rfl hresolve).2
      ⟨_, href true⟩⟩

end Schema
end ToolGateway
