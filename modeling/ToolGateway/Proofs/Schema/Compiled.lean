/-
# When compilation succeeds, and with what

Compilation carries a stack and may fail in several ways.  What it yields when it succeeds depends on
neither: `Yields` leaves the stack open, and `Yields.induct` is the induction over a successful
compilation, with one case for each view of a schema.  All statements about compiled validators
follow it, so that the stack has to be dealt with only once.

`compileOn_eq_ok_iff` deals with it: below a stack the compilation succeeds exactly if the schema
yields a validator and its expansion is clean below the stack.
-/

import ToolGateway.Proofs.Effect.Lifting
import ToolGateway.Proofs.Schema.Expansion
import ToolGateway.Schema.Compile

namespace ToolGateway
namespace Schema

variable {schemas : Schemas} {stack : List String} {node : Value} {optional : Bool}

/-! ### One step of the compilation -/

/-- What becomes of a reference below a stack, if its target is left to `rest`. -/
def expand (schemas : Schemas) (rest : List String → Value → Bool → Outcome Validator)
    (stack : List String) (ref : String) (optional : Bool) : Outcome Validator :=
  if ref ∈ stack then .fail (.schemaCycle (stack ++ [ref]))
  else
    match target? schemas ref with
    | none => do
      Outcome.note .debug (unresolvedText ref)
      return .any optional
    | some target => rest (stack ++ [ref]) target optional

/-- One round of the compilation: the parts of a schema are left to `rest`. -/
def layer (schemas : Schemas) (rest : List String → Value → Bool → Outcome Validator)
    (stack : List String) : Value → Bool → Outcome Validator :=
  step id (expand schemas rest stack) (rest stack)

/-- **A step goes over.**  In two manners of computing a step does the same if the same becomes of what
it leaves open: of a reference, and of smaller schemas. -/
theorem rel_step {m n : Type → Type} [Monad m] [Monad n] [LawfulMonad m] [LawfulMonad n]
    (L : Lifting m n) {of : {α : Type} → Outcome α → m α} {of' : {α : Type} → Outcome α → n α}
    {follow : String → Bool → m Validator} {follow' : String → Bool → n Validator}
    {part : Value → Bool → m Validator} {part' : Value → Bool → n Validator}
    (hof : ∀ {α : Type} (x : Outcome α), L.rel Eq (of x) (of' x))
    (hfollow : ∀ ref, view node = .reference ref →
      L.rel Eq (follow ref optional) (follow' ref optional))
    (hpart : ∀ sub o, sizeOf sub < sizeOf node → L.rel Eq (part sub o) (part' sub o)) :
    L.rel Eq (step of follow part node optional) (step of' follow' part' node optional) := by
  unfold step
  cases hv : view node with
  | notSchema => exact L.pure rfl
  | reference ref => exact hfollow ref hv
  | plain kind => exact L.pure rfl
  | array items =>
    have hitems := hpart items false (sizeOf_items_lt hv)
    exact L.bind_congr hitems fun item => L.pure rfl
  | object required properties =>
    cases properties with
    | map ps =>
      refine L.bind_congr (L.mapM_eq fun e he => ?_) fun fields =>
        L.bind_congr (hof _) fun named => L.pure rfl
      have hsize : sizeOf e.2 < sizeOf node := by
        have hps := sizeOf_properties_lt hv
        have hmem := List.sizeOf_lt_of_mem he
        obtain ⟨key, sub⟩ := e
        simp only [Prod.mk.sizeOf_spec] at hmem ⊢
        omega
      exact L.bind_congr (hof _) fun listed =>
        L.bind_congr (hpart e.2 (!listed) hsize) fun field => L.pure rfl
    | _ => exact hof _

theorem compileEntries_nil (required : Value) :
    compileEntries schemas stack required [] = pure [] := by
  rw [compileEntries]

theorem compileEntries_cons (required key : Value) (rest : Entries) :
    compileEntries schemas stack required ((key, node) :: rest) = (do
      let listed ← Outcome.ofExcept ((required.holds key).mapError .raw)
      let field ← compileOn schemas stack node (!listed)
      let fields ← compileEntries schemas stack required rest
      return (key, field) :: fields) := by
  rw [compileEntries]

/-- Properties are compiled one after the other. -/
theorem compileEntries_eq_mapM (required : Value) (ps : Entries) :
    compileEntries schemas stack required ps = ps.mapM fun e => do
      let listed ← Outcome.ofExcept ((required.holds e.1).mapError .raw)
      let field ← compileOn schemas stack e.2 (!listed)
      return (e.1, field) := by
  induction ps with
  | nil => rw [compileEntries_nil, List.mapM_nil]
  | cons e rest ih =>
    rw [compileEntries_cons, ih, List.mapM_cons]
    simp only [bind_assoc, pure_bind]

/-- The compilation goes step by step, without what it needs for its termination. -/
theorem compileOn_eq_layer :
    compileOn schemas stack node optional
      = layer schemas (compileOn schemas) stack node optional := by
  rw [compileOn]
  unfold layer step
  split
  · rename_i hv
    rw [hv]
  · rename_i ref hv
    rw [hv]
    dsimp only [expand]
    split
    · rfl
    · split <;> simp_all
  · rename_i hv
    rw [hv]
  · rename_i hv
    rw [hv]
  · rename_i required ps hv
    rw [hv, compileEntries_eq_mapM]
    rfl
  · rename_i required other ho hv
    rw [hv]
    cases other with
    | map ps => exact absurd rfl (ho ps)
    | _ => rfl

theorem compileOn_of_notSchema (hv : view node = .notSchema) :
    compileOn schemas stack node optional = pure (Validator.any optional) := by
  rw [compileOn_eq_layer, layer, step, hv]

theorem compileOn_of_reference {ref : String} (hv : view node = .reference ref) :
    compileOn schemas stack node optional
      = expand schemas (compileOn schemas) stack ref optional := by
  rw [compileOn_eq_layer, layer, step, hv]

theorem compileOn_of_mem {ref : String} (hv : view node = .reference ref) (hs : ref ∈ stack) :
    compileOn schemas stack node optional = .fail (.schemaCycle (stack ++ [ref])) := by
  rw [compileOn_of_reference hv, expand, if_pos hs]

theorem compileOn_of_unresolved {ref : String} (hv : view node = .reference ref)
    (hs : ref ∉ stack) (ht : target? schemas ref = none) :
    compileOn schemas stack node optional = (do
      Outcome.note .debug (unresolvedText ref)
      return Validator.any optional) := by
  rw [compileOn_of_reference hv, expand, if_neg hs, ht]

theorem compileOn_of_target {ref : String} {target : Value} (hv : view node = .reference ref)
    (hs : ref ∉ stack) (ht : target? schemas ref = some target) :
    compileOn schemas stack node optional
      = compileOn schemas (stack ++ [ref]) target optional := by
  rw [compileOn_of_reference hv, expand, if_neg hs, ht]

theorem compileOn_of_plain {kind : Kind} (hv : view node = .plain kind) :
    compileOn schemas stack node optional
      = pure ⟨kind, optional, description? node, none, none⟩ := by
  rw [compileOn_eq_layer, layer, step, hv]
  rfl

theorem compileOn_of_array {items : Value} (hv : view node = .array items) :
    compileOn schemas stack node optional = (do
      let item ← compileOn schemas stack items false
      return ⟨.array, optional, description? node, some item, none⟩) := by
  rw [compileOn_eq_layer, layer, step, hv]

theorem compileOn_of_object {required : Value} {ps : Entries}
    (hv : view node = .object required (.map ps)) :
    compileOn schemas stack node optional = (do
      let fields ← compileEntries schemas stack required ps
      let ps ← properties "ValidatorNode" "properties" fields
      return ⟨.object, optional, description? node, none, some ps⟩) := by
  rw [compileOn_eq_layer, layer, step, hv, compileEntries_eq_mapM]
  rfl

/-- Properties that cannot be gone through fail in one of two ways. -/
theorem propertiesFault_cases (v : Value) :
    propertiesFault v = .tooDeep ∨ propertiesFault v = .raw (.noMember v.kindName "items") := by
  unfold propertiesFault
  split
  · exact Or.inl rfl
  · exact Or.inr rfl

theorem compileOn_of_noMap {required other : Value} (hv : view node = .object required other)
    (ho : ∀ ps, other ≠ .map ps) :
    compileOn schemas stack node optional = .fail (propertiesFault other) := by
  rw [compileOn_eq_layer, layer, step, hv]
  cases other with
  | map ps => exact absurd rfl (ho ps)
  | _ => rfl

/-! ### Properties one by one -/

/-- A property and the field it is compiled to: the key is kept, and the validator is what the
schema leads to, optional unless the key is among the required ones. -/
def IsField (leads : Value → Bool → Validator → Prop) (required : Value) (e : Value × Value)
    (f : Value × Validator) : Prop :=
  f.1 = e.1 ∧ ∃ listed, required.holds e.1 = .ok listed ∧ leads e.2 (!listed) f.2

theorem IsField.imp {P Q : Value → Bool → Validator → Prop} {required : Value}
    {e : Value × Value} {f : Value × Validator} (h : ∀ o w, P e.2 o w → Q e.2 o w) :
    IsField P required e f → IsField Q required e f
  | ⟨hk, listed, hl, hw⟩ => ⟨hk, listed, hl, h _ _ hw⟩

/-- Every member of a list has its counterpart. -/
theorem exists_mem_of_forall₂ {α β : Type} {R : α → β → Prop} {xs : List α} {ys : List β}
    (h : List.Forall₂ R xs ys) : ∀ x ∈ xs, ∃ y ∈ ys, R x y := by
  induction h with
  | nil => simp
  | cons hr _ ih =>
    intro x hx
    rcases List.mem_cons.1 hx with rfl | hx
    · exact ⟨_, List.mem_cons_self, hr⟩
    · obtain ⟨y, hy, hxy⟩ := ih x hx
      exact ⟨y, List.mem_cons_of_mem _ hy, hxy⟩

/-- Asking for a key gives the answer or the fault, and no log. -/
theorem ofExcept_mapError_eq_ok {α : Type} {r : Except RawFault α} {a : α} :
    (Outcome.ofExcept (r.mapError .raw)).result = .ok a ↔ r = .ok a := by
  cases r with
  | error e => exact ⟨fun h => (nomatch h), fun h => (nomatch h)⟩
  | ok b =>
    constructor
    · intro h
      cases h
      rfl
    · rintro ⟨⟩
      rfl

/-- Properties are compiled if each of them is, in order. -/
theorem compileEntries_eq_ok_iff {required : Value} {ps : Entries}
    {fields : List (Value × Validator)} :
    (compileEntries schemas stack required ps).result = .ok fields ↔
      List.Forall₂
        (IsField (fun m o w => (compileOn schemas stack m o).result = .ok w) required)
        ps fields := by
  induction ps generalizing fields with
  | nil =>
    rw [compileEntries_nil, List.forall₂_nil_left_iff, Outcome.pure_result, Except.ok.injEq,
      eq_comm]
  | cons e rest ih =>
    obtain ⟨key, node⟩ := e
    rw [compileEntries_cons, List.forall₂_cons_left_iff, Outcome.bind_result_eq_ok]
    simp only [ofExcept_mapError_eq_ok, Outcome.bind_result_eq_ok, ih, Outcome.pure_result,
      Except.ok.injEq]
    constructor
    · rintro ⟨listed, hl, field, hf, fields', hfs, rfl⟩
      exact ⟨(key, field), fields', ⟨rfl, listed, hl, hf⟩, hfs, rfl⟩
    · rintro ⟨⟨k, field⟩, fields', ⟨hk, listed, hl, hf⟩, hfs, rfl⟩
      obtain rfl : k = key := hk
      exact ⟨listed, hl, field, hf, fields', hfs, rfl⟩

/-- Fields get their names if every key is one. -/
theorem properties_eq_ok_iff {model field : String} {fields : List (Value × Validator)}
    {ps : Table Validator} :
    (properties model field fields).result = .ok ps ↔
      ∃ named, nameFields fields = .fine named ∧ ps = Table.ofList named := by
  unfold properties
  cases nameFields fields with
  | fine named => simp [Checked.under, eq_comm]
  | flawed issues => simp [Checked.under, Outcome.fail]

/-! ### What a schema yields -/

/-- The schema is compiled to the validator below some stack. -/
def Yields (schemas : Schemas) (node : Value) (optional : Bool) (w : Validator) : Prop :=
  ∃ stack, (compileOn schemas stack node optional).result = .ok w

/-- The induction over a successful compilation. -/
theorem Yields.induct
    {motive : (node : Value) → (optional : Bool) → (w : Validator) →
      Yields schemas node optional w → Prop}
    (notSchema : ∀ node optional (_ : view node = .notSchema) h,
      motive node optional (.any optional) h)
    (unresolved : ∀ node optional ref (_ : view node = .reference ref)
      (_ : target? schemas ref = none) h, motive node optional (.any optional) h)
    (target : ∀ node optional ref target w (_ : view node = .reference ref)
      (_ : target? schemas ref = some target) (ht : Yields schemas target optional w) h,
      motive target optional w ht → motive node optional w h)
    (plain : ∀ node optional kind (_ : view node = .plain kind) h,
      motive node optional ⟨kind, optional, description? node, none, none⟩ h)
    (array : ∀ node optional items item (_ : view node = .array items)
      (hi : Yields schemas items false item) h, motive items false item hi →
      motive node optional ⟨.array, optional, description? node, some item, none⟩ h)
    (object : ∀ node optional required ps fields named
      (_ : view node = .object required (.map ps))
      (_ : List.Forall₂ (IsField (fun m o w => ∃ h, motive m o w h) required) ps fields)
      (_ : nameFields fields = .fine named) h,
      motive node optional
        ⟨.object, optional, description? node, none, some (Table.ofList named)⟩ h)
    {w : Validator} (h : Yields schemas node optional w) : motive node optional w h := by
  have ⟨stack, hw⟩ := h
  induction stack, node, optional using compileOn.induct schemas _
    (fun stack required ps => ∀ fields,
      (compileEntries schemas stack required ps).result = .ok fields →
      List.Forall₂ (IsField (fun m o w => ∃ h, motive m o w h) required) ps fields)
    generalizing w with
  | case1 stack node optional hv =>
    rw [compileOn_of_notSchema hv] at hw
    cases hw
    exact notSchema node optional hv h
  | case2 stack node optional ref hv hs =>
    rw [compileOn_of_mem hv hs] at hw
    cases hw
  | case3 stack node optional ref hv hs ht =>
    rw [compileOn_of_unresolved hv hs ht] at hw
    cases hw
    exact unresolved node optional ref hv ht h
  | case4 stack node optional ref hv hs t ht ih =>
    rw [compileOn_of_target hv hs ht] at hw
    exact target node optional ref t w hv ht ⟨_, hw⟩ h (ih ⟨_, hw⟩ hw)
  | case5 stack node optional kind hv =>
    rw [compileOn_of_plain hv] at hw
    cases hw
    exact plain node optional kind hv h
  | case6 stack node optional items hv ih =>
    rw [compileOn_of_array hv, Outcome.bind_result_eq_ok] at hw
    obtain ⟨item, hi, hw⟩ := hw
    cases hw
    exact array node optional items item hv ⟨_, hi⟩ h (ih ⟨_, hi⟩ hi)
  | case7 stack node optional required ps hv ih =>
    rw [compileOn_of_object hv, Outcome.bind_result_eq_ok] at hw
    obtain ⟨fields, hf, hw⟩ := hw
    obtain ⟨_, hp, hw⟩ := Outcome.bind_result_eq_ok.1 hw
    obtain ⟨named, hn, rfl⟩ := properties_eq_ok_iff.1 hp
    cases hw
    exact object node optional required ps fields named hv (ih fields hf) hn h
  | case8 stack node optional required other ho hv =>
    rw [compileOn_of_noMap hv ho] at hw
    cases hw
  | case9 stack required fields hf =>
    rw [compileEntries_nil] at hf
    cases hf
    exact .nil
  | case10 stack required key node rest ih ihs fields hf =>
    rw [compileEntries_cons] at hf
    obtain ⟨listed, hl, hf⟩ := Outcome.bind_result_eq_ok.1 hf
    obtain ⟨field, hw, hf⟩ := Outcome.bind_result_eq_ok.1 hf
    obtain ⟨fields', hfs, hf⟩ := Outcome.bind_result_eq_ok.1 hf
    cases hf
    exact .cons ⟨rfl, listed, ofExcept_mapError_eq_ok.1 hl, ⟨_, hw⟩, ih listed ⟨_, hw⟩ hw⟩
      (ihs fields' hfs)

/-- A compiled validator has the optional flag that was asked for. -/
theorem Yields.optional_eq {w : Validator} (h : Yields schemas node optional w) :
    w.optional = optional := by
  induction h using Yields.induct with
  | target _ _ _ _ _ _ _ _ _ ih => exact ih
  | _ => rfl

/-- What a schema is compiled to below some stack, it is compiled to below every stack below which
it is clean. -/
theorem compileOn_of_yields {w : Validator} (h : Yields schemas node optional w)
    (hc : Clean schemas stack node) : (compileOn schemas stack node optional).result = .ok w := by
  induction h using Yields.induct generalizing stack with
  | notSchema node optional hv _ => rw [compileOn_of_notSchema hv, Outcome.pure_result]
  | unresolved node optional ref hv ht _ =>
    rw [compileOn_of_unresolved hv ((clean_of_unresolved hv ht).1 hc) ht]
    rfl
  | target node optional ref target w hv ht _ _ ih =>
    obtain ⟨hs, hc⟩ := (clean_of_target hv ht).1 hc
    rw [compileOn_of_target hv hs ht]
    exact ih hc
  | plain node optional kind hv _ => rw [compileOn_of_plain hv, Outcome.pure_result]
  | array node optional items item hv _ _ ih =>
    rw [compileOn_of_array hv]
    exact Outcome.bind_result_eq_ok.2 ⟨item, ih ((clean_of_array hv).1 hc), rfl⟩
  | object node optional required ps fields named hv hf hn _ =>
    have hc := (clean_of_object hv).1 hc
    rw [compileOn_of_object hv]
    refine Outcome.bind_result_eq_ok.2 ⟨fields, compileEntries_eq_ok_iff.2 ?_, ?_⟩
    · refine ((List.forall₂_and_left ps fields).2 ⟨hc, hf⟩).imp fun e f ⟨hce, hef⟩ => ?_
      exact hef.imp fun o w ⟨_, ih⟩ => ih hce
    · exact Outcome.bind_result_eq_ok.2 ⟨_, properties_eq_ok_iff.2 ⟨named, hn, rfl⟩, rfl⟩

/-- Compilation goes down every path, so it comes to every reference of the expansion. -/
theorem Path.not_mem_of_compileOn {m : Value} {refs : List String} {ref : String}
    (hp : Path schemas node refs m) (hm : view m = .reference ref) {w : Validator}
    (h : (compileOn schemas stack node optional).result = .ok w) : ref ∉ stack ++ refs := by
  induction hp generalizing stack optional w with
  | here =>
    intro hs
    rw [compileOn_of_mem hm (by simpa using hs)] at h
    cases h
  | @target node target _ r refs hv ht _ ih =>
    have hr : r ∉ stack := by
      intro hr
      rw [compileOn_of_mem hv hr] at h
      cases h
    rw [compileOn_of_target hv hr ht] at h
    simpa using ih hm h
  | items hv _ ih =>
    rw [compileOn_of_array hv, Outcome.bind_result_eq_ok] at h
    obtain ⟨item, hi, _⟩ := h
    exact ih hm hi
  | property hv he _ ih =>
    rw [compileOn_of_object hv, Outcome.bind_result_eq_ok] at h
    obtain ⟨fields, hf, _⟩ := h
    obtain ⟨f, _, _, _, _, hw⟩ := exists_mem_of_forall₂ (compileEntries_eq_ok_iff.1 hf) _ he
    exact ih hm hw

/-- **Success below a stack.**  Compilation succeeds exactly if the schema yields the validator and
no reference comes up under itself or is on the stack. -/
theorem compileOn_eq_ok_iff {w : Validator} :
    (compileOn schemas stack node optional).result = .ok w ↔
      Yields schemas node optional w ∧ Clean schemas stack node :=
  ⟨fun h => ⟨⟨stack, h⟩, fun _ _ _ hp hm => hp.not_mem_of_compileOn hm h⟩,
    fun h => compileOn_of_yields h.1 h.2⟩

/-- A schema yields at most one validator. -/
theorem Yields.unique {w w' : Validator} (h : Yields schemas node optional w)
    (h' : Yields schemas node optional w') : w = w' := by
  obtain ⟨stack, hw⟩ := h
  have hc := (compileOn_eq_ok_iff.1 hw).2.of_stack
  have h₁ := compileOn_of_yields ⟨stack, hw⟩ hc
  have h₂ := compileOn_of_yields h' hc
  exact Except.ok.inj (h₁.symm.trans h₂)

/-- A reference yields what its target yields. -/
theorem yields_reference_iff {ref : String} {target : Value} (hv : view node = .reference ref)
    (ht : target? schemas ref = some target) {w : Validator} :
    Yields schemas node optional w ↔ Yields schemas target optional w := by
  constructor
  · rintro ⟨stack, h⟩
    by_cases hs : ref ∈ stack
    · rw [compileOn_of_mem hv hs] at h
      cases h
    · rw [compileOn_of_target hv hs ht] at h
      exact ⟨_, h⟩
  · intro h
    obtain ⟨stack, hw⟩ := h
    have hc := (compileOn_eq_ok_iff.1 hw).2.of_stack
    obtain ⟨hs, hc⟩ := (clean_of_target hv ht).1 ((clean_reference_iff hv ht).2 hc)
    refine ⟨[], ?_⟩
    rw [compileOn_of_target hv hs ht]
    exact compileOn_of_yields ⟨stack, hw⟩ hc

end Schema
end ToolGateway
