/-
# Schemas that can be read

Loading looks at a schema no further than at its first keys, so what stands in an object in place of
its properties or of its required names may be anything.  `Legible` says what the compilation asks of
an object: that its properties are a map, that every key counts as a text, and that it can be told
whether the key is required.  A map around a schema in which it is met again has no end, and is not
legible either.  A schema that is compiled is legible wherever it leads (`legible_of_compileOn`), and
where a schema is legible nothing but a cycle of references stops its compilation
(`compileOn_error_of_legible`).
-/

import ToolGateway.Proofs.Schema.WellShaped

namespace ToolGateway
namespace Schema

/-- An object's properties are a map, every key counts as a text, and it can be asked whether the key
is required. -/
def Legible (node : Value) : Prop :=
  ∀ required properties, view node = .object required properties →
    ∃ ps, properties = .map ps ∧ ∀ e ∈ ps,
      (∃ name, Shape.text e.1 = .fine name) ∧ ∃ listed, required.holds e.1 = .ok listed

variable {schemas : Schemas} {stack : List String} {node : Value} {optional : Bool}

theorem legible_of_view (h : ∀ required properties, view node ≠ .object required properties) :
    Legible node := fun required properties hv => absurd hv (h required properties)

/-- Fields get their names if every key counts as a text. -/
theorem nameFields_isFine_iff {fields : List (Value × Validator)} :
    (∃ named, nameFields fields = .fine named) ↔
      ∀ f ∈ fields, ∃ name, Shape.text f.1 = .fine name := by
  constructor
  · rintro ⟨named, h⟩ f hf
    obtain ⟨p, _, hp, _⟩ := exists_mem_of_forall₂ (forall₂_nameFields h) f hf
    exact ⟨p.1, hp⟩
  · intro h
    induction fields with
    | nil => exact ⟨[], rfl⟩
    | cons f rest ih =>
      obtain ⟨k, w⟩ := f
      obtain ⟨⟨name, hname⟩, hrest⟩ := List.forall_mem_cons.1 h
      obtain ⟨named, hnamed⟩ := ih hrest
      refine ⟨(name, w) :: named, ?_⟩
      have hkey : Shape.key k = .fine name := by
        unfold Shape.key
        rw [hname]
        rfl
      rw [nameFields, hkey, hnamed]
      rfl

/-- Properties fail only if a key does not count as a text. -/
theorem properties_isOk (model field : String) {fields : List (Value × Validator)}
    (h : ∀ f ∈ fields, ∃ name, Shape.text f.1 = .fine name) :
    ∃ ps, (properties model field fields).result = .ok ps :=
  have ⟨named, hnamed⟩ := nameFields_isFine_iff.2 h
  ⟨_, properties_eq_ok_iff.2 ⟨named, hnamed, rfl⟩⟩

/-! ### What was compiled is legible -/

/-- An object whose properties were compiled is legible. -/
theorem legible_of_fields {required : Value} {ps : Entries} {fields : List (Value × Validator)}
    {leads : Value → Bool → Validator → Prop} {named : Table Validator}
    (hv : view node = .object required (.map ps))
    (hf : List.Forall₂ (IsField leads required) ps fields) (hn : nameFields fields = .fine named) :
    Legible node := by
  intro required' properties hv'
  cases hv.symm.trans hv'
  refine ⟨ps, rfl, fun e he => ?_⟩
  obtain ⟨f, hfm, hk, listed, hl, _⟩ := exists_mem_of_forall₂ hf e he
  exact ⟨hk ▸ nameFields_isFine_iff.1 ⟨named, hn⟩ f hfm, listed, hl⟩

/-- **A schema that yields a validator is legible wherever its expansion leads.** -/
theorem Yields.legible {w : Validator} (h : Yields schemas node optional w) :
    ∀ m, Met schemas node m → Legible m := by
  induction h using Yields.induct with
  | notSchema node optional hv _ =>
    rintro m ⟨refs, hp⟩
    obtain ⟨_, rfl⟩ := hp.of_leaf (by rw [hv]; rfl)
    exact legible_of_view (by simp [hv])
  | unresolved node optional ref hv ht _ =>
    rintro m ⟨refs, hp⟩
    rcases hp.of_reference hv with ⟨_, rfl⟩ | ⟨target, _, ht', _, _⟩
    · exact legible_of_view (by simp [hv])
    · cases ht.symm.trans ht'
  | target node optional ref target w hv ht _ _ ih =>
    rintro m ⟨refs, hp⟩
    rcases hp.of_reference hv with ⟨_, rfl⟩ | ⟨target', rest, ht', _, hp⟩
    · exact legible_of_view (by simp [hv])
    · cases ht.symm.trans ht'
      exact ih m ⟨rest, hp⟩
  | plain node optional kind hv _ =>
    rintro m ⟨refs, hp⟩
    obtain ⟨_, rfl⟩ := hp.of_leaf (by rw [hv]; rfl)
    exact legible_of_view (by simp [hv])
  | array node optional items item hv _ _ ih =>
    rintro m ⟨refs, hp⟩
    rcases hp.of_array hv with ⟨_, rfl⟩ | hp
    · exact legible_of_view (by simp [hv])
    · exact ih m ⟨refs, hp⟩
  | object node optional required ps fields named hv hf hn _ =>
    rintro m ⟨refs, hp⟩
    rcases hp.of_object hv with ⟨_, rfl⟩ | ⟨e, he, hp⟩
    · exact legible_of_fields hv hf hn
    · obtain ⟨f, _, _, _, _, _, ih⟩ := exists_mem_of_forall₂ hf e he
      exact ih m ⟨refs, hp⟩

theorem legible_of_compileOn {w : Validator}
    (h : (compileOn schemas stack node optional).result = .ok w) :
    ∀ m, Met schemas node m → Legible m := Yields.legible ⟨stack, h⟩

/-- Of a map around a schema nothing can be read: there is no end to it. -/
theorem not_legible_again : ¬ Legible (.again true) := by
  intro h
  obtain ⟨ps, hps, _⟩ := h (.list []) (.again true) rfl
  cases hps

/-- **A schema that leads back into a map around it is not compiled**, whatever it is compiled for. -/
theorem not_compiled_of_met_again (hm : Met schemas node (.again true)) (w : Validator) :
    (compileOn schemas stack node optional).result ≠ .ok w :=
  fun h => not_legible_again (legible_of_compileOn h _ hm)

/-! ### What is legible is compiled -/

/-- **Nothing but a cycle stops the compilation** of a schema that is legible wherever its expansion
leads. -/
theorem compileOn_error_of_legible {f : Failure} (hr : ∀ m, Met schemas node m → Legible m)
    (h : (compileOn schemas stack node optional).result = .error f) :
    ∃ chain, f = .schemaCycle chain := by
  induction stack, node, optional using compileOn.induct schemas _
    (fun stack required ps =>
      (∀ e ∈ ps, ∀ m, Met schemas e.2 m → Legible m) →
      (∀ e ∈ ps, ∃ listed, required.holds e.1 = .ok listed) →
      (compileEntries schemas stack required ps).result = .error f →
      ∃ chain, f = .schemaCycle chain) with
  | case1 stack node optional hv =>
    rw [compileOn_of_notSchema hv] at h
    cases h
  | case2 stack node optional ref hv hs =>
    rw [compileOn_of_mem hv hs] at h
    cases h
    exact ⟨_, rfl⟩
  | case3 stack node optional ref hv hs ht =>
    rw [compileOn_of_unresolved hv hs ht] at h
    cases h
  | case4 stack node optional ref hv hs t ht ih =>
    rw [compileOn_of_target hv hs ht] at h
    exact ih (fun m hm => hr m (hm.target hv ht)) h
  | case5 stack node optional kind hv =>
    rw [compileOn_of_plain hv] at h
    cases h
  | case6 stack node optional items hv ih =>
    rw [compileOn_of_array hv, Outcome.bind_result_eq_error] at h
    rcases h with h | ⟨_, _, h⟩
    · exact ih (fun m hm => hr m (hm.items hv)) h
    · cases h
  | case7 stack node optional required ps hv ih =>
    obtain ⟨_, hps, hkeys⟩ := hr node .refl _ _ hv
    cases hps
    rw [compileOn_of_object hv, Outcome.bind_result_eq_error] at h
    rcases h with h | ⟨fields, hf, h⟩
    · exact ih (fun e he m hm => hr m (hm.property hv he)) (fun e he => (hkeys e he).2) h
    · -- all keys count as texts, so the fields have names
      have hnames : ∀ f ∈ fields, ∃ name, Shape.text f.1 = .fine name := by
        intro f hfm
        obtain ⟨e, he, hk, _⟩ := exists_mem_of_forall₂ (compileEntries_eq_ok_iff.1 hf).flip f hfm
        exact hk ▸ (hkeys e he).1
      obtain ⟨named, hok⟩ := properties_isOk "ValidatorNode" "properties" hnames
      rcases Outcome.bind_result_eq_error.1 h with h | ⟨_, _, h⟩
      · cases hok.symm.trans h
      · cases h
  | case8 stack node optional required other ho hv =>
    obtain ⟨ps, rfl, _⟩ := hr node .refl required other hv
    exact absurd rfl (ho ps)
  | case9 stack required hps hreq h =>
    rw [compileEntries_nil] at h
    cases h
  | case10 stack required key node rest ih ihs hps hreq h =>
    obtain ⟨⟨listed, hl⟩, hreq⟩ := List.forall_mem_cons.1 hreq
    rw [compileEntries_cons] at h
    rcases Outcome.bind_result_eq_error.1 h with h | ⟨listed', _, h⟩
    · cases (ofExcept_mapError_eq_ok.2 hl).symm.trans h
    rcases Outcome.bind_result_eq_error.1 h with h | ⟨_, _, h⟩
    · exact ih listed' (hps _ List.mem_cons_self) h
    rcases Outcome.bind_result_eq_error.1 h with h | ⟨_, _, h⟩
    · exact ihs (fun e he => hps e (List.mem_cons_of_mem _ he)) hreq h
    · cases h

end Schema
end ToolGateway
