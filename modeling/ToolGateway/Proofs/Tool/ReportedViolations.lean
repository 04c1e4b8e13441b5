/-
# What is reported of arguments

The arguments of a call are checked all at once, and whatever is wrong with them is reported
together. `issues_are_the_violations` says what that is: the violations of the published schema,
each of them once and in order.  It asks for properties that have distinct names at every depth, and
so they have in every tool that is compiled (`distinct_of_ofDocument`).
-/

import ToolGateway.Proofs.Server.Enforcement
import ToolGateway.Proofs.Tool.CompiledTrees
import ToolGateway.Proofs.Validator.Issues

namespace ToolGateway

open Schema (Violation Violates Before)

namespace Tool

variable {t : Tool} {arguments : Value}

/-- The validator of all arguments at once. -/
def argumentsValidator (t : Tool) : Validator := ⟨.object, false, none, none, some t.fields⟩

/-- The arguments that are checked; those that are not given count as none at all. -/
def supplied (arguments : Value) : Value := if arguments.isGiven then arguments else .map []

theorem inputSchema_eq (t : Tool) : t.inputSchema = t.argumentsValidator.schema := by
  rw [Validator.schema_eq]
  exact congrArg Value.map (List.append_nil _).symm

theorem isJson_supplied (h : arguments.IsJson) : (supplied arguments).IsJson := by
  unfold supplied
  split
  · exact h
  · exact .map (fun _ h => (nomatch h)) fun _ h => (nomatch h)

/-- The arguments are checked like any other value. -/
theorem check_supplied (t : Tool) (arguments : Value) :
    t.argumentsValidator.check t.argumentsName (supplied arguments)
      = (t.checkArguments arguments).map .ofTable := by
  unfold supplied checkArguments argumentsValidator
  split
  · cases arguments <;> rfl
  · rfl

/-- **What is reported of arguments are the violations of the published schema.**  For JSON
arguments there is one list of all violations, in the order in which the keys are declared and the
items stand, with no place twice and none below another one.  The arguments are refused exactly if
it is not empty, and then with the issues of the violations, one after the other. -/
theorem issues_are_the_violations (hd : t.argumentsValidator.Distinct) (h : arguments.IsJson) :
    ∃ report,
      (∀ x, x ∈ report ↔ Violates t.inputSchema (supplied arguments) x) ∧
      (report.Pairwise fun x y => Before t.inputSchema x.location y.location) ∧
      ((report.map Violation.location).Pairwise fun p q => ¬ p <+: q ∧ ¬ q <+: p) ∧
      ∀ f, t.validate arguments = .error f ↔ report ≠ [] ∧
        f = .invalid t.modelName (report.flatMap (Violation.issues t.argumentsName)) := by
  obtain ⟨report, hreport, hissues⟩ := Validator.exists_report t.argumentsValidator hd
    t.argumentsName (supplied arguments) (isJson_supplied h)
  rw [check_supplied] at hissues
  rw [inputSchema_eq]
  refine ⟨report, hreport.mem_iff, hreport.sorted, hreport.apart, fun f => ?_⟩
  have hfine := Checked.isFine_map.symm.trans hissues.fine_iff
  have hfound := (Checked.issues_map _ _).symm.trans hissues.issues
  unfold validate
  cases hc : t.checkArguments arguments with
  | fine args =>
    rw [hc] at hfine
    simp [hfine.1 (Checked.isFine_fine args)]
  | flawed issues =>
    rw [hc] at hfine hfound
    have hne : report ≠ [] := fun he => Checked.not_isFine_flawed issues (hfine.2 he)
    rw [← hfound]
    simp [hne, eq_comm, Checked.issues]

/-- A tool that is compiled has distinct names at every depth. -/
theorem distinct_of_ofDocument {d : Document} {target : Target} {tools : List Tool}
    (h : (ofDocument d target).result = .ok tools) (ht : t ∈ tools) :
    t.argumentsValidator.Distinct := by
  obtain ⟨path, item, m, o, _, _, ho⟩ := exists_operation h ht
  refine .of_parts (fun _ h => (nomatch h)) ?_
  rintro _ ⟨⟩
  refine ⟨nodup_names_fields ho, fun p hp => ?_⟩
  obtain ⟨node, w, hw, he⟩ := isField_of_ofOperation ho p hp
  have hd : w.Distinct := Schema.Yields.distinct ⟨[], hw⟩
  rw [he]
  exact .of_parts (fun _ hi => hd.items hi)
    fun ps hps => ⟨hd w ps .self hps, fun _ hq => hd.property hps hq⟩

/-- A tool that sends parcels, with a weight and an address. -/
def parcelTool : Tool :=
  ⟨"send", "", [("weight", ⟨.number, true, none, none, none⟩),
    ("address", ⟨.object, true, none, none, some [("city", ⟨.string, false, none, none, none⟩),
      ("lines", ⟨.array, true, none, some ⟨.string, false, none, none, none⟩, none⟩)]⟩)],
    fun args => pure (.ofTable args), none, none, none⟩

/-- An address without a city, with a line that is no text. -/
def parcelAddress : Value := .map [(.text "lines", .list [.text "1 Main St", .int 2])]

/-- Arguments whose weight is a text. -/
def parcelArguments : Value :=
  .map [(.text "address", parcelAddress), (.text "weight", .text "5")]

/-- What is wrong with a parcel: the issues, in the order of the declaration. -/
def parcelIssues : List Issue :=
  [⟨.notInteger, [.name "weight", .name "int"], .text "5"⟩,
    ⟨.notNumber, [.name "weight", .name "float"], .text "5"⟩,
    ⟨.missing, [.name "address", .name "city"], parcelAddress⟩,
    ⟨.notText, [.name "address", .name "lines", .index 1], .int 2⟩]

/-- All that is wrong with a parcel is reported: a weight that is no number, a city that is missing,
and a line that is no text. -/
theorem parcel_is_reported :
    ∃ report : List Violation, .mistyped [.name "weight"] .number (.text "5") ∈ report ∧
      .missing [.name "address"] "city" parcelAddress ∈ report ∧
      .mistyped [.name "address", .name "lines", .index 1] .string (.int 2) ∈ report ∧
      report.flatMap (Violation.issues parcelTool.argumentsName) = parcelIssues ∧
      parcelTool.validate parcelArguments
        = .error (.invalid parcelTool.modelName parcelIssues) := by
  have hplain (kind : Kind) (optional : Bool) :
      Validator.Distinct ⟨kind, optional, none, none, none⟩ :=
    .of_parts (fun _ h => (nomatch h)) fun _ h => (nomatch h)
  have hlines : Validator.Distinct
      ⟨.array, true, none, some ⟨.string, false, none, none, none⟩, none⟩ :=
    .of_parts (fun _ h => by cases h; exact hplain _ _) fun _ h => (nomatch h)
  have haddress : ∀ p ∈ parcelTool.fields, p.2.Distinct := by
    rintro p (_ | ⟨_, _ | ⟨_, ⟨⟩⟩⟩)
    · exact hplain _ _
    · refine .of_parts (fun _ h => (nomatch h)) ?_
      rintro _ ⟨⟩
      exact ⟨by decide, List.forall_mem_cons.2 ⟨hplain _ _, List.forall_mem_singleton.2 hlines⟩⟩
  have hd : parcelTool.argumentsValidator.Distinct := by
    refine .of_parts (fun _ h => (nomatch h)) ?_
    rintro _ ⟨⟩
    exact ⟨by decide, haddress⟩
  have haddressJson : parcelAddress.IsJson :=
    .map (List.forall_mem_singleton.2 ⟨_, rfl⟩) (List.forall_mem_singleton.2
      (.list (List.forall_mem_cons.2 ⟨.text _, List.forall_mem_singleton.2 (.int 2)⟩)))
  have hjson : parcelArguments.IsJson :=
    .map (List.forall_mem_cons.2 ⟨⟨_, rfl⟩, List.forall_mem_singleton.2 ⟨_, rfl⟩⟩)
      (List.forall_mem_cons.2 ⟨haddressJson, List.forall_mem_singleton.2 (.text "5")⟩)
  have hrun : parcelTool.validate parcelArguments
      = .error (.invalid parcelTool.modelName parcelIssues) := rfl
  obtain ⟨report, hmem, _, _, hissues⟩ := issues_are_the_violations hd hjson
  obtain ⟨_, he⟩ := (hissues _).1 hrun
  refine ⟨report, (hmem _).2 ?_, (hmem _).2 ?_, (hmem _).2 ?_, (Failure.invalid.inj he).2.symm,
    hrun⟩
  · exact ⟨_, .property ⟨_, rfl, rfl⟩ rfl .here, rfl, by simp [Schema.ValueType.Has]⟩
  · exact ⟨_, _, .property ⟨_, rfl, rfl⟩ rfl .here, rfl, ⟨_, rfl, List.mem_cons_self⟩, rfl⟩
  · exact ⟨_, .property ⟨_, rfl, rfl⟩ rfl (.property ⟨_, rfl, rfl⟩ rfl
      (.item (i := 1) rfl rfl .here)), rfl, by simp [Schema.ValueType.Has]⟩

end Tool
end ToolGateway
