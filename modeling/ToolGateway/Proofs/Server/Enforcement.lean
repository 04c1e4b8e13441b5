/-
# The server enforces what it publishes

A client is told the schema of each tool's arguments, and the arguments of a call are checked by the
validators of the tool.  For a call of a listed name these come to the same: the handler is run, once
and with the checked arguments, if the arguments conform to the published schema, and else the call is
refused before anything is done.  A name that is not listed is not found.
-/

import ToolGateway.Proofs.Server.Registry
import ToolGateway.Proofs.Validator.Publication

namespace ToolGateway

open Schema

/-! ### The arguments of a tool -/

namespace Tool

variable {t : Tool} {es : Entries}

/-- Arguments that are none at all are no other case than arguments that are empty. -/
theorem checkArguments_map (t : Tool) (es : Entries) :
    t.checkArguments (.map es) = Validator.checkFields t.fields t.argumentsName es := by
  unfold checkArguments
  cases es <;> rfl

/-- Arguments are refused as invalid and in no other way. -/
theorem eq_invalid_of_validate {arguments : Value} {f : Failure}
    (h : t.validate arguments = .error f) : ∃ issues, f = .invalid t.modelName issues := by
  unfold validate at h
  split at h
  · cases h
  · cases h
    exact ⟨_, rfl⟩

/-- Arguments that conform to the published schema are found fine. -/
theorem exists_validate_ok (hes : (Value.map es).IsJson)
    (hc : Conforms t.inputSchema (.map es)) : ∃ args, t.validate (.map es) = .ok args := by
  obtain ⟨args, h⟩ := (Validator.conforms_objectSchema_iff hes).1 hc
  refine ⟨args, ?_⟩
  unfold validate
  rw [checkArguments_map, h]

/-- Arguments that do not conform to the published schema are found invalid. -/
theorem exists_validate_error (hes : (Value.map es).IsJson)
    (hc : ¬ Conforms t.inputSchema (.map es)) :
    ∃ issues, t.validate (.map es) = .error (.invalid t.modelName issues) := by
  unfold validate
  rw [checkArguments_map]
  cases h : Validator.checkFields t.fields t.argumentsName es with
  | fine args => exact absurd ((Validator.conforms_objectSchema_iff hes).2 ⟨args, h⟩) hc
  | flawed issues => exact ⟨issues, rfl⟩

end Tool

/-! ### Calls -/

namespace Server

variable {s : Server} {t : Tool} {name : String} {arguments : Value}

/-- A call with fine arguments is one run of the handler, and the text of its result. -/
theorem call_of_validate_ok (ht : s.tool? name = some t) {args : Table Value}
    (h : t.validate arguments = .ok args) :
    s.call name arguments = (do
      let result ← t.handler args
      Action.ofExcept (resultText result)) := by
  unfold call
  rw [ht]
  dsimp only
  unfold Tool.invoke
  rw [h, Action.ofExcept_ok_bind]

/-- A call with invalid arguments does nothing and fails. -/
theorem call_of_validate_error (ht : s.tool? name = some t) {f : Failure}
    (h : t.validate arguments = .error f) : s.call name arguments = Action.fail f := by
  unfold call
  rw [ht]
  dsimp only
  unfold Tool.invoke
  rw [h, Action.ofExcept_error_bind]
  rfl

/-- No text of a result is a failure to find a tool. -/
theorem resultText_ne_toolNotFound (result : Value) (n : String) :
    resultText result ≠ .error (.toolNotFound n) := by
  unfold resultText
  cases Json.write Json.lenient result with
  | error e => exact fun h => (nomatch h)
  | ok text => exact fun h => (nomatch h)

/-- The name of a tool is among those that a client is told. -/
def Lists (s : Server) (name : String) : Prop :=
  ∃ entry ∈ s.listings, entry.get? "name" = some (.text name)

theorem lists_ofTools_iff {tools : List Tool} :
    (ofTools tools).Lists name ↔ ∃ t, (ofTools tools).tool? name = some t := by
  constructor
  · rintro ⟨entry, he⟩
    obtain ⟨t, ht, _⟩ := mem_listings_iff.1 he
    exact ⟨t, ht⟩
  · rintro ⟨t, ht⟩
    exact ⟨_, mem_listings_iff.2 ⟨t, ht, rfl⟩⟩

/-- A call finds no tool if its name is not listed.  Otherwise it can only fail so if a handler that
it runs does. -/
theorem call_toolNotFound_iff {tools : List Tool} {replies : List Http.Reply} {n : String} :
    (((ofTools tools).call name arguments).run replies).result = .error (.toolNotFound n) ↔
      (¬ (ofTools tools).Lists name ∧ n = name) ∨
        ∃ t args, (ofTools tools).tool? name = some t ∧ t.validate arguments = .ok args ∧
          ((t.handler args).run replies).result = .error (.toolNotFound n) := by
  rw [lists_ofTools_iff]
  cases ht : (ofTools tools).tool? name with
  | none =>
    rw [call_of_tool?_eq_none ht]
    simp [eq_comm]
  | some t =>
    cases hv : t.validate arguments with
    | error f =>
      obtain ⟨issues, rfl⟩ := Tool.eq_invalid_of_validate hv
      rw [call_of_validate_error ht hv]
      simp [Action.fail, Action.ofOutcome, Action.run, Outcome.fail, hv]
    | ok args =>
      rw [call_of_validate_ok ht hv, Action.bind_result_eq_error]
      constructor
      · rintro (h | ⟨result, _, h⟩)
        · exact Or.inr ⟨t, args, rfl, hv, h⟩
        · exact absurd h (resultText_ne_toolNotFound result n)
      · rintro (⟨h, _⟩ | ⟨t', args', h', hv', h⟩)
        · exact absurd ⟨t, rfl⟩ h
        · cases h'
          cases hv.symm.trans hv'
          exact Or.inl h

/-- **What is published is enforced.**  Whatever tools the server is made for, a call finds no tool if
and only if its name is not listed, unless a handler itself fails so.  A name that is listed has one
entry, which is that of the first tool of the name.  If the arguments conform to the schema of the
entry, the call is one run of the handler of this tool, followed by nothing but the text of its
result; if they do not, the call is refused as invalid, and does nothing. -/
theorem published_schemas_are_enforced (tools : List Tool) :
    ∃ s, (make tools).result = .ok s ∧ ∀ name es, (Value.map es).IsJson →
      (∀ replies n,
        ((s.call name (.map es)).run replies).result = .error (.toolNotFound n) ↔
          (¬ s.Lists name ∧ n = name) ∨
            ∃ t args, s.tool? name = some t ∧ t.validate (.map es) = .ok args ∧
              ((t.handler args).run replies).result = .error (.toolNotFound n)) ∧
      (s.Lists name → ∃ t schema, tools.find? (fun t => t.name = name) = some t ∧
        (∀ entry ∈ s.listings, entry.get? "name" = some (.text name) → entry = listing t) ∧
        (listing t).get? "inputSchema" = some schema ∧
        (Conforms schema (.map es) → ∃ args, t.validate (.map es) = .ok args ∧
          s.call name (.map es) = (do
            let result ← t.handler args
            Action.ofExcept (resultText result))) ∧
        (¬ Conforms schema (.map es) → ∃ issues, ∀ replies,
          (s.call name (.map es)).run replies
            = ⟨[], [], replies, .error (.invalid t.modelName issues)⟩)) := by
  refine ⟨ofTools tools, make_result tools, fun name es hes => ⟨fun replies n =>
    call_toolNotFound_iff, fun hl => ?_⟩⟩
  obtain ⟨t, ht⟩ := lists_ofTools_iff.1 hl
  refine ⟨t, t.inputSchema, tool?_ofTools tools name ▸ ht, fun entry he hn => ?_,
    get?_inputSchema_listing t, fun hc => ?_, fun hc => ?_⟩
  · obtain ⟨t', ht', rfl⟩ := mem_listings_iff.1 ⟨he, hn⟩
    cases ht.symm.trans ht'
    rfl
  · obtain ⟨args, hv⟩ := Tool.exists_validate_ok hes hc
    exact ⟨args, hv, call_of_validate_ok ht hv⟩
  · obtain ⟨issues, hv⟩ := Tool.exists_validate_error hes hc
    refine ⟨issues, fun replies => ?_⟩
    rw [call_of_validate_error ht hv]
    rfl

/-- A tool that greets whoever is named. -/
def greetTool : Tool :=
  ⟨"greet", "Greets.", [("name", ⟨.string, true, none, none, none⟩)],
    fun args => pure (.ofTable args), none, none, none⟩

/-- A tool that comes too late for the name, and asks for nothing. -/
def lateTool : Tool := { greetTool with fields := [], handler := fun _ => pure .null }

/-- Of two tools of one name the first is listed and called: with a name that is a text, but not with
null, although the name may be left out. -/
theorem greetTool_enforced :
    let ada : Entries := [(.text "name", .text "Ada")]
    let nobody : Entries := [(.text "name", .null)]
    (Value.map ada).IsJson ∧ (Value.map nobody).IsJson ∧
      Conforms greetTool.inputSchema (.map ada) ∧ ¬ Conforms greetTool.inputSchema (.map nobody) ∧
      ∃ s, (make [greetTool, lateTool]).result = .ok s ∧ s.Lists "greet" ∧ ¬ s.Lists "bid" ∧
        (∃ args, s.call "greet" (.map ada) = (do
          let result ← greetTool.handler args
          Action.ofExcept (resultText result))) ∧
        (∃ issues, ∀ replies, (s.call "greet" (.map nobody)).run replies
          = ⟨[], [], replies, .error (.invalid greetTool.modelName issues)⟩) ∧
        ∀ replies, ((s.call "bid" (.map ada)).run replies).result = .error (.toolNotFound "bid") := by
  intro ada nobody
  have hada : (Value.map ada).IsJson := .map (by simp [ada]) (by simpa [ada] using .text "Ada")
  have hnobody : (Value.map nobody).IsJson := .map (by simp [nobody]) (by simpa [nobody] using .null)
  have hfine : Conforms greetTool.inputSchema (.map ada) :=
    (@Validator.conforms_objectSchema_iff greetTool.fields "" ada hada).2 ⟨_, rfl⟩
  have hflawed : ¬ Conforms greetTool.inputSchema (.map nobody) := fun h =>
    Checked.not_isFine_flawed _
      ((@Validator.conforms_objectSchema_iff greetTool.fields "" nobody hnobody).1 h)
  obtain ⟨s, hs, h⟩ := published_schemas_are_enforced [greetTool, lateTool]
  have hserver : s = ofTools [greetTool, lateTool] := by
    cases hs
    rfl
  have hlists : s.Lists "greet" := hserver ▸ lists_ofTools_iff.2 ⟨greetTool, rfl⟩
  have hbid : ¬ s.Lists "bid" := by
    rw [hserver, lists_ofTools_iff]
    rintro ⟨t, ht⟩
    cases ht
  obtain ⟨t, schema, ht, _, hschema, hok, _⟩ := (h "greet" ada hada).2 hlists
  obtain ⟨t', schema', ht', _, hschema', _, herror⟩ := (h "greet" nobody hnobody).2 hlists
  cases ht
  cases hschema
  cases ht'
  cases hschema'
  obtain ⟨args, _, hcall⟩ := hok hfine
  exact ⟨hada, hnobody, hfine, hflawed, s, hs, hlists, hbid, ⟨args, hcall⟩, herror hflawed,
    fun replies => ((h "bid" ada hada).1 replies "bid").2 (Or.inl ⟨hbid, rfl⟩)⟩

end Server
end ToolGateway
