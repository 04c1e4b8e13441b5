/-
# How the loading of a document fails

Loading ends in a document or in a failure that tells of the document (`Failure.TellsOfDocument`), or
it escapes: with a path that is too long or leads to a directory or to what the system does not let be
read, with octets that are no UTF-8, with a text beyond the limits of JSON, with YAML that is nested too
deeply or has a scalar of which no value can be formed, with paths that are no map, or with issues that
show what JSON lacks, what holds itself, or what is nested too deeply to be told.  `Document.Escape`
lists these with the failure of each, and nothing else escapes (`load_escapes_iff`).

Only the paths let a plain map escape that is nested within `depthLimit`, or a text that is read as JSON
(`load_of_plain`, `load_of_json`).
-/

import ToolGateway.Document.Source
import ToolGateway.Proofs.Document.Findings

namespace ToolGateway

/-- The failure is one of loading a document, and it can be put into words. -/
def Failure.TellsOfDocument (f : Failure) : Prop :=
  f.family? = some .documentLoad ∧
    ∃ r text, f.report? = some (.ok r) ∧ r.text = .ok text

namespace Report

variable (kind : ReportKind) (headline : String) {details : Table Value}

/-- A report with a text for its headline is opened with it and with the text of the details. -/
theorem make_text (hd : ¬details.isEmpty = true) :
    make kind (.text headline) details = (detailsText details).map fun t =>
      ⟨kind, .text headline, details, .text (headline ++ (" " ++ t))⟩ := by
  have hbase : (if (Value.text headline).isGiven then Value.text headline else .text "")
      = .text headline := by
    by_cases hs : headline = ""
    · rw [hs]
      rfl
    · exact if_pos (bne_iff_ne.2 hs)
  unfold make
  rw [hbase]
  dsimp only
  rw [if_neg hd]
  cases detailsText details <;> rfl

/-- A report is made and shown if its details have a text. -/
theorem exists_text_of_detailsText {t : String} (hd : ¬details.isEmpty = true)
    (h : detailsText details = .ok t) :
    ∃ r text, make kind (.text headline) details = .ok r ∧ r.text = .ok text := by
  refine ⟨_, headline ++ " " ++ t, by rw [make_text kind headline hd, h]; rfl, ?_⟩
  unfold text
  dsimp only
  rw [if_neg hd, h]
  rfl

/-- The text of a single detail, around which there is one level. -/
theorem detailsText_singleton {name : String} (hname : name ≠ ownName) (v : Value) :
    detailsText [(name, v)] = ((Json.writeValue Json.spaced (Json.nestingLimit - 1) v).map fun t =>
      "\x7b" ++ (Json.writeText name ++ ": " ++ t) ++ "\x7d").mapError .details := by
  have hown : Table.has [(name, v)] ownName = false := by
    unfold Table.has
    rw [Table.get?_cons, if_neg hname]
    rfl
  have hroom : Json.nestingLimit ≠ 0 := by decide
  unfold detailsText Value.ofTable Json.write
  rw [hown, List.map_singleton, Json.writeValue, if_neg hroom, Json.writeEntries,
    Json.writeEntries, Json.keyText]
  cases Json.writeValue Json.spaced (Json.nestingLimit - 1) v <;> rfl

/-- A report with a single detail is made and shown if the detail has a JSON form. -/
theorem exists_text_of_hasForm {name : String} (hname : name ≠ ownName) {v : Value}
    (h : Json.HasForm (Json.nestingLimit - 1) v) :
    ∃ r text, make kind (.text headline) [(name, v)] = .ok r ∧ r.text = .ok text := by
  obtain ⟨t, ht⟩ := h
  exact exists_text_of_detailsText kind headline Bool.false_ne_true
    (by rw [detailsText_singleton hname, ht]; rfl)

/-- A report whose single detail has no JSON form is not made. -/
theorem make_singleton_error {name : String} (hname : name ≠ ownName) {v : Value}
    {e : Json.WriteFault}
    (h : Json.writeValue Json.spaced (Json.nestingLimit - 1) v = .error e) :
    make kind (.text headline) [(name, v)] = .error (.details e) := by
  rw [make_text kind headline (by exact Bool.false_ne_true), detailsText_singleton hname, h]
  rfl

end Report

namespace Document

variable {files : Files} {source : Source} {f : Failure} {es : Entries}

/-! ### Failures that tell of the document -/

theorem tells_documentNotMap : Failure.documentNotMap.TellsOfDocument := ⟨rfl, _, _, rfl, rfl⟩

/-- Issues that have a JSON form are told. -/
theorem tells_invalid {issues : List Issue}
    (h : Json.HasForm (Json.nestingLimit - 1) (issuesDetail issues)) :
    (invalid issues).TellsOfDocument := by
  obtain ⟨r, text, hr, htext⟩ := Report.exists_text_of_hasForm .documentLoad
    "Invalid OpenAPI document." (by decide : "errors" ≠ Report.ownName) h
  have hreport : (Failure.documentInvalid issues).report? = some (.ok r) := congrArg some hr
  have hinvalid : invalid issues = .documentInvalid issues := by
    unfold invalid
    dsimp only
    rw [hreport]
  rw [hinvalid]
  exact ⟨rfl, r, text, hreport, htext⟩

/-- Issues that have no JSON form fail with what stands against it. -/
theorem invalid_of_write_error {issues : List Issue} {e : Json.WriteFault}
    (h : Json.writeValue Json.spaced (Json.nestingLimit - 1) (issuesDetail issues) = .error e) :
    invalid issues = .report (.details e) := by
  have hreport : (Failure.documentInvalid issues).report? = some (.error (.details e)) :=
    congrArg some (Report.make_singleton_error _ _ (by decide) h)
  unfold invalid
  dsimp only
  rw [hreport]

/-! ### What a source holds -/

/-- The path that a source is. -/
def Source.path? : Source → Option String
  | .path p => some p
  | .value (.text s) => if looksLikePath s then some s else none
  | .value _ => none

/-- The text of a source, if it is to have one: itself, its octets as UTF-8, or the text of its file. -/
def Source.text? (files : Files) : Source → Option (Except Failure String)
  | .path p => some (textAt files p)
  | .value (.text s) => some (if looksLikePath s then textAt files s else .ok s)
  | .value (.bytes b) => some ((Text.decodeUtf8 b).mapError .utf8)
  | .value _ => none

/-- A value of a kind that no document is loaded from. -/
structure Source.IsForeign (v : Value) : Prop where
  map : ∀ es, v ≠ .map es
  text : ∀ s, v ≠ .text s
  bytes : ∀ b, v ≠ .bytes b

/-- How the reading of a file escapes. -/
inductive FileEscape (files : Files) (p : String) : Failure → Prop
  | path {e : FileFault} : files.find p = .error e → FileEscape files p (.file e)
  | directory : files.find p = .ok (some .directory) →
      FileEscape files p (.file (.isDirectory (Files.shortPath p)))
  | refused {number : Nat} {reason : String} : files.find p = .ok (some (.refused number reason)) →
      FileEscape files p (.file (.refused number reason (Files.shortPath p)))
  | octets {b : List UInt8} {e : Text.Utf8Fault} : files.find p = .ok (some (.file b)) →
      Text.decodeUtf8 b = .error e → FileEscape files p (.utf8 e)

/-- How the reading of a text escapes: at a limit of the JSON reading, or, for what is not JSON, with a
YAML scalar of which no value can be formed or with YAML collections that are nested too deeply. -/
inductive TextEscape (s : String) : Failure → Prop
  | limit {e : Json.ReadFault} : Json.read s = .error e → (∀ m left, e ≠ .mistake m left) →
      TextEscape s (.json s e)
  | scalar {m : Json.Mistake} {left : Nat} {e : ScalarFault} : s ≠ "" →
      Json.read s = .error (.mistake m left) → Yaml.read s = .error (.scalar e) →
      TextEscape s (.scalar e)
  | deep {m : Json.Mistake} {left : Nat} : s ≠ "" → Json.read s = .error (.mistake m left) →
      Yaml.read s = .error .tooDeep → TextEscape s .tooDeep

/-- How the entries of a raw document escape: with paths that are no map, or, if they are not plain or
nested too deeply, with an issue that has no JSON form. -/
inductive EntriesEscape (es : Entries) : Failure → Prop
  | paths : (∀ ps, rawPaths es ≠ .map ps) →
      EntriesEscape es (.raw (.noMember (rawPaths es).kindName "items"))
  | form {ps : Entries} {issues : List Issue} {e : Json.WriteFault} :
      ¬(Value.map es).PlainWithin depthLimit → rawPaths es = .map ps →
      shape (checkedPart ps (rawSchemas es)) = .flawed issues →
      Json.writeValue Json.spaced (Json.nestingLimit - 1) (issuesDetail issues) = .error e →
      EntriesEscape es (.report (.details e))

/-- How loading escapes. -/
inductive Escape (files : Files) (source : Source) : Failure → Prop
  | kind {v : Value} : source = .value v → Source.IsForeign v → v.isGiven = true →
      Escape files source (.documentKind v.kindName)
  | file {p : String} {f : Failure} :
      source.path? = some p → FileEscape files p f → Escape files source f
  | octets {b : List UInt8} {e : Text.Utf8Fault} :
      source = .value (.bytes b) → Text.decodeUtf8 b = .error e → Escape files source (.utf8 e)
  | text {s : String} {f : Failure} :
      source.text? files = some (.ok s) → TextEscape s f → Escape files source f
  | entries {es : Entries} {f : Failure} :
      source.raw files = .ok es → EntriesEscape es f → Escape files source f

/-! ### Nothing else escapes -/

theorem FileEscape.textAt {p : String} (h : FileEscape files p f) :
    Source.textAt files p = .error f := by
  unfold Source.textAt Files.read?
  cases h with
  | path hfind =>
    rw [hfind]
    rfl
  | directory hfind =>
    rw [hfind]
    rfl
  | refused hfind =>
    rw [hfind]
    rfl
  | octets hfind hoctets =>
    rw [hfind]
    show (((Files.textOf p (.file _)).map some) >>= _ : Except Failure String) = _
    unfold Files.textOf
    dsimp only
    rw [hoctets]
    rfl

theorem entriesOf_cases {v : Value} (h : Source.entriesOf v = .error f) : f.TellsOfDocument := by
  unfold Source.entriesOf at h
  split at h
  · cases h
  · cases h
    exact tells_documentNotMap

theorem TextEscape.parseEntries {s : String} (h : TextEscape s f) :
    Source.parseEntries s = .error f := by
  unfold Source.parseEntries Source.parseText
  cases h with
  | @limit e hread hlimit =>
    have hs : s ≠ "" := by
      rintro rfl
      exact hlimit .expectingValue 0 (Except.error.inj hread).symm
    rw [if_neg hs, hread]
    cases e with
    | mistake m left => exact absurd rfl (hlimit m left)
    | tooManyDigits n => rfl
    | tooDeep kind => rfl
  | scalar hs hread hyaml =>
    rw [if_neg hs, hread]
    dsimp only
    rw [hyaml]
    rfl
  | deep hs hread hyaml =>
    rw [if_neg hs, hread]
    dsimp only
    rw [hyaml]
    rfl

theorem text?_of_path? {p : String} (hp : source.path? = some p) :
    source.text? files = some (Source.textAt files p) := by
  unfold Source.path? at hp
  split at hp
  · cases hp
    rfl
  · split at hp
    · cases hp
      exact congrArg some (if_pos ‹_›)
    · cases hp
  · cases hp

theorem raw_of_text? {t : Except Failure String} (h : source.text? files = some t) :
    source.raw files = t >>= Source.parseEntries := by
  unfold Source.text? at h
  split at h
  · cases h
    rfl
  · rename_i s
    cases h
    show (if Source.looksLikePath s = true then _ else _) = _
    split
    · rfl
    · rfl
  · rename_i b
    cases h
    unfold Source.raw
    dsimp only
    cases Text.decodeUtf8 b <;> rfl
  · cases h

theorem raw_of_isForeign {v : Value} (h : Source.IsForeign v) :
    Source.raw files (.value v) =
      if v.isGiven then .error (.documentKind v.kindName) else .error .documentEmpty := by
  cases v with
  | map es => exact absurd rfl (h.map es)
  | text s => exact absurd rfl (h.text s)
  | bytes b => exact absurd rfl (h.bytes b)
  | _ => rfl

theorem relevant_of_not_map (hp : ∀ ps, rawPaths es ≠ .map ps) :
    relevant es = .error (.noMember (rawPaths es).kindName "items") := by
  have hentries : (rawPaths es).entries = .error (.noMember (rawPaths es).kindName "items") := by
    unfold Value.entries
    split
    · exact absurd ‹_› (hp _)
    · rfl
  unfold relevant
  show (rawPaths es).entries >>= _ = _
  rw [hentries]
  rfl

theorem EntriesEscape.ofEntries (h : EntriesEscape es f) : ofEntries es = .error f := by
  cases h with
  | paths hmap =>
    unfold Document.ofEntries
    rw [relevant_of_not_map hmap]
    rfl
  | form _ hp hflawed hwrite =>
    rw [ofEntries_eq_check hp, hflawed]
    exact congrArg Except.error (invalid_of_write_error hwrite)

theorem ofEntries_cases (h : ofEntries es = .error f) :
    f.TellsOfDocument ∨ EntriesEscape es f := by
  by_cases hp : ∃ ps, rawPaths es = .map ps
  · obtain ⟨ps, hp⟩ := hp
    cases hshape : shape (checkedPart ps (rawSchemas es)) with
    | fine d =>
      rw [ofEntries_eq_check hp, hshape] at h
      cases h
    | flawed issues =>
      rw [ofEntries_eq_check hp, hshape] at h
      cases h
      cases hwrite : Json.writeValue Json.spaced (Json.nestingLimit - 1) (issuesDetail issues) with
      | ok s => exact Or.inl (tells_invalid ⟨s, hwrite⟩)
      | error e =>
        have hplain : ¬(Value.map es).PlainWithin depthLimit := by
          intro hes
          obtain ⟨s, hs⟩ := hasForm_issuesDetail hes hp hshape
          rw [hwrite] at hs
          cases hs
        rw [invalid_of_write_error hwrite]
        exact Or.inr (.form hplain hp hshape hwrite)
  · have hmap : ∀ ps, rawPaths es ≠ .map ps := fun ps hps => hp ⟨ps, hps⟩
    unfold Document.ofEntries at h
    rw [relevant_of_not_map hmap] at h
    cases h
    exact Or.inr (.paths hmap)

/-- The entries of a plain document with a map of paths do not escape. -/
theorem not_entriesEscape (hes : (Value.map es).PlainWithin depthLimit) {ps : Entries}
    (hp : rawPaths es = .map ps) : ¬EntriesEscape es f := by
  intro h
  cases h with
  | paths hmap => exact hmap ps hp
  | form hplain => exact hplain hes

theorem load_of_raw_error (h : source.raw files = .error f) : load files source = .error f := by
  unfold load
  rw [h]
  rfl

theorem load_of_raw (h : source.raw files = .ok es) : load files source = ofEntries es := by
  unfold load
  rw [h]
  rfl

theorem Escape.load (h : Escape files source f) : load files source = .error f := by
  cases h with
  | kind hv hforeign hgiven =>
    subst hv
    refine load_of_raw_error ?_
    rw [raw_of_isForeign hforeign, if_pos hgiven]
  | file hp hf =>
    refine load_of_raw_error ?_
    rw [raw_of_text? (text?_of_path? hp), hf.textAt]
    rfl
  | octets hv hoctets =>
    subst hv
    refine load_of_raw_error ?_
    unfold Source.raw
    dsimp only
    rw [hoctets]
  | text htext hf =>
    refine load_of_raw_error ?_
    rw [raw_of_text? htext]
    exact hf.parseEntries
  | entries hes hf =>
    rw [load_of_raw hes]
    exact hf.ofEntries

/-- Loading ends in a document or in a failure that tells of the document. -/
def Settles (files : Files) (source : Source) : Prop :=
  (∃ d, load files source = .ok d) ∨ ∃ f, load files source = .error f ∧ f.TellsOfDocument

theorem settles_of_raw (h : source.raw files = .ok es)
    (hes : (Value.map es).PlainWithin depthLimit) {ps : Entries} (hp : rawPaths es = .map ps) :
    Settles files source := by
  unfold Settles
  rw [load_of_raw h]
  cases hload : ofEntries es with
  | ok d => exact Or.inl ⟨d, rfl⟩
  | error f =>
    exact Or.inr ⟨f, rfl, (ofEntries_cases hload).resolve_right (not_entriesEscape hes hp)⟩

/-- **A plain map with a map of paths does not escape**, unless it is nested too deeply. -/
theorem load_of_plain (files : Files) (hes : (Value.map es).PlainWithin depthLimit) {ps : Entries}
    (hp : rawPaths es = .map ps) : Settles files (.value (.map es)) :=
  settles_of_raw rfl hes hp

/-- **A text that is read as JSON does not escape**, unless it holds paths that are no map or is nested
too deeply for its issues to be told. -/
theorem load_of_json {s : String} (hs : source.text? files = some (.ok s))
    (hlength : Step.fitsWord s.length = true) {v : Value} (hread : Json.read s = .ok v)
    (hdepth : v.nesting ≤ depthLimit)
    (hp : ∀ es, v = .map es → ∃ ps, rawPaths es = .map ps) : Settles files source := by
  have hraw : source.raw files = Source.entriesOf v := by
    have hne : s ≠ "" := by
      rintro rfl
      cases hread
    rw [raw_of_text? hs]
    show Source.parseEntries s = _
    unfold Source.parseEntries Source.parseText
    rw [if_neg hne, hread]
    rfl
  cases hentries : Source.entriesOf v with
  | error f =>
    rw [hentries] at hraw
    exact Or.inr ⟨f, load_of_raw_error hraw, entriesOf_cases hentries⟩
  | ok es =>
    rw [hentries] at hraw
    have hv : v = .map es := by
      cases v <;> cases hentries
      rfl
    obtain ⟨ps, hps⟩ := hp es hv
    exact settles_of_raw hraw (hv ▸ ⟨Json.plain_of_read hlength hread, hdepth⟩) hps

example : Settles [] (.value (.text "\x7b\x7d")) :=
  load_of_json rfl (by decide) (rfl : Json.read "\x7b\x7d" = .ok (.map [])) (by decide)
    fun es h => ⟨[], by cases h; rfl⟩

end Document
end ToolGateway
