/-
# Checking values against shapes

A check gives a typed value or all issues at once, in the order of the fields, the items and the
entries. Checks combine as an applicative: the issues of both sides are kept.
-/
import ToolGateway.Check.Issue
import ToolGateway.Text.LetterCase
import ToolGateway.Text.Utf8

namespace ToolGateway

/-- The result of a check: a value, or the issues found. -/
inductive Checked (α : Type) where
  | fine (a : α)
  | flawed (issues : List Issue)

namespace Checked

variable {α β : Type}

/-- A single issue at this place. -/
def issue (kind : IssueKind) (found : Value) : Checked α := flawed [⟨kind, [], found⟩]

/-- The issues of a check. -/
def issues : Checked α → List Issue
  | fine _ => []
  | flawed is => is

/-- Applies a function to a fine value. -/
def map (f : α → β) : Checked α → Checked β
  | fine a => fine (f a)
  | flawed is => flawed is

/-- Both checks, with the issues of both. -/
def ap (f : Checked (α → β)) (x : Checked α) : Checked β :=
  match f, x with
  | fine f, fine a => fine (f a)
  | fine _, flawed js => flawed js
  | flawed is, fine _ => flawed is
  | flawed is, flawed js => flawed (is ++ js)

instance : Applicative Checked where
  pure := fine
  map f x := Checked.map f x
  seq f x := ap f (x ())

/-- The check seen from one level further out. -/
def under (s : Step) : Checked α → Checked α
  | fine a => fine a
  | flawed is => flawed (is.map (Issue.under s))

/-- No issue of either side is lost. -/
theorem issues_ap (f : Checked (α → β)) (x : Checked α) :
    (ap f x).issues = f.issues ++ x.issues := by
  cases f <;> cases x <;> simp [ap, issues]

end Checked

/-- A shape asked for: a check of a value. -/
abbrev Shape (α : Type) := Value → Checked α

namespace Shape

variable {α : Type}

/-- Any value at all. -/
def any : Shape Value := .fine

/-- A text; octets that are UTF-8 count as one. -/
def text : Shape String
  | .text s => .fine s
  | .bytes b =>
    match Text.decodeUtf8 b with
    | .ok s => .fine s
    | .error _ => .issue .notUnicode (.bytes b)
  | v => .issue .notText v

/-- The words for truth values, in lower case. -/
def truthWord? : String → Option Bool
  | "1" | "t" | "true" | "y" | "yes" | "on" => some true
  | "0" | "f" | "false" | "n" | "no" | "off" => some false
  | _ => none

/-- A truth value, one of the two numbers, or a word for one. -/
def truth : Shape Bool
  | .bool b => .fine b
  | .text s =>
    match truthWord? (Text.asciiLower s) with
    | some b => .fine b
    | none => .issue .unreadableTruth (.text s)
  | .bytes b =>
    match Text.decodeUtf8 b with
    | .ok s =>
      match truthWord? (Text.asciiLower s) with
      | some t => .fine t
      | none => .issue .unreadableTruth (.bytes b)
    | .error _ => .issue .notTruth (.bytes b)
  | .int 0 => .fine false
  | .int 1 => .fine true
  | .int i =>
    .issue (if Step.fitsWord i then .unreadableTruth else .notTruth) (.int i)
  | .float x =>
    match x.integer? with
    | some 0 => .fine false
    | some 1 => .fine true
    | some i =>
      .issue (if Step.fitsWord i then .unreadableTruth else .notTruth) (.float x)
    | none => .issue .notTruth (.float x)
  | v => .issue .notTruth v

/-- Nothing, or what the shape asks for. -/
def orNull (shape : Shape α) : Shape (Option α)
  | .null => .fine none
  | v => (shape v).map some

/-- The items of a list, each of one shape, from an index on. -/
def itemsFrom (shape : Shape α) (i : Nat) : List Value → Checked (List α)
  | [] => .fine []
  | x :: xs => (List.cons <$> (shape x).under (.index i)) <*> itemsFrom shape (i + 1) xs

/-- A list with items of one shape; a set counts as one. -/
def list (shape : Shape α) : Shape (List α)
  | .list xs | .set xs => itemsFrom shape 0 xs
  | v => .issue .notList v

/-- The key of an entry; it must be a text. -/
def key (k : Value) : Checked String := ((text k).under (.name "[key]")).under (Step.ofKey k)

/-- The entries of a map with text keys, each with a value of one shape. -/
def entries (shape : Shape α) : List (Value × Value) → Checked (List (String × α))
  | [] => .fine []
  | (k, v) :: rest =>
    (List.cons <$> (Prod.mk <$> key k <*> (shape v).under (Step.ofKey k))) <*> entries shape rest

/-- A map with text keys and values of one shape. -/
def table (shape : Shape α) : Shape (Table α)
  | .map es => (entries shape es).map Table.ofList
  | v => .issue .notMap v

/-- A map with text keys, kept as it is. -/
def object : Shape (Table Value) := table any

/-- A field with two names: the outer one is preferred and stands in the place of an issue about a
missing field. -/
structure Naming where
  outer : String
  inner : String

/-- The field's value and the name under which it was found. -/
def Naming.find (n : Naming) (es : Entries) : Option (String × Value) :=
  match Entries.get? es n.outer with
  | some v => some (n.outer, v)
  | none => (Entries.get? es n.inner).map (n.inner, ·)

/-- A field that must be there. -/
def required (es : Entries) (n : Naming) (shape : Shape α) : Checked α :=
  match n.find es with
  | some (name, v) => (shape v).under (.name name)
  | none => (Checked.issue .missing (.map es)).under (.name n.outer)

/-- A field that has a value of its own when it is left out. -/
def withDefault (es : Entries) (n : Naming) (shape : Shape α) (default : α) : Checked α :=
  match n.find es with
  | some (name, v) => (shape v).under (.name name)
  | none => .fine default

/-- A record read from a map. -/
def record (model : String) (fields : Entries → Checked α) : Shape α
  | .map es => fields es
  | v => .issue (.notModel model) v

end Shape
end ToolGateway
