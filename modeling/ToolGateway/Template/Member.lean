/-
# What a field can reach

Besides the description itself a field of a template reaches what a text has: its kind, what can be
done with it, and what these have in turn. Most of it has a name and a description of its own.
-/
import ToolGateway.Template.MemberTable
import ToolGateway.Value.Text

namespace ToolGateway
namespace Template

/-- How something belongs to a kind. -/
inductive Belonging where
  /-- It can be done with a value of the kind. -/
  | method
  /-- It can be done with a value of the kind by a sign or a form of its own. -/
  | slot
  /-- It can be done with each kind that goes back to the kind. -/
  | shared
  /-- It can be done with the kind itself. -/
  | fixed
  /-- It is a value that is worked out for each value of the kind. -/
  | field
  /-- It is a value that each value of the kind keeps. -/
  | part
deriving DecidableEq, Repr

/-- Something that a kind has. -/
structure Member where
  owner : String
  name : String
  belonging : Belonging
  signature : Option String
  about : Option String
deriving DecidableEq, Repr

/-- A kind of values. -/
structure Kind where
  name : String
  sizes : List Nat
  signature : Option String
  about : Option String
  members : List Member
deriving DecidableEq, Repr

namespace Kind

/-! ## The table -/

/-- The lines that tell about something, and the lines behind them. -/
def readAbout (lines : List (List Char)) : Option String × List (List Char) :=
  let told := lines.takeWhile fun l => l.head? = some '|'
  (if told.isEmpty then none else some ("\n".intercalate (told.map fun l => .ofList l.tail)),
    lines.drop told.length)

/-- The words of a line up to a number of them, and the rest of the line. -/
def cutWords : Nat → List Char → List String × String
  | 0, cs => ([], .ofList cs)
  | n + 1, cs =>
    let word := cs.takeWhile (· != ' ')
    let (words, rest) := cutWords n (cs.drop (word.length + 1))
    (.ofList word :: words, rest)

/-- A signature as the table writes it. -/
def signatureOf (s : String) : Option String := if s = "-" then none else some s

/-- How something belongs to a kind, by the word of the table. -/
def belongingOf : String → Belonging
  | "slot" => .slot
  | "shared" => .shared
  | "fixed" => .fixed
  | "field" => .field
  | "part" => .part
  | _ => .method

/-- The kinds that lines describe, the members being those behind the last kind. The first argument
bounds the number of lines. -/
def ofLines : Nat → List (List Char) → List Member × List Kind
  | 0, _ => ([], [])
  | _ + 1, [] => ([], [])
  | fuel + 1, line :: rest =>
    let (about, rest) := readAbout rest
    let (members, kinds) := ofLines fuel rest
    match line with
    | '@' :: line =>
      match cutWords 6 line with
      | (name :: sizes, signature) =>
        let own := members.map fun m => { m with owner := name }
        ([], ⟨name, sizes.map (·.toNat?.getD 0), signatureOf signature, about, own⟩ :: kinds)
      | _ => (members, kinds)
    | '.' :: line =>
      match cutWords 2 line with
      | ([name, word], signature) =>
        (⟨"", name, belongingOf word, signatureOf signature, about⟩ :: members, kinds)
      | _ => (members, kinds)
    | _ => (members, kinds)

/-- All kinds. -/
def all : List Kind :=
  let lines := memberText.toList.splitOn '\n'
  (ofLines lines.length lines).2

/-- A kind without members. -/
def bare (name : String) : Kind := ⟨name, [], none, none, []⟩

/-- The kind with a name. -/
def named (name : String) : Kind := (all.find? fun k => k.name = name).getD (bare name)

/-- The name of the kind of texts. -/
def textName : String := "str"

/-- The name of the kind that all kinds go back to. -/
def rootName : String := "object"

/-- The name of the kind of kinds. -/
def kindName : String := "type"

/-- The kinds that a kind goes back to, itself first. -/
def line (k : Kind) : List Kind := if k.name = rootName then [k] else [k, named rootName]

/-- Something that a kind or one that it goes back to has. -/
def find? (k : Kind) (name : String) : Option Member :=
  k.line.findSome? fun k => k.members.find? fun m => m.name = name

/-- The kind has a member of its own with a name. -/
def has (k : Kind) (name : String) : Bool := k.members.any fun m => m.name = name

end Kind

/-- What a field can reach. -/
inductive Thing where
  | text (cs : List Char)
  | kind (name : String)
  | several (items : List Thing)
  | number (n : Nat)
  | nothing
  /-- Something that can be done with a thing. -/
  | bound (m : Member) (self : Thing)
  /-- Something that a kind has, apart from its values. -/
  | entry (m : Member)
  /-- All that a kind has of its own. -/
  | entries (name : String)
  /-- A kind with an item that its values are said to be of. -/
  | special (name : String) (item : Thing)
deriving Inhabited

namespace Thing

/-- A text. -/
def ofString (s : String) : Thing := text s.toList

/-- A text or nothing. -/
def ofText? (s : Option String) : Thing := (s.map ofString).getD nothing

/-- The name of a thing's kind. -/
def kindName : Thing → String
  | text _ => Kind.textName
  | kind _ => Kind.kindName
  | several _ => "tuple"
  | number _ => "int"
  | nothing => "NoneType"
  | bound m _ => if m.belonging = .slot then "method-wrapper" else "builtin_function_or_method"
  | entry m =>
    match m.belonging with
    | .slot => "wrapper_descriptor"
    | .field => "getset_descriptor"
    | .part => "member_descriptor"
    | .shared => "classmethod_descriptor"
    | .method | .fixed => "method_descriptor"
  | entries _ => "mappingproxy"
  | special _ _ => "types.GenericAlias"

/-- The thing in words about what it lacks. -/
def owner : Thing → String
  | kind name => "type object '" ++ name ++ "'"
  | t => "'" ++ t.kindName ++ "' object"

/-- A place that no text shows in the same way twice. -/
def somewhere : String := "0x7f0000000000"

mutual

/-- The thing as it is quoted. -/
def quoted : Thing → String
  | text cs => Text.quoted (.ofList cs)
  | kind name => "<class '" ++ name ++ "'>"
  | several [x] => "(" ++ x.quoted ++ ",)"
  | several items => "(" ++ ", ".intercalate (quotedItems items) ++ ")"
  | number n => toString n
  | nothing => "None"
  | bound m self =>
    (if m.belonging = .slot then "<method-wrapper '" ++ m.name ++ "'"
      else "<built-in method " ++ m.name)
      ++ " of " ++ self.kindName ++ " object at " ++ somewhere ++ ">"
  | entry m =>
    (match m.belonging with
      | .slot => "<slot wrapper '"
      | .field => "<attribute '"
      | .part => "<member '"
      | _ => "<method '")
      ++ m.name ++ "' of '" ++ m.owner ++ "' objects>"
  | entries _ => "mappingproxy(\x7b...\x7d)"
  | special name item => name ++ "[" ++ item.quoted ++ "]"

/-- The items as they are quoted. -/
def quotedItems : List Thing → List String
  | [] => []
  | x :: xs => quoted x :: quotedItems xs

end

/-- The thing shown alone. -/
def shown : Thing → List Char
  | text cs => cs
  | t => t.quoted.toList

/-! ## What a thing has -/

/-- One of the sizes of a kind. -/
def sizeAt (k : Kind) (place : Nat) : Thing := number (k.sizes.getD place 0)

/-- What a kind has as a kind. -/
def kindField? (k : Kind) : String → Option Thing
  | "__name__" | "__qualname__" => some (ofString k.name)
  | "__module__" => some (ofString "builtins")
  | "__mro__" => some (several (k.line.map fun l => kind l.name))
  | "__bases__" => some (several (k.line.tail.map fun l => kind l.name))
  | "__base__" => some ((k.line.tail.head?.map fun l => kind l.name).getD nothing)
  | "__doc__" =>
    some (match k.members.find? fun m => m.name = "__doc__" with
      | some m => entry m
      | none => ofText? k.about)
  | "__dict__" => some (entries k.name)
  | "__text_signature__" => some (ofText? k.signature)
  | "__basicsize__" => some (sizeAt k 0)
  | "__itemsize__" => some (sizeAt k 1)
  | "__flags__" => some (sizeAt k 2)
  | "__dictoffset__" => some (sizeAt k 3)
  | "__weakrefoffset__" => some (sizeAt k 4)
  | _ => none

/-- What a member has that belongs to a thing or to a kind; `full` is its full name. -/
def memberField? (m : Member) (full : String) : String → Option Thing
  | "__name__" => some (ofString m.name)
  | "__qualname__" => some (ofString (full ++ "." ++ m.name))
  | "__doc__" => some (ofText? m.about)
  | "__text_signature__" => some (ofText? m.signature)
  | _ => none

/-- What can be done with a thing has the name of the thing's kind in front, or that of the thing if
it is a kind. -/
def frontName : Thing → String
  | kind name => name
  | t => t.kindName

/-- What a number has. -/
def numberField? (n : Nat) : String → Option Thing
  | "real" | "numerator" => some (number n)
  | "imag" => some (number 0)
  | "denominator" => some (number 1)
  | _ => none

/-- What belongs to a kind without belonging to any value of it, although it is found at both. -/
def isDetached (m : Member) : Bool := m.belonging = .fixed && m.name ≠ "__new__"

/-- What a thing has apart from what its kind has. -/
def field? (t : Thing) (name : String) : Option Thing :=
  if name = "__class__" then some (kind t.kindName)
  else
    match t with
    | kind k => kindField? (Kind.named k) name
    | bound m self =>
      let isSlot := m.belonging = .slot
      match memberField? m (if isSlot then m.owner else self.frontName) name, name with
      | some x, _ => some x
      | none, "__self__" => some (if isDetached m then nothing else self)
      | none, "__module__" => if isSlot then none else some nothing
      | none, "__objclass__" => if isSlot then some (kind m.owner) else none
      | none, _ => none
    | entry m =>
      let isValue := m.belonging = .field || m.belonging = .part
      match memberField? m m.owner name, name with
      | some x, "__text_signature__" => if isValue then none else some x
      | some x, _ => some x
      | none, "__objclass__" => some (kind m.owner)
      | none, _ => none
    | special origin item =>
      match name with
      | "__origin__" => some (kind origin)
      | "__args__" => some (several [item])
      | "__parameters__" => some (several [])
      | _ => kindField? (Kind.named origin) name
    | number n =>
      if name = "__doc__" then some (ofText? (Kind.named t.kindName).about)
      else numberField? n name
    | t => if name = "__doc__" then some (ofText? (Kind.named t.kindName).about) else none

/-- A member as a value of the kind has it. -/
def ofMember (m : Member) (self : Thing) : Thing :=
  match m.belonging with
  | .method | .slot => bound m self
  | .field | .part => entry m
  | .shared => bound m (kind self.kindName)
  | .fixed => bound m (kind m.owner)

/-- A member as a kind has it. -/
def ofKindMember (m : Member) (k : String) : Thing :=
  match m.belonging with
  | .method | .slot | .field | .part => entry m
  | .shared => bound m (kind k)
  | .fixed => bound m (kind m.owner)

/-- What kinds have in common that can be named only where it was given. It is given nowhere. -/
def isUngiven (t : Thing) (name : String) : Bool :=
  match t with
  | kind _ | special _ _ => name = "__abstractmethods__" || name = "__annotations__"
  | _ => false

/-- What a thing has under a name. -/
def member? (t : Thing) (name : String) : Option Thing :=
  let byKind : Option Thing := ((Kind.named t.kindName).find? name).map fun m => ofMember m t
  let byItself : Option Thing :=
    match t with
    | kind k | special k _ => ((Kind.named k).find? name).map fun m => ofKindMember m k
    | _ => none
  if t.isUngiven name then none else t.field? name <|> byItself <|> byKind

end Thing
end Template
end ToolGateway
