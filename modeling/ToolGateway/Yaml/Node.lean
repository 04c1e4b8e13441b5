/-
# Nodes of a YAML text

The tree of scalars, sequences and mappings that the tokens of a document form, each with its tag.
An alias stands for the node of its anchor; inside that node itself it closes a circle. Collections
nested more deeply than the limit are refused.
-/
import ToolGateway.Yaml.Tag
import ToolGateway.Yaml.Token

namespace ToolGateway
namespace Yaml

/-- A node. The nodes of a document are numbered in the order in which they begin; the number of a
collection tells it from others like it, wherever an alias puts it. A circle has the number of the
collection that it leads to. -/
inductive Node where
  | scalar (tag value : String)
  | seq (tag : String) (number : Nat) (items : List Node)
  | map (tag : String) (number : Nat) (entries : List (Node × Node))
  | circle (number : Nat)
deriving Inhabited

/-- The tag of a node. -/
def Node.tag : Node → String
  | scalar t _ => t
  | seq t _ _ => t
  | map t _ _ => t
  | circle _ => Tag.seq

/-- How deep collections may be nested. -/
def nestingLimit : Nat := 480

/-- Where the forming of nodes stands: the tokens left, how many nodes have begun, the anchors seen
with the numbers of their nodes, those of these nodes that are formed, and the handles of tags. -/
structure Former where
  tokens : List Token
  begun : Nat
  anchors : List (String × Nat)
  formed : List (Nat × Node)
  handles : List (String × String)

/-- Forming a part of the tree. -/
abbrev Form := StateT Former (Except Fault)

namespace Form

/-- The next token; behind the last one stands the end of the text. A fault among the tokens ends
the forming as soon as it is looked at. -/
def peek : Form Token := do
  match (← get).tokens with
  | .fault f :: _ => throw f
  | t :: _ => return t
  | [] => return .streamEnd

/-- Moves over a token. -/
def skip : Form Unit := modify fun s => { s with tokens := s.tokens.drop 1 }

/-- Refuses what stands here. -/
def refuse {α : Type} : Form α := do
  let _ ← peek
  throw .malformed

/-- Moves over a token that must stand here. -/
def expect (t : Token) : Form Unit := do
  if (← peek) = t then skip else refuse

/-- Moves over a token if it stands here. -/
def accept (t : Token) : Form Bool := do
  if (← peek) = t then
    skip
    return true
  else return false

/-- One of the tokens stands here. -/
def among (ts : List Token) : Form Bool := do
  return ts.contains (← peek)

/-- Begins a node, and notes its anchor; a second one of the same name is refused. -/
def begin (anchor : Option String) : Form Nat := do
  let s ← get
  match anchor with
  | none => set { s with begun := s.begun + 1 }
  | some name =>
    if (s.anchors.lookup name).isSome then throw .malformed
    set { s with begun := s.begun + 1, anchors := (name, s.begun) :: s.anchors }
  return s.begun

/-- Begins a collection: its number, and the room that is left within it. -/
def beginCollection (anchor : Option String) : Nat → Form (Nat × Nat)
  | 0 => throw .tooDeep
  | room + 1 => return (← begin anchor, room)

/-- Notes the node of an anchor. -/
def finish (anchor : Option String) (number : Nat) (n : Node) : Form Node := do
  if anchor.isSome then modify fun s => { s with formed := (number, n) :: s.formed }
  return n

/-- The node of an alias. -/
def aliased (name : String) : Form Node := do
  let s ← get
  match s.anchors.lookup name with
  | none => throw .malformed
  | some number => return (s.formed.lookup number).getD (.circle number)

/-- An anchor that stands here. -/
def anchor? : Form (Option String) := do
  match ← peek with
  | .anchor name => do
    skip
    return some name
  | _ => return none

/-- A tag that stands here. -/
def tag? : Form (Option (Option String × String)) := do
  match ← peek with
  | .tag handle suffix => do
    skip
    return some (handle, suffix)
  | _ => return none

/-- Anchor and tag in either order. -/
def marks : Form (Option String × Option (Option String × String)) := do
  match ← anchor? with
  | some a => return (some a, ← tag?)
  | none =>
    match ← tag? with
    | some t => return (← anchor?, some t)
    | none => return (none, none)

/-- The full text of a tag. -/
def fullTag : Option (Option String × String) → Form (Option String)
  | none => return none
  | some (none, suffix) => return some suffix
  | some (some handle, suffix) => do
    match (← get).handles.find? fun h => h.1 = handle with
    | some (_, front) => return some (front ++ suffix)
    | none => throw .malformed

/-- An empty node without marks. -/
def empty : Node := .scalar (Tag.ofPlain "") ""

mutual

/-- A node with room for so many levels. In a block it may be a block; behind a key it may be a
sequence without indentation of its own. -/
def node (block indentless : Bool) (room : Nat) : Nat → Form Node
  | 0 => refuse
  | fuel + 1 => do
    match ← peek with
    | .alias_ name =>
      skip
      aliased name
    | _ =>
      let (anchor, mark) ← marks
      let tag ← fullTag mark
      let given := tag.filter (· ≠ "!")
      let t ← peek
      if indentless && t = .blockEntry then
        let (number, room) ← beginCollection anchor room
        let items ← plainItems room fuel
        finish anchor number (.seq (given.getD Tag.seq) number items)
      else
        match t with
        | .scalar plain text =>
          skip
          let number ← begin anchor
          let implicit := (plain && tag.isNone) || tag = some "!"
          finish anchor number
            (.scalar (given.getD (if implicit then Tag.ofPlain text else Tag.text)) text)
        | .flowSequenceStart =>
          skip
          let (number, room) ← beginCollection anchor room
          let items ← flowItems true room fuel
          finish anchor number (.seq (given.getD Tag.seq) number items)
        | .flowMappingStart =>
          skip
          let (number, room) ← beginCollection anchor room
          let entries ← flowEntries true room fuel
          finish anchor number (.map (given.getD Tag.map) number entries)
        | .blockSequenceStart =>
          if !block then refuse
          skip
          let (number, room) ← beginCollection anchor room
          let items ← blockItems room fuel
          finish anchor number (.seq (given.getD Tag.seq) number items)
        | .blockMappingStart =>
          if !block then refuse
          skip
          let (number, room) ← beginCollection anchor room
          let entries ← blockEntries room fuel
          finish anchor number (.map (given.getD Tag.map) number entries)
        | _ =>
          if anchor.isNone && tag.isNone then refuse
          let number ← begin anchor
          finish anchor number (.scalar (given.getD (Tag.ofPlain "")) "")
termination_by structural fuel => fuel

/-- A node, or an empty one if one of the tokens stands here. -/
def nodeUnless (ts : List Token) (block indentless : Bool) (room : Nat) : Nat → Form Node
  | 0 => refuse
  | fuel + 1 => do
    if ← among ts then return empty else node block indentless room fuel
termination_by structural fuel => fuel

/-- The items of a sequence without indentation of its own. -/
def plainItems (room : Nat) : Nat → Form (List Node)
  | 0 => refuse
  | fuel + 1 => do
    if ← accept .blockEntry then
      let x ← nodeUnless [.blockEntry, .key, .value, .blockEnd] true false room fuel
      let xs ← plainItems room fuel
      return x :: xs
    else return []
termination_by structural fuel => fuel

/-- The items of a block sequence up to its end. -/
def blockItems (room : Nat) : Nat → Form (List Node)
  | 0 => refuse
  | fuel + 1 => do
    if ← accept .blockEntry then
      let x ← nodeUnless [.blockEntry, .blockEnd] true false room fuel
      let xs ← blockItems room fuel
      return x :: xs
    else
      expect .blockEnd
      return []
termination_by structural fuel => fuel

/-- The entries of a block mapping up to its end. -/
def blockEntries (room : Nat) : Nat → Form (List (Node × Node))
  | 0 => refuse
  | fuel + 1 => do
    if ← accept .key then
      let k ← nodeUnless [.key, .value, .blockEnd] true true room fuel
      let v ← if ← accept .value then nodeUnless [.key, .value, .blockEnd] true true room fuel
        else pure empty
      let es ← blockEntries room fuel
      return (k, v) :: es
    else
      expect .blockEnd
      return []
termination_by structural fuel => fuel

/-- The items of a sequence in brackets up to its end; a pair among them is a mapping. -/
def flowItems (first : Bool) (room : Nat) : Nat → Form (List Node)
  | 0 => refuse
  | fuel + 1 => do
    if ← accept .flowSequenceEnd then return []
    if !first then expect .flowEntry
    if ← accept .key then
      let (number, within) ← beginCollection none room
      let k ← nodeUnless [.value, .flowEntry, .flowSequenceEnd] false false within fuel
      let v ← if ← accept .value then
          nodeUnless [.flowEntry, .flowSequenceEnd] false false within fuel
        else pure empty
      let xs ← flowItems false room fuel
      return .map Tag.map number [(k, v)] :: xs
    else if ← accept .flowSequenceEnd then return []
    else
      let x ← node false false room fuel
      let xs ← flowItems false room fuel
      return x :: xs
termination_by structural fuel => fuel

/-- The entries of a mapping in braces up to its end. -/
def flowEntries (first : Bool) (room : Nat) : Nat → Form (List (Node × Node))
  | 0 => refuse
  | fuel + 1 => do
    if ← accept .flowMappingEnd then return []
    if !first then expect .flowEntry
    if ← accept .key then
      let k ← nodeUnless [.value, .flowEntry, .flowMappingEnd] false false room fuel
      let v ← if ← accept .value then
          nodeUnless [.flowEntry, .flowMappingEnd] false false room fuel
        else pure empty
      let es ← flowEntries false room fuel
      return (k, v) :: es
    else if ← accept .flowMappingEnd then return []
    else
      let k ← node false false room fuel
      let es ← flowEntries false room fuel
      return (k, empty) :: es
termination_by structural fuel => fuel

end

/-- The handles that every document has. -/
def commonHandles : List (String × String) := [("!", "!"), ("!!", Tag.common)]

/-- The directives in front of a document: one version at most, and one front for each handle. -/
def directives (seen : Bool) (handles : List (String × String)) :
    Nat → Form (List (String × String))
  | 0 => refuse
  | fuel + 1 => do
    match ← peek with
    | .directive (.version major) =>
      if seen || major ≠ 1 then throw .malformed
      skip
      directives true handles fuel
    | .directive (.tag handle front) =>
      if handles.any fun h => h.1 = handle then throw .malformed
      skip
      directives seen ((handle, front) :: handles) fuel
    | .directive .other =>
      skip
      directives seen handles fuel
    | _ => return handles ++ commonHandles

/-- Moves over marks of document ends. -/
def skipEnds : Nat → Form Unit
  | 0 => pure ()
  | fuel + 1 => do if ← accept .documentEnd then skipEnds fuel

/-- The document behind its directives and its mark. -/
def explicitDocument (fuel : Nat) : Form (Option Node) := do
  skipEnds fuel
  if (← peek) = .streamEnd then return none
  let handles ← directives false [] fuel
  expect .documentStart
  modify fun s => { s with handles }
  match ← peek with
  | .directive _ | .documentStart | .documentEnd | .streamEnd => return some empty
  | _ => some <$> node true false nestingLimit fuel

/-- The only document of a text, if there is one. -/
def document (fuel : Nat) : Form (Option Node) := do
  let n ← match ← peek with
    | .directive _ | .documentStart | .streamEnd => explicitDocument fuel
    | _ => some <$> node true false nestingLimit fuel
  if n.isSome then
    let _ ← accept .documentEnd
    skipEnds fuel
  if (← peek) = .streamEnd then return n else refuse

end Form

/-- The only document of a text, if there is one, with the nodes that have anchors. -/
def Node.ofTokens? (ts : List Token) : Except Fault (Option Node × List (Nat × Node)) :=
  ((Form.document (3 * ts.length + 5)).run ⟨ts, 0, [], [], Form.commonHandles⟩).map fun r =>
    (r.1, r.2.formed)

end Yaml
end ToolGateway
