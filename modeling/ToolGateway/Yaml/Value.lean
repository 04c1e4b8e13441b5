/-
# Values of YAML texts

A node stands for a value. Merge marks put the entries of other mappings in front of a mapping's
own entries. Collections are filled level by level from the outermost one inwards, and the first
fault met in that order is the fault of the text.

A collection that holds itself, by an alias or by a merge mark, has no finite value. Its circles are
followed through the levels of a document that are read one by one, and behind them until a
collection comes up for the third time on its path; there stands the mark of a value that goes on
without end.
-/
import ToolGateway.Yaml.Node
import ToolGateway.Yaml.Tokenize
import ToolGateway.Yaml.Typed

namespace ToolGateway
namespace Yaml

/-- How a collection is read, by its tag. -/
inductive Collection where
  | seq
  | map
  | set
  | pairs
deriving DecidableEq, Repr

/-- The collection of a tag. -/
def Collection.ofTag? (tag : String) : Option Collection :=
  match (Text.behind? Tag.common.toList tag.toList).map String.ofList with
  | some "seq" => some seq
  | some "map" => some map
  | some "set" => some set
  | some "omap" => some pairs
  | some "pairs" => some pairs
  | _ => none

namespace Node

/-- The mark of a default value is a text where it is a key. -/
def asKey : Node → Node
  | scalar tag text => if tag = Tag.value then scalar Tag.text text else scalar tag text
  | n => n

/-- Nodes by their numbers. -/
abbrev Numbered := List (Nat × Node)

/-! ## Merge marks -/

/-- The entries that merge marks bring to the front, and the own entries of a mapping. What a mark
brings may depend on the other entries, since it may lead back to the mapping. -/
def gather (bring : List (Node × Node) → Node → Except Fault (List (Node × Node)))
    (before : List (Node × Node)) :
    List (Node × Node) → Except Fault (List (Node × Node) × List (Node × Node))
  | [] => .ok ([], before)
  | (k, v) :: rest =>
    if k.tag = Tag.merge then do
      let more ← bring (before ++ rest) v
      let (front, own) ← gather bring before rest
      return (more ++ front, own)
    else gather bring (before ++ [(k.asKey, v)]) rest

/-- A mapping that has a merge mark. -/
def hasMark (es : List (Node × Node)) : Bool := es.any fun e => e.1.tag = Tag.merge

/-- The entries that a node brings to a merge mark: those of a mapping, or of a sequence of mappings
of which the last one goes first. A mapping whose own marks are being gone through counts with the
entries it has left, as `nodes` has it. The first argument bounds the steps: each goes into the node
or passes a mark. -/
def merged : Nat → Numbered → Node → Except Fault (List (Node × Node))
  | 0, _, _ => .error .malformed
  | fuel + 1, nodes, n =>
    let mapping (item : Node) : Except Fault (List (Node × Node)) :=
      match item with
      | map _ _ _ => merged fuel nodes item
      | circle number =>
        match nodes.lookup number with
        | some (map tag number es) => merged fuel nodes (map tag number es)
        | _ => .error .malformed
      | _ => .error .malformed
    match n with
    | map tag number es => do
      if !hasMark es then return es.map fun e => (e.1.asKey, e.2)
      let bring (others : List (Node × Node)) (v : Node) : Except Fault (List (Node × Node)) :=
        merged fuel ((number, map tag number others) :: nodes) v
      let (front, own) ← gather bring [] es
      return front ++ own
    | seq _ _ items => do
      let parts ← items.mapM mapping
      return parts.reverse.flatten
    | circle number =>
      match nodes.lookup number with
      | some n => merged fuel nodes n
      | none => .error .malformed
    | scalar _ _ => .error .malformed

/-! ## Scalars -/

/-- The text that a node stands for as a scalar: its own, or that of the entry under the mark of a
default value. -/
def scalarText? : Node → Option String
  | scalar _ text => some text
  | map _ _ es => go es
  | _ => none
where
  /-- The text under the first mark of a default value. -/
  go : List (Node × Node) → Option String
    | [] => none
    | (k, v) :: rest => if k.tag = Tag.value then v.scalarText? else go rest

/-- The value of a node that is read as a scalar. A date is read from a scalar alone. -/
def scalarValue (n : Node) : Except Fault Value :=
  match n, n.scalarText? with
  | scalar tag _, some text => Typed.value tag text
  | n, some text =>
    if n.tag = Tag.moment then .error (.scalar .momentOfMapping) else Typed.value n.tag text
  | _, none => .error .malformed

/-- A node may be a key if it is no collection. -/
def mayBeKey (n : Node) : Bool :=
  match n with
  | circle _ => false
  | n => (Collection.ofTag? n.tag).isNone

/-! ## Values, level by level -/

/-- The first faults of two parts at each level, the first part going first. -/
def firstFaults : List (Option Fault) → List (Option Fault) → List (Option Fault)
  | [], fs => fs
  | fs, [] => fs
  | f :: fs, g :: gs => f.orElse (fun _ => g) :: firstFaults fs gs

/-- A value with the first fault met at each level while it was formed, its own level first. The
value counts only if there is none. -/
structure Formed where
  value : Value
  faults : List (Option Fault)

namespace Formed

/-- A value without faults. -/
def fine (v : Value) : Formed := ⟨v, []⟩

/-- A fault at the level of the value itself. -/
def flawed (f : Fault) : Formed := ⟨.null, [some f]⟩

/-- A collection whose parts are filled in one level further in. -/
def filled (v : Value) (parts : List (List (Option Fault))) : Formed :=
  ⟨v, none :: parts.foldr firstFaults []⟩

/-- The value, or the first fault of the outermost level that has one. -/
def result (x : Formed) : Except Fault Value :=
  match x.faults.findSome? id with
  | some f => .error f
  | none => .ok x.value

end Formed

/-- The entry that an item of a sequence of pairs consists of. -/
def onlyEntry : Node → Option (Node × Node)
  | map _ _ [e] => some e
  | _ => none

/-- The levels of a document that are read one by one, down to the properties of a body. -/
def readLevels : Nat := 8

/-- Where the forming of a value stands: the bound of merging, what the circles lead to, the levels
left that are read one by one, and the numbers of the collections passed behind these. -/
structure Place where
  mergeFuel : Nat
  nodes : Numbered
  levels : Nat
  passed : List Nat

/-- The place within a collection. -/
def Place.within (p : Place) (number : Nat) : Place :=
  match p.levels with
  | 0 => { p with passed := number :: p.passed }
  | levels + 1 => { p with levels }

/-- A collection comes up for the third time. It stands there as a schema or as properties, so it
has come up before as what it is now. -/
def Place.comesAgain (p : Place) (number : Nat) : Bool := 2 ≤ p.passed.count number

/-- The value of a node. The first argument bounds the depth. -/
def form : Nat → Place → Node → Formed
  | 0, _, map _ _ _ => .fine (.again true)
  | 0, _, _ => .fine (.again false)
  | fuel + 1, p, circle number =>
    match p.nodes.lookup number with
    | some n => .fine (form fuel p n).value
    | none => .flawed .malformed
  | fuel + 1, p, n =>
    let mapping (finish : Entries → Value) (tag : String) (number : Nat)
        (es : List (Node × Node)) : Formed :=
      if p.comesAgain number then .fine (.again true)
      else
        match merged p.mergeFuel p.nodes (map tag number es) with
        | .error f => .filled .null [[some f]]
        | .ok es =>
          let p := p.within number
          let parts := es.map fun e => (form fuel p e.1, form fuel p e.2)
          .filled (finish (Entries.ofList (parts.map fun p => (p.1.value, p.2.value))))
            ((es.zip parts).flatMap fun (e, p) =>
              [p.1.faults, if e.1.mayBeKey then [] else [some .malformed], p.2.faults])
    match Collection.ofTag? n.tag, n with
    | none, n => match n.scalarValue with
      | .ok v => .fine v
      | .error f => .flawed f
    | some .seq, seq _ number items =>
      if p.comesAgain number then .fine (.again false)
      else
        let parts := items.map (form fuel (p.within number))
        .filled (.list (parts.map Formed.value)) (parts.map Formed.faults)
    | some .map, map tag number es => mapping .map tag number es
    | some .set, map tag number es =>
      mapping (fun es => .set (es.map Prod.fst)) tag number es
    | some .pairs, seq _ number items =>
      if p.comesAgain number then .fine (.again false)
      else
        let p := p.within number
        let parts := items.map fun item => (onlyEntry item).map fun e =>
          (form fuel p e.1, form fuel p e.2)
        .filled (.list (parts.map fun p => match p with
            | some (k, v) => .list [k.value, v.value]
            | none => .null))
          (parts.flatMap fun p => match p with
            | some (k, v) => [k.faults, v.faults]
            | none => [[some .malformed]])
    | some _, _ => .filled .null [[some .malformed]]

/-- The number of nodes within a node. -/
def size : Node → Nat
  | seq _ _ items => sizeItems items + 1
  | map _ _ es => sizeEntries es + 1
  | _ => 1
where
  /-- The number of nodes within items. -/
  sizeItems : List Node → Nat
    | [] => 0
    | n :: rest => n.size + sizeItems rest
  /-- The number of nodes within keys and values. -/
  sizeEntries : List (Node × Node) → Nat
    | [] => 0
    | (k, v) :: rest => k.size + v.size + sizeEntries rest

/-- The value of a node, or the first fault. On a path through it each collection stands at most
twice behind the levels read one by one, and in front of each a circle may lead to it. -/
def toValue (nodes : Numbered) (n : Node) : Except Fault Value :=
  let bound := 2 * (readLevels + 2 * n.size) + 2
  (form bound ⟨Nat.pow (n.size + 1) 2, nodes, readLevels, []⟩ n).result

end Node

/-- The value of a YAML text with one document; a text without a document is null. -/
def read (s : String) : Except Fault Value := do
  match ← Node.ofTokens? (tokenize s.toList) with
  | (none, _) => return .null
  | (some n, nodes) => n.toValue nodes

end Yaml
end ToolGateway
