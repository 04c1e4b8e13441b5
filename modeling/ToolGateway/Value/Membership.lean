/-
# Asking a raw value

Parts of a document that no check has looked at may be of any kind. Asking one of them for what its
kind does not have is a fault that names the kind.
-/
import ToolGateway.Value.Text

namespace ToolGateway

/-- A raw value does not have what it was asked for. -/
inductive RawFault where
  /-- The kind has no such member. -/
  | noMember (kind member : String)
  /-- The kind holds nothing that could be searched. -/
  | notSearchable (kind : String)
  /-- Only a text can be searched for in a text. -/
  | textWanted (kind : String)
  /-- Only octets and small numbers can be searched for in octets. -/
  | octetsWanted (kind : String)
  /-- The number is none of an octet. -/
  | octetRange
  /-- The kind has no items. -/
  | notIterable (kind : String)
  /-- The kind has no length. -/
  | noLength (kind : String)
  /-- The kind is joined to its own kind only. -/
  | joinsOnly (kind other : String)
  /-- The kinds are not added. -/
  | notAdded (kind other : String)
  /-- A map has no such place. -/
  | noPlace (place : Nat)
  /-- The kind is none of keys. -/
  | noKeyKind (kind : String)
deriving DecidableEq, Repr

/-- The fault in words. -/
def RawFault.message : RawFault → String
  | noMember kind member => "'" ++ kind ++ "' object has no attribute '" ++ member ++ "'"
  | notSearchable kind => "argument of type '" ++ kind ++ "' is not iterable"
  | textWanted kind => "'in <string>' requires string as left operand, not " ++ kind
  | octetsWanted kind => "a bytes-like object is required, not '" ++ kind ++ "'"
  | octetRange => "byte must be in range(0, 256)"
  | notIterable kind => "'" ++ kind ++ "' object is not iterable"
  | noLength kind => "object of type '" ++ kind ++ "' has no len()"
  | joinsOnly kind other =>
    "can only concatenate " ++ kind ++ " (not \"" ++ other ++ "\") to " ++ kind
  | notAdded kind other =>
    "unsupported operand type(s) for +: '" ++ kind ++ "' and '" ++ other ++ "'"
  | noPlace place => toString place
  | noKeyKind kind => "unhashable type: '" ++ kind ++ "'"

namespace Value

/-- One list occurs in another as a run. -/
def isRunOf {α : Type} [BEq α] (part : List α) : List α → Bool
  | [] => part.isEmpty
  | c :: rest => part.isPrefixOf (c :: rest) || isRunOf part rest

/-- The key is among what the value holds: an item of a list or a set, a key of a map, a part of a
text or of octets. What is not written out any further is not searched. -/
def holds (v key : Value) : Except RawFault Bool :=
  match v with
  | list xs | set xs => .ok (xs.any fun x => x.sameKey key)
  | map es => .ok (es.any fun e => e.1.sameKey key)
  | again _ => .ok false
  | text s =>
    match key with
    | text k => .ok (isRunOf k.toList s.toList)
    | k => .error (.textWanted k.kindName)
  | bytes b =>
    match key with
    | bytes k => .ok (isRunOf k b)
    | bool k => .ok (b.contains (if k then 1 else 0))
    | int i =>
      if 0 ≤ i ∧ i < 256 then .ok (b.contains (UInt8.ofNat i.toNat)) else .error .octetRange
    | k => .error (.octetsWanted k.kindName)
  | v => .error (.notSearchable v.kindName)

/-- The entries of a map. -/
def entries : Value → Except RawFault Entries
  | map es => .ok es
  | v => .error (.noMember v.kindName "items")

/-- A list holds a text if the text is one of its items. -/
theorem holds_list_text (xs : List Value) (s : String) :
    (list xs).holds (text s) = .ok (xs.any fun x => x.sameKey (text s)) := rfl

/-- What is the same key as a text is that text. -/
theorem sameKey_text {v : Value} {s : String} (h : v.sameKey (text s) = true) : v = text s := by
  cases v <;> simp_all [sameKey, integer?]

end Value
end ToolGateway
