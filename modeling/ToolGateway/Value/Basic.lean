/-
# Values of documents, arguments and answers

What a JSON or YAML text holds: nothing, a truth value, a number, a text, octets, a date, a list,
or a map whose keys are values too. Integers are unbounded and differ from floats as written.
-/
import ToolGateway.Calendar
import ToolGateway.Decimal.Binary64
import ToolGateway.Table

namespace ToolGateway

/-- A value of a document, an argument or an answer. -/
inductive Value where
  | null
  | bool (b : Bool)
  | int (i : Int)
  | float (x : Binary64)
  | text (s : String)
  | bytes (b : List UInt8)
  | date (m : Moment)
  | list (items : List Value)
  | set (items : List Value)
  | map (entries : List (Value × Value))
  /-- A list or a map around this place, which holds itself and is not written out any further. It
  stands behind the levels of a document that are read one by one. -/
  | again (isMap : Bool)
deriving Inhabited

/-- The keys of a map with their values, in order. -/
abbrev Entries := List (Value × Value)

namespace Value

/-- The name of the kind of a value, as messages give it. -/
def kindName : Value → String
  | null => "NoneType"
  | bool _ => "bool"
  | int _ => "int"
  | float _ => "float"
  | text _ => "str"
  | bytes _ => "bytes"
  | date m => if m.time.isSome then "datetime.datetime" else "datetime.date"
  | list _ => "list"
  | set _ => "set"
  | map _ => "dict"
  | again isMap => if isMap then "dict" else "list"

/-- The value is a map. -/
def isMap : Value → Bool
  | map _ => true
  | again isMap => isMap
  | _ => false

/-- Nothing, false, zero and everything empty count as not given. -/
def isGiven : Value → Bool
  | null => false
  | bool b => b
  | int i => i != 0
  | float x => !x.isZero
  | text s => s != ""
  | bytes b => !b.isEmpty
  | date _ => true
  | list xs => !xs.isEmpty
  | set xs => !xs.isEmpty
  | map es => !es.isEmpty
  | again _ => true

/-- The integer that a value equals as a number: truth values count as one and zero. -/
def integer? : Value → Option Int
  | bool b => some (if b then 1 else 0)
  | int i => some i
  | float x => x.integer?
  | _ => none

/-- Two keys are the same key. Numbers are compared by value, whatever their kind; a list, a set or
a map is no key. -/
def sameKey : Value → Value → Bool
  | null, null => true
  | text s, text t => s == t
  | bytes b, bytes c => b == c
  | date m, date n => m.sameMoment n
  | float x, float y => x.sameKey y
  | a, b => match a.integer?, b.integer? with
    | some i, some j => i == j
    | _, _ => false

/-- A map from texts. -/
def ofTable (t : Table Value) : Value := .map (t.map fun e => (.text e.1, e.2))

end Value

namespace Entries

/-- The value of a text key. -/
def get? : Entries → String → Option Value
  | [], _ => none
  | (.text k, v) :: rest, name => if k = name then some v else get? rest name
  | _ :: rest, name => get? rest name

/-- Replaces the value of a key in place, or adds the key at the end. -/
def put : Entries → Value → Value → Entries
  | [], key, v => [(key, v)]
  | (k, w) :: rest, key, v =>
    if k.sameKey key then (k, v) :: rest else (k, w) :: put rest key v

/-- The entries of a list of pairs: a repeated key keeps its first place and its last value. -/
def ofList (pairs : List (Value × Value)) : Entries :=
  pairs.foldl (fun acc e => put acc e.1 e.2) []

/-- A value found under a key is a part of the entries. -/
theorem mem_of_get? {es : Entries} {name : String} {v : Value} (h : get? es name = some v) :
    (Value.text name, v) ∈ es := by
  induction es with
  | nil => cases h
  | cons e rest ih =>
    obtain ⟨k, w⟩ := e
    unfold get? at h
    split at h
    · rename_i heq
      cases heq
    · rename_i heq
      cases heq
      split at h
      · rename_i hk
        cases h
        subst hk
        exact List.mem_cons_self
      · exact List.mem_cons_of_mem _ (ih h)
    · rename_i heq
      cases heq
      exact List.mem_cons_of_mem _ (ih h)

/-- In entries one behind the other those in front are found first. -/
theorem get?_append (es fs : Entries) (name : String) :
    get? (es ++ fs) name = (get? es name).or (get? fs name) := by
  induction es with
  | nil => simp [get?]
  | cons e rest ih =>
    obtain ⟨k, v⟩ := e
    cases k with
    | text k =>
      by_cases hk : k = name
      · simp [get?, hk]
      · simpa [get?, hk] using ih
    | _ => simpa [get?] using ih

/-- In the entries of a table the keys are found as in the table. -/
theorem get?_ofTable (t : Table Value) (name : String) :
    get? (t.map fun e => (Value.text e.1, e.2)) name = t.get? name := by
  induction t with
  | nil => rfl
  | cons e rest ih =>
    obtain ⟨k, v⟩ := e
    simp [get?, Table.get?_cons, ih]

end Entries

namespace Value

/-- The value under a text key, if the value is a map that has it. -/
def get? : Value → String → Option Value
  | map es, name => Entries.get? es name
  | _, _ => none

/-- The value under a chain of text keys. -/
def at? (v : Value) : List String → Option Value
  | [] => some v
  | k :: rest => (v.get? k).bind (at? · rest)

/-- The value, or nothing where it does not count as given. -/
def given? (v : Value) : Option Value := if v.isGiven then some v else none

/-- What is found below a key of a map is smaller than the map. -/
theorem sizeOf_get?_lt {v w : Value} {name : String} (h : v.get? name = some w) :
    sizeOf w < sizeOf v := by
  cases v with
  | map es =>
    have hm := Entries.mem_of_get? h
    have := List.sizeOf_lt_of_mem hm
    simp only [Prod.mk.sizeOf_spec] at this
    simp only [map.sizeOf_spec]
    omega
  | _ => cases h

end Value
end ToolGateway
