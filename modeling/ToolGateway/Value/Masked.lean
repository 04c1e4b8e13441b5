/-
# Masking secrets of any kind

A secret should be a text, but a setting may hold any value. A list or a map of at most two items
is masked as if it were a text of that length. What stands at the ends of a longer one is put before
and behind the stars, which only texts allow.
-/
import ToolGateway.Text.Mask
import ToolGateway.Value.Membership

namespace ToolGateway
namespace Value

/-- Two values around stars. -/
def aroundStars (first last : Value) (count : Nat) : Except RawFault String :=
  match first, last with
  | text a, text b => .ok (a ++ .ofList (Text.stars count) ++ b)
  | text _, last => .error (.joinsOnly "str" last.kindName)
  | list _, _ => .error (.joinsOnly "list" "str")
  | first, _ => .error (.notAdded first.kindName "str")

/-- The items of a secret that is a list, with stars in the middle. -/
def maskedItems (xs : List Value) : Except RawFault String :=
  match Text.visibleEnds xs.length, xs.head?, xs.getLast? with
  | 0, _, _ => .ok (.ofList (Text.stars xs.length))
  | 1, some first, some last => aroundStars first last (xs.length - 2)
  | _, _, _ => .error (.joinsOnly "list" "str")

/-- The secret with stars in it. A map has no first item. -/
def masked (v : Value) : Except RawFault String :=
  match v with
  | text s => .ok (Text.mask s)
  | list xs => maskedItems xs
  | map es =>
    match Text.visibleEnds es.length with
    | 0 => .ok (.ofList (Text.stars es.length))
    | 1 => .error (.noPlace 0)
    | _ => .error (.noKeyKind "slice")
  | v => if v.isGiven then .error (.noLength v.kindName) else .ok ""

/-- Nothing is masked as nothing. -/
theorem masked_null : masked null = .ok "" := rfl

end Value
end ToolGateway
