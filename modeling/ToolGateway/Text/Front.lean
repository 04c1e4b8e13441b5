/-
# Fronts of texts

What stands behind a known front of a text.
-/

namespace ToolGateway
namespace Text

/-- The text behind a front, if the text begins with it. -/
def behind? : List Char → List Char → Option (List Char)
  | [], cs => some cs
  | _ :: _, [] => none
  | f :: front, c :: cs => if f = c then behind? front cs else none

/-- A text begins with a front exactly if it is the front and a rest. -/
theorem behind?_eq_some {front cs rest : List Char} :
    behind? front cs = some rest ↔ cs = front ++ rest := by
  induction front generalizing cs with
  | nil => simp [behind?]
  | cons f front ih =>
    cases cs with
    | nil => simp [behind?]
    | cons c cs =>
      unfold behind?
      by_cases h : f = c
      · simp [h, ih]
      · simp [h, Ne.symm h]

end Text
end ToolGateway
