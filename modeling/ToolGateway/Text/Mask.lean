/-
# Masking secrets

A masked secret shows at most two characters at each end and its length. This is `mask_password` of
`SPEC_FULL.md`, 10.
-/

namespace ToolGateway
namespace Text

/-- Stars in the place of characters. -/
def stars (n : Nat) : List Char := List.replicate n '*'

/-- How many characters are left visible at each end. -/
def visibleEnds (length : Nat) : Nat := if length ≤ 2 then 0 else if length ≤ 4 then 1 else 2

/-- The secret with stars in its middle. -/
def mask (secret : String) : String :=
  let cs := secret.toList
  let n := visibleEnds cs.length
  .ofList (cs.take n ++ stars (cs.length - 2 * n) ++ cs.drop (cs.length - n))

example : mask "supersecret" = "su*******et" := by decide +kernel

end Text
end ToolGateway
