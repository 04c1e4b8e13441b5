/-
# Texts that must be ASCII

Some texts can be sent only in ASCII. A fault names the first run of characters outside it: where
the run starts, how long it is, and its first character.
-/
import ToolGateway.Text.Hexadecimal

namespace ToolGateway
namespace Text

/-- A run of characters outside ASCII. -/
structure AsciiFault where
  start : Nat
  length : Nat
  first : Char
deriving DecidableEq, Repr

namespace AsciiFault

/-- The fault in words. -/
def message (f : AsciiFault) : String :=
  "'ascii' codec can't encode "
    ++ (if f.length = 1 then
          "character '" ++ String.ofList (numberEscape f.first) ++ "' in position "
            ++ toString f.start
        else
          "characters in position " ++ toString f.start ++ "-"
            ++ toString (f.start + f.length - 1))
    ++ ": ordinal not in range(128)"

end AsciiFault

/-- The first run of characters outside ASCII. -/
def asciiFault? (s : String) : Option AsciiFault :=
  let cs := s.toList
  let front := cs.takeWhile fun c => c.toNat < 128
  match cs.drop front.length with
  | [] => none
  | c :: rest =>
    let run := (c :: rest).takeWhile fun c => 128 ≤ c.toNat
    some ⟨front.length, run.length, c⟩

/-- A text of ASCII characters has no fault. -/
theorem asciiFault?_eq_none {s : String} (h : ∀ c ∈ s.toList, c.toNat < 128) :
    asciiFault? s = none := by
  have front : ∀ cs : List Char, (∀ c ∈ cs, c.toNat < 128) →
      cs.takeWhile (fun c => decide (c.toNat < 128)) = cs := by
    intro cs
    induction cs with
    | nil => simp
    | cons c rest ih =>
      intro hc
      have hr := ih fun d hd => hc d (List.mem_cons_of_mem c hd)
      simp [hc c List.mem_cons_self, hr]
  simp [asciiFault?, front s.toList h]

end Text
end ToolGateway
