/-
# Brackets that are nested too deeply

A text of more opening brackets than may be nested is no mistake in JSON but a fault of its own
(`read_brackets`), and so a response with such a body has no value, not even none
(`json?_brackets`).
-/

import ToolGateway.Http.Client

namespace ToolGateway

namespace Json

/-- Opening brackets. -/
def brackets (n : Nat) : List Char := List.replicate n '['

theorem skipSpace_brackets (n : Nat) : skipSpace (brackets n) = brackets n := by
  cases n <;> rfl

/-- Where fewer brackets may be opened than there are, the reading fails at the one that is too
many.  The fuel counts two for a bracket, one for the list and one for its first item. -/
theorem readValue_brackets {room n fuel : Nat} (hn : room < n) (hf : 2 * n ≤ fuel) :
    readValue room fuel (brackets n) = .error (.tooDeep .array) := by
  induction room generalizing n fuel with
  | zero =>
    obtain ⟨n, rfl⟩ : ∃ m, n = m + 1 := ⟨n - 1, by omega⟩
    obtain ⟨fuel, rfl⟩ : ∃ m, fuel = m + 1 := ⟨fuel - 1, by omega⟩
    unfold brackets
    rw [List.replicate_succ, readValue, if_pos rfl]
  | succ room ih =>
    obtain ⟨n, rfl⟩ : ∃ m, n = m + 2 := ⟨n - 2, by omega⟩
    obtain ⟨fuel, rfl⟩ : ∃ m, fuel = m + 2 := ⟨fuel - 2, by omega⟩
    have hitems : readItems room (fuel + 1) (brackets (n + 1)) = .error (.tooDeep .array) := by
      rw [readItems, ih (by omega) (by omega)]
      rfl
    have hopen : readValue (room + 1) (fuel + 2) (brackets (n + 2)) = (do
        let p ← readItems room (fuel + 1) (brackets (n + 1))
        return (.list p.1, p.2)) := by
      unfold brackets
      rw [List.replicate_succ, readValue, if_neg (Nat.succ_ne_zero room)]
      rfl
    rw [hopen, hitems]
    rfl

/-- **Brackets that are nested too deeply are refused.** -/
theorem read_brackets {n : Nat} (hn : nestingLimit < n) :
    read (.ofList (brackets n)) = .error (.tooDeep .array) := by
  obtain ⟨m, rfl⟩ : ∃ m, n = m + 1 := ⟨n - 1, by omega⟩
  have hvalue : readValue nestingLimit (2 * (brackets (m + 1)).length + 2)
      (skipSpace (brackets (m + 1))) = .error (.tooDeep .array) := by
    rw [skipSpace_brackets]
    exact readValue_brackets hn (by simp [brackets])
  unfold read
  rw [String.toList_ofList]
  show readValue _ _ (skipSpace (brackets (m + 1))) >>= _ = _
  rw [hvalue]
  rfl

end Json

namespace Text

theorem decodeUtf8_brackets (n : Nat) :
    decodeUtf8 (List.replicate n 0x5B) = .ok (.ofList (Json.brackets n)) := by
  have hfrom : ∀ place,
      decodeUtf8From .error place 0 (List.replicate n 0x5B) = .ok (Json.brackets n) := by
    induction n with
    | zero => exact fun _ => rfl
    | succ n ih =>
      intro place
      rw [List.replicate_succ, decodeUtf8From]
      show (do
        let cs ← decodeUtf8From .error (place + 1) 0 (List.replicate n 0x5B)
        return '[' :: cs) = _
      rw [ih]
      rfl
  unfold decodeUtf8
  rw [hfrom]
  rfl

theorem decode?_brackets (n : Nat) :
    Encoding.utf8.decode? (List.replicate n 0x5B) = some (.ofList (Json.brackets n)) := by
  have hmap : ∀ cs : List Char, (cs.map some).mapM id = some cs := by
    intro cs
    induction cs with
    | nil => rfl
    | cons c rest ih =>
      rw [List.map_cons, List.mapM_cons, ih]
      rfl
  show (((Encoding.ofUtf8 (List.replicate n 0x5B)).mapM id).map String.ofList) = _
  unfold Encoding.ofUtf8
  rw [decodeUtf8_brackets]
  dsimp only
  rw [String.toList_ofList, hmap]
  rfl

end Text

namespace Http

/-- **A body of brackets that are nested too deeply has no value**, not even none. -/
theorem json?_brackets (status : Int) {n : Nat} (hn : Json.nestingLimit < n) :
    (⟨status, [], List.replicate n 0x5B⟩ : Response).json?
      = .error (.json (.ofList (Json.brackets n)) (.tooDeep .array)) := by
  have hdetect : Text.Encoding.detect (List.replicate n 0x5B) = (.utf8, List.replicate n 0x5B) := by
    obtain ⟨m, rfl⟩ : ∃ m, n = m + 4 := by
      have : 975 < n := hn
      exact ⟨n - 4, by omega⟩
    rfl
  unfold Response.json?
  dsimp only
  rw [hdetect]
  dsimp only
  rw [Text.decode?_brackets]
  dsimp only
  rw [Json.read_brackets hn]

end Http
end ToolGateway
