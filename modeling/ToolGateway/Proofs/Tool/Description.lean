/-
# Descriptions of the two surfaces

The templates of both surfaces are the description behind a text without braces, so they can be filled
in with every description (`Surface.describe_store`, `Surface.describe_admin`).
-/

import ToolGateway.Tool.Surface

namespace ToolGateway

namespace Template

/-- What stands in front of a template, without braces, stands in front of what it is filled in to. -/
theorem fill_append (expand : List Char → Except Fault (List Char)) (description : List Char)
    {front : List Char} (h : ∀ c ∈ front, c ≠ '\x7b' ∧ c ≠ '\x7d') (fuel : Nat) (cs : List Char) :
    fill expand description (front.length + fuel) (front ++ cs)
      = (front ++ ·) <$> fill expand description fuel cs := by
  induction front with
  | nil =>
    rw [List.length_nil, Nat.zero_add, List.nil_append]
    cases fill expand description fuel cs <;> rfl
  | cons c rest ih =>
    obtain ⟨hc, hrest⟩ := List.forall_mem_cons.1 h
    rw [List.length_cons, Nat.succ_add, List.cons_append, fill, ih hrest]
    · cases fill expand description fuel cs <;> rfl
    · exact hc.1
    · exact hc.2

end Template

namespace Surface

/-- A template that is the description behind a text without braces. -/
theorem describe_of_front {s : Surface} {front : String} (hs : s.template = front ++ plainTemplate)
    (hfront : ∀ c ∈ front.toList, c ≠ '\x7b' ∧ c ≠ '\x7d') (description : Option String) :
    s.describe description = .ok (front ++ description.getD "") := by
  have hplain : ∀ cs, Template.fill (Template.fillDeep cs 1) cs plainTemplate.toList.length
      plainTemplate.toList = .ok (cs ++ []) := fun _ => rfl
  unfold describe Template.render
  rw [hs, String.toList_append, Template.fillDeep, List.length_append,
    Template.fill_append _ _ hfront, hplain, List.append_nil]
  show Except.ok (String.ofList _) = _
  rw [String.ofList_append, String.ofList_toList, String.ofList_toList]

theorem describe_store (description : Option String) :
    store.describe description = .ok (description.getD "") := by
  rw [describe_of_front (show store.template = "" ++ plainTemplate from rfl) (by simp),
    String.empty_append]

theorem describe_admin (description : Option String) :
    admin.describe description
      = .ok ("This tool helps store administrators. " ++ description.getD "") := by
  have hplain : "This tool helps store administrators. ".toList.all
      (fun c => c != '\x7b' && c != '\x7d') = true := rfl
  refine describe_of_front rfl (fun c hc => ?_) description
  simpa using List.all_eq_true.1 hplain c hc

end Surface
end ToolGateway
