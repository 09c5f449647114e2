import Mathlib.Data.List.Forall2

/-!
# Lists, item by item

What exists for each item of a list can be listed in the order of the items, and when something does
not hold of all items there is a first one of which it does not hold.
-/

namespace LogLens

variable {α β : Type}

/-- What exists for each item of a list can be listed. -/
theorem exists_forall₂ {R : α → β → Prop} {as : List α} (h : ∀ a ∈ as, ∃ b, R a b) :
    ∃ bs, List.Forall₂ R as bs := by
  induction as with
  | nil => exact ⟨[], .nil⟩
  | cons a rest ih =>
      obtain ⟨⟨b, hb⟩, hrest⟩ := List.forall_mem_cons.1 h
      obtain ⟨bs, hbs⟩ := ih hrest
      exact ⟨b :: bs, .cons hb hbs⟩

/-- Something holds of all items, or there is a first of which it does not. -/
theorem forall_or_first (P : α → Prop) (as : List α) :
    (∀ a ∈ as, P a) ∨
      ∃ before a after, as = before ++ a :: after ∧ (∀ b ∈ before, P b) ∧ ¬P a := by
  induction as with
  | nil => exact .inl (by simp)
  | cons a rest ih =>
      by_cases ha : P a
      · rcases ih with hrest | ⟨before, b, after, rfl, hbefore, hb⟩
        · exact .inl (List.forall_mem_cons.2 ⟨ha, hrest⟩)
        · exact .inr ⟨a :: before, b, after, rfl, List.forall_mem_cons.2 ⟨ha, hbefore⟩, hb⟩
      · exact .inr ⟨[], a, rest, rfl, by simp, ha⟩

end LogLens
