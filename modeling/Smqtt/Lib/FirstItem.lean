import Mathlib

/-!
# The first item with a property

A list in which some item has a property splits at the first one, and in one way only.
-/

namespace FirstItem

variable {α : Type*} {p : α → Prop} {items left right left' right' : List α} {item item' : α}

/-- No item has the property, or there is a first that has it. -/
theorem none_or_split (p : α → Prop) (items : List α) :
    (∀ item ∈ items, ¬ p item) ∨ ∃ left item right,
      items = left ++ item :: right ∧ (∀ other ∈ left, ¬ p other) ∧ p item := by
  induction items with
  | nil => exact .inl (List.forall_mem_nil _)
  | cons first items ih =>
      by_cases hfirst : p first
      · exact .inr ⟨[], first, items, rfl, List.forall_mem_nil _, hfirst⟩
      · obtain hnone | ⟨left, item, right, rfl, hleft, hitem⟩ := ih
        · exact .inl (List.forall_mem_cons.mpr ⟨hfirst, hnone⟩)
        · exact .inr ⟨first :: left, item, right, rfl, List.forall_mem_cons.mpr ⟨hfirst, hleft⟩, hitem⟩

theorem exists_split (hexists : ∃ item ∈ items, p item) : ∃ left item right,
    items = left ++ item :: right ∧ (∀ other ∈ left, ¬ p other) ∧ p item := by
  refine (none_or_split p items).resolve_left fun hnone => ?_
  obtain ⟨item, hmem, hitem⟩ := hexists
  exact hnone item hmem hitem

/-- What stands in front of the first. -/
theorem takeWhile_split [DecidablePred p] (hleft : ∀ other ∈ left, ¬ p other) (hitem : p item) :
    (left ++ item :: right).takeWhile (fun other => ¬ p other) = left := by
  rw [List.takeWhile_append_of_pos (by simpa using hleft),
    List.takeWhile_cons_of_neg (by simpa using hitem), List.append_nil]

theorem split_unique (hsame : left ++ item :: right = left' ++ item' :: right')
    (hleft : ∀ other ∈ left, ¬ p other) (hitem : p item) (hleft' : ∀ other ∈ left', ¬ p other)
    (hitem' : p item') : left = left' ∧ item = item' ∧ right = right' := by
  classical
  have heq : left = left' :=
    calc left = (left ++ item :: right).takeWhile (fun other => ¬ p other) :=
          (takeWhile_split hleft hitem).symm
      _ = (left' ++ item' :: right').takeWhile (fun other => ¬ p other) := by rw [hsame]
      _ = left' := takeWhile_split hleft' hitem'
  subst heq
  obtain ⟨rfl, rfl⟩ := List.cons.inj (List.append_cancel_left hsame)
  exact ⟨rfl, rfl, rfl⟩

end FirstItem
