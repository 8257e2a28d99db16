import Mathlib

/-!
# Custody

Items arrive one at a time. The one in hand is shown, put into a store or dropped, and an item of the
store can be taken in hand again. Nothing is made up and nothing is shown twice: what has been shown,
what is stored and what is in hand are different items that arrived. Items that no store takes are
shown in the order in which they came.
-/

namespace Custody

variable {ι : Type*}

structure Account (ι : Type*) where
  arrived : List ι
  shown : List ι
  stored : List ι
  inHand : Option ι

/-- What can happen to the items, where only some can be stored. -/
inductive Move (storable : ι → Bool) : Account ι → Account ι → Prop
  | rest (account : Account ι) : Move storable account account
  | arrive {arrived shown stored : List ι} (item : ι) :
      Move storable ⟨arrived, shown, stored, none⟩ ⟨arrived ++ [item], shown, stored, some item⟩
  | drop {arrived shown stored : List ι} (inHand : Option ι) :
      Move storable ⟨arrived, shown, stored, inHand⟩ ⟨arrived, shown, stored, none⟩
  | display {arrived shown stored : List ι} (item : ι) :
      Move storable ⟨arrived, shown, stored, some item⟩ ⟨arrived, shown ++ [item], stored, none⟩
  | store {arrived shown stored : List ι} {item : ι} (hstorable : storable item) :
      Move storable ⟨arrived, shown, stored, some item⟩ ⟨arrived, shown, stored ++ [item], none⟩
  | take {arrived shown left right : List ι} (item : ι) :
      Move storable ⟨arrived, shown, left ++ item :: right, none⟩
        ⟨arrived, shown, left ++ right, some item⟩

/-- Everything there is stands for an item that arrived. -/
structure Honest (storable : ι → Bool) (account : Account ι) : Prop where
  backed : (account.shown ++ (account.stored ++ account.inHand.toList)).Subperm account.arrived
  stored : ∀ item ∈ account.stored, storable item
  ordered : ((account.shown ++ account.inHand.toList).filter (!storable ·)).Sublist
    (account.arrived.filter (!storable ·))

variable {storable : ι → Bool} {account next : Account ι}

theorem honest_empty : Honest storable ⟨[], [], [], none⟩ where
  backed := List.Subperm.refl _
  stored _ hmem := absurd hmem List.not_mem_nil
  ordered := List.Sublist.refl _

theorem backed_move (hhonest : Honest storable account) (hmove : Move storable account next) :
    (next.shown ++ (next.stored ++ next.inHand.toList)).Subperm next.arrived := by
  have hbacked := hhonest.backed
  cases hmove with
  | rest => exact hbacked
  | arrive item =>
      dsimp only [Option.toList_none, Option.toList_some] at hbacked ⊢
      rw [List.append_nil] at hbacked
      rw [← List.append_assoc]
      exact hbacked.append (List.Subperm.refl [item])
  | drop inHand =>
      apply List.Subperm.trans _ hbacked
      apply List.Sublist.subperm
      exact List.Sublist.append_left (List.Sublist.append_left (List.nil_sublist _) _) _
  | display item =>
      apply List.Subperm.trans _ hbacked
      apply List.Perm.subperm
      dsimp only [Option.toList_none, Option.toList_some]
      rw [List.append_nil, List.append_assoc]
      exact List.perm_append_comm.append_left _
  | store hstorable =>
      dsimp only [Option.toList_none, Option.toList_some] at hbacked ⊢
      rwa [List.append_nil]
  | @take arrived shown left right item =>
      apply List.Subperm.trans _ hbacked
      apply List.Perm.subperm
      dsimp only [Option.toList_none, Option.toList_some]
      apply List.Perm.append_left
      calc (left ++ right ++ [item]).Perm (item :: (left ++ right)) :=
            List.perm_append_singleton item _
        List.Perm _ (left ++ item :: right) := List.perm_middle.symm
        _ = left ++ item :: right ++ [] := (List.append_nil _).symm

theorem stored_move (hhonest : Honest storable account) (hmove : Move storable account next) :
    ∀ item ∈ next.stored, storable item := by
  have hstored := hhonest.stored
  cases hmove with
  | store hstorable => exact List.forall_mem_append.mpr ⟨hstored, by simpa using hstorable⟩
  | take item =>
      obtain ⟨hleft, hright⟩ := List.forall_mem_append.mp hstored
      exact List.forall_mem_append.mpr ⟨hleft, (List.forall_mem_cons.mp hright).2⟩
  | _ => exact hstored

theorem ordered_move (hhonest : Honest storable account) (hmove : Move storable account next) :
    ((next.shown ++ next.inHand.toList).filter (!storable ·)).Sublist
      (next.arrived.filter (!storable ·)) := by
  have hordered := hhonest.ordered
  cases hmove with
  | rest => exact hordered
  | arrive item =>
      dsimp only [Option.toList_none, Option.toList_some] at hordered ⊢
      rw [List.append_nil] at hordered
      rw [List.filter_append, List.filter_append]
      exact hordered.append (List.Sublist.refl _)
  | drop inHand =>
      apply List.Sublist.trans _ hordered
      exact (List.Sublist.append_left (List.nil_sublist _) _).filter _
  | display item =>
      dsimp only [Option.toList_none, Option.toList_some] at hordered ⊢
      rwa [List.append_nil]
  | store hstorable =>
      apply List.Sublist.trans _ hordered
      exact (List.Sublist.append_left (List.nil_sublist _) _).filter _
  | take item =>
      -- An item that comes out of the store is none of those that are counted.
      have hitem : storable item :=
        hhonest.stored item (List.mem_append_right _ List.mem_cons_self)
      dsimp only [Option.toList_none, Option.toList_some] at hordered ⊢
      rw [List.filter_append, List.filter_cons_of_neg (by simp [hitem]), List.filter_nil]
      rwa [List.filter_append, List.filter_nil] at hordered

theorem Honest.move (hhonest : Honest storable account) (hmove : Move storable account next) :
    Honest storable next :=
  ⟨backed_move hhonest hmove, stored_move hhonest hmove, ordered_move hhonest hmove⟩

/-- What is shown has arrived, as often at least. -/
theorem Honest.shown_subperm (hhonest : Honest storable account) :
    account.shown.Subperm account.arrived :=
  (List.sublist_append_left _ _).subperm.trans hhonest.backed

theorem Honest.shown_sublist (hhonest : Honest storable account) :
    (account.shown.filter (!storable ·)).Sublist (account.arrived.filter (!storable ·)) :=
  ((List.sublist_append_left _ _).filter _).trans hhonest.ordered

end Custody
