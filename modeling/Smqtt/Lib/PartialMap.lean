import Mathlib

/-!
# Partial maps given by lists

A partial map with finitely many entries, listed as pairs with distinct keys. The order of the list
is free, so that it can be the order in which a queue happens to hold its entries.
-/

namespace PartialMap

variable {κ ν : Type*} [DecidableEq κ] {map : κ → Option ν} {entries left right : List (κ × ν)}
  {key : κ} {value : ν}

/-- The list has exactly the entries of the map, each key once. -/
structure ListedBy (map : κ → Option ν) (entries : List (κ × ν)) : Prop where
  distinct : (entries.map Prod.fst).Nodup
  mem_iff : ∀ key value, (key, value) ∈ entries ↔ map key = some value

omit [DecidableEq κ] in
theorem listedBy_nil : ListedBy (fun _ : κ => (none : Option ν)) [] := ⟨by simp, by simp⟩

omit [DecidableEq κ] in
theorem ListedBy.eq_none (hlisted : ListedBy map entries)
    (habsent : ∀ value, (key, value) ∉ entries) : map key = none := by
  cases hvalue : map key with
  | none => rfl
  | some value => exact absurd ((hlisted.mem_iff key value).mpr hvalue) (habsent value)

theorem ListedBy.insert (hlisted : ListedBy map entries) (hfresh : map key = none) (value : ν) :
    ListedBy (Function.update map key (some value)) (entries ++ [(key, value)]) := by
  have habsent : key ∉ entries.map Prod.fst := by
    intro hkey
    obtain ⟨⟨_, old⟩, hmem, rfl⟩ := List.mem_map.mp hkey
    rw [(hlisted.mem_iff _ old).mp hmem] at hfresh
    simp at hfresh
  refine ⟨?_, ?_⟩
  · rw [List.map_append, List.nodup_append']
    exact ⟨hlisted.distinct, by simp, by simpa using habsent⟩
  · intro other otherValue
    rw [List.mem_append, List.mem_singleton, Prod.mk.injEq, hlisted.mem_iff]
    by_cases heq : other = key
    · subst heq
      simp [hfresh, eq_comm]
    · simp [heq]

theorem ListedBy.erase (hlisted : ListedBy map (left ++ (key, value) :: right)) :
    ListedBy (Function.update map key none) (left ++ right) := by
  have hdistinct : (key :: (left ++ right).map Prod.fst).Nodup := by
    have hperm : ((left ++ (key, value) :: right).map Prod.fst).Perm
        (key :: (left ++ right).map Prod.fst) := by
      simp
    exact hperm.nodup_iff.mp hlisted.distinct
  obtain ⟨habsent, hrest⟩ := List.nodup_cons.mp hdistinct
  refine ⟨hrest, ?_⟩
  intro other otherValue
  by_cases heq : other = key
  · subst heq
    simp only [Function.update_self, reduceCtorEq, iff_false]
    intro hmem
    exact habsent (List.mem_map_of_mem hmem)
  · rw [Function.update_of_ne heq, ← hlisted.mem_iff]
    simp [heq]

omit [DecidableEq κ] in
theorem ListedBy.eq_some (hlisted : ListedBy map (left ++ (key, value) :: right)) :
    map key = some value :=
  (hlisted.mem_iff key value).mp (by simp)

end PartialMap
