import Mathlib.Data.List.Sort

/-!
# Sorting by a key

Where no two elements have the same key, sorting by the key gives a strictly ascending list, and a
strictly ascending list is known by its elements. So what is sorted does not depend on the order in
which the elements were found.
-/

namespace InputDeck

section

variable {α κ : Type} [LinearOrder κ] (key : α → κ)

/-- Strictly ascending lists with the same elements are the same. -/
theorem eq_of_ascending {first second : List α}
    (firstAscends : first.Pairwise fun a b => key a < key b)
    (secondAscends : second.Pairwise fun a b => key a < key b)
    (same : ∀ a, a ∈ first ↔ a ∈ second) : first = second := by
  have asymmetric : Std.Asymm fun a b => key a < key b := ⟨fun _ _ => lt_asymm⟩
  have irreflexive : Std.Irrefl fun a b => key a < key b := ⟨fun _ => lt_irrefl _⟩
  exact firstAscends.eq_of_mem_iff secondAscends same

variable {atMost : α → α → Bool} (compares : ∀ a b, atMost a b = true ↔ key a ≤ key b)
include compares

/-- Sorting by distinct keys gives a strictly ascending list. -/
theorem ascending_mergeSort {items : List α} (distinct : (items.map key).Nodup) :
    (items.mergeSort atMost).Pairwise fun a b => key a < key b := by
  have ordered : (items.mergeSort atMost).Pairwise fun a b => key a ≤ key b := by
    refine (List.pairwise_mergeSort ?_ ?_ items).imp fun {a b} => (compares a b).1
    · intro a b c
      rw [compares, compares, compares]
      exact le_trans
    · intro a b
      rw [Bool.or_eq_true, compares, compares]
      exact le_total (key a) (key b)
  have stillDistinct : ((items.mergeSort atMost).map key).Nodup :=
    ((List.mergeSort_perm items atMost).map key).nodup_iff.2 distinct
  exact ordered.imp₂ (fun _ _ => lt_of_le_of_ne) (List.pairwise_map.1 stillDistinct)

/-- Sorting by a key gives the only strictly ascending list with the same elements. -/
theorem mergeSort_eq_of_perm {items sorted : List α} (perm : items.Perm sorted)
    (ascending : sorted.Pairwise fun a b => key a < key b) : items.mergeSort atMost = sorted := by
  have distinct : (items.map key).Nodup :=
    (perm.map key).nodup_iff.2 (List.pairwise_map.2 (ascending.imp ne_of_lt))
  exact eq_of_ascending key (ascending_mergeSort key compares distinct) ascending fun _ =>
    List.mem_mergeSort.trans perm.mem_iff

end

end InputDeck
