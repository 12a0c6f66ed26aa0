import SentenceGraph.Memory

/-!
# What a bounded memory holds

A memory is the end of a list of entries that only grows: what was dropped once is not missed later,
so remembering one more entry is the same before and after the dropping.
-/

namespace SentenceGraph

section LastItems

variable {Item Image : Type} {count : Nat} {items : List Item}

theorem length_lastItems (count : Nat) (items : List Item) :
    (lastItems count items).length = min count items.length := by
  rw [lastItems, List.length_drop]
  omega

theorem lastItems_eq_self (fits : items.length ≤ count) : lastItems count items = items := by
  rw [lastItems, Nat.sub_eq_zero_of_le fits, List.drop_zero]

theorem map_lastItems (image : Item → Image) (count : Nat) (items : List Item) :
    (lastItems count items).map image = lastItems count (items.map image) := by
  rw [lastItems, lastItems, List.map_drop, List.length_map]

theorem lastItems_min_length (count : Nat) (items : List Item) :
    lastItems (min count items.length) items = lastItems count items := by
  rw [lastItems, lastItems]
  congr 1
  omega

theorem lastItems_lastItems_append (count : Nat) (earlier later : List Item) :
    lastItems count (lastItems count earlier ++ later) = lastItems count (earlier ++ later) := by
  have dropped : earlier.length - count ≤ earlier.length := Nat.sub_le _ _
  rw [lastItems, lastItems, lastItems, ← List.drop_append_of_le_length dropped, List.drop_drop]
  congr 1
  simp only [List.length_drop, List.length_append]
  omega

theorem lastItems_suffix (count : Nat) (items : List Item) : lastItems count items <:+ items :=
  List.drop_suffix _ _

theorem getLast?_lastItems (positive : 1 ≤ count) (items : List Item) :
    (lastItems count items).getLast? = items.getLast? := by
  rw [lastItems, List.getLast?_drop]
  split
  · have none : items = [] := List.length_eq_zero_iff.mp (by omega)
    rw [none]
    rfl
  · rfl

end LastItems

theorem Capacity.ofInt_eq_ok_iff {number : Int} {capacity : Capacity} :
    ofInt number = .ok capacity ↔
      1 ≤ number ∧ number ≤ greatest ∧ capacity = .count number.toNat := by
  rw [ofInt]
  constructor
  · intro made
    split at made
    · contradiction
    · split at made
      · contradiction
      · cases made
        exact ⟨by omega, by omega, rfl⟩
  · rintro ⟨positive, bounded, rfl⟩
    rw [if_neg (by omega), if_neg (by omega)]

namespace ContextMemory

variable {R : Type}

theorem length_ofEntries_le (capacity : Capacity) (entries : List (ContextEntry R)) :
    (ofEntries capacity entries).entries.length ≤ capacity.size := by
  rw [ofEntries, length_lastItems]
  exact Nat.min_le_left _ _

theorem append_ofEntries (capacity : Capacity) (entries : List (ContextEntry R))
    (entry : ContextEntry R) :
    (ofEntries capacity entries).append entry = ofEntries capacity (entries ++ [entry]) := by
  simp only [append, ofEntries, lastItems_lastItems_append]

end ContextMemory

end SentenceGraph
