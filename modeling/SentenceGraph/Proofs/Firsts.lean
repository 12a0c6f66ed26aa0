import Mathlib.Data.List.Induction
import Mathlib.Data.List.Nodup

/-!
# First items of each key

Where several items have one key, the first of them is often meant: the first node of a label, the
first edge between two nodes, the first entry of a table. This file relates the list of these items
to a search from the front, and to the list of the other items, which repeat a key.
-/

namespace SentenceGraph

variable {Item Key : Type} [BEq Key]

/-- The first item of each key, in order. -/
def firstsBy (key : Item → Key) : List Item → List Item
  | [] => []
  | item :: rest => item :: (firstsBy key rest).filter fun later => key later != key item

/-- The items that have the key of an item before them, in order. -/
def repeatsBy (key : Item → Key) (items : List Item) : List Item :=
  (items.zipIdx.filter fun (item, place) =>
    ((items.take place).map key).contains (key item)).map Prod.fst

theorem firstsBy_sublist {key : Item → Key} {items : List Item} :
    (firstsBy key items).Sublist items := by
  induction items with
  | nil => exact List.Sublist.slnil
  | cons first rest inductionHypothesis =>
      rw [firstsBy]
      exact (List.filter_sublist.trans inductionHypothesis).cons_cons first

variable [LawfulBEq Key] {key : Item → Key} {items : List Item} {item : Item}

theorem mem_firstsBy_iff :
    item ∈ firstsBy key items ↔ items.find? (fun other => key other == key item) = some item := by
  induction items with
  | nil => simp [firstsBy]
  | cons first rest inductionHypothesis =>
      rw [firstsBy, List.mem_cons, List.mem_filter, inductionHypothesis, List.find?_cons]
      by_cases same : key first = key item
      · simp [same, eq_comm]
      · have different : (key first == key item) = false := beq_eq_false_iff_ne.mpr same
        have other : item ≠ first := fun equal => same (by rw [equal])
        simp [different, other, Ne.symm same]

theorem mem_of_mem_firstsBy (first : item ∈ firstsBy key items) : item ∈ items :=
  List.mem_of_find?_eq_some (mem_firstsBy_iff.mp first)

theorem find?_mem_firstsBy {wanted : Key}
    (found : items.find? (fun other => key other == wanted) = some item) :
    item ∈ firstsBy key items := by
  have same : key item = wanted := by simpa using List.find?_some found
  rw [mem_firstsBy_iff, same]
  exact found

theorem find?_firstsBy {wanted : Key} :
    (firstsBy key items).find? (fun other => key other == wanted) =
      items.find? (fun other => key other == wanted) := by
  induction items with
  | nil => rfl
  | cons first rest inductionHypothesis =>
      rw [firstsBy, List.find?_cons, List.find?_cons, List.find?_filter]
      by_cases same : key first = wanted
      · simp [same]
      · have different : (key first == wanted) = false := beq_eq_false_iff_ne.mpr same
        have passes : ∀ other, decide ((key other != key first) = true ∧
            (key other == wanted) = true) = (key other == wanted) := by
          intro other
          by_cases here : key other = wanted
          · simp [here, Ne.symm same]
          · simp [here]
        simp only [different, passes, inductionHypothesis]

theorem exists_find?_key (key : Item → Key) (item_mem : item ∈ items) :
    ∃ first, items.find? (fun other => key other == key item) = some first ∧
      key first = key item := by
  have searched : (items.find? fun other => key other == key item).isSome := by
    rw [List.find?_isSome]
    exact ⟨item, item_mem, by simp⟩
  rcases Option.isSome_iff_exists.mp searched with ⟨first, found⟩
  exact ⟨first, found, by simpa using List.find?_some found⟩

theorem nodup_map_firstsBy : ((firstsBy key items).map key).Nodup := by
  induction items with
  | nil => simp [firstsBy]
  | cons first rest inductionHypothesis =>
      rw [firstsBy, List.map_cons, List.nodup_cons]
      constructor
      · simp
      · exact inductionHypothesis.sublist (List.filter_sublist.map key)

theorem firstsBy_append_singleton :
    firstsBy key (items ++ [item]) =
      if key item ∈ items.map key then firstsBy key items else firstsBy key items ++ [item] := by
  induction items with
  | nil => simp [firstsBy]
  | cons first rest inductionHypothesis =>
      rw [List.cons_append, firstsBy, inductionHypothesis, List.map_cons, firstsBy]
      by_cases later : key item ∈ rest.map key
      · rw [if_pos later, if_pos (List.mem_cons_of_mem _ later)]
      · rw [if_neg later, List.filter_append]
        by_cases same : key item = key first
        · simp [same]
        · have fresh : key item ∉ key first :: rest.map key := by simp [same, later]
          rw [if_neg fresh]
          simp [same]

theorem firstsBy_eq_self (distinct : (items.map key).Nodup) : firstsBy key items = items := by
  induction items with
  | nil => rfl
  | cons item rest inductionHypothesis =>
      rw [List.map_cons, List.nodup_cons] at distinct
      have others : ∀ later ∈ rest, (key later != key item) = true := by
        intro later later_mem
        rw [bne_iff_ne]
        intro same
        exact distinct.1 (same ▸ List.mem_map_of_mem later_mem)
      rw [firstsBy, inductionHypothesis distinct.2, List.filter_eq_self.mpr others]

theorem repeatsBy_append_singleton :
    repeatsBy key (items ++ [item]) =
      if key item ∈ items.map key then repeatsBy key items ++ [item] else repeatsBy key items := by
  have before : ∀ pair ∈ items.zipIdx, (items ++ [item]).take pair.2 = items.take pair.2 := by
    intro pair pair_mem
    have inside := List.snd_lt_of_mem_zipIdx pair_mem
    apply List.take_append_of_le_length
    omega
  have earlier : items.zipIdx.filter (fun pair =>
      (((items ++ [item]).take pair.2).map key).contains (key pair.1)) =
        items.zipIdx.filter fun pair => ((items.take pair.2).map key).contains (key pair.1) := by
    apply List.filter_congr
    intro pair pair_mem
    rw [before pair pair_mem]
  unfold repeatsBy
  rw [List.zipIdx_append, List.filter_append, List.map_append, earlier]
  by_cases known : key item ∈ items.map key
  · rw [if_pos known]
    rw [List.mem_map] at known
    simp [known]
  · rw [if_neg known]
    rw [List.mem_map] at known
    simp [known]

/-- Every item is the first of its key or repeats one. -/
theorem length_firstsBy_add_length_repeatsBy :
    (firstsBy key items).length + (repeatsBy key items).length = items.length := by
  induction items using List.reverseRecOn with
  | nil => rfl
  | append_singleton items item inductionHypothesis =>
      rw [firstsBy_append_singleton, repeatsBy_append_singleton, List.length_append]
      by_cases known : key item ∈ items.map key
      · rw [if_pos known, if_pos known, List.length_append]
        omega
      · rw [if_neg known, if_neg known, List.length_append]
        omega

theorem repeatsBy_eq_nil (distinct : (items.map key).Nodup) : repeatsBy key items = [] := by
  have lengths : (firstsBy key items).length + (repeatsBy key items).length = items.length :=
    length_firstsBy_add_length_repeatsBy
  rw [firstsBy_eq_self distinct] at lengths
  apply List.eq_nil_of_length_eq_zero
  omega

section Lookup

variable {Entry : Type} {entries : List (Key × Entry)} {wanted : Key} {entry : Entry}

theorem exists_lookup_of_mem (wanted_mem : wanted ∈ entries.map Prod.fst) :
    ∃ entry, entries.lookup wanted = some entry ∧ (wanted, entry) ∈ entries := by
  rcases List.mem_map.mp wanted_mem with ⟨filed, filed_mem, rfl⟩
  have known : (entries.lookup filed.1).isSome :=
    List.lookup_isSome_iff.mpr ⟨filed, filed_mem, by simp⟩
  rcases Option.isSome_iff_exists.mp known with ⟨entry, found⟩
  rcases List.lookup_eq_some_iff.mp found with ⟨before, after, split, _⟩
  exact ⟨entry, found, by simp [split]⟩

theorem lookup_of_mem (unique : (entries.map Prod.fst).Nodup)
    (entry_mem : (wanted, entry) ∈ entries) : entries.lookup wanted = some entry := by
  rcases List.append_of_mem entry_mem with ⟨before, after, rfl⟩
  rw [List.lookup_eq_some_iff]
  refine ⟨before, after, rfl, ?_⟩
  intro earlier earlier_mem
  rw [List.map_append, List.nodup_append] at unique
  have different := unique.2.2 earlier.1 (List.mem_map_of_mem earlier_mem) wanted (by simp)
  exact bne_iff_ne.mpr different.symm

end Lookup

end SentenceGraph
