import Mathlib.Data.Nat.Cast.Field
import Mathlib.Tactic.FieldSimp
import Mathlib.Tactic.Linarith
import Mathlib.Tactic.Positivity
import Mathlib.Tactic.Ring
import SentenceGraph.Proofs.Exact
import SentenceGraph.Proofs.Merging

/-!
# What the log of a reduction accounts for

A reduction logs every node and every edge that goes away, once and in order: the nodes that repeat a
label and a kind, the edges that repeat an earlier one between the merged nodes, and the weak ones
among the other edges. The log is therefore as long as the graph got smaller.

The percentage saved is rounded to two places. On rational numbers nothing else is rounded, so that
it is the decimal number nearest to the share of nodes that went away.
-/

namespace SentenceGraph

open Fallible

/-- A whole number nearest to a given number, and even if another one is equally near. -/
structure IsNearestEven (exact : ℚ) (nearest : ℤ) : Prop where
  near : |exact - nearest| ≤ 1 / 2
  even : |exact - nearest| = 1 / 2 → Even nearest

/-- A number with at most so many decimal places that is nearest to a given one. -/
def IsRounded (places : Nat) (exact rounded : ℚ) : Prop :=
  ∃ units : ℤ, rounded = units / 10 ^ places ∧ IsNearestEven (exact * 10 ^ places) units

section Rounding

variable {places : Nat} {exact rounded : ℚ} {nearest : ℤ}

theorem IsNearestEven.neg (holds : IsNearestEven exact nearest) :
    IsNearestEven (-exact) (-nearest) := by
  have mirrored : |-exact - (-nearest : ℤ)| = |exact - nearest| := by
    rw [← abs_neg]
    push_cast
    congr 1
    ring
  constructor
  · rw [mirrored]
    exact holds.near
  · rw [mirrored]
    intro tie
    exact (holds.even tie).neg

theorem IsNearestEven.between {low high : ℤ} (holds : IsNearestEven exact nearest)
    (above : low ≤ exact) (below : exact ≤ high) : low ≤ nearest ∧ nearest ≤ high := by
  have near := abs_le.mp holds.near
  constructor
  · have : (low : ℚ) < nearest + 1 := by linarith
    exact_mod_cast Int.lt_add_one_iff.mp (by exact_mod_cast this)
  · have : (nearest : ℚ) < high + 1 := by linarith
    exact_mod_cast Int.lt_add_one_iff.mp (by exact_mod_cast this)

theorem isNearestEven_of_lt (near : |exact - nearest| < 1 / 2) : IsNearestEven exact nearest where
  near := near.le
  even := by
    intro tie
    exact absurd tie near.ne

theorem isNearestEven_roundHalfEven (numerator : Nat) {denominator : Nat}
    (positive : 0 < denominator) :
    IsNearestEven (numerator / denominator) (Decimal.roundHalfEven numerator denominator) := by
  let quotient := numerator / denominator
  let remainder := numerator % denominator
  have divisor : (0 : ℚ) < denominator := by exact_mod_cast positive
  have split : (numerator : ℚ) / denominator = quotient + remainder / denominator := by
    have parts : (numerator : ℚ) = denominator * quotient + remainder := by
      exact_mod_cast (Nat.div_add_mod numerator denominator).symm
    rw [parts]
    field_simp
  have small : (remainder : ℚ) / denominator < 1 := by
    rw [div_lt_one divisor]
    exact_mod_cast Nat.mod_lt numerator positive
  have notNegative : 0 ≤ (remainder : ℚ) / denominator := by positivity
  rw [split]
  unfold Decimal.roundHalfEven
  change IsNearestEven _ ((if 2 * remainder < denominator then quotient
    else if denominator < 2 * remainder then quotient + 1 else quotient + quotient % 2 : Nat) : ℤ)
  split
  case isTrue less =>
    have below : (remainder : ℚ) / denominator < 1 / 2 := by
      rw [div_lt_div_iff₀ divisor two_pos]
      exact_mod_cast (by omega : remainder * 2 < 1 * denominator)
    apply isNearestEven_of_lt
    push_cast
    rw [add_sub_cancel_left, abs_of_nonneg notNegative]
    exact below
  case isFalse notLess =>
    split
    case isTrue more =>
      have above : 1 / 2 < (remainder : ℚ) / denominator := by
        rw [div_lt_div_iff₀ two_pos divisor]
        exact_mod_cast (by omega : 1 * denominator < remainder * 2)
      apply isNearestEven_of_lt
      push_cast
      rw [abs_of_neg (by linarith)]
      linarith
    case isFalse notMore =>
      -- A half goes to the even neighbour.
      have half : (remainder : ℚ) / denominator = 1 / 2 := by
        rw [div_eq_div_iff divisor.ne' two_ne_zero]
        exact_mod_cast (by omega : remainder * 2 = 1 * denominator)
      rw [half]
      rcases Nat.mod_two_eq_zero_or_one quotient with even | odd
      · rw [even]
        refine ⟨by norm_num, fun _ => ?_⟩
        exact_mod_cast Nat.even_iff.mpr even
      · rw [odd]
        refine ⟨by norm_num, fun _ => ?_⟩
        exact_mod_cast (Nat.odd_iff.mpr odd).add_one

theorem isRounded_roundTo (places : Nat) (number : ℚ) :
    IsRounded places number (Quantity.roundTo places number) := by
  let magnitude := Decimal.roundHalfEven (number.num.natAbs * Decimal.tenTo places) number.den
  have power : ((Decimal.tenTo places : Nat) : ℚ) = 10 ^ places := by
    simp [Decimal.tenTo]
  have nearest := isNearestEven_roundHalfEven (number.num.natAbs * Decimal.tenTo places)
    number.den_pos
  have scaled : ((number.num.natAbs * Decimal.tenTo places : Nat) : ℚ) / number.den =
      |number| * 10 ^ places := by
    rw [Nat.cast_mul, power, Nat.cast_natAbs, Int.cast_abs, mul_div_right_comm,
      ← Nat.abs_cast number.den, ← abs_div, Rat.num_div_den]
  rw [scaled] at nearest
  by_cases negative : number < 0
  · refine ⟨-magnitude, ?_, ?_⟩
    · change (if number < 0 then -((magnitude : ℚ) / Decimal.tenTo places) else _) = _
      rw [if_pos negative, power]
      push_cast
      ring
    · rw [abs_of_neg negative] at nearest
      simpa using nearest.neg
  · refine ⟨magnitude, ?_, ?_⟩
    · change (if number < 0 then _ else (magnitude : ℚ) / Decimal.tenTo places) = _
      rw [if_neg negative, power]
      push_cast
      rfl
    · rw [abs_of_nonneg (not_lt.mp negative)] at nearest
      exact nearest

end Rounding

theorem Quantity.ratio_exact (part whole : Nat) : (ratio part whole : ℚ) = part / whole := by
  simp only [ratio, ofCount_exact]
  rcases Nat.eq_zero_or_pos (part.gcd whole) with none | positive
  · rcases Nat.gcd_eq_zero_iff.mp none with ⟨rfl, rfl⟩
    simp
  · have common : (part.gcd whole : ℚ) ≠ 0 := by exact_mod_cast positive.ne'
    rw [Nat.cast_div (Nat.gcd_dvd_left part whole) common,
      Nat.cast_div (Nat.gcd_dvd_right part whole) common, div_div_div_cancel_right₀ common]

namespace KnowledgeGraph

/-- On rational numbers, the percentage saved is the share that went away, rounded to two places. -/
theorem percentageSaved_exact {before after : Nat} (fewer : after ≤ before) :
    IsRounded 2 (100 * (before - after : Nat) / before) (percentageSaved before after : ℚ) ∧
      0 ≤ (percentageSaved before after : ℚ) ∧ (percentageSaved before after : ℚ) ≤ 100 := by
  have rounded : IsRounded 2 (100 * (before - after : Nat) / before)
      (percentageSaved before after : ℚ) := by
    unfold percentageSaved
    split
    case isTrue none =>
      rw [beq_iff_eq] at none
      refine ⟨0, by norm_num, ?_⟩
      simp [none, isNearestEven_of_lt]
    case isFalse some =>
      have positive : (before : ℚ) ≠ 0 := by simpa using some
      have share : (1.0 - Quantity.ratio after before) * (100.0 : ℚ) =
          100 * (before - after : Nat) / before := by
        rw [Quantity.ratio_exact, Nat.cast_sub fewer]
        field_simp
        norm_num
        ring
      rw [← share]
      exact isRounded_roundTo 2 _
  refine ⟨rounded, ?_⟩
  rcases rounded with ⟨units, decimal, nearest⟩
  have above : ((0 : ℤ) : ℚ) ≤ 100 * (before - after : Nat) / before * 10 ^ 2 := by
    push_cast
    positivity
  have below : 100 * (before - after : Nat) / before * 10 ^ 2 ≤ ((10000 : ℤ) : ℚ) := by
    have part : ((before - after : Nat) : ℚ) / before ≤ 1 := by
      apply div_le_one_of_le₀
      · exact_mod_cast Nat.sub_le before after
      · positivity
    push_cast
    linarith [mul_div_assoc (100 : ℚ) (before - after : Nat) before]
  rcases nearest.between above below with ⟨least, greatest⟩
  rw [decimal]
  constructor
  · positivity
  · rw [div_le_iff₀ (by norm_num)]
    norm_num
    exact_mod_cast greatest

namespace Merge

variable {R : Type} {merge next : Merge R} {nodes before : List (Node R)} {node : Node R}

/-- Besides what merging leaves, the log has an entry for each node that repeats a key. -/
structure Accounts (merge : Merge R) (nodes : List (Node R)) : Prop
    extends merge.Summarizes nodes where
  log : merge.log =
    (repeatsBy Node.key nodes).map fun node => "Merged duplicate node: " ++ node.label

theorem Summarizes.length_nodes (summarizes : merge.Summarizes nodes) :
    merge.nodes.length = (firstsBy Node.key nodes).length := by
  have lengths := congrArg List.length summarizes.identities
  simpa using lengths

theorem Accounts.insert [Quantity R] (accounts : merge.Accounts before)
    (inserted : merge.insert node = .ok next) : next.Accounts (before ++ [node]) := by
  refine ⟨accounts.toSummarizes.insert inserted, ?_⟩
  rw [repeatsBy_append_singleton]
  rcases accounts.insert_cases inserted with ⟨unseen, rfl⟩ | ⟨seen, changed, updated, rfl⟩
  · rw [if_neg unseen]
    exact accounts.log
  · rw [if_pos seen, List.map_append, ← accounts.log]
    rfl

theorem accounts_of_ofNodes [Quantity R] (merged : ofNodes nodes = .ok merge) :
    merge.Accounts nodes := by
  have start : ({} : Merge R).Accounts [] := ⟨summarizes_nil, rfl⟩
  exact of_foldlM Accounts.insert start merged

end Merge

/-- The log of a reduction has one entry for each node that has the label and the kind of an earlier
one, then one for each edge that repeats an earlier one between the merged nodes, then one for each
weak edge among the others, all in order. It is as long as the graph got smaller. The sizes are those
of the two graphs, and the percentage is the share of nodes that went away, rounded to two places
where nothing else is rounded. The only graphs that cannot be reduced have confidences that are no
numbers. -/
theorem reduce_accounts {R : Type} [Quantity R] (graph : KnowledgeGraph R) :
    (∃ merge reduced, Merge.ofNodes graph.nodes = .ok merge ∧ graph.reduce = .ok reduced ∧
      let redirected := graph.edges.map merge.redirect
      let distinct := firstsBy Edge.key redirected
      let stats := reduced.stats
      reduced.log =
          (repeatsBy Node.key graph.nodes).map
            (fun node => "Merged duplicate node: " ++ node.label) ++
          (repeatsBy Edge.key redirected).map
            (fun edge => "Removed redundant edge: " ++ edge.relation) ++
          (distinct.filter Edge.isWeak).map (fun edge =>
            "Removed low-confidence edge: " ++ edge.relation ++ " (" ++
              Quantity.fixedText 2 edge.confidence ++ ")") ∧
        reduced.edges = distinct.filter (!·.isWeak) ∧
        reduced.log.length =
          (stats.nodesBefore - stats.nodesAfter) + (stats.edgesBefore - stats.edgesAfter) ∧
        stats.nodesBefore = graph.nodes.length ∧ stats.nodesAfter = reduced.nodes.length ∧
        stats.edgesBefore = graph.edges.length ∧ stats.edgesAfter = reduced.edges.length ∧
        stats.nodesAfter ≤ stats.nodesBefore ∧ stats.edgesAfter ≤ stats.edgesBefore ∧
        stats.reductionPercentage = percentageSaved stats.nodesBefore stats.nodesAfter ∧
        let percentage : ℚ := percentageSaved stats.nodesBefore stats.nodesAfter
        IsRounded 2 (100 * (stats.nodesBefore - stats.nodesAfter : Nat) / stats.nodesBefore)
            percentage ∧
          0 ≤ percentage ∧ percentage ≤ 100 ∧
          (graph.nodes = [] → stats.reductionPercentage = 0.0 ∧ percentage = 0)) ∨
      (graph.reduce = .error .wrongShape ∧ ∃ node ∈ graph.nodes, ¬node.IsMeasured) := by
  rcases Merge.ofNodes_cases graph.nodes with ⟨merge, merged⟩ | ⟨failed, unmeasured⟩
  · left
    have accounts := Merge.accounts_of_ofNodes merged
    let redirected := graph.edges.map merge.redirect
    let distinct := firstsBy Edge.key redirected
    have nodes : merge.nodes.length + (repeatsBy Node.key graph.nodes).length =
        graph.nodes.length := by
      rw [accounts.length_nodes]
      exact length_firstsBy_add_length_repeatsBy
    have edges : distinct.length + (repeatsBy Edge.key redirected).length = graph.edges.length := by
      rw [length_firstsBy_add_length_repeatsBy, List.length_map]
    have pruned : distinct.length =
        (distinct.filter (!·.isWeak)).length + (distinct.filter Edge.isWeak).length := by
      rw [Nat.add_comm]
      exact List.length_eq_length_filter_add Edge.isWeak
    have fewer : merge.nodes.length ≤ graph.nodes.length := by omega
    have percentage := percentageSaved_exact fewer
    refine ⟨merge, _, merged, reduce_of_ofNodes merged, ?_⟩
    refine ⟨?_, rfl, ?_, rfl, rfl, rfl, rfl, fewer, ?_, rfl, percentage.1, percentage.2.1,
      percentage.2.2, ?_⟩
    · rw [accounts.log]
      rfl
    · simp only [distinct, redirected] at edges pruned
      simp only [accounts.log, List.length_append, List.length_map]
      omega
    · change (distinct.filter (!·.isWeak)).length ≤ graph.edges.length
      omega
    · intro empty
      constructor
      · simp [empty, percentageSaved]
      · norm_num [empty, percentageSaved]
  · exact Or.inr ⟨reduce_of_ofNodes_error failed, unmeasured⟩

end KnowledgeGraph

end SentenceGraph
