import SentenceGraph.Proofs.Fallible
import SentenceGraph.Session

/-!
# Totals that count

The totals of a session that was only ever counted up hold a natural number of compilations and two
means. Such totals can always be counted up once more, as long as their number is within the range
of the quantities.
-/

namespace SentenceGraph

open Fallible

variable {R : Type} [Quantity R]

/-- All counts up to a given one are quantities. -/
def Quantity.Counts (R : Type) [Quantity R] (greatest : Nat) : Prop :=
  ∀ count ≤ greatest, (Quantity.ofInt? (count : Int) : Option R).isSome

namespace Analytics

omit [Quantity R] in
/-- Totals of a number of compilations, with their means. -/
def counted (count : Nat) (meanTime successRate : R) : Analytics R where
  compilations := .int count
  meanTime := .real meanTime
  successRate := .real successRate

theorem nextMean_of_ofInt? {count : Nat} {mean record before after : R}
    (past : Quantity.ofInt? (count : Int) = some before)
    (present : Quantity.ofInt? ((count + 1 : Nat) : Int) = some after) :
    nextMean (.real mean) (.int count) record = .ok ((mean * before + record) / after) := by
  have positive : ((count : Int) + 1 == 0) = false := by
    rw [beq_eq_false_iff_ne]
    omega
  rw [Int.natCast_succ] at present
  simp [nextMean, Number.times, Number.quantity, Number.divide, Number.next, Number.isZero, past,
    present, positive, pure, Except.pure]

theorem record_counted {count : Nat} {meanTime successRate before after : R}
    (past : Quantity.ofInt? (count : Int) = some before)
    (present : Quantity.ofInt? ((count + 1 : Nat) : Int) = some after) (duration : R)
    (success : Bool) :
    (counted count meanTime successRate).record duration success =
      .ok (counted (count + 1) ((meanTime * before + duration) / after)
        ((successRate * before + if success then 100.0 else 0.0) / after)) := by
  simp only [record, counted, total, Number.ofValue?, ok_bind, nextMean_of_ofInt? past present]
  rfl

/-- Counting up once more, as long as the number is within range. -/
theorem exists_record {count : Nat} (counts : Quantity.Counts R (count + 1))
    (meanTime successRate duration : R) (success : Bool) :
    ∃ nextTime nextRate, (counted count meanTime successRate).record duration success =
      .ok (counted (count + 1) nextTime nextRate) := by
  rcases Option.isSome_iff_exists.mp (counts count (Nat.le_succ count)) with ⟨before, past⟩
  rcases Option.isSome_iff_exists.mp (counts (count + 1) (Nat.le_refl _)) with ⟨after, present⟩
  exact ⟨_, _, record_counted past present duration success⟩

/-- Whatever is counted up from a number of compilations is counted. -/
theorem eq_counted_of_record {count : Nat} {meanTime successRate duration : R} {success : Bool}
    {recorded : Analytics R}
    (succeeds : (counted count meanTime successRate).record duration success = .ok recorded) :
    ∃ nextTime nextRate, recorded = counted (count + 1) nextTime nextRate := by
  simp only [record, counted, total, Number.ofValue?, ok_bind] at succeeds
  rcases bind_eq_ok_iff.mp succeeds with ⟨nextTime, _, succeeds⟩
  rcases bind_eq_ok_iff.mp succeeds with ⟨nextRate, _, succeeds⟩
  exact ⟨nextTime, nextRate, (Except.ok.inj succeeds).symm⟩

end Analytics

end SentenceGraph
