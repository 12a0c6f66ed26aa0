import Mathlib.Algebra.Order.BigOperators.Group.List
import Mathlib.Tactic.Linarith
import Mathlib.Tactic.Ring
import SentenceGraph.Proofs.Exact

/-!
# Running means are means

Totals are counted up record by record: a mean is multiplied by the number of records so far and
divided by the next number. On rational numbers nothing is lost by that, so any number of records
leads to the mean over all of them, in whatever order they come. A mean over nothing has no weight,
whatever its value is.

Totals that were stored elsewhere may be numbers of any kind; `Number.amount` is the rational number
that each of them is. The induction is on the records, and its step is that a mean over one record
and then over others is a mean over all of them (`meanOver_cons`).
-/

namespace SentenceGraph

open Fallible

namespace Number

/-- The rational number that a number is. -/
def amount : Number ℚ → ℚ
  | int number => number
  | real quantity => quantity

@[simp]
theorem amount_int (number : Int) : amount (.int number) = number := rfl

@[simp]
theorem amount_real (quantity : ℚ) : amount (.real quantity) = quantity := rfl

theorem quantity_rational (number : Number ℚ) : number.quantity = .ok number.amount := by
  cases number with
  | int number => rfl
  | real quantity => rfl

theorem exists_times (left right : Number ℚ) :
    ∃ product, left.times right = .ok product ∧ product.amount = left.amount * right.amount := by
  cases left with
  | int first =>
      cases right with
      | int second => exact ⟨_, rfl, Int.cast_mul first second⟩
      | real second => exact ⟨_, rfl, rfl⟩
  | real first =>
      cases right with
      | int second => exact ⟨_, rfl, rfl⟩
      | real second => exact ⟨_, rfl, rfl⟩

@[simp]
theorem amount_next (number : Number ℚ) : number.next.amount = number.amount + 1 := by
  cases number with
  | int number => exact Int.cast_add number 1
  | real quantity =>
      have one : (1.0 : ℚ) = 1 := by norm_num
      exact congrArg (quantity + ·) one

theorem isZero_of_amount_ne {number : Number ℚ} (given : number.amount ≠ 0) :
    number.isZero = false := by
  cases number with
  | int number =>
      apply beq_false_of_ne
      rintro rfl
      exact given Int.cast_zero
  | real quantity => exact beq_false_of_ne given

/-- A number that is counted up some more times. -/
def plus (number : Number ℚ) (times : Nat) : Number ℚ :=
  next^[times] number

theorem plus_succ (number : Number ℚ) (times : Nat) :
    number.plus (times + 1) = number.next.plus times :=
  Function.iterate_succ_apply next times number

theorem amount_plus (number : Number ℚ) (times : Nat) :
    (number.plus times).amount = number.amount + times := by
  induction times generalizing number with
  | zero => simp [plus]
  | succ times inductionHypothesis =>
      rw [plus_succ, inductionHypothesis, amount_next]
      push_cast
      ring

theorem plus_int (number : Int) (times : Nat) :
    (int number).plus times = int (number + times) := by
  induction times generalizing number with
  | zero => simp [plus]
  | succ times inductionHypothesis =>
      rw [plus_succ, next, inductionHypothesis]
      push_cast
      congr 1
      ring

theorem ofValue?_toValue {R : Type} (number : Number R) : ofValue? number.toValue = some number := by
  cases number with
  | int number => rfl
  | real quantity => rfl

end Number

/-! ### Means -/

/-- The mean over some more values, from the mean over `count` values. -/
def meanOver (mean count : ℚ) (values : List ℚ) : ℚ :=
  (mean * count + values.sum) / (count + values.length)

section Means

variable {mean count : ℚ}

theorem meanOver_cons (notNegative : 0 ≤ count) (first : ℚ) (rest : List ℚ) :
    meanOver (meanOver mean count [first]) (count + 1) rest = meanOver mean count (first :: rest) := by
  have positive : count + 1 ≠ 0 := by linarith
  have multiplied : meanOver mean count [first] * (count + 1) = mean * count + first := by
    simp only [meanOver, List.sum_singleton, List.length_singleton, Nat.cast_one,
      div_mul_cancel₀ _ positive]
  rw [meanOver, multiplied, meanOver, List.sum_cons, List.length_cons]
  push_cast
  ring

theorem meanOver_perm {values others : List ℚ} (same : values.Perm others) :
    meanOver mean count values = meanOver mean count others := by
  rw [meanOver, meanOver, same.sum_eq, same.length_eq]

/-- Bounds of some values are bounds of their mean, if they are bounds of the mean so far. Where
nothing was counted so far, its mean need not be within them. -/
theorem meanOver_between {values : List ℚ} {least greatest : ℚ} (notNegative : 0 ≤ count)
    (some : 0 < count + values.length) (before : 0 < count → least ≤ mean ∧ mean ≤ greatest)
    (bounded : ∀ value ∈ values, least ≤ value ∧ value ≤ greatest) :
    least ≤ meanOver mean count values ∧ meanOver mean count values ≤ greatest := by
  have below := List.card_nsmul_le_sum values least fun value value_mem =>
    (bounded value value_mem).1
  have above := List.sum_le_card_nsmul values greatest fun value value_mem =>
    (bounded value value_mem).2
  rw [nsmul_eq_mul] at below above
  have weighted : least * count ≤ mean * count ∧ mean * count ≤ greatest * count := by
    rcases notNegative.eq_or_lt with none | positive
    · simp [← none]
    · have within := before positive
      exact ⟨mul_le_mul_of_nonneg_right within.1 notNegative,
        mul_le_mul_of_nonneg_right within.2 notNegative⟩
  rw [meanOver, le_div_iff₀ some, div_le_iff₀ some]
  constructor
  · linarith
  · linarith

end Means

/-! ### Totals -/

namespace Analytics

/-- What is recorded of a compilation: its duration, and whether it counts as a success. -/
abbrev Record := ℚ × Bool

/-- What a record adds to the percentage of successes. -/
def Record.percentage (record : Record) : ℚ :=
  if record.2 then 100 else 0

/-- The totals after some more compilations. -/
def recordAll (analytics : Analytics ℚ) (records : List Record) : Except Fault (Analytics ℚ) :=
  records.foldlM (fun totals record => totals.record record.1 record.2) analytics

/-- Totals that are these numbers. -/
structure AreNumbers (analytics : Analytics ℚ) (count meanTime successRate : Number ℚ) : Prop where
  count : Number.ofValue? analytics.compilations = some count
  meanTime : Number.ofValue? analytics.meanTime = some meanTime
  successRate : Number.ofValue? analytics.successRate = some successRate

/-- Totals over a number of compilations, with two means over them. -/
def totals (count : Number ℚ) (meanTime successRate : ℚ) : Analytics ℚ where
  compilations := count.toValue
  meanTime := .real meanTime
  successRate := .real successRate

theorem areNumbers_totals (count : Number ℚ) (meanTime successRate : ℚ) :
    (totals count meanTime successRate).AreNumbers count (.real meanTime) (.real successRate) where
  count := count.ofValue?_toValue
  meanTime := rfl
  successRate := rfl

theorem nextMean_rational {count : Number ℚ} (notNegative : 0 ≤ count.amount) (mean : Number ℚ)
    (record : ℚ) : nextMean mean count record = .ok (meanOver mean.amount count.amount [record]) := by
  rcases Number.exists_times mean count with ⟨product, multiplied, value⟩
  have positive : count.next.amount ≠ 0 := by
    rw [Number.amount_next]
    linarith
  rw [nextMean, multiplied, ok_bind, Number.quantity_rational, ok_bind, Number.divide,
    Number.isZero_of_amount_ne positive, Number.quantity_rational, Number.amount_next, value]
  simp [meanOver]

variable {analytics : Analytics ℚ} {count meanTime successRate : Number ℚ}

theorem record_rational (numbers : analytics.AreNumbers count meanTime successRate)
    (notNegative : 0 ≤ count.amount) (record : Record) :
    analytics.record record.1 record.2 =
      .ok (totals count.next (meanOver meanTime.amount count.amount [record.1])
        (meanOver successRate.amount count.amount [record.percentage])) := by
  have percentage : (if record.2 then (100.0 : ℚ) else 0.0) = record.percentage := by
    rw [Record.percentage]
    split
    · norm_num
    · norm_num
  rw [Analytics.record, total, numbers.count, total, numbers.meanTime, total, numbers.successRate]
  simp only [ok_bind, nextMean_rational notNegative]
  rw [← percentage]
  rfl

/-- Nothing but the number of the records and their sums is left in the totals. -/
theorem recordAll_cons (numbers : analytics.AreNumbers count meanTime successRate)
    (notNegative : 0 ≤ count.amount) (first : Record) (rest : List Record) :
    analytics.recordAll (first :: rest) =
      .ok (totals (count.plus (first :: rest).length)
        (meanOver meanTime.amount count.amount ((first :: rest).map Prod.fst))
        (meanOver successRate.amount count.amount ((first :: rest).map Record.percentage))) := by
  induction rest generalizing analytics count meanTime successRate first with
  | nil =>
      rw [recordAll, List.foldlM_cons, record_rational numbers notNegative]
      rfl
  | cons second rest inductionHypothesis =>
      have countedNext : 0 ≤ count.next.amount := by
        rw [Number.amount_next]
        linarith
      have later : ∀ nextTime nextRate, _ := fun nextTime nextRate =>
        inductionHypothesis (areNumbers_totals count.next nextTime nextRate) countedNext second
      rw [recordAll, List.foldlM_cons, record_rational numbers notNegative, ok_bind, ← recordAll, later,
        Number.amount_next, Number.amount_real, Number.amount_real, meanOver_cons notNegative,
        meanOver_cons notNegative, ← Number.plus_succ]
      rfl

theorem recordAll_of_ne_nil (numbers : analytics.AreNumbers count meanTime successRate)
    (notNegative : 0 ≤ count.amount) {records : List Record} (given : records ≠ []) :
    analytics.recordAll records =
      .ok (totals (count.plus records.length)
        (meanOver meanTime.amount count.amount (records.map Prod.fst))
        (meanOver successRate.amount count.amount (records.map Record.percentage))) := by
  cases records with
  | nil => contradiction
  | cons first rest => exact recordAll_cons numbers notNegative first rest

theorem recordAll_perm (numbers : analytics.AreNumbers count meanTime successRate)
    (notNegative : 0 ≤ count.amount) {records others : List Record} (same : records.Perm others) :
    analytics.recordAll records = analytics.recordAll others := by
  by_cases none : records = []
  · subst none
    rw [List.nil_perm.mp same]
  · have otherSome : others ≠ [] := by
      rintro rfl
      exact none (List.perm_nil.mp same)
    rw [recordAll_of_ne_nil numbers notNegative none,
      recordAll_of_ne_nil numbers notNegative otherSome, same.length_eq,
      meanOver_perm (same.map Prod.fst), meanOver_perm (same.map Record.percentage)]

theorem sum_percentage (records : List Record) :
    (records.map Record.percentage).sum = 100 * records.countP Prod.snd := by
  induction records with
  | nil => simp
  | cons record records inductionHypothesis =>
      rw [List.map_cons, List.sum_cons, inductionHypothesis, List.countP_cons, Record.percentage]
      split
      · push_cast
        ring
      · simp

/-- A record counts for zero or for one hundred percent. -/
theorem percentage_between (records : List Record) :
    ∀ value ∈ records.map Record.percentage, 0 ≤ value ∧ value ≤ 100 := by
  intro value value_mem
  rcases List.mem_map.mp value_mem with ⟨record, _, rfl⟩
  rw [Record.percentage]
  split
  · norm_num
  · norm_num

/-- New totals are those of their records alone. -/
theorem recordAll_initial {records : List Record} (given : records ≠ []) :
    initial.recordAll records =
      .ok (counted records.length ((records.map Prod.fst).sum / records.length)
        (100 * records.countP Prod.snd / records.length)) := by
  have numbers : (initial : Analytics ℚ).AreNumbers (.int 0) (.real 0.0) (.real 100.0) :=
    ⟨rfl, rfl, rfl⟩
  rw [recordAll_of_ne_nil numbers (by simp) given, Number.plus_int]
  simp only [meanOver, sum_percentage, Number.amount_int, List.length_map, Int.cast_zero, mul_zero,
    zero_add]
  rfl

/-- Totals that stand for these numbers, of whatever kind they are. -/
structure StandsFor (analytics : Analytics ℚ) (total meanTime successRate : ℚ) : Prop where
  exists_numbers :
    ∃ count time rate, analytics.AreNumbers count time rate ∧ count.amount = total ∧
      time.amount = meanTime ∧ rate.amount = successRate

/-- Records are counted up without fail, into the mean of all durations and the percentage of all
successes, weighted with those so far. Their order does not matter. The percentage stays one, and
the mean stays within the bounds of the durations. From the first record on, new totals are those of
the records alone. -/
theorem recordAll_means {total meanTime successRate : ℚ}
    (stands : analytics.StandsFor total meanTime successRate) (notNegative : 0 ≤ total)
    (records : List Record) :
    (∃ after nextTime nextRate, analytics.recordAll records = .ok after ∧
      after.StandsFor (total + records.length) nextTime nextRate ∧
      (0 < total + records.length →
        nextTime =
          (meanTime * total + (records.map Prod.fst).sum) / (total + records.length) ∧
        nextRate =
          (successRate * total + 100 * records.countP Prod.snd) / (total + records.length)) ∧
      (∀ others, records.Perm others → analytics.recordAll others = .ok after) ∧
      (0 ≤ successRate ∧ successRate ≤ 100 → 0 ≤ nextRate ∧ nextRate ≤ 100) ∧
      ∀ least greatest, records ≠ [] → (0 < total → least ≤ meanTime ∧ meanTime ≤ greatest) →
        (∀ record ∈ records, least ≤ record.1 ∧ record.1 ≤ greatest) →
          least ≤ nextTime ∧ nextTime ≤ greatest) ∧
    (records ≠ [] → initial.recordAll records =
      .ok (counted records.length ((records.map Prod.fst).sum / records.length)
        (100 * records.countP Prod.snd / records.length))) := by
  refine ⟨?_, recordAll_initial⟩
  rcases stands.exists_numbers with ⟨count, time, rate, numbers, rfl, rfl, rfl⟩
  by_cases given : records = []
  · subst given
    have unchanged : analytics.recordAll [] = .ok analytics := rfl
    refine ⟨analytics, time.amount, rate.amount, unchanged, ?_, ?_, ?_, id, by simp⟩
    · simpa using stands
    · intro positive
      simp only [List.length_nil, Nat.cast_zero, add_zero] at positive
      simp [positive.ne']
    · intro others same
      rw [← recordAll_perm numbers notNegative same, unchanged]
  · have closed := recordAll_of_ne_nil numbers notNegative given
    have some : 0 < count.amount + (records.map Record.percentage).length := by
      have atLeastOne : 0 < ((records.map Record.percentage).length : ℚ) := by
        exact_mod_cast List.length_pos_of_ne_nil (by simpa using given)
      linarith
    refine ⟨_, _, _, closed, ⟨_, _, _, areNumbers_totals .., Number.amount_plus .., rfl, rfl⟩,
      ?_, ?_, ?_, ?_⟩
    · intro _
      simp only [Number.amount_real, meanOver, sum_percentage, List.length_map, and_self]
    · intro others same
      rw [← recordAll_perm numbers notNegative same, closed]
    · intro within
      exact meanOver_between notNegative some (fun _ => within) (percentage_between records)
    · intro least greatest _ before bounded
      rw [List.length_map] at some
      refine meanOver_between notNegative (by rwa [List.length_map]) before ?_
      rw [List.forall_mem_map]
      exact bounded

/-- Totals of two compilations, numbers of three kinds. -/
def storedTotals : Analytics ℚ where
  compilations := .int 2
  meanTime := .real 15
  successRate := .bool true

theorem recordAll_means_stored :
    storedTotals.StandsFor 2 15 1 ∧ (0 : ℚ) ≤ 2 ∧
      ∃ after nextTime nextRate, storedTotals.recordAll [(30, true), (6, false)] = .ok after ∧
        after.StandsFor (2 + 2) nextTime nextRate ∧ nextTime = 33 / 2 ∧ nextRate = 51 / 2 := by
  have stands : storedTotals.StandsFor 2 15 1 :=
    ⟨_, _, _, ⟨rfl, rfl, rfl⟩, Int.cast_ofNat 2, rfl, Int.cast_one⟩
  have notNegative : (0 : ℚ) ≤ 2 := by norm_num
  rcases (recordAll_means stands notNegative [(30, true), (6, false)]).1 with
    ⟨after, nextTime, nextRate, recorded, standsAfter, means, _⟩
  rcases means (by norm_num) with ⟨time, rate⟩
  refine ⟨stands, notNegative, after, nextTime, nextRate, recorded, standsAfter, ?_, ?_⟩
  · rw [time]
    norm_num
  · rw [rate]
    norm_num

end Analytics

end SentenceGraph
