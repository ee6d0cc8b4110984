import BranchingStory.Host.Toybox
import BranchingStory.Proofs.Machine.Ranges

/-!
# Exact ranges

The items of a range are its start and every further step before its stop. Their number is estimated before
the list is made, with sums that end at the ends of 64 bits. As long as no sum is cut off, the estimate is the
number of items, and a range is refused exactly if it has more than a million of them. Where the ends of a
range are further apart, the estimate falls behind, and up to 2,000,002 items are let through.
-/

namespace BranchingStory.Script

open Number

/-! ## The items of a range -/

/-- Whether an integer comes before the stop of a range, in the direction of its step. -/
def Before (stop step i : Int) : Prop :=
  0 < step ∧ i < stop ∨ step < 0 ∧ stop < i

/-- Whether items are those of a range: the sums of its start with multiples of its step, in order, and all of
them that come before its stop. -/
structure IsRange (start stop step : Int64) (items : List Int64) : Prop where
  term (k : Nat) (inside : k < items.length) : items[k].toInt = start.toInt + k * step.toInt
  inside_iff (k : Nat) :
    k < items.length ↔ Before stop.toInt step.toInt (start.toInt + k * step.toInt)

variable {start stop step : Int64}

/-- A range has one list of items. -/
lemma IsRange.unique {items items' : List Int64} (first : IsRange start stop step items)
    (second : IsRange start stop step items') : items = items' := by
  have insides (k : Nat) : k < items.length ↔ k < items'.length :=
    (first.inside_iff k).trans (second.inside_iff k).symm
  have lengths : items.length = items'.length := by
    apply Nat.le_antisymm
    · exact Nat.not_lt.mp fun longer => Nat.lt_irrefl _ ((insides _).mp longer)
    · exact Nat.not_lt.mp fun longer => Nat.lt_irrefl _ ((insides _).mpr longer)
  apply List.ext_getElem lengths
  intro k inside inside'
  apply Int64.toInt_inj.mp
  rw [first.term k inside, second.term k inside']

lemma length_rangeFrom (start stop : Int64) (nonzero : step.toInt ≠ 0) :
    (Machine.rangeFrom stop step start).length = rangeCount start.toInt stop.toInt step.toInt := by
  have lengths := congrArg List.length (@Machine.rangeFrom_toInt stop step nonzero start)
  rwa [List.length_map, List.length_map, List.length_range] at lengths

/-- Going on step by step, up to the stop or to the end of 64 bits, gives the items of a range. -/
lemma isRange_rangeFrom (start stop : Int64) (nonzero : step.toInt ≠ 0) :
    IsRange start stop step (Machine.rangeFrom stop step start) := by
  have exact := @Machine.rangeFrom_toInt stop step nonzero start
  have length := length_rangeFrom start stop nonzero
  constructor
  · intro k inside
    have terms := congrArg (·[k]?) exact
    simp only [List.getElem?_map, List.getElem?_eq_getElem inside, Option.map_some,
      List.getElem?_range (length ▸ inside), Option.some.injEq] at terms
    exact terms
  · intro k
    rw [length]
    exact lt_rangeCount_iff nonzero k

/-! ## The estimate -/

/-- How far the stop of a range is ahead of its start, in the direction of its step. -/
def distance (start stop step : Int) : Int :=
  if 0 < step then stop - start else start - stop

/-- Whether the sum that a division by the step rounds up is more than 64 bits can hold. -/
def CutsOff (start stop step : Int) : Prop :=
  maxInt < distance start stop step + (step.natAbs - 1)

instance (start stop step : Int) : Decidable (CutsOff start stop step) :=
  inferInstanceAs (Decidable (_ < _))

lemma rangeCount_eq_distance (start stop step : Int) :
    rangeCount start stop step =
      ((distance start stop step + (step.natAbs - 1)) / step.natAbs).toNat := by
  unfold rangeCount distance
  by_cases up : 0 < step
  · rw [if_pos up, if_pos up, Int.natAbs_of_nonneg (Int.le_of_lt up)]
  · rw [if_neg up, if_neg up, Int.ofNat_natAbs_of_nonpos (Int.not_lt.mp up)]

/-- The estimate divides the saturated distance by the size of the step, in either direction. -/
lemma rangeEstimate_eq_distance (start stop step : Int64) :
    rangeEstimate start.toInt stop.toInt step.toInt =
      (saturate (saturate (distance start.toInt stop.toInt step.toInt) + (step.toInt.natAbs - 1))).tdiv
        (saturate step.toInt.natAbs) := by
  have least := minInt_le step
  have greatest := le_maxInt step
  unfold rangeEstimate distance
  by_cases up : 0 < step.toInt
  · have fits : saturate step.toInt = step.toInt := Machine.saturate_eq least greatest
    rw [if_pos up, if_pos up, Int.natAbs_of_nonneg (Int.le_of_lt up), fits]
  · rw [if_neg up, if_neg up, Int.ofNat_natAbs_of_nonpos (Int.not_lt.mp up)]
    congr 2
    omega

lemma size_le (step : Int64) : step.toInt.natAbs ≤ maxInt + 1 := by
  have least := minInt_le step
  have greatest := le_maxInt step
  unfold minInt maxInt at *
  omega

/-- As long as no sum is cut off, the estimate for a range with items is their number. -/
lemma rangeEstimate_eq_count (nonzero : step.toInt ≠ 0)
    (ahead : 0 < distance start.toInt stop.toInt step.toInt)
    (whole : ¬CutsOff start.toInt stop.toInt step.toInt) :
    rangeEstimate start.toInt stop.toInt step.toInt =
      rangeCount start.toInt stop.toInt step.toInt := by
  unfold CutsOff at whole
  rw [rangeEstimate_eq_distance, rangeCount_eq_distance]
  generalize distance start.toInt stop.toInt step.toInt = d at ahead whole
  generalize size : (step.toInt.natAbs : Int) = s at whole
  have positive : 0 < s := by omega
  have sum : saturate (saturate d + (s - 1)) = d + (s - 1) := by
    rw [Machine.saturate_eq (n := d) (by unfold minInt; omega) (by omega)]
    exact Machine.saturate_eq (by unfold minInt; omega) (by omega)
  have fits : saturate s = s := Machine.saturate_eq (by unfold minInt; omega) (by omega)
  rw [sum, fits, Int.tdiv_eq_ediv_of_nonneg (by omega)]
  exact (Int.toNat_of_nonneg (Int.ediv_nonneg (by omega) (by omega))).symm

/-- A range that is over at its start has no items, and is estimated to have at most one. -/
lemma rangeEstimate_of_no_distance (nonzero : step.toInt ≠ 0)
    (behind : distance start.toInt stop.toInt step.toInt ≤ 0) :
    rangeEstimate start.toInt stop.toInt step.toInt ≤ 1 ∧
      rangeCount start.toInt stop.toInt step.toInt = 0 := by
  rw [rangeEstimate_eq_distance, rangeCount_eq_distance]
  generalize distance start.toInt stop.toInt step.toInt = d at behind
  generalize size : (step.toInt.natAbs : Int) = s
  have positive : 0 < s := by omega
  have divisor := Machine.saturate_pos positive
  constructor
  · -- The sum is less than the size of the step, which is cut off at the same place.
    have none : saturate d ≤ 0 := Machine.saturate_mono behind
    have bounded : saturate (saturate d + (s - 1)) ≤ saturate s := by
      apply Machine.saturate_mono
      omega
    rcases Int.lt_or_le (saturate (saturate d + (s - 1))) 0 with below | above
    · have flipped := Int.tdiv_nonneg (Int.neg_nonneg_of_nonpos (Int.le_of_lt below)) (Int.le_of_lt divisor)
      rw [Int.neg_tdiv] at flipped
      omega
    · rw [Int.tdiv_eq_ediv_of_nonneg above]
      exact Int.ediv_le_of_le_mul divisor (by omega)
  · have less : (d + (s - 1)) / s < 1 := Int.ediv_lt_of_lt_mul positive (by omega)
    omega

/-- A sum that is cut off is divided as the greatest integer. -/
lemma rangeEstimate_of_cutsOff (nonzero : step.toInt ≠ 0)
    (cut : CutsOff start.toInt stop.toInt step.toInt) :
    rangeEstimate start.toInt stop.toInt step.toInt = maxInt / saturate step.toInt.natAbs := by
  unfold CutsOff at cut
  have small := size_le step
  rw [rangeEstimate_eq_distance]
  generalize distance start.toInt stop.toInt step.toInt = d at cut
  generalize size : (step.toInt.natAbs : Int) = s at cut small
  have positive : 0 < s := by omega
  have sum : saturate (saturate d + (s - 1)) = maxInt := by
    apply Machine.saturate_of_le
    rcases Int.le_total maxInt d with far | near
    · rw [Machine.saturate_of_le far]
      omega
    · rw [Machine.saturate_eq (by unfold minInt; omega) near]
      omega
  rw [sum]
  exact Int.tdiv_eq_ediv_of_nonneg (by decide)

/-- The ends of a range are at most `2 ^ 64 - 1` apart. -/
lemma distance_le : distance start.toInt stop.toInt step.toInt ≤ 2 * maxInt + 1 := by
  have low := minInt_le start
  have high := le_maxInt start
  have low' := minInt_le stop
  have high' := le_maxInt stop
  unfold distance minInt maxInt at *
  split <;> omega

/-- Where a sum is cut off, there are at least as many items as the estimate says, and at most twice as many
and two more. -/
lemma rangeCount_of_cutsOff (nonzero : step.toInt ≠ 0)
    (cut : CutsOff start.toInt stop.toInt step.toInt) :
    rangeEstimate start.toInt stop.toInt step.toInt ≤ rangeCount start.toInt stop.toInt step.toInt ∧
      rangeCount start.toInt stop.toInt step.toInt ≤
        2 * rangeEstimate start.toInt stop.toInt step.toInt + 2 := by
  have far : distance start.toInt stop.toInt step.toInt ≤ 2 * maxInt + 1 := distance_le
  have small := size_le step
  rw [rangeEstimate_of_cutsOff nonzero cut, rangeCount_eq_distance]
  unfold CutsOff at cut
  generalize distance start.toInt stop.toInt step.toInt = d at cut far
  generalize size : (step.toInt.natAbs : Int) = s at cut small
  have positive : 0 < s := by omega
  rw [Int.toNat_of_nonneg (Int.ediv_nonneg (by omega) (by omega))]
  rcases Int.lt_or_le maxInt s with greatest | fits
  · -- The size of the least step is cut off itself, and such a range has at most two items.
    rw [Machine.saturate_of_le (Int.le_of_lt greatest), Int.ediv_self (by decide)]
    have some : 1 ≤ (d + (s - 1)) / s := Int.le_ediv_of_mul_le positive (by omega)
    have few : (d + (s - 1)) / s < 5 := Int.ediv_lt_of_lt_mul positive (by omega)
    omega
  · rw [Machine.saturate_eq (by unfold minInt; omega) fits]
    have above : maxInt < (maxInt / s + 1) * s := Int.lt_ediv_add_one_mul_self maxInt positive
    have doubled : (2 * (maxInt / s) + 3) * s = 2 * ((maxInt / s + 1) * s) + s := by
      rw [Int.add_mul, Int.mul_assoc, Int.add_mul, Int.one_mul]
      omega
    have few : (d + (s - 1)) / s < 2 * (maxInt / s) + 3 := Int.ediv_lt_of_lt_mul positive (by omega)
    exact ⟨Int.ediv_le_ediv positive (by omega), by omega⟩

/-- As long as no sum is cut off, the estimate passes the limit where the number of items does. -/
lemma limit_lt_rangeEstimate_iff (nonzero : step.toInt ≠ 0)
    (whole : ¬CutsOff start.toInt stop.toInt step.toInt) :
    rangeLimit < rangeEstimate start.toInt stop.toInt step.toInt ↔
      rangeLimit < rangeCount start.toInt stop.toInt step.toInt := by
  rcases Int.lt_or_le 0 (distance start.toInt stop.toInt step.toInt) with ahead | behind
  · rw [rangeEstimate_eq_count nonzero ahead whole]
  · obtain ⟨small, none⟩ := rangeEstimate_of_no_distance nonzero behind
    unfold rangeLimit
    omega

section Answers

variable {Obj : Type} [HostObject Obj]

/-- The refusal of a range that is estimated to have too many items. -/
def tooManyItems (estimate : Int) : EvalError :=
  .host ("range() of " ++ toString estimate ++ " items exceeds the limit")

/-- The estimate alone decides whether a range is refused. -/
lemma rangeOf_eq_ite (nonzero : step.toInt ≠ 0) (named : List (String × Value Obj)) :
    rangeOf ⟨[.int start, .int stop, .int step], named⟩ =
      if rangeLimit < rangeEstimate start.toInt stop.toInt step.toInt then
        .error (tooManyItems (rangeEstimate start.toInt stop.toInt step.toInt))
      else .ok (.list ((Machine.rangeFrom stop step start).map .int)) := by
  have other : step ≠ 0 := by
    rintro rfl
    exact nonzero rfl
  rw [Machine.rangeOf_eq, Machine.rangeFrom_eq nonzero, List.map_map]
  change (if step = 0 then _ else _) = _
  rw [if_neg other]
  rfl

/-- A range of at most a million items is exactly the list of them. A longer one is refused, unless the sum is
cut off that its estimate is made from; then the greatest integer, divided by the size of the step, decides.
No range has more than 2,000,002 items. -/
theorem range_exact_or_refused (start stop step : Int64) (nonzero : step ≠ 0)
    (named : List (String × Value Obj)) :
    ∃ items, IsRange start stop step items ∧
      (items.length ≤ rangeLimit →
        rangeOf ⟨[.int start, .int stop, .int step], named⟩ = .ok (.list (items.map .int))) ∧
      (rangeLimit < items.length → ¬CutsOff start.toInt stop.toInt step.toInt →
        rangeOf ⟨[.int start, .int stop, .int step], named⟩ = .error (tooManyItems items.length)) ∧
      (rangeLimit < items.length → CutsOff start.toInt stop.toInt step.toInt →
        rangeOf ⟨[.int start, .int stop, .int step], named⟩ =
          if rangeLimit < maxInt / saturate step.toInt.natAbs then
            .error (tooManyItems (maxInt / saturate step.toInt.natAbs))
          else .ok (.list (items.map .int))) ∧
      (2 * rangeLimit + 2 < items.length →
        ∃ estimate, rangeOf ⟨[.int start, .int stop, .int step], named⟩ = .error (tooManyItems estimate)) := by
  have other : step.toInt ≠ 0 := fun zero => nonzero (Int64.toInt_inj.mp zero)
  have isRange := isRange_rangeFrom start stop other
  have length := length_rangeFrom start stop other
  refine ⟨_, isRange, ?few, ?refused, ?cut, ?bounded⟩
  all_goals rw [length, rangeOf_eq_ite other named]
  case few =>
    intro few
    apply if_neg
    by_cases cut : CutsOff start.toInt stop.toInt step.toInt
    · have least := (rangeCount_of_cutsOff other cut).1
      omega
    · rw [limit_lt_rangeEstimate_iff other cut]
      exact Int.not_lt.mpr few
  case refused =>
    intro many whole
    have ahead : 0 < distance start.toInt stop.toInt step.toInt := by
      apply Int.not_le.mp
      intro behind
      have none := (rangeEstimate_of_no_distance other behind).2
      unfold rangeLimit at many
      omega
    rw [if_pos ((limit_lt_rangeEstimate_iff other whole).mpr many),
      rangeEstimate_eq_count other ahead whole]
  case cut =>
    intro _ cut
    rw [rangeEstimate_of_cutsOff other cut]
  case bounded =>
    intro many
    refine ⟨_, if_pos ?_⟩
    by_cases cut : CutsOff start.toInt stop.toInt step.toInt
    · have most := (rangeCount_of_cutsOff other cut).2
      omega
    · rw [limit_lt_rangeEstimate_iff other cut]
      unfold rangeLimit at *
      omega

end Answers

open Toybox in
/-- A countdown in steps of two. -/
theorem countdown_is_exact :
    (-2 : Int64) ≠ 0 ∧ rangeOf ⟨[.int 5, .int 0, .int (-2)], ([] : List (String × Value Thing))⟩ =
      .ok (.list [.int 5, .int 3, .int 1]) := by
  have nonzero : (-2 : Int64) ≠ 0 := by decide
  obtain ⟨items, isRange, listed, _⟩ :=
    range_exact_or_refused 5 0 (-2) nonzero ([] : List (String × Value Thing))
  have counted : IsRange 5 0 (-2) [5, 3, 1] := by
    refine ⟨by decide, fun k => ?_⟩
    change k < 3 ↔ 0 < (-2 : Int) ∧ 5 + k * (-2 : Int) < 0 ∨ (-2 : Int) < 0 ∧ 0 < 5 + k * (-2 : Int)
    omega
  obtain rfl : items = [5, 3, 1] := isRange.unique counted
  exact ⟨nonzero, listed (by decide)⟩

open Toybox in
/-- The distance is no more than the greatest integer, but rounding up goes beyond it, and an item over the
limit is let through. -/
theorem range_beyond_limit :
    ∃ items, IsRange 0 9223372036854775807 9223372036854 items ∧ rangeLimit < items.length ∧
      rangeOf ⟨[.int 0, .int 9223372036854775807, .int 9223372036854], []⟩ =
        (.ok (.list (items.map .int)) : Except EvalError (Value Thing)) := by
  have nonzero : (9223372036854 : Int64).toInt ≠ 0 := by decide
  refine ⟨_, isRange_rangeFrom _ _ nonzero, ?_, ?_⟩
  · rw [length_rangeFrom _ _ nonzero]
    decide
  · rw [rangeOf_eq_ite nonzero]
    exact if_neg (by decide)

end BranchingStory.Script
