import BranchingStory.Proofs.Machine.Arithmetic
import BranchingStory.Script.Function

/-!
# Ranges and numbers on a machine

The steps of `range()` are checked or saturate, those of its estimate are made of a step that is not
zero. What is not ruled out is that `enumerate()` moves its counter beyond the greatest integer.
-/

namespace BranchingStory

open Number Script

variable {Obj : Type}

namespace Script

/-- A downward range is an upward one with all signs changed. -/
lemma rangeCount_neg {start stop step : Int} (down : step < 0) :
    rangeCount start stop step = rangeCount (-start) (-stop) (-step) := by
  unfold rangeCount
  rw [if_neg (by omega), if_pos (by omega)]
  congr 2
  omega

lemma rangeCount_up {start stop step : Int} (up : 0 < step) (more : start < stop) :
    rangeCount start stop step = rangeCount (start + step) stop step + 1 := by
  unfold rangeCount
  rw [if_pos up, if_pos up]
  have rest : stop - start + (step - 1) = stop - (start + step) + (step - 1) + 1 * step := by omega
  rw [rest, Int.add_mul_ediv_right _ _ (by omega)]
  have nonnegative : 0 ≤ (stop - (start + step) + (step - 1)) / step := Int.ediv_nonneg (by omega) (by omega)
  omega

lemma rangeCount_up_done {start stop step : Int} (up : 0 < step) (done : stop ≤ start) :
    rangeCount start stop step = 0 := by
  unfold rangeCount
  rw [if_pos up]
  have small : (stop - start + (step - 1)) / step < 1 := Int.ediv_lt_of_lt_mul up (by omega)
  omega

/-- A range that goes on with an integer has one term more than the range behind it. -/
lemma rangeCount_succ {start stop step : Int} (within : 0 < step ∧ start < stop ∨ step < 0 ∧ stop < start) :
    rangeCount start stop step = rangeCount (start + step) stop step + 1 := by
  rcases within with ⟨up, more⟩ | ⟨down, more⟩
  · exact rangeCount_up up more
  · rw [rangeCount_neg down, rangeCount_neg down, rangeCount_up (by omega) (by omega), Int.neg_add]

lemma rangeCount_zero {start stop step : Int} (nonzero : step ≠ 0)
    (done : ¬(0 < step ∧ start < stop ∨ step < 0 ∧ stop < start)) : rangeCount start stop step = 0 := by
  rcases Int.lt_or_gt_of_ne nonzero with down | up
  · rw [rangeCount_neg down]
    exact rangeCount_up_done (by omega) (by omega)
  · exact rangeCount_up_done up (by omega)

/-- A range has exactly the terms before its stop. -/
lemma lt_rangeCount_iff {start stop step : Int} (nonzero : step ≠ 0) (k : Nat) :
    k < rangeCount start stop step ↔
      0 < step ∧ start + k * step < stop ∨ step < 0 ∧ stop < start + k * step := by
  induction k generalizing start with
  | zero =>
    rw [Int.natCast_zero, Int.zero_mul, Int.add_zero]
    by_cases within : 0 < step ∧ start < stop ∨ step < 0 ∧ stop < start
    · exact iff_of_true (by rw [rangeCount_succ within]; exact Nat.zero_lt_succ _) within
    · exact iff_of_false (by rw [rangeCount_zero nonzero within]; exact Nat.not_lt_zero _) within
  | succ k ih =>
    have next : start + step + k * step = start + (k + 1 : Nat) * step := by
      rw [Int.natCast_add, Int.natCast_one, Int.add_mul, Int.one_mul]
      omega
    by_cases within : 0 < step ∧ start < stop ∨ step < 0 ∧ stop < start
    · rw [rangeCount_succ within, Nat.add_lt_add_iff_right, ih, next]
    · refine iff_of_false (by rw [rangeCount_zero nonzero within]; exact Nat.not_lt_zero _) ?_
      -- Behind the stop the terms only go on away from it.
      have upward : 0 < step → 0 ≤ (k + 1 : Nat) * step := fun up =>
        Int.mul_nonneg (Int.natCast_nonneg _) (Int.le_of_lt up)
      have downward : step < 0 → (k + 1 : Nat) * step ≤ 0 := fun down =>
        Int.mul_nonpos_of_nonneg_of_nonpos (Int.natCast_nonneg _) (Int.le_of_lt down)
      omega

end Script

namespace Machine

/-- The integer of 64 bits nearest to a number. -/
def saturated (n : Int) : Int64 :=
  Int64.ofInt (saturate n)

def rangeEstimate (start stop step : Int64) : Steps Int64 := do
  if 0 < step.toInt then
    let below ← sub step 1
    quot (saturated ((saturated (stop.toInt - start.toInt)).toInt + below.toInt)) step
  else
    let above ← add step 1
    quot (saturated ((saturated (start.toInt - stop.toInt)).toInt - above.toInt))
      (saturated (-step.toInt))

/-- Whether a range goes on with an integer. -/
def Within (stop step i : Int64) : Prop :=
  0 < step.toInt ∧ i.toInt < stop.toInt ∨ step.toInt < 0 ∧ stop.toInt < i.toInt

instance (stop step i : Int64) : Decidable (Within stop step i) :=
  inferInstanceAs (Decidable (_ ∨ _))

/-- The integers of a range from `i` on; the sum with the step is checked. -/
def rangeFrom (stop step i : Int64) : List Int64 :=
  if Within stop step i then
    i :: match _next : narrow? (i.toInt + step.toInt) with
      | some next => rangeFrom stop step next
      | none => []
  else []
termination_by (if 0 < step.toInt then stop.toInt - i.toInt else i.toInt - stop.toInt).toNat
decreasing_by
  next within =>
    rw [narrow?_eq_some _next]
    unfold Within at within
    split <;> omega

/-- The start, stop and step of a range. -/
def rangeBounds [HostObject Obj] (args : CallArgs Obj) : Except EvalError (Int64 × Int64 × Int64) := do
  let (start, stop) ←
    match args.positional with
    | [] => throw (.typeMismatch "range() expected at least 1 argument")
    | [_] => pure (0, ← integerArg args 0 "stop" "range")
    | _ => pure (← integerArg args 0 "start" "range", ← integerArg args 1 "stop" "range")
  let step ← if args.positional.length < 3 then pure 1 else integerArg args 2 "step" "range"
  return (start, stop, step)

/-- The integers from a start up to but not including a stop, if there are not too many. -/
def rangeItems (start stop step : Int64) : Trial (Value Obj) :=
  if step = 0 then throw (.typeMismatch "range() arg 3 must not be zero")
  else do
    let estimate ← rangeEstimate start stop step
    if rangeLimit < estimate.toInt then
      throw (.host ("range() of " ++ toString estimate.toInt ++ " items exceeds the limit"))
    else return .list ((rangeFrom stop step start).map .int)

def rangeOf [HostObject Obj] (args : CallArgs Obj) : Trial (Value Obj) := do
  let (start, stop, step) ← liftM (rangeBounds args)
  rangeItems start stop step

/-- Pairs each item with its number; the counter is moved on behind each of them. -/
def numberedFrom (start : Int64) (done : Nat) (i : Int64) : List (Value Obj) → Steps (List (Value Obj))
  | [] => pure []
  | item :: items =>
    match narrow? (i.toInt + 1) with
    | some next => do
      let rest ← numberedFrom start (done + 1) next items
      return .list [.int i, item] :: rest
    | none => .error (.counter start (done + 1))

def enumerateOf [HostObject Obj] (args : CallArgs Obj) : Trial (Value Obj) := do
  let source ← liftM (required args 0 "iterable" "enumerate")
  let start := ((args.get? 1 "start").bind (·.asInt?)).getD 0
  let items ← liftM (iterate source)
  let pairs ← (numberedFrom start 0 start items : Steps (List (Value Obj)))
  return .list pairs

lemma toInt_saturated (n : Int) : (saturated n).toInt = saturate n := by
  have range : minInt ≤ saturate n ∧ saturate n ≤ maxInt := by
    unfold saturate
    split
    · decide
    · split
      · decide
      · omega
  exact toInt_ofInt range.1 range.2

lemma saturate_eq {n : Int} (least : minInt ≤ n) (greatest : n ≤ maxInt) : saturate n = n := by
  unfold saturate
  rw [if_neg (Int.not_lt.mpr least), if_neg (Int.not_lt.mpr greatest)]

/-- Whatever is beyond 64 bits counts as the greatest integer. -/
lemma saturate_of_le {n : Int} (beyond : maxInt ≤ n) : saturate n = maxInt := by
  unfold saturate minInt maxInt at *
  rw [if_neg (by omega)]
  split <;> omega

lemma saturate_mono {m n : Int} (le : m ≤ n) : saturate m ≤ saturate n := by
  unfold saturate minInt maxInt
  grind

lemma saturate_pos {n : Int} (positive : 0 < n) : 0 < saturate n := by
  rcases Int.le_total maxInt n with beyond | fits
  · rw [saturate_of_le beyond]
    decide
  · rwa [saturate_eq (by unfold minInt; omega) fits]

/-! ## Ranges -/

/-- The saturated distance is divided by a step that is above zero, and no step leaves the range. -/
lemma rangeEstimate_eq (start stop : Int64) {step : Int64} (nonzero : step.toInt ≠ 0) :
    ∃ n, rangeEstimate start stop step = .ok n ∧
      n.toInt = Script.rangeEstimate start.toInt stop.toInt step.toInt := by
  have least := minInt_le step
  have greatest := le_maxInt step
  unfold rangeEstimate Script.rangeEstimate
  by_cases up : 0 < step.toInt
  · obtain ⟨below, lowered, exact⟩ := word_eq (n := step.toInt - 1) (by unfold minInt; omega) (by omega)
    have stepped : sub step 1 = .ok below := lowered
    rw [if_pos up, if_pos up, stepped, ← exact, ← toInt_saturated (stop.toInt - start.toInt),
      ← toInt_saturated (_ + _)]
    exact quot_eq nonzero (by omega)
  · obtain ⟨above, raised, exact⟩ := word_eq (n := step.toInt + 1) (by omega) (by unfold maxInt; omega)
    have stepped : add step 1 = .ok above := raised
    rw [if_neg up, if_neg up, stepped, ← exact, ← toInt_saturated (start.toInt - stop.toInt),
      ← toInt_saturated (_ - _), ← toInt_saturated (-step.toInt)]
    have positive : 0 < (saturated (-step.toInt)).toInt := by
      rw [toInt_saturated]
      exact saturate_pos (by omega)
    exact quot_eq (by omega) (by omega)

/-- The integers of a range are its start and the exact sums with multiples of the step. -/
lemma rangeFrom_toInt {stop step : Int64} (nonzero : step.toInt ≠ 0) (i : Int64) :
    (rangeFrom stop step i).map Int64.toInt =
      (List.range (rangeCount i.toInt stop.toInt step.toInt)).map fun (k : Nat) =>
        i.toInt + k * step.toInt := by
  generalize size : rangeCount i.toInt stop.toInt step.toInt = n
  induction n generalizing i with
  | zero =>
    rw [rangeFrom, if_neg]
    · rfl
    · intro within
      rw [rangeCount_succ within] at size
      cases size
  | succ n ih =>
    have within : Within stop step i := by
      apply Classical.byContradiction
      intro done
      rw [rangeCount_zero nonzero done] at size
      cases size
    have less := rangeCount_succ within
    rw [rangeFrom, if_pos within, List.map_cons, List.range_succ_eq_map, List.map_cons, List.map_map]
    congr 1
    · omega
    · split
      · next next found =>
        have exact := narrow?_eq_some found
        rw [ih next (by rw [exact]; omega), exact]
        apply List.map_congr_left
        intro k _
        simp only [Function.comp, Nat.succ_eq_add_one, Int.natCast_add, Int.natCast_one, Int.add_mul]
        omega
      · next beyond =>
        -- Behind a sum that leaves the range there is no integer before the stop.
        have done : ¬(0 < step.toInt ∧ i.toInt + step.toInt < stop.toInt ∨
            step.toInt < 0 ∧ stop.toInt < i.toInt + step.toInt) := by
          have least := minInt_le stop
          have greatest := le_maxInt stop
          have low := minInt_le i
          have high := le_maxInt i
          intro more
          obtain ⟨next, found, _⟩ := narrow?_of_range (n := i.toInt + step.toInt) (by omega) (by omega)
          rw [found] at beyond
          cases beyond
        obtain rfl : n = 0 := by
          rw [rangeCount_zero nonzero done] at less
          omega
        rfl

lemma rangeFrom_eq {stop step : Int64} (nonzero : step.toInt ≠ 0) (i : Int64) :
    rangeFrom stop step i =
      (List.range (rangeCount i.toInt stop.toInt step.toInt)).map fun (k : Nat) =>
        Int64.ofInt (i.toInt + k * step.toInt) := by
  have back : rangeFrom stop step i = ((rangeFrom stop step i).map Int64.toInt).map Int64.ofInt := by
    rw [List.map_map]
    exact (List.map_id'' Int64.ofInt_toInt _).symm
  rw [back, rangeFrom_toInt nonzero, List.map_map]
  rfl

section Hosted

variable [HostObject Obj]

/-- The arguments of `range()` decide on its bounds, and these on its items. -/
lemma rangeOf_eq (args : CallArgs Obj) : Script.rangeOf args = (do
    let (start, stop, step) ← rangeBounds args
    if step = 0 then throw (.typeMismatch "range() arg 3 must not be zero")
    else
      let estimate := Script.rangeEstimate start.toInt stop.toInt step.toInt
      if rangeLimit < estimate then
        throw (.host ("range() of " ++ toString estimate ++ " items exceeds the limit"))
      else return .list ((List.range (rangeCount start.toInt stop.toInt step.toInt)).map fun (k : Nat) =>
        .int (Int64.ofInt (start.toInt + k * step.toInt)))) := by
  unfold Script.rangeOf rangeBounds
  rcases args.positional with _ | ⟨first, _ | ⟨second, rest⟩⟩
  · rfl
  · cases integerArg args 0 "stop" "range" with
    | error reason => rfl
    | ok stop => rfl
  · cases integerArg args 0 "start" "range" with
    | error reason => rfl
    | ok start =>
      cases integerArg args 1 "stop" "range" with
      | error reason => rfl
      | ok stop =>
        by_cases two : (first :: second :: rest).length < 3
        · simp only [two, if_true]
          rfl
        · simp only [two, if_false]
          cases integerArg args 2 "step" "range" <;> rfl

/-- A range takes no step that leaves the range of integers. -/
lemma rangeOf_tries (args : CallArgs Obj) : Tries (rangeOf args) (Script.rangeOf args) := by
  rw [rangeOf_eq]
  refine .bind (.answer _) fun (start, stop, step) _ => ?_
  unfold rangeItems
  simp only
  by_cases zero : step = 0
  · rw [if_pos zero, if_pos zero]
    exact .fail _
  · have nonzero : step.toInt ≠ 0 := fun same => zero (Int64.toInt_inj.mp same)
    obtain ⟨n, estimated, exact⟩ := rangeEstimate_eq start stop nonzero
    rw [if_neg zero, if_neg zero, estimated, ← exact, rangeFrom_eq nonzero, List.map_map]
    refine .step (.done n) ?_
    split
    · exact .fail _
    · exact .done _

end Hosted

/-! ## Numbered items -/

/-- The counter of `enumerate()` is exact as long as it stays in the range. -/
lemma numberedFrom_meets (start : Int64) (done : Nat) (i : Int64) (items : List (Value Obj))
    (exact : i.toInt = start.toInt + done) :
    Meets (numberedFrom start done i items)
      (items.mapIdx fun k item => .list [.int (start + Int64.ofNat (done + k)), item]) := by
  induction items generalizing done i with
  | nil => exact .done []
  | cons item items ih =>
    have same : start + Int64.ofNat done = i := by
      rw [← Int64.ofInt_toInt start, ← Int64.ofInt_eq_ofNat, ← Int64.ofInt_add, ← exact, Int64.ofInt_toInt]
    unfold numberedFrom
    split
    · next next found =>
      refine .bind (ih (done + 1) next ?_) ?_
      · rw [narrow?_eq_some found, exact]
        omega
      · simp only [List.mapIdx_cons, Nat.add_zero, same, Nat.add_assoc, Nat.add_comm 1]
        exact .done _
    · next beyond =>
      have greatest := le_maxInt i
      have least := minInt_le i
      apply Classical.byContradiction
      intro inside
      have room : ¬maxInt < start.toInt + (done + 1 : Nat) := inside
      obtain ⟨next, found, _⟩ := narrow?_of_range (n := i.toInt + 1) (by omega) (by omega)
      rw [found] at beyond
      cases beyond

section Hosted

variable [HostObject Obj]

lemma enumerateOf_tries (args : CallArgs Obj) : Tries (enumerateOf args) (Script.enumerateOf args) := by
  unfold enumerateOf Script.enumerateOf
  refine .bind (.answer _) fun source _ => .bind (.answer _) fun items _ => ?_
  have numbers := numberedFrom_meets (((args.get? 1 "start").bind (·.asInt?)).getD 0) 0 _ items
    (Int.add_zero _).symm
  simp only [Nat.zero_add] at numbers
  exact .step numbers (.done _)

end Hosted

end Machine

end BranchingStory
