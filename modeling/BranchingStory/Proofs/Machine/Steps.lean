import Mathlib.Tactic.Lemma
import BranchingStory.Proofs.Bounded
import BranchingStory.Proofs.Script.Computation

/-!
# The steps of a machine

A machine calculates with integers of 64 bits and reads rows by position. It halts where a step has no
result: where a sum leaves the range, a divisor is zero, or a row has no item at a position. What a
machine does meets what is wanted if it comes to the same answer, or halts for one of two reasons that
lie outside of a program: a counter is pushed beyond the greatest integer, or a row has more items than
an integer can count, which no memory holds.
-/

namespace BranchingStory

open Number Script

/-- Why a machine cannot go on. -/
inductive Halt where
  /-- The result of a step is no integer of 64 bits. -/
  | overflow
  | zeroDivision
  | outOfBounds
  /-- A number is to be drawn from a range without numbers. -/
  | emptyRange
  /-- A counter that began at `start` is moved on behind its number `count`. -/
  | counter (start : Int64) (count : Nat)
  /-- The items of a row are to be counted with an integer of 64 bits. -/
  | memory (length : Nat)

/-- A halt for a reason that lies outside of a program. -/
def Halt.Admitted : Halt → Prop
  | .counter start count => maxInt < start.toInt + count
  | .memory length => maxInt < length
  | .overflow | .zeroDivision | .outOfBounds | .emptyRange => False

/-- What a machine does: a result, or the reason for which it halts. -/
abbrev Steps := Except Halt

/-- Steps of a machine for something that may fail without halting it. -/
abbrev Trial := ExceptT EvalError Steps

/-- A computation of a machine in a scope. -/
abbrev MachineM (Obj : Type) := ExceptT EvalError (StateT (Scope Obj) Steps)

/-- A machine comes to a result, if it does not halt for an admitted reason. -/
def Meets {α : Type} (steps : Steps α) (a : α) : Prop :=
  match steps with
  | .ok b => b = a
  | .error halt => halt.Admitted

/-- A machine comes to the answer or failure of a computation. -/
def Tries {α : Type} (trial : Trial α) (answer : Except EvalError α) : Prop :=
  Meets trial.run answer

/-- In every scope a machine comes to what a computation leaves of it and answers. -/
def Follows {Obj α : Type} (m : MachineM Obj α) (computation : EvalM Obj α) : Prop :=
  ∀ s, Meets (m.run s) (computation.run s)

section Answers

variable {α β : Type}

lemma Meets.done (a : α) : Meets (pure a) a :=
  rfl

lemma Meets.bind {m : Steps α} {next : α → Steps β} {a : α} {b : β} (first : Meets m a)
    (rest : Meets (next a) b) : Meets (m >>= next) b := by
  cases m with
  | ok a' =>
    cases first
    exact rest
  | error halt => exact first

namespace Tries

lemma of_run {trial : Trial α} {answer : Except EvalError α} (run : trial.run = .ok answer) :
    Tries trial answer := by
  unfold Tries
  rw [run]
  exact .done answer

lemma answer (a : Except EvalError α) : Tries (liftM a) a := by
  cases a <;> rfl

lemma done (a : α) : Tries (pure a) (pure a) :=
  rfl

lemma fail (reason : EvalError) : Tries (throw reason : Trial α) (.error reason) :=
  rfl

lemma lift {m : Steps α} {a : α} (meets : Meets m a) : Tries (liftM m) (.ok a) := by
  cases m with
  | ok a' =>
    cases meets
    rfl
  | error halt => exact meets

/-- A step of a machine in front of what may fail. -/
lemma step {m : Steps α} {next : α → Trial β} {a : α} {answer : Except EvalError β} (first : Meets m a)
    (rest : Tries (next a) answer) : Tries (liftM m >>= next) answer := by
  cases m with
  | ok a' =>
    cases first
    exact rest
  | error halt => exact first

lemma bind {m : Trial α} {next : α → Trial β} {answer : Except EvalError α}
    {then' : α → Except EvalError β} (first : Tries m answer)
    (rest : ∀ a, answer = .ok a → Tries (next a) (then' a)) : Tries (m >>= next) (answer >>= then') := by
  rcases m with halt | answer'
  · exact first
  · cases first
    cases answer with
    | error reason => rfl
    | ok a => exact rest a rfl

/-- Behind what may fail the machine goes on to what is made of its answer. -/
lemma bindMap {m : Trial α} {next : α → Trial β} {answer : Except EvalError α} {f : α → β}
    (first : Tries m answer) (rest : ∀ a, answer = .ok a → Tries (next a) (.ok (f a))) :
    Tries (m >>= next) (answer.map f) := by
  rcases m with halt | answer'
  · exact first
  · cases first
    cases answer with
    | error reason => rfl
    | ok a => exact rest a rfl

lemma map {m : Trial α} {answer : Except EvalError α} (first : Tries m answer) (f : α → β) :
    Tries (m >>= fun a => pure (f a)) (answer.map f) :=
  first.bindMap fun a _ => .done (f a)

end Tries

end Answers

namespace Machine

/-- The integer of 64 bits that a step comes to. -/
def word (n : Int) : Steps Int64 :=
  match narrow? n with
  | some i => .ok i
  | none => .error .overflow

def add (x y : Int64) : Steps Int64 :=
  word (x.toInt + y.toInt)

def sub (x y : Int64) : Steps Int64 :=
  word (x.toInt - y.toInt)

/-- The quotient that is rounded toward zero. -/
def quot (x y : Int64) : Steps Int64 :=
  if y.toInt = 0 then .error .zeroDivision else word (x.toInt.tdiv y.toInt)

/-- The remainder that a checked division leaves. As the quotient it has none for the least integer and
minus one. -/
def checkedRem? (x y : Int64) : Option Int64 :=
  if x.toInt = minInt ∧ y.toInt = -1 then none else narrow? (x.toInt.tmod y.toInt)

def rem (x y : Int64) : Steps Int64 :=
  if y.toInt = 0 then .error .zeroDivision
  else
    match checkedRem? x y with
    | some r => .ok r
    | none => .error .overflow

/-- The number of items of a row as an integer of 64 bits. -/
def count (length : Nat) : Steps Int64 :=
  match narrow? length with
  | some i => .ok i
  | none => .error (.memory length)

/-- The position in a row that an integer is read as: one below zero lies far behind every row. -/
def asPosition (i : Int64) : Nat :=
  i.toUInt64.toNat

def fetch {α : Type} (row : List α) (place : Nat) : Steps α :=
  match row[place]? with
  | some item => .ok item
  | none => .error .outOfBounds

/-- The items of a row between two positions. -/
def part {α : Type} (row : List α) (low high : Nat) : Steps (List α) :=
  if low ≤ high ∧ high ≤ row.length then .ok ((row.drop low).take (high - low))
  else .error .outOfBounds

variable {α : Type}

lemma word_eq {n : Int} (least : minInt ≤ n) (greatest : n ≤ maxInt) :
    ∃ i, word n = .ok i ∧ i.toInt = n := by
  obtain ⟨i, found, exact⟩ := narrow?_of_range least greatest
  refine ⟨i, ?_, exact⟩
  unfold word
  rw [found]

/-- The items of a row are counted, or there are more of them than any memory holds. -/
lemma count_cases (length : Nat) :
    (∃ i, count length = .ok i ∧ i.toInt = length) ∨
      count length = .error (.memory length) ∧ maxInt < (length : Int) := by
  unfold count
  by_cases holds : (length : Int) ≤ maxInt
  · obtain ⟨i, found, exact⟩ := narrow?_of_range (n := length) (by unfold minInt; omega) holds
    exact .inl ⟨i, by rw [found], exact⟩
  · have none : narrow? (length : Int) = Option.none := if_neg fun range => holds range.2
    exact .inr ⟨by rw [none], by omega⟩

lemma asPosition_eq {i : Int64} (least : 0 ≤ i.toInt) : asPosition i = i.toInt.toNat := by
  change i.toBitVec.toNat = i.toBitVec.toInt.toNat
  have nonnegative : 0 ≤ i.toBitVec.toInt := least
  rw [BitVec.toInt_eq_toNat_cond] at nonnegative ⊢
  split at nonnegative <;> omega

lemma liftM_ok_bind {β : Type} (a : α) (next : α → Trial β) :
    liftM (Except.ok a : Steps α) >>= next = next a :=
  rfl

lemma fetch_eq {row : List α} {place : Nat} (inside : place < row.length) :
    fetch row place = .ok row[place] := by
  unfold fetch
  rw [List.getElem?_eq_getElem inside]

lemma fetch_meets {row : List α} {place : Nat} (inside : place < row.length) :
    Meets (fetch row place) row[place] := by
  rw [fetch_eq inside]
  exact .done _

lemma part_eq {row : List α} {low high : Nat} (order : low ≤ high) (inside : high ≤ row.length) :
    part row low high = .ok ((row.drop low).take (high - low)) :=
  if_pos ⟨order, inside⟩

end Machine

end BranchingStory
