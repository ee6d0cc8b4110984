import BranchingStory.Proofs.Machine.Ranges
import BranchingStory.Proofs.Machine.Rows
import BranchingStory.Proofs.Machine.Truncation

/-!
# Functions and methods on a machine

A float becomes an integer only if it is small enough, a list of two has two items, and a random number is
drawn from a range that is not empty. A text is cut in front of a part that was found in it, and a list gives
away an item that it has.
-/

namespace BranchingStory

open Number Script

variable {Obj : Type}

/-- A computation of a machine that may draw random numbers and may fail. -/
abbrev DrawM := ExceptT EvalError (StateT Generator Steps)

namespace Machine

/-! ## Conversions -/

/-- The integer of 64 bits nearest to a finite float without its fraction. -/
def toWord (x : Float) : Int64 :=
  saturated (truncate x)

def integerOf (x : Float) : Trial (Value Obj) :=
  if x.isFinite && x.abs < integerBound then return .int (toWord x) else throw .overflow

def toInteger [HostObject Obj] (args : CallArgs Obj) : Trial (Value Obj) :=
  match args.positional.head? with
  | some (.float x) => integerOf x
  | _ => liftM (Script.toInteger args)

def rounded [HostObject Obj] (args : CallArgs Obj) : Trial (Value Obj) := do
  let value ← liftM (required args 0 "number" "round")
  let places ← liftM (roundPlaces args)
  match value, places with
  | .float x, none => integerOf (roundToEven x)
  | _, _ => liftM (Script.rounded args)

def lengthOf [HostObject Obj] (args : CallArgs Obj) : Trial (Value Obj) :=
  match args.get? 0 "obj" with
  | some (.str text) => return .int (← count text.length)
  | some (.list items) => return .int (← count items.length)
  | some (.dict fields) => return .int (← count fields.length)
  | _ => liftM (Script.lengthOf args)

/-! ## Sums -/

def addAll [HostObject Obj] (total : Value Obj) : List (Value Obj) → Trial (Value Obj)
  | [] => pure total
  | value :: values => do
    let total ← binary .add total value
    addAll total values

def sumOf [HostObject Obj] (args : CallArgs Obj) : Trial (Value Obj) := do
  let source ← liftM (required args 0 "iterable" "sum")
  let items ← liftM (iterate source)
  addAll ((args.get? 1 "start").getD (.int 0)) items

/-! ## Dictionaries -/

/-- The entry that a list of a key and a value stands for. -/
def pairEntry [HostObject Obj] (pair : Value Obj) : Trial (String × Value Obj) :=
  match pair with
  | .list parts =>
    if parts.length = 2 then do
      let first ← (fetch parts 0 : Steps (Value Obj))
      let key ← liftM (dictKey first)
      let value ← (fetch parts 1 : Steps (Value Obj))
      return (key, value)
    else throw (.typeMismatch "dict() needs key/value pairs")
  | _ => throw (.typeMismatch "dict() needs key/value pairs")

def pairEntries [HostObject Obj] : List (Value Obj) → Trial (List (String × Value Obj))
  | [] => pure []
  | pair :: pairs => do
    let entry ← pairEntry pair
    let entries ← pairEntries pairs
    return entry :: entries

def toDict [HostObject Obj] (args : CallArgs Obj) : Trial (Value Obj) := do
  let fields ←
    match args.positional.head? with
    | none => pure []
    | some (.dict fields) => pure fields
    | some source => do
      let pairs ← liftM (iterate source)
      pairEntries pairs
  return .dict (Assoc.merge (Assoc.ofEntries fields) args.named)

/-! ## Random numbers -/

/-- Draws an integer between two others, both included. -/
def drawBetween (low high : Int64) : StateT Generator Steps (Value Obj) := fun g =>
  if high < low then .error .emptyRange
  else
    let (i, g) := g.between low high
    .ok (.int i, g)

/-- Draws one of the items of a row. -/
def drawItem (items : List (Value Obj)) : StateT Generator Steps (Value Obj) := fun g =>
  if items.length = 0 then .error .emptyRange
  else do
    let (place, g) := g.below items.length
    let item ← fetch items place
    return (item, g)

def randomInt [HostObject Obj] (args : CallArgs Obj) : DrawM (Value Obj) := do
  let low ← liftM (integerArg args 0 "a" "random_int")
  let high ← liftM (integerArg args 1 "b" "random_int")
  if high < low then
    throw (.host ("random_int(" ++ toString low.toInt ++ ", " ++ toString high.toInt ++
      "): empty range"))
  drawBetween low high

def randomChoice [HostObject Obj] (args : CallArgs Obj) : DrawM (Value Obj) := do
  let source ← liftM (required args 0 "seq" "random_choice")
  let items ← liftM (iterate source)
  if items.isEmpty then throw (.badIndex "cannot choose from an empty sequence")
  drawItem items

/-- An answer for which no random number is drawn. -/
def certain (trial : Trial (Value Obj)) : DrawM (Value Obj) :=
  fun g => do
    let answer ← trial.run
    return (answer, g)

/-- The answer of a function that takes no step of its own. -/
def drawn (drawing : Except EvalError (Drawing (Value Obj))) (g : Generator) :
    Except EvalError (Value Obj) × Generator :=
  match drawing with
  | .ok drawing => let (value, g) := drawing g; (.ok value, g)
  | .error reason => (.error reason, g)

def apply [HostObject Obj] (function : Function) (args : CallArgs Obj) : DrawM (Value Obj) :=
  match function with
  | .dict => certain (toDict args)
  | .enumerate => certain (enumerateOf args)
  | .int => certain (toInteger args)
  | .len => certain (lengthOf args)
  | .randomChoice => randomChoice args
  | .randomInt => randomInt args
  | .range => certain (rangeOf args)
  | .round => certain (rounded args)
  | .sum => certain (sumOf args)
  | function => fun g => .ok (drawn (function.apply args) g)

/-! ## Methods -/

/-- The number of characters in front of the first occurrence of a part, which is found in bytes. -/
def findText [HostObject Obj] (text : String) (args : CallArgs Obj) : Trial (Value Obj) := do
  let part ← liftM (textArg args 0 "sub" "find")
  match Text.cutAt? part.toList text.toList with
  | some (before, _) => do
    let piece ← (cut 0 (Text.byteLength before) text.toList : Steps (List Char))
    return .int (← count piece.length)
  | none => return .int (-1)

def textMethod [HostObject Obj] (text method : String) (args : CallArgs Obj) : Trial (Value Obj) :=
  if method = "find" then findText text args else liftM (Script.textMethod text method args)

/-- The item that a list gives away, and the items that stay. -/
def popFrom [HostObject Obj] (items : List (Value Obj)) (args : CallArgs Obj) :
    Steps (Except EvalError (Value Obj) × List (Value Obj)) := do
  match ← (popPosition args items.length).run with
  | .ok place =>
    let item ← (fetch items place : Steps (Value Obj))
    return (.ok item, items.eraseIdx place)
  | .error reason => return (.error reason, items)

def callMethod [HostObject Obj] (receiver : Value Obj) (method : String) (args : CallArgs Obj) :
    Steps (Except EvalError (Value Obj) × Value Obj) :=
  match receiver with
  | .str text => do
    let answer ← (textMethod text method args).run
    return (answer, receiver)
  | .list items =>
    if method = "pop" then do
      let (answer, items) ← popFrom items args
      return (answer, .list items)
    else return Script.callMethod receiver method args
  | receiver => return Script.callMethod receiver method args

/-! ## Conversions meet what is wanted -/

/-- A float that is small enough becomes the integer without its fraction. -/
lemma integerOf_tries (x : Float) : Tries (integerOf x : Trial (Value Obj)) (Script.integerOf x) := by
  unfold integerOf Script.integerOf
  split
  · next small =>
    rw [Bool.and_eq_true, decide_eq_true_eq] at small
    obtain ⟨least, greatest⟩ := truncate_range small.1 small.2
    have exact : (toWord x).toInt = truncate x :=
      (toInt_saturated (truncate x)).trans (saturate_eq least greatest)
    rw [exactInt_eq exact]
    exact .done _
  · exact .fail _

section Hosted

variable [HostObject Obj]

lemma toInteger_tries (args : CallArgs Obj) : Tries (toInteger args) (Script.toInteger args) := by
  unfold toInteger
  split
  · next x given =>
    unfold Script.toInteger
    rw [given]
    exact integerOf_tries x
  · exact .answer _

lemma rounded_tries (args : CallArgs Obj) : Tries (rounded args) (Script.rounded args) := by
  have whole : Script.rounded args = (do
      let value ← required args 0 "number" "round"
      let places ← roundPlaces args
      match value, places with
      | .float x, none => Script.integerOf (roundToEven x)
      | _, _ => Script.rounded args) := by
    unfold Script.rounded
    cases required args 0 "number" "round" with
    | error reason => rfl
    | ok value =>
      cases roundPlaces args with
      | error reason => rfl
      | ok places => cases value <;> cases places <;> rfl
  rw [whole]
  refine .bind (.answer _) fun value _ => .bind (.answer _) fun places _ => ?_
  split
  · exact integerOf_tries _
  · exact .answer _

omit [HostObject Obj] in
lemma count_tries (length : Nat) :
    Tries (do return .int (← count length) : Trial (Value Obj)) (exactInt length) := by
  rcases count_cases length with ⟨n, counted, exact⟩ | ⟨counted, beyond⟩
  · rw [counted, exactInt_eq exact]
    exact .done _
  · rw [counted]
    exact beyond

lemma lengthOf_tries (args : CallArgs Obj) : Tries (lengthOf args) (Script.lengthOf args) := by
  unfold lengthOf
  split
  · next given =>
    unfold Script.lengthOf required
    rw [given]
    exact count_tries _
  · next given =>
    unfold Script.lengthOf required
    rw [given]
    exact count_tries _
  · next given =>
    unfold Script.lengthOf required
    rw [given]
    exact count_tries _
  · exact .answer _

lemma addAll_tries (total : Value Obj) (values : List (Value Obj)) :
    Tries (addAll total values) (Script.addAll total values) := by
  induction values generalizing total with
  | nil => exact .done total
  | cons value values ih =>
    have whole : Script.addAll total (value :: values) =
        Script.binary .add total value >>= (Script.addAll · values) := by
      rw [Script.addAll]
      cases Script.binary .add total value <;> rfl
    rw [whole]
    exact .bind (binary_tries _ _ _) fun total _ => ih total

lemma sumOf_tries (args : CallArgs Obj) : Tries (sumOf args) (Script.sumOf args) := by
  unfold sumOf Script.sumOf
  refine .bind (.answer _) fun source _ => .bind (.answer _) fun items _ => ?_
  exact addAll_tries _ _

/-- A list of two has the items that are read. -/
lemma pairEntry_tries (pair : Value Obj) : Tries (pairEntry pair) (Script.pairEntry pair) := by
  cases pair with
  | list parts =>
    rcases parts with _ | ⟨first, _ | ⟨second, _ | ⟨third, rest⟩⟩⟩
    · exact .fail _
    · exact .fail _
    · refine .step (.done first) ?_
      exact .bindMap (.answer _) fun key _ => .step (.done second) (.done _)
    · have more : ¬(first :: second :: third :: rest).length = 2 := by
        simp only [List.length_cons]
        omega
      simp only [pairEntry, if_neg more]
      exact .fail _
  | _ => exact .fail _

lemma pairEntries_tries (pairs : List (Value Obj)) :
    Tries (pairEntries pairs) (pairs.mapM Script.pairEntry) := by
  induction pairs with
  | nil => exact .done []
  | cons pair pairs ih =>
    rw [List.mapM_cons]
    exact .bind (pairEntry_tries pair) fun entry _ => .bind ih fun entries _ => .done _

lemma toDict_tries (args : CallArgs Obj) : Tries (toDict args) (Script.toDict args) := by
  unfold toDict Script.toDict
  cases args.positional.head? with
  | none => exact .done _
  | some source =>
    cases source with
    | dict fields => exact .done _
    | _ => exact .bind (.answer _) fun pairs _ => .bind (pairEntries_tries pairs) fun fields _ => .done _

end Hosted

end Machine

/-! ## Draws -/

namespace Generator

/-- A number that is drawn from a range lies in it, whatever word decides. -/
lemma drawBelow_lt {range : Nat} (some : 0 < range) (zone fuel : Nat) (g : Generator) :
    (drawBelow range zone fuel g).1 < range := by
  induction fuel generalizing g with
  | zero => exact some
  | succ fuel ih =>
    simp only [drawBelow]
    split
    · refine Nat.div_lt_of_lt_mul ?_
      exact Nat.mul_lt_mul_of_pos_right (UInt64.toNat_lt _) some
    · exact ih _

lemma below_lt {range : Nat} (some : 0 < range) (g : Generator) : (g.below range).1 < range :=
  drawBelow_lt some _ _ g

end Generator

namespace Machine

/-- Whatever generator it starts from, a machine comes to the answer of a drawing. -/
def Draws (m : DrawM (Value Obj)) (drawing : Except EvalError (Drawing (Value Obj))) : Prop :=
  ∀ g, Meets (m.run g) (drawn drawing g)

namespace Draws

lemma fail (reason : EvalError) : Draws (throw reason : DrawM (Value Obj)) (.error reason) :=
  fun _ => rfl

/-- Behind an answer for which nothing is drawn. -/
lemma bind {α : Type} {answer : Except EvalError α} {next : α → DrawM (Value Obj)}
    {drawing : α → Except EvalError (Drawing (Value Obj))}
    (rest : ∀ a, answer = .ok a → Draws (next a) (drawing a)) :
    Draws (liftM answer >>= next) (answer >>= drawing) := by
  cases answer with
  | error reason => exact fun _ => rfl
  | ok a => exact rest a rfl

lemma draw {m : StateT Generator Steps (Value Obj)} {drawing : Drawing (Value Obj)}
    (meets : ∀ g, Meets (m g) (drawing g)) : Draws (liftM m) (.ok drawing) := by
  intro g
  change Meets (m g >>= fun drawn => pure (Except.ok drawn.1, drawn.2)) _
  exact .bind (meets g) (.done _)

end Draws

lemma drawBetween_meets {low high : Int64} (order : ¬high < low) (g : Generator) :
    Meets (drawBetween low high g : Steps (Value Obj × Generator))
      ((.int (g.between low high).1, (g.between low high).2)) := by
  unfold drawBetween
  rw [if_neg order]
  rfl

lemma drawItem_meets {items : List (Value Obj)} (some : items.length ≠ 0) (g : Generator) :
    Meets (drawItem items g) (itemAt items (g.below items.length).1, (g.below items.length).2) := by
  have inside := Generator.below_lt (Nat.pos_of_ne_zero some) g
  unfold drawItem
  rw [if_neg some, itemAt_eq inside]
  exact .bind (fetch_meets inside) (.done _)

lemma certain_draws {trial : Trial (Value Obj)} {answer : Except EvalError (Value Obj)}
    (tries : Tries trial answer) : Draws (certain trial) (Script.certain answer) := by
  intro g
  refine .bind tries ?_
  cases answer <;> rfl

section Hosted

variable [HostObject Obj]

lemma randomInt_draws (args : CallArgs Obj) : Draws (randomInt args) (Script.randomInt args) := by
  unfold randomInt Script.randomInt
  refine .bind fun low _ => .bind fun high _ => ?_
  split
  · exact .fail _
  · next order => exact .draw (drawBetween_meets order)

lemma randomChoice_draws (args : CallArgs Obj) : Draws (randomChoice args) (Script.randomChoice args) := by
  unfold randomChoice Script.randomChoice
  refine .bind fun source _ => .bind fun items _ => ?_
  split
  · exact .fail _
  · next some =>
    rw [List.isEmpty_iff_length_eq_zero] at some
    exact .draw (drawItem_meets some)

/-- A function of a story takes no step that leaves the range, but for the counter of `enumerate()`. -/
lemma apply_draws (function : Function) (args : CallArgs Obj) :
    Draws (apply function args) (function.apply args) := by
  cases function with
  | dict => exact certain_draws (toDict_tries args)
  | enumerate => exact certain_draws (enumerateOf_tries args)
  | int => exact certain_draws (toInteger_tries args)
  | len => exact certain_draws (lengthOf_tries args)
  | randomChoice => exact randomChoice_draws args
  | randomInt => exact randomInt_draws args
  | range => exact certain_draws (rangeOf_tries args)
  | round => exact certain_draws (rounded_tries args)
  | sum => exact certain_draws (sumOf_tries args)
  | _ => exact fun _ => rfl

/-! ## Methods -/

lemma findText_tries (text : String) (args : CallArgs Obj) :
    Tries (findText text args) (Script.textMethod text "find" args) := by
  refine .bind (.answer _) fun part _ => ?_
  cases found : Text.cutAt? part.toList text.toList with
  | none => exact .done _
  | some cutting =>
    obtain ⟨before, behind⟩ := cutting
    have whole := Source.cutAt?_split found
    have piece : cut 0 (Text.byteLength before) text.toList = .ok before := by
      unfold cut
      rw [whole, Source.slice?_front]
    simp only [piece]
    exact .step (.done before) (count_tries _)

lemma textMethod_tries (text method : String) (args : CallArgs Obj) :
    Tries (textMethod text method args) (Script.textMethod text method args) := by
  unfold textMethod
  split
  · next named =>
    subst named
    exact findText_tries text args
  · exact .answer _

lemma popFrom_meets (items : List (Value Obj)) (args : CallArgs Obj) :
    Meets (popFrom items args) (Script.listMethod items "pop" args) := by
  refine .bind (popPosition_tries args items.length) ?_
  simp only [Script.listMethod]
  cases found : Script.popPosition args items.length with
  | error reason => exact .done _
  | ok place =>
    have inside := popPosition_lt found
    simp only [itemAt_eq inside]
    exact .bind (fetch_meets inside) (.done _)

/-- A method takes no step that leaves the range, and reads no item that is not there. -/
lemma callMethod_meets (receiver : Value Obj) (method : String) (args : CallArgs Obj) :
    Meets (callMethod receiver method args) (Script.callMethod receiver method args) := by
  unfold callMethod
  split
  · next text => exact .bind (textMethod_tries text method args) (.done _)
  · next items =>
    split
    · next named =>
      subst named
      exact .bind (popFrom_meets items args) (.done _)
    · exact .done _
  · exact .done _

end Hosted

end Machine

end BranchingStory
