import BranchingStory.Proofs.Machine.Rows
import BranchingStory.Proofs.Script.Slots

/-!
# Indices and slices

Lists and texts are rows: of values, and of characters. An index stands for one element of a row and a slice
for the elements between two bounds, and both count from the end of the row if they are negative. The two
agree: the element under an index stands behind the slice up to the index and in front of what else the slice
from the index on has, and a list that gives it away is left with what stands around it.
-/

namespace BranchingStory

namespace Script

variable {Obj α : Type}

/-! ## Runs of a row -/

/-- The position in a row that the bound of a slice is limited to. -/
def clamp (length : Nat) (bound : Int) : Int :=
  max 0 (min length (if bound < 0 then bound + length else bound))

/-- The position in a row that a bound is limited to, and one of the ends if it is left out. -/
def endpoint (length : Nat) (default : Int) : Option Int64 → Int
  | none => default
  | some bound => clamp length bound.toInt

/-- Whether elements are those of a row from one position up to another; there are none if the positions
cross. -/
inductive IsRun (row : List α) (low high : Int) : List α → Prop where
  | between (before run after : List α) (cut : row = before ++ run ++ after) (first : before.length = low)
    (last : (before ++ run).length = high) : IsRun row low high run
  | crossed (crossed : high < low) : IsRun row low high []

section Runs

variable {row run run' : List α} {low high bound : Int}

/-- There is one run between two positions. -/
lemma IsRun.unique (first : IsRun row low high run) (second : IsRun row low high run') : run = run' := by
  cases first with
  | between before _ after cut starts ends =>
    cases second with
    | between before' _ after' cut' starts' ends' =>
      have fronts : before.length = before'.length := by omega
      have runs : (before ++ run).length = (before' ++ run').length := by omega
      have same := (List.append_inj (cut.symm.trans cut') runs).1
      exact (List.append_inj same fronts).2
    | crossed crossed =>
      rw [List.length_append] at ends
      omega
  | crossed crossed =>
    cases second with
    | between before' _ after' cut' starts' ends' =>
      rw [List.length_append] at ends'
      omega
    | crossed => rfl

/-- What two positions inside of a row cut out of it is a run. -/
lemma isRun_drop_take {low high : Nat} (inside : low ≤ row.length) (inside' : high ≤ row.length) :
    IsRun row low high ((row.drop low).take (high - low)) := by
  rcases Nat.lt_or_ge high low with crossed | order
  · rw [Nat.sub_eq_zero_of_le (Nat.le_of_lt crossed), List.take_zero]
    exact .crossed (by omega)
  · have whole : low + (high - low) = high := Nat.add_sub_cancel' order
    refine .between (row.take low) _ (row.drop high) ?_ ?_ ?_
    · rw [← List.take_add, whole, List.take_append_drop]
    · rw [List.length_take, Nat.min_eq_left inside]
    · rw [← List.take_add, whole, List.length_take, Nat.min_eq_left inside']

lemma clampBound_eq (bound : Int) (length : Nat) : (clampBound bound length : Int) = clamp length bound := by
  unfold clampBound clamp
  split <;> omega

/-- An index stands for the position that it has as the bound of a slice, if it is inside of the row. -/
lemma position?_eq_some {length place : Nat} : position? bound length = some place ↔
    -length ≤ bound ∧ bound < length ∧ place = clamp length bound := by
  unfold position? clamp
  simp only [Option.ite_none_right_eq_some, Option.some.injEq]
  split <;> omega

lemma position?_eq_none {length : Nat} :
    position? bound length = none ↔ ¬(-length ≤ bound ∧ bound < length) := by
  unfold position?
  simp only [ite_eq_right_iff, reduceCtorEq, imp_false]
  split <;> omega

/-- A bound cuts a row in two runs. -/
lemma exists_cut (row : List α) (bound : Int) :
    ∃ front back, row = front ++ back ∧ front.length = clamp row.length bound ∧
      IsRun row 0 (clamp row.length bound) front ∧ IsRun row (clamp row.length bound) row.length back := by
  have cut := List.take_append_drop (clampBound bound row.length) row
  have place : (row.take (clampBound bound row.length)).length = clamp row.length bound := by
    rw [List.length_take, Nat.min_eq_left (clampBound_le bound row.length), clampBound_eq]
  refine ⟨_, _, cut.symm, place, .between [] _ _ cut.symm rfl place, .between _ _ [] ?_ place ?_⟩
  · rw [cut, List.append_nil]
  · rw [cut]

/-- An index inside of a row stands for the element behind the cut at the index. -/
lemma exists_element (low : -row.length ≤ bound) (high : bound < row.length) :
    ∃ front x back, row = front ++ x :: back ∧ position? bound row.length = some front.length ∧
      IsRun row 0 (clamp row.length bound) front ∧
      IsRun row (clamp row.length bound) row.length (x :: back) := by
  obtain ⟨front, back, cut, place, before, behind⟩ := exists_cut row bound
  have found : position? bound row.length = some front.length := position?_eq_some.mpr ⟨low, high, place⟩
  cases back with
  | nil =>
    have inside := position?_lt found
    rw [cut, List.append_nil] at inside
    exact absurd inside (Nat.lt_irrefl _)
  | cons x back => exact ⟨front, x, back, cut, found, before, behind⟩

end Runs

/-! ## Bounds of slices -/

section Bounds

/-- The value that a bound is given to a slice as. -/
def boundValue (bound : Option Int64) : Value Obj :=
  bound.elim .none .int

lemma exists_sliceBound (Obj : Type) (bound : Option Int64) {length default : Nat} (inside : default ≤ length) :
    ∃ place, sliceBound (boundValue bound : Value Obj) length default = .ok place ∧ place ≤ length ∧
      place = endpoint length default bound := by
  cases bound with
  | none => exact ⟨default, rfl, inside, rfl⟩
  | some i => exact ⟨clampBound i.toInt length, rfl, clampBound_le i.toInt length, clampBound_eq i.toInt length⟩

/-- A slice is the run between its bounds. -/
lemma exists_sliceRow (Obj : Type) (row : List α) (low high : Option Int64) :
    ∃ run, sliceRow row (boundValue low : Value Obj) (boundValue high) = .ok run ∧
      IsRun row (endpoint row.length 0 low) (endpoint row.length row.length high) run := by
  obtain ⟨first, found, inside, place⟩ := exists_sliceBound Obj low (Nat.zero_le row.length)
  obtain ⟨last, found', inside', place'⟩ := exists_sliceBound Obj high (Nat.le_refl row.length)
  have isRun := isRun_drop_take inside inside'
  rw [place, place'] at isRun
  refine ⟨_, ?_, isRun⟩
  rw [sliceRow, found, found']
  rfl

end Bounds

/-! ## Values that are rows -/

lemma itemAt_append (front : List (Value Obj)) (x : Value Obj) (back : List (Value Obj)) :
    itemAt (front ++ x :: back) front.length = x := by
  have inside : front.length < (front ++ x :: back).length := by
    rw [List.length_append, List.length_cons]
    omega
  rw [itemAt_eq inside, List.getElem_of_append rfl rfl]

/-- The values that are rows of elements. -/
inductive RowKind where
  | list
  | text

namespace RowKind

/-- The elements of a row: a list has values, a text has characters. -/
abbrev Element (Obj : Type) : RowKind → Type
  | list => Value Obj
  | text => Char

/-- The value that a row of elements makes up. -/
def whole : (kind : RowKind) → List (kind.Element Obj) → Value Obj
  | list, items => .list items
  | text, cs => .str (String.ofList cs)

/-- The value that an element is by itself: a character is a text. -/
def single : (kind : RowKind) → kind.Element Obj → Value Obj
  | list, item => item
  | text, c => .str (String.ofList [c])

variable [HostObject Obj] {kind : RowKind} {row front back : List (kind.Element Obj)} {x : kind.Element Obj}
  {i : Int64}

lemma slice_whole (row : List (kind.Element Obj)) (start stop : Value Obj) :
    slice (kind.whole row) start stop = (sliceRow row start stop).map kind.whole := by
  cases kind with
  | list => rfl
  | text =>
    simp only [whole, slice, String.toList_ofList]
    rfl

lemma add_whole (front back : List (kind.Element Obj)) :
    binary .add (kind.whole front) (kind.whole back) = .ok (kind.whole (front ++ back)) := by
  cases kind with
  | list => rfl
  | text => simp only [whole, binary, String.ofList_append]

/-- The element at the position that an index stands for is the one under the index. -/
lemma item_whole (found : position? i.toInt (front ++ x :: back).length = some front.length) :
    item (kind.whole (front ++ x :: back)) (.int i) = .ok (kind.single x) := by
  have placed : position (.int i : Value Obj) (front ++ x :: back).length = .ok front.length := by
    simp only [position, Value.asInt?, found]
  cases kind with
  | list => simp only [whole, item, placed, Except.map, single, itemAt_append]
  | text =>
    simp only [whole, item, String.toList_ofList, placed, Except.map, single, List.drop_left]
    rfl

lemma item_whole_of_none (missing : position? i.toInt row.length = none) :
    item (kind.whole row) (.int i) =
      .error (.badIndex ("index " ++ toString i.toInt ++ " out of range")) := by
  have refused : position (.int i : Value Obj) row.length =
      .error (.badIndex ("index " ++ toString i.toInt ++ " out of range")) := by
    simp only [position, Value.asInt?, missing]
  cases kind with
  | list => simp only [whole, item, refused, Except.map]
  | text => simp only [whole, item, String.toList_ofList, refused, Except.map]

end RowKind

section Items

variable {items front back : List (Value Obj)} {x : Value Obj} {i : Int64}

lemma popPosition_int (i : Int64) (length : Nat) :
    popPosition (⟨[.int i], []⟩ : CallArgs Obj) length =
      if length = 0 then .error (.badIndex "pop from empty list")
      else
        match position? i.toInt length with
        | some place => .ok place
        | none => .error (.badIndex "pop index out of range") :=
  rfl

variable [HostObject Obj]

/-- A list gives the element under an index away. -/
lemma pop_list (found : position? i.toInt (front ++ x :: back).length = some front.length) :
    callMethod (.list (front ++ x :: back)) "pop" ⟨[.int i], []⟩ = (.ok x, .list (front ++ back)) := by
  have inside := position?_lt found
  have placed : popPosition (⟨[.int i], []⟩ : CallArgs Obj) (front ++ x :: back).length = .ok front.length := by
    rw [popPosition_int, if_neg (Nat.ne_zero_of_lt inside), found]
  simp only [callMethod, listMethod, placed, itemAt_append, Nat.sub_self, List.eraseIdx_cons_zero,
    List.eraseIdx_append_of_length_le (Nat.le_refl front.length)]

/-- A list is left as it is if there is no element under an index. -/
lemma pop_list_of_none (missing : position? i.toInt items.length = none) :
    callMethod (.list items) "pop" ⟨[.int i], []⟩ =
      (.error (.badIndex (if items = [] then "pop from empty list" else "pop index out of range")),
        .list items) := by
  have refused : popPosition (⟨[.int i], []⟩ : CallArgs Obj) items.length =
      .error (.badIndex (if items = [] then "pop from empty list" else "pop index out of range")) := by
    rw [popPosition_int, missing]
    cases items <;> rfl
  simp only [callMethod, listMethod, refused]

end Items

/-! ## Evaluation -/

/-- The bound of a slice is left out, or it comes to an integer. -/
inductive IsBound [HostObject Obj] (s : Scope Obj) : Option Expr → Option Int64 → Prop where
  | omitted : IsBound s none none
  | given {e : Expr} {i : Int64} (came : eval e s = (.ok (.int i), s)) : IsBound s (some e) (some i)

section Evaluation

variable [HostObject Obj] {s : Scope Obj} {left right : Expr}

lemma eval_binary {op : BinaryOp} {v w : Value Obj} (came : eval left s = (.ok v, s))
    (came' : eval right s = (.ok w, s)) : eval (.binary op left right) s = (binary op v w, s) := by
  simp only [eval, bind_apply, came, came']
  rfl

lemma eval_index {v k : Value Obj} (came : eval left s = (.ok v, s)) (came' : eval right s = (.ok k, s)) :
    eval (.index left right) s = (item v k, s) := by
  simp only [eval, bind_apply, came, came']
  rfl

lemma IsBound.evalBound_eq {bound : Option Expr} {a : Option Int64} (isBound : IsBound s bound a) :
    evalBound bound s = (.ok (boundValue a), s) := by
  cases isBound with
  | omitted => rfl
  | given came => exact came

variable {kind : RowKind} {row : List (kind.Element Obj)} {xs : Expr} {start stop : Option Expr}
  {low high : Option Int64}

/-- A slice of a row comes to the run between its bounds. -/
lemma exists_slice (held : eval xs s = (.ok (kind.whole row), s)) (ofStart : IsBound s start low)
    (ofStop : IsBound s stop high) :
    ∃ run, IsRun row (endpoint row.length 0 low) (endpoint row.length row.length high) run ∧
      eval (.slice xs start stop) s = (.ok (kind.whole run), s) := by
  obtain ⟨run, cut, isRun⟩ := exists_sliceRow Obj row low high
  refine ⟨run, isRun, ?_⟩
  simp only [eval, bind_apply, held, ofStart.evalBound_eq, ofStop.evalBound_eq, RowKind.slice_whole, cut]
  rfl

/-- The run between the bounds of a slice is what the slice comes to, since there is one such run. -/
lemma eval_slice {run : List (kind.Element Obj)} (held : eval xs s = (.ok (kind.whole row), s))
    (ofStart : IsBound s start low) (ofStop : IsBound s stop high)
    (isRun : IsRun row (endpoint row.length 0 low) (endpoint row.length row.length high) run) :
    eval (.slice xs start stop) s = (.ok (kind.whole run), s) := by
  obtain ⟨run', isRun', came⟩ := exists_slice held ofStart ofStop
  rw [isRun.unique isRun', came]

/-- A list in a variable is left without the element that it gives away. -/
lemma eval_pop {name : String} {index : Expr} {i : Int64} {items items' : List (Value Obj)} {x : Value Obj}
    (held : eval (.name name) s = (.ok (.list items), s)) (present : s.contains name)
    (came : eval index s = (.ok (.int i), s))
    (popped : callMethod (.list items) "pop" ⟨[.int i], []⟩ = (.ok x, .list items')) :
    eval (.call (.attr (.name name) "pop") [index] []) s = (.ok x, s.assign name (.list items')) := by
  have ofArgs : evalItems [index] s = (.ok [.int i], s) := by
    simp only [evalItems, bind_apply, came]
    rfl
  have stands : StandsFor s (.name name) ⟨name, []⟩ := .name
  have read : s.readPlace ⟨name, []⟩ = .ok (.list items) := by
    rw [stands.eval_eq present] at held
    exact congrArg Prod.fst held
  have settled : Settled s (.name name) := trivial
  rw [eval_call (.name name) "pop" ofArgs rfl, stands.qualified?_eq present]
  refine (callOn_place_eq_ok settled rfl fun receiver came => ?_).mpr
    ⟨⟨name, []⟩, .list items, .list items', stands, read, popped, ?_⟩
  · rw [held] at came
    cases came
    rfl
  · obtain ⟨value, found⟩ := Option.isSome_iff_exists.mp present
    simp only [Scope.writePlace, found]
    rfl

/-- The two slices that a bound cuts a row into make it up again. -/
lemma eval_halves {index : Expr} {i : Int64} (held : eval xs s = (.ok (kind.whole row), s))
    (came : eval index s = (.ok (.int i), s)) :
    eval (.binary .add (.slice xs none (some index)) (.slice xs (some index) none)) s =
      (.ok (kind.whole row), s) := by
  obtain ⟨front, back, cut, -, before, behind⟩ := exists_cut row i.toInt
  have first := eval_slice held .omitted (.given came) before
  have second := eval_slice held (.given came) .omitted behind
  rw [eval_binary first second, RowKind.add_whole, ← cut]

/-- The element under an index is the first one of the slice from the index on. -/
lemma eval_first {index : Expr} {i : Int64} {x : kind.Element Obj} {back : List (kind.Element Obj)}
    (held : eval xs s = (.ok (kind.whole row), s)) (came : eval index s = (.ok (.int i), s))
    (behind : IsRun row (clamp row.length i.toInt) row.length (x :: back)) :
    eval (.slice (.slice xs (some index) none) none (some (.lit (.int 1)))) s =
      (.ok (kind.whole [x]), s) := by
  have rest := eval_slice held (.given came) .omitted behind
  have first : IsRun (x :: back) 0 (clamp (x :: back).length 1) [x] := by
    refine .between [] [x] back rfl rfl ?_
    simp only [clamp, List.nil_append, List.length_cons, List.length_nil]
    omega
  exact eval_slice rest .omitted (.given rfl) first

end Evaluation

/-- Indices and slices of a list or text agree. A slice is the run of elements between its bounds, and two
slices that meet at a bound make up the row. An index inside of the row, and no other one, stands for an
element, which is the only element of `xs[i:][:1]`. A list gives this element away, and is left with
`xs[:i]` and the elements behind it. -/
theorem indices_agree_with_slices [HostObject Obj] (kind : RowKind) (row : List (kind.Element Obj))
    {s : Scope Obj} {xs : Expr} (held : eval xs s = (.ok (kind.whole row), s)) :
    (∀ start stop low high, IsBound s start low → IsBound s stop high →
      ∃ run, IsRun row (endpoint row.length 0 low) (endpoint row.length row.length high) run ∧
        eval (.slice xs start stop) s = (.ok (kind.whole run), s)) ∧
    ∀ (index : Expr) (i : Int64), eval index s = (.ok (.int i), s) →
      eval (.binary .add (.slice xs none (some index)) (.slice xs (some index) none)) s =
        (.ok (kind.whole row), s) ∧
      (-row.length ≤ i.toInt ∧ i.toInt < row.length →
        ∃ front x back, row = front ++ x :: back ∧
          eval (.slice xs none (some index)) s = (.ok (kind.whole front), s) ∧
          eval (.index xs index) s = (.ok (kind.single x), s) ∧
          eval (.slice (.slice xs (some index) none) none (some (.lit (.int 1)))) s =
            (.ok (kind.whole [x]), s) ∧
          (kind = .list →
            callMethod (kind.whole row) "pop" ⟨[.int i], []⟩ = (.ok (kind.single x), kind.whole (front ++ back)) ∧
            ∀ name, xs = .name name → s.contains name →
              eval (.call (.attr xs "pop") [index] []) s =
                (.ok (kind.single x), s.assign name (kind.whole (front ++ back))))) ∧
      (¬(-row.length ≤ i.toInt ∧ i.toInt < row.length) →
        eval (.index xs index) s =
          (.error (.badIndex ("index " ++ toString i.toInt ++ " out of range")), s) ∧
        (kind = .list → callMethod (kind.whole row) "pop" ⟨[.int i], []⟩ =
          (.error (.badIndex (if row = [] then "pop from empty list" else "pop index out of range")),
            kind.whole row))) := by
  refine ⟨fun start stop low high => exists_slice held, fun index i came => ⟨eval_halves held came, ?_, ?_⟩⟩
  · rintro ⟨least, greatest⟩
    obtain ⟨front, x, back, cut, found, before, behind⟩ := exists_element least greatest
    refine ⟨front, x, back, cut, eval_slice held .omitted (.given came) before, ?_,
      eval_first held came behind, ?_⟩
    · rw [eval_index held came]
      subst cut
      rw [RowKind.item_whole found]
    · rintro rfl
      subst cut
      have popped := pop_list found
      refine ⟨popped, ?_⟩
      rintro name rfl present
      exact eval_pop held present came popped
  · intro outside
    have missing := position?_eq_none.mpr outside
    rw [eval_index held came, RowKind.item_whole_of_none missing]
    refine ⟨rfl, ?_⟩
    rintro rfl
    exact pop_list_of_none missing

end Script

namespace Toybox

open Script

/-- A scope with a list and a text, a position in both, and the ends of 64 bits. -/
def belfry : Scope Thing :=
  desk [("bells", .list [.str "iron", .str "tin", .str "brass"]), ("motto", .str "Größe"), ("place", .int (-2)),
    ("least", .int (-9223372036854775808)), ("greatest", .int 9223372036854775807)]

/-- The end of a text from a place on, an index far in front of the text, and a bell that is taken away. -/
theorem belfry_rows_agree :
    eval (.name "motto") belfry = (.ok (.str "Größe"), belfry) ∧
    eval (.name "bells") belfry = (.ok (.list [.str "iron", .str "tin", .str "brass"]), belfry) ∧
    eval (.slice (.name "motto") (some (.name "place")) (some (.name "greatest"))) belfry =
      (.ok (.str "ße"), belfry) ∧
    eval (.index (.name "motto") (.name "least")) belfry =
      (.error (.badIndex "index -9223372036854775808 out of range"), belfry) ∧
    eval (.call (.attr (.name "bells") "pop") [.name "place"] []) belfry =
      (.ok (.str "tin"), belfry.assign "bells" (.list [.str "iron", .str "brass"])) := by
  have motto := @indices_agree_with_slices Thing _ .text ['G', 'r', 'ö', 'ß', 'e'] belfry (.name "motto") rfl
  have bells := @indices_agree_with_slices Thing _ .list [.str "iron", .str "tin", .str "brass"] belfry
    (.name "bells") rfl
  refine ⟨rfl, rfl, ?_, ?_, ?_⟩
  · obtain ⟨run, isRun, came⟩ := motto.1 (some (.name "place")) (some (.name "greatest")) (some (-2))
      (some 9223372036854775807) (.given rfl) (.given rfl)
    have last : IsRun ['G', 'r', 'ö', 'ß', 'e'] 3 5 ['ß', 'e'] := .between ['G', 'r', 'ö'] _ [] rfl rfl rfl
    rw [isRun.unique last] at came
    exact came
  · exact ((motto.2 (.name "least") _ rfl).2.2 (by decide)).1
  · obtain ⟨front, x, back, cut, before, -, -, popped⟩ := (bells.2 (.name "place") _ rfl).2.1 (by decide)
    have known : eval (.slice (.name "bells") none (some (.name "place"))) belfry =
        (.ok (.list [.str "iron"]), belfry) := rfl
    cases known.symm.trans before
    cases cut
    exact (popped rfl).2 "bells" rfl rfl

end Toybox

end BranchingStory
