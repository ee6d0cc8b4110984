import BranchingStory.Proofs.Script.Lexing
import BranchingStory.Proofs.Script.Locality

/-!
# Where a fragment is refused

The columns that faults are reported at. A token that cannot stand where it does is reported at its own
column. The end of the fragment is not: it is reported at the column of the last token in front of it.
Where a name is missing behind a point or among the variables of a comprehension, the column is that of what
comes behind the token that stands in its place.
-/

namespace BranchingStory.Script

/-! ## Places of tokens -/

/-- Whether a token is found behind the first `column` characters of a text. -/
def StandsAt (source : List Char) (t : Token) (column : Nat) : Prop :=
  ∃ front text rest, source = front ++ text ∧ front.length = column ∧ Scans text t rest

/-- The column of the first of some tokens, or that of the end. -/
def columnOf (stop : Nat) (ts : List Located) : Nat :=
  (ts.head?.map (·.column)).getD stop

lemma Cursor.column_eq (c : Cursor) : c.column = columnOf c.stop c.rest := by
  unfold Cursor.column columnOf
  cases c.rest with
  | nil => rfl
  | cons => rfl

section Places

variable {column fuel : Nat} {source : List Char} {row : List Located}

/-- Tokens stand in the order of their columns, and in front of the end. -/
lemma scanTokens_ordered (scanned : scanTokens column source fuel = .ok row) :
    row.Pairwise (·.column < ·.column) ∧
      ∀ found ∈ row, column ≤ found.column ∧ found.column < column + source.length := by
  induction fuel generalizing column source row with
  | zero =>
    cases scanned
    exact ⟨.nil, nofun⟩
  | succ fuel ih =>
    rcases scanTokens_step scanned
      with ⟨rfl, _⟩ | ⟨gap, text, t, rest, more, rfl, _, scans, rfl, later⟩
    · exact ⟨.nil, nofun⟩
    obtain ⟨taken, full, rfl⟩ := scans.suffix
    have positive := List.length_pos_iff.mpr full
    obtain ⟨ordered, inside⟩ := ih later
    simp only [List.length_append] at inside ⊢
    constructor
    · refine .cons (fun found member => ?_) ordered
      have := inside found member
      simp only
      omega
    · intro found member
      rcases List.mem_cons.mp member with rfl | member
      · simp only
        omega
      · have := inside found member
        omega

lemma standsAt_of_mem (scanned : tokens source = .ok row) {found : Located} (member : found ∈ row) :
    StandsAt source found.token found.column := by
  obtain ⟨before, after, rfl⟩ := List.append_of_mem member
  obtain ⟨front, text, rest, whole, same, _, scans, _⟩ := scanTokens_at (Nat.lt_succ_self _) scanned
  exact ⟨front, text, rest, whole, by omega, scans⟩

/-- What comes behind a token has another column. -/
lemma columnOf_tail_eq_iff (scanned : tokens source = .ok row) {before after : List Located}
    (split : row = before ++ after) :
    columnOf source.length after.tail = columnOf source.length after ↔ after = [] := by
  obtain ⟨ordered, inside⟩ := scanTokens_ordered scanned
  subst split
  cases after with
  | nil => exact iff_of_true rfl rfl
  | cons found after =>
    refine iff_of_false ?_ (List.cons_ne_nil _ _)
    have here := inside found (List.mem_append_right _ List.mem_cons_self)
    cases after with
    | nil =>
      simp only [columnOf, List.tail_cons, List.head?_nil, List.head?_cons, Option.map_none, Option.map_some,
        Option.getD_none, Option.getD_some]
      omega
    | cons next after =>
      have later := List.rel_of_pairwise_cons (List.pairwise_append.mp ordered).2.1 List.mem_cons_self
      exact Nat.ne_of_gt later

end Places

/-! ## Faults of readers -/

/-- What is expected behind a token that asks for a name. -/
inductive Asks : Token → String → Prop where
  | dot : Asks .dot "attribute name after '.'"
  | forWord : Asks .forWord "loop variable name"
  | comma : Asks .comma "loop variable name"

/-- Whether a token asks for a name in vain; `column` is that of what comes behind the token in its place. -/
def Unnamed (row : List Located) (stop : Nat) (what : String) (column : Nat) : Prop :=
  ∃ before asker after, row = before ++ asker :: after ∧ Asks asker.token what ∧
    (∀ name, after.head?.map (·.token) ≠ some (.name name)) ∧ column = columnOf stop after.tail

/-- Where a fault of a reader is reported. The characters of a fragment with tokens are not at fault. -/
def Reported (row : List Located) (stop : Nat) : SyntaxFault → Nat → Prop
  | .unexpected (some t), column => ⟨t, column⟩ ∈ row
  | .unexpected none, column => ∀ last ∈ row.getLast?, last.column = column
  | .expected what, column => ∀ t, Asks t what → Unnamed row stop what column
  | .strayCharacter _, _ => False
  | _, _ => True

/-- A cursor among the tokens of a fragment. -/
structure Cursor.Inside (row : List Located) (stop : Nat) (c : Cursor) : Prop where
  split : ∃ before, row = before ++ c.rest ∧ ∀ last ∈ before.getLast?, last.column = c.last
  stop_eq : c.stop = stop

/-- A result of a reader: it leaves the cursor among the tokens, or its fault is reported as it is to be. -/
def Places {σ : Type} (row : List Located) (stop : Nat) (cursor : σ → Cursor) :
    Except SyntaxError σ → Prop
  | .ok r => (cursor r).Inside row stop
  | .error (fault, column) => Reported row stop fault column

/-- A reader that keeps the cursor among the tokens, or reports its fault as it is to be. -/
def PlacesFrom {σ : Type} (row : List Located) (stop : Nat) (cursor : σ → Cursor)
    (reader : Cursor → Except SyntaxError σ) : Prop :=
  ∀ c, c.Inside row stop → Places row stop cursor (reader c)

section Readers

variable {row : List Located} {stop : Nat}

namespace Cursor

variable {c : Cursor}

lemma Inside.behind {before : List Located} {next : Located} {rest : List Located}
    (split : row = before ++ next :: rest) : Inside row stop ⟨rest, next.column, stop⟩ := by
  refine ⟨⟨before ++ [next], by rw [split, List.append_assoc]; rfl, ?_⟩, rfl⟩
  rw [List.getLast?_concat]
  rintro _ ⟨⟩
  rfl

lemma Inside.advance (inside : c.Inside row stop) : c.advance.Inside row stop := by
  obtain ⟨⟨before, split, last⟩, rfl⟩ := inside
  unfold Cursor.advance
  cases same : c.rest with
  | nil => exact ⟨⟨before, split, last⟩, rfl⟩
  | cons next rest =>
    rw [same] at split
    exact .behind split

end Cursor

namespace Places

variable {σ τ α β : Type} {cursor : σ → Cursor} {cursor' : τ → Cursor} {c : Cursor}

lemma answer {a : α} (inside : c.Inside row stop) : Places row stop (·.2) (.ok (a, c)) :=
  inside

lemma andThen {m : Except SyntaxError (α × Cursor)} {f : α × Cursor → Except SyntaxError τ}
    (first : Places row stop (·.2) m)
    (next : ∀ a c, c.Inside row stop → Places row stop cursor' (f (a, c))) :
    Places row stop cursor' (m >>= f) := by
  cases m with
  | error => exact first
  | ok r => exact next r.1 r.2 first

lemma andThen₂ {m : Except SyntaxError (α × β × Cursor)} {f : α × β × Cursor → Except SyntaxError τ}
    (first : Places row stop (·.2.2) m)
    (next : ∀ a b c, c.Inside row stop → Places row stop cursor' (f (a, b, c))) :
    Places row stop cursor' (m >>= f) := by
  cases m with
  | error => exact first
  | ok r => exact next r.1 r.2.1 r.2.2 first

lemma map {m : Except SyntaxError σ} {f : σ → τ} (places : Places row stop cursor m)
    (same : ∀ r, cursor' (f r) = cursor r) : Places row stop cursor' (m.map f) := by
  cases m with
  | error => exact places
  | ok r =>
    show (cursor' (f r)).Inside row stop
    rw [same]
    exact places

/-- A token that is no name may be expected anywhere. -/
lemma expect {is : Token → Bool} {what : String} {f : Cursor → Except SyntaxError τ}
    (inside : c.Inside row stop) (other : what ≠ "attribute name after '.'" ∧ what ≠ "loop variable name")
    (next : ∀ c, c.Inside row stop → Places row stop cursor' (f c)) :
    Places row stop cursor' (Script.expect is what c >>= f) := by
  unfold Script.expect
  split
  · exact next _ inside.advance
  · intro t asks
    cases asks with
    | dot => exact absurd rfl other.1
    | forWord | comma => exact absurd rfl other.2

end Places

lemma inside_compareOp {c c' : Cursor} {op : CompareOp} (inside : c.Inside row stop)
    (found : compareOp? c = some (op, c')) : c'.Inside row stop := by
  unfold compareOp? at found
  split at found <;> cases found
  all_goals first
    | exact inside.advance
    | exact inside.advance.advance

lemma inside_adjacentStrings {before : List Located} {text : String} {next : Located} {rest : List Located}
    (split : row = before ++ next :: rest) :
    (adjacentStrings text stop next.column rest).2.Inside row stop := by
  induction rest generalizing before text next with
  | nil => exact .behind split
  | cons second rest ih =>
    have further : row = (before ++ [next]) ++ second :: rest := by
      rw [split, List.append_assoc]
      rfl
    obtain ⟨token, column⟩ := second
    cases token with
    | str more => exact ih further
    | _ => exact .behind split

/-- The variables of a comprehension, behind a token that asks for one. -/
lemma places_targets {before : List Located} {asker : Located} (last : Nat) {rest : List Located}
    (split : row = before ++ asker :: rest) (asks : Asks asker.token "loop variable name") :
    Places row stop (·.2) (targets stop last rest) := by
  fun_induction targets stop last rest generalizing before asker with
  | case1 last name at_ column rest ih =>
    have further : row = (before ++ [asker, ⟨.name name, at_⟩]) ++ ⟨.comma, column⟩ :: rest := by
      rw [split, List.append_assoc]
      rfl
    exact (ih further .comma).map fun _ => rfl
  | case2 last name column rest _ =>
    have further : row = (before ++ [asker]) ++ ⟨.name name, column⟩ :: rest := by
      rw [split, List.append_assoc]
      rfl
    exact Cursor.Inside.behind further
  | case3 last rest noList noName =>
    intro t _
    refine ⟨before, asker, rest, split, asks, ?_, ?_⟩
    · intro name found
      cases rest with
      | nil => cases found
      | cons next rest =>
        obtain ⟨token, column⟩ := next
        cases Option.some.inj found
        exact noName name column rest rfl
    · rw [Cursor.column_eq]
      cases rest with
      | nil => rfl
      | cons => rfl

lemma places_targets_advance {c : Cursor} (inside : c.Inside row stop) (isFor : c.at Token.isFor) :
    Places row stop (·.2) (targets c.advance.stop c.advance.last c.advance.rest) := by
  have next := Token.Tests.forWord.next isFor
  obtain ⟨⟨before, split, _⟩, rfl⟩ := inside
  obtain ⟨rest, last, stop⟩ := c
  cases rest with
  | nil => cases next
  | cons asker rest =>
    refine places_targets asker.column split ?_
    obtain ⟨token, column⟩ := asker
    cases Option.some.inj next
    exact .forWord

/-- With some fuel every reader keeps the cursor among the tokens, or reports its fault. -/
structure PlacesAt (row : List Located) (stop fuel : Nat) : Prop where
  expression : PlacesFrom row stop (·.2) (expression fuel)
  disjunction : PlacesFrom row stop (·.2) (disjunction fuel)
  moreDisjuncts : ∀ left, PlacesFrom row stop (·.2) (moreDisjuncts fuel left)
  conjunction : PlacesFrom row stop (·.2) (conjunction fuel)
  moreConjuncts : ∀ left, PlacesFrom row stop (·.2) (moreConjuncts fuel left)
  negation : PlacesFrom row stop (·.2) (negation fuel)
  comparison : PlacesFrom row stop (·.2) (comparison fuel)
  relations : PlacesFrom row stop (·.2) (relations fuel)
  sum : PlacesFrom row stop (·.2) (sum fuel)
  moreTerms : ∀ left, PlacesFrom row stop (·.2) (moreTerms fuel left)
  product : PlacesFrom row stop (·.2) (product fuel)
  moreFactors : ∀ left, PlacesFrom row stop (·.2) (moreFactors fuel left)
  signed : PlacesFrom row stop (·.2) (signed fuel)
  power : PlacesFrom row stop (·.2) (power fuel)
  suffixes : ∀ base, PlacesFrom row stop (·.2) (suffixes fuel base)
  subscript : ∀ base, PlacesFrom row stop (·.2) (subscript fuel base)
  sliceEnd : ∀ base start, PlacesFrom row stop (·.2) (sliceEnd fuel base start)
  arguments : ∀ args named, PlacesFrom row stop (·.2.2) (arguments fuel args named)
  atom : PlacesFrom row stop (·.2) (atom fuel)
  parenthesised : PlacesFrom row stop (·.2) (parenthesised fuel)
  bracketed : PlacesFrom row stop (·.2) (bracketed fuel)
  moreItems : ∀ isClose, PlacesFrom row stop (·.2) (moreItems fuel isClose)
  braced : PlacesFrom row stop (·.2) (braced fuel)
  entry : PlacesFrom row stop (·.2.2) (entry fuel)
  moreEntries : PlacesFrom row stop (·.2) (moreEntries fuel)
  clauses : PlacesFrom row stop (·.2) (clauses fuel)
  conditions : PlacesFrom row stop (·.2) (conditions fuel)

namespace PlacesAt

variable {fuel : Nat}

lemma zero : PlacesAt row stop 0 := by
  constructor <;> intros <;> exact fun _ _ => trivial

lemma expression_succ (ih : PlacesAt row stop fuel) :
    PlacesFrom row stop (·.2) (Script.expression (fuel + 1)) := by
  intro c inside
  unfold Script.expression
  refine (ih.disjunction c inside).andThen fun yes c inside => ?_
  simp only
  split
  · refine (ih.disjunction _ inside.advance).andThen fun condition c inside => ?_
    refine .expect inside (by decide) fun c inside => ?_
    exact (ih.expression c inside).andThen fun no c inside => .answer inside
  · exact .answer inside

lemma disjunction_succ (ih : PlacesAt row stop fuel) :
    PlacesFrom row stop (·.2) (Script.disjunction (fuel + 1)) := by
  intro c inside
  unfold Script.disjunction
  exact (ih.conjunction c inside).andThen ih.moreDisjuncts

lemma moreDisjuncts_succ (ih : PlacesAt row stop fuel) (left : Expr) :
    PlacesFrom row stop (·.2) (Script.moreDisjuncts (fuel + 1) left) := by
  intro c inside
  unfold Script.moreDisjuncts
  split
  · exact (ih.conjunction _ inside.advance).andThen fun _ => ih.moreDisjuncts _
  · exact .answer inside

lemma conjunction_succ (ih : PlacesAt row stop fuel) :
    PlacesFrom row stop (·.2) (Script.conjunction (fuel + 1)) := by
  intro c inside
  unfold Script.conjunction
  exact (ih.negation c inside).andThen ih.moreConjuncts

lemma moreConjuncts_succ (ih : PlacesAt row stop fuel) (left : Expr) :
    PlacesFrom row stop (·.2) (Script.moreConjuncts (fuel + 1) left) := by
  intro c inside
  unfold Script.moreConjuncts
  split
  · exact (ih.negation _ inside.advance).andThen fun _ => ih.moreConjuncts _
  · exact .answer inside

lemma negation_succ (ih : PlacesAt row stop fuel) :
    PlacesFrom row stop (·.2) (Script.negation (fuel + 1)) := by
  intro c inside
  unfold Script.negation
  split
  · exact (ih.negation _ inside.advance).andThen fun operand c inside => .answer inside
  · exact ih.comparison c inside

lemma comparison_succ (ih : PlacesAt row stop fuel) :
    PlacesFrom row stop (·.2) (Script.comparison (fuel + 1)) := by
  intro c inside
  unfold Script.comparison
  refine (ih.sum c inside).andThen fun first c inside => ?_
  exact (ih.relations c inside).andThen fun chain c inside => .answer inside

lemma relations_succ (ih : PlacesAt row stop fuel) :
    PlacesFrom row stop (·.2) (Script.relations (fuel + 1)) := by
  intro c inside
  unfold Script.relations
  split
  · next op c' found =>
    refine (ih.sum c' (inside_compareOp inside found)).andThen fun right c inside => ?_
    exact (ih.relations c inside).andThen fun chain c inside => .answer inside
  · exact .answer inside

lemma sum_succ (ih : PlacesAt row stop fuel) : PlacesFrom row stop (·.2) (Script.sum (fuel + 1)) := by
  intro c inside
  unfold Script.sum
  exact (ih.product c inside).andThen ih.moreTerms

lemma moreTerms_succ (ih : PlacesAt row stop fuel) (left : Expr) :
    PlacesFrom row stop (·.2) (Script.moreTerms (fuel + 1) left) := by
  intro c inside
  unfold Script.moreTerms
  split
  · exact (ih.product _ inside.advance).andThen fun _ => ih.moreTerms _
  · exact .answer inside

lemma product_succ (ih : PlacesAt row stop fuel) :
    PlacesFrom row stop (·.2) (Script.product (fuel + 1)) := by
  intro c inside
  unfold Script.product
  exact (ih.signed c inside).andThen ih.moreFactors

lemma moreFactors_succ (ih : PlacesAt row stop fuel) (left : Expr) :
    PlacesFrom row stop (·.2) (Script.moreFactors (fuel + 1) left) := by
  intro c inside
  unfold Script.moreFactors
  split
  · exact (ih.signed _ inside.advance).andThen fun _ => ih.moreFactors _
  · exact .answer inside

lemma signed_succ (ih : PlacesAt row stop fuel) :
    PlacesFrom row stop (·.2) (Script.signed (fuel + 1)) := by
  intro c inside
  unfold Script.signed
  split
  · exact (ih.signed _ inside.advance).andThen fun operand c inside => .answer inside
  · exact ih.power c inside

lemma power_succ (ih : PlacesAt row stop fuel) :
    PlacesFrom row stop (·.2) (Script.power (fuel + 1)) := by
  intro c inside
  unfold Script.power
  refine (ih.atom c inside).andThen fun first c inside => ?_
  refine (ih.suffixes first c inside).andThen fun base c inside => ?_
  simp only
  split
  · exact (ih.signed _ inside.advance).andThen fun exponent c inside => .answer inside
  · exact .answer inside

/-- Behind a point without a name the column of what comes behind the next token is reported. -/
lemma unnamed_dot {c : Cursor} (inside : c.Inside row stop) (dot : c.peek? = some .dot)
    (noName : ∀ name, c.second? ≠ some (.name name)) :
    Unnamed row stop "attribute name after '.'" c.advance.advance.column := by
  obtain ⟨⟨before, split, _⟩, rfl⟩ := inside
  obtain ⟨rest, last, stop⟩ := c
  cases rest with
  | nil => cases dot
  | cons asker after =>
    refine ⟨before, asker, after, split, ?_, noName, ?_⟩
    · obtain ⟨token, column⟩ := asker
      cases Option.some.inj dot
      exact .dot
    · rw [Cursor.column_eq]
      cases after with
      | nil => rfl
      | cons => rfl

lemma suffixes_succ (ih : PlacesAt row stop fuel) (base : Expr) :
    PlacesFrom row stop (·.2) (Script.suffixes (fuel + 1) base) := by
  intro c inside
  unfold Script.suffixes
  split
  · next dot =>
    split
    · exact ih.suffixes _ _ inside.advance.advance
    · next noName => exact fun _ _ => unnamed_dot inside dot noName
  · refine (ih.arguments [] [] _ inside.advance).andThen₂ fun args named c inside => ?_
    exact ih.suffixes _ c inside
  · exact (ih.subscript base _ inside.advance).andThen ih.suffixes
  · exact .answer inside

lemma subscript_succ (ih : PlacesAt row stop fuel) (base : Expr) :
    PlacesFrom row stop (·.2) (Script.subscript (fuel + 1) base) := by
  intro c inside
  unfold Script.subscript
  split
  · exact ih.sliceEnd base none _ inside.advance
  · refine (ih.expression c inside).andThen fun start c inside => ?_
    simp only
    split
    · exact ih.sliceEnd base (some start) _ inside.advance
    · exact .expect inside (by decide) fun c inside => .answer inside

lemma sliceEnd_succ (ih : PlacesAt row stop fuel) (base : Expr) (start : Option Expr) :
    PlacesFrom row stop (·.2) (Script.sliceEnd (fuel + 1) base start) := by
  intro c inside
  unfold Script.sliceEnd
  split
  · exact .answer inside.advance
  · refine (ih.expression c inside).andThen fun stop c inside => ?_
    exact .expect inside (by decide) fun c inside => .answer inside

lemma arguments_succ (ih : PlacesAt row stop fuel) (args : List Expr) (named : List (String × Expr)) :
    PlacesFrom row stop (·.2.2) (Script.arguments (fuel + 1) args named) := by
  intro c inside
  unfold Script.arguments
  -- What comes behind an argument.
  have behind (args : List Expr) (named : List (String × Expr)) (c : Cursor) (inside : c.Inside row stop) :
      Places row stop (·.2.2)
        (if c.at Token.isComma then Script.arguments fuel args named c.advance
          else do
            let c ← Script.expect Token.isRightParen "')'" c
            return (args.reverse, named.reverse, c)) := by
    split
    · exact ih.arguments args named _ inside.advance
    · exact .expect inside (by decide) fun c inside => inside
  split
  · exact inside.advance
  split
  · exact (ih.expression _ inside.advance.advance).andThen fun value c inside => behind _ _ c inside
  split
  · exact (ih.expression c inside).andThen fun value c inside => behind _ _ c inside
  · trivial

/-- At the end of the fragment all its tokens are in front of the cursor. -/
lemma unexpected_end {c : Cursor} (inside : c.Inside row stop) (ended : c.rest = []) :
    Reported row stop (.unexpected none) c.last := by
  obtain ⟨⟨before, split, last⟩, _⟩ := inside
  rw [ended, List.append_nil] at split
  exact split ▸ last

lemma atom_succ (ih : PlacesAt row stop fuel) : PlacesFrom row stop (·.2) (Script.atom (fuel + 1)) := by
  intro c inside
  unfold Script.atom
  split
  · next ended => exact unexpected_end inside ended
  · next next_ rest same =>
    have ⟨⟨before, split, _⟩, stop_eq⟩ := inside
    rw [same] at split
    have member : next_ ∈ row := split ▸ List.mem_append_right _ List.mem_cons_self
    obtain ⟨token, column⟩ := next_
    cases token with
    | int | float | truth | falsity | nothing | name => exact .answer inside.advance
    | str text => exact stop_eq ▸ inside_adjacentStrings split
    | leftParen => exact ih.parenthesised _ inside.advance
    | leftBracket => exact ih.bracketed _ inside.advance
    | leftBrace => exact ih.braced _ inside.advance
    | _ => exact member

lemma parenthesised_succ (ih : PlacesAt row stop fuel) :
    PlacesFrom row stop (·.2) (Script.parenthesised (fuel + 1)) := by
  intro c inside
  unfold Script.parenthesised
  split
  · exact .answer inside.advance
  refine (ih.expression c inside).andThen fun first c inside => ?_
  simp only
  split
  · refine (ih.clauses c inside).andThen fun clauses c inside => ?_
    exact .expect inside (by decide) fun c inside => .answer inside
  split
  · refine (ih.moreItems _ c inside).andThen fun items c inside => ?_
    exact .expect inside (by decide) fun c inside => .answer inside
  · exact .expect inside (by decide) fun c inside => .answer inside

lemma bracketed_succ (ih : PlacesAt row stop fuel) :
    PlacesFrom row stop (·.2) (Script.bracketed (fuel + 1)) := by
  intro c inside
  unfold Script.bracketed
  split
  · exact .answer inside.advance
  refine (ih.expression c inside).andThen fun first c inside => ?_
  simp only
  split
  · refine (ih.clauses c inside).andThen fun clauses c inside => ?_
    exact .expect inside (by decide) fun c inside => .answer inside
  · refine (ih.moreItems _ c inside).andThen fun items c inside => ?_
    exact .expect inside (by decide) fun c inside => .answer inside

lemma moreItems_succ (ih : PlacesAt row stop fuel) (isClose : Token → Bool) :
    PlacesFrom row stop (·.2) (Script.moreItems (fuel + 1) isClose) := by
  intro c inside
  unfold Script.moreItems
  split
  · split
    · exact .answer inside.advance
    · refine (ih.expression _ inside.advance).andThen fun item c inside => ?_
      exact (ih.moreItems isClose c inside).andThen fun items c inside => .answer inside
  · exact .answer inside

lemma braced_succ (ih : PlacesAt row stop fuel) :
    PlacesFrom row stop (·.2) (Script.braced (fuel + 1)) := by
  intro c inside
  unfold Script.braced
  split
  · exact .answer inside.advance
  refine (ih.entry c inside).andThen₂ fun key value c inside => ?_
  simp only
  split
  · refine (ih.clauses c inside).andThen fun clauses c inside => ?_
    exact .expect inside (by decide) fun c inside => .answer inside
  · refine (ih.moreEntries c inside).andThen fun entries c inside => ?_
    exact .expect inside (by decide) fun c inside => .answer inside

lemma entry_succ (ih : PlacesAt row stop fuel) :
    PlacesFrom row stop (·.2.2) (Script.entry (fuel + 1)) := by
  intro c inside
  unfold Script.entry
  refine (ih.expression c inside).andThen fun key c inside => ?_
  refine .expect inside (by decide) fun c inside => ?_
  exact (ih.expression c inside).andThen fun value c inside => inside

lemma moreEntries_succ (ih : PlacesAt row stop fuel) :
    PlacesFrom row stop (·.2) (Script.moreEntries (fuel + 1)) := by
  intro c inside
  unfold Script.moreEntries
  split
  · split
    · exact .answer inside.advance
    · refine (ih.entry _ inside.advance).andThen₂ fun key value c inside => ?_
      exact (ih.moreEntries c inside).andThen fun entries c inside => .answer inside
  · exact .answer inside

lemma clauses_succ (ih : PlacesAt row stop fuel) :
    PlacesFrom row stop (·.2) (Script.clauses (fuel + 1)) := by
  intro c inside
  unfold Script.clauses
  split
  · next isFor =>
    refine (places_targets_advance inside isFor).andThen fun names c inside => ?_
    refine .expect inside (by decide) fun c inside => ?_
    refine (ih.disjunction c inside).andThen fun source c inside => ?_
    refine (ih.conditions c inside).andThen fun conditions c inside => ?_
    exact (ih.clauses c inside).andThen fun more c inside => .answer inside
  · exact .answer inside

lemma conditions_succ (ih : PlacesAt row stop fuel) :
    PlacesFrom row stop (·.2) (Script.conditions (fuel + 1)) := by
  intro c inside
  unfold Script.conditions
  split
  · refine (ih.disjunction _ inside.advance).andThen fun condition c inside => ?_
    exact (ih.conditions c inside).andThen fun more c inside => .answer inside
  · exact .answer inside

lemma all (fuel : Nat) : PlacesAt row stop fuel := by
  induction fuel with
  | zero => exact zero
  | succ fuel ih =>
    exact {
      expression := ih.expression_succ
      disjunction := ih.disjunction_succ
      moreDisjuncts := ih.moreDisjuncts_succ
      conjunction := ih.conjunction_succ
      moreConjuncts := ih.moreConjuncts_succ
      negation := ih.negation_succ
      comparison := ih.comparison_succ
      relations := ih.relations_succ
      sum := ih.sum_succ
      moreTerms := ih.moreTerms_succ
      product := ih.product_succ
      moreFactors := ih.moreFactors_succ
      signed := ih.signed_succ
      power := ih.power_succ
      suffixes := ih.suffixes_succ
      subscript := ih.subscript_succ
      sliceEnd := ih.sliceEnd_succ
      arguments := ih.arguments_succ
      atom := ih.atom_succ
      parenthesised := ih.parenthesised_succ
      bracketed := ih.bracketed_succ
      moreItems := ih.moreItems_succ
      braced := ih.braced_succ
      entry := ih.entry_succ
      moreEntries := ih.moreEntries_succ
      clauses := ih.clauses_succ
      conditions := ih.conditions_succ }

end PlacesAt

end Readers

/-! ## Whole fragments -/

section Fragments

variable {source : List Char} {row : List Located} {fault : SyntaxFault} {column : Nat}

lemma located_eq_error {α : Type} {m : Except SyntaxError α} :
    located m = .error (.malformed fault column) ↔ m = .error (fault, column) := by
  cases m with
  | ok => exact ⟨nofun, nofun⟩
  | error reason =>
    constructor
    · rintro ⟨⟩
      rfl
    · rintro ⟨⟩
      rfl

/-- Only a fragment without tokens is refused before anything is read. -/
lemma open?_of_tokens (scanned : tokens source = .ok row) :
    open? source =
      if row.isEmpty then .error (.emptyFragment, 0)
      else .ok (⟨row, 0, source.length⟩, 16 * (row.length + 1)) := by
  rw [open?, scanned]
  rfl

lemma inside_start (row : List Located) (stop : Nat) : Cursor.Inside row stop ⟨row, 0, stop⟩ :=
  ⟨⟨[], rfl, nofun⟩, rfl⟩

/-- Tokens that are left over are reported at the column of the first of them. -/
lemma reported_atEnd {α : Type} {stop : Nat} {c : Cursor} {f : Unit → Except SyntaxError α}
    (inside : c.Inside row stop) (passes : ∀ u, (f u).isOk) (refused : atEnd c >>= f = .error (fault, column)) :
    Reported row stop fault column := by
  obtain ⟨⟨before, split, _⟩, _⟩ := inside
  unfold atEnd at refused
  cases rest : c.rest with
  | nil =>
    rw [rest] at refused
    have passed := passes ()
    rw [show f () = .error (fault, column) from refused] at passed
    cases passed
  | cons next behind =>
    rw [rest] at refused split
    cases refused
    exact split ▸ List.mem_append_right _ List.mem_cons_self

/-- What is refused behind an expression is refused at the expression or behind it. -/
lemma reported_expression {α : Type} {stop fuel : Nat} {c : Cursor}
    {f : Expr × Cursor → Except SyntaxError α} (inside : c.Inside row stop)
    (behind : ∀ e c, c.Inside row stop → f (e, c) = .error (fault, column) → Reported row stop fault column)
    (refused : expression fuel c >>= f = .error (fault, column)) : Reported row stop fault column := by
  have all : PlacesAt row stop fuel := .all fuel
  have places := all.expression c inside
  cases first : expression fuel c with
  | error reason =>
    rw [first] at refused places
    cases refused
    exact places
  | ok r =>
    rw [first] at refused places
    exact behind r.1 r.2 places refused

lemma Expr.reported_of_read (scanned : tokens source = .ok row)
    (refused : Expr.read source = .error (.malformed fault column)) :
    Reported row source.length fault column ∧ (row = [] → fault = .emptyFragment) := by
  have refused := located_eq_error.mp refused
  rw [open?_of_tokens scanned] at refused
  cases row with
  | nil =>
    cases refused
    exact ⟨trivial, fun _ => rfl⟩
  | cons first rest =>
    refine ⟨reported_expression (inside_start _ _) (fun e c inside later => ?_) refused, nofun⟩
    exact reported_atEnd inside (fun _ => rfl) later

lemma Stmt.reported_of_read (scanned : tokens source = .ok row)
    (refused : Stmt.read source = .error (.malformed fault column)) :
    Reported row source.length fault column ∧ (row = [] → fault = .emptyFragment) := by
  have refused := located_eq_error.mp refused
  rw [open?_of_tokens scanned] at refused
  cases row with
  | nil =>
    cases refused
    exact ⟨trivial, fun _ => rfl⟩
  | cons first rest =>
    refine ⟨reported_expression (inside_start _ _) (fun e c inside later => ?_) refused, nofun⟩
    simp only at later
    split at later
    · split at later
      · refine reported_expression inside.advance (fun value c inside later => ?_) later
        exact reported_atEnd inside (fun _ => rfl) later
      · cases later
        trivial
    · exact reported_atEnd inside (fun _ => rfl) later

/-- Where a fragment with tokens is refused. A token that cannot stand where it does is found at the column of
its fault. For the end of the fragment it is the column of the last token, which is in front of the end. Where
a name is asked for in vain it is the column of what comes behind the token in its place, so that it is the
column of what stands there only if this is the end. -/
theorem refusals_located (scanned : tokens source = .ok row)
    (refused : Expr.read source = .error (.malformed fault column) ∨
      Stmt.read source = .error (.malformed fault column)) :
    (∀ t, fault = .unexpected (some t) → ⟨t, column⟩ ∈ row ∧ StandsAt source t column) ∧
      (fault = .unexpected none →
        ∃ before t, row = before ++ [⟨t, column⟩] ∧ StandsAt source t column ∧ column < source.length) ∧
      (∀ t what, Asks t what → fault = .expected what →
        ∃ before asker after, row = before ++ asker :: after ∧ Asks asker.token what ∧
          (∀ name, after.head?.map (·.token) ≠ some (.name name)) ∧
          column = columnOf source.length after.tail ∧
          (column = columnOf source.length after ↔ after = [])) ∧
      ∀ c, fault ≠ .strayCharacter c := by
  have ⟨reported, full⟩ : Reported row source.length fault column ∧ (row = [] → fault = .emptyFragment) :=
    refused.elim (Expr.reported_of_read scanned) (Stmt.reported_of_read scanned)
  refine ⟨?_, ?_, ?_, ?_⟩
  · rintro t rfl
    exact ⟨reported, standsAt_of_mem scanned reported⟩
  · rintro rfl
    rcases List.eq_nil_or_concat row with rfl | ⟨before, ⟨t, at_⟩, whole⟩
    · cases full rfl
    rw [List.concat_eq_append] at whole
    subst whole
    have same : at_ = column := reported ⟨t, at_⟩ (by rw [List.getLast?_concat]; rfl)
    have member : ⟨t, at_⟩ ∈ before ++ [⟨t, at_⟩] := List.mem_append_right _ List.mem_cons_self
    have room := (scanTokens_ordered scanned).2 _ member
    subst same
    exact ⟨before, t, rfl, standsAt_of_mem scanned member, by simpa using room.2⟩
  · rintro t what asks rfl
    obtain ⟨before, asker, after, split, asks, noName, rfl⟩ := reported t asks
    have behind : row = (before ++ [asker]) ++ after := by
      rw [split, List.append_assoc]
      rfl
    exact ⟨before, asker, after, split, asks, noName, rfl, columnOf_tail_eq_iff scanned behind⟩
  · rintro c rfl
    exact reported

/-- The second closing bracket is reported where it stands. -/
theorem loose_bracket_located :
    tokens "x = (a))".toList =
        .ok [⟨.name "x", 0⟩, ⟨.assign .set, 2⟩, ⟨.leftParen, 4⟩, ⟨.name "a", 5⟩, ⟨.rightParen, 6⟩,
          ⟨.rightParen, 7⟩] ∧
      Stmt.read "x = (a))".toList = .error (.malformed (.unexpected (some .rightParen)) 7) ∧
      StandsAt "x = (a))".toList .rightParen 7 :=
  ⟨rfl, rfl, ((refusals_located rfl (.inr rfl)).1 .rightParen rfl).2⟩

/-- The end of `a +` is reported at the plus sign, the bracket behind the point of `a.(b` at what comes behind
it, and the bracket among the variables of a comprehension as well. -/
theorem refusals_misplaced :
    (tokens "a +".toList = .ok [⟨.name "a", 0⟩, ⟨.plus, 2⟩] ∧
      Expr.read "a +".toList = .error (.malformed (.unexpected none) 2) ∧ "a +".toList.length = 3) ∧
    (tokens "a.(b".toList = .ok [⟨.name "a", 0⟩, ⟨.dot, 1⟩, ⟨.leftParen, 2⟩, ⟨.name "b", 3⟩] ∧
      Expr.read "a.(b".toList = .error (.malformed (.expected "attribute name after '.'") 3)) ∧
    tokens "[x for (y".toList =
        .ok [⟨.leftBracket, 0⟩, ⟨.name "x", 1⟩, ⟨.forWord, 3⟩, ⟨.leftParen, 7⟩, ⟨.name "y", 8⟩] ∧
      Expr.read "[x for (y".toList = .error (.malformed (.expected "loop variable name") 8) :=
  ⟨⟨rfl, rfl, rfl⟩, ⟨rfl, rfl⟩, rfl, rfl⟩

end Fragments

end BranchingStory.Script
