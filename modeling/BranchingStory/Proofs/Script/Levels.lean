import BranchingStory.Proofs.Script.Extents
import BranchingStory.Script.Spelling

/-!
# The levels of the parser

The readers of the parser form levels, from the conditional expression down to literals. A token that
does not go on with an expression on some level ends it there, and on every level above, so that what is
read on a level is read on all levels above. An operand is read on the lowest level.
-/

namespace BranchingStory.Script

namespace Cursor

/-- A cursor in front of tokens whose columns do not matter. -/
def ofTokens (ts : List Token) : Cursor :=
  ⟨ts.map (⟨·, 0⟩), 0, 0⟩

variable (t u : Token) (ts : List Token) (is : Token → Bool)

@[simp] lemma peek?_ofTokens : (ofTokens (t :: ts)).peek? = some t := rfl

@[simp] lemma second?_ofTokens : (ofTokens (t :: u :: ts)).second? = some u := rfl

@[simp] lemma advance_ofTokens : (ofTokens (t :: ts)).advance = ofTokens ts := rfl

@[simp] lemma at_ofTokens : (ofTokens (t :: ts)).at is = is t := rfl

lemma tokens_ofTokens : (ofTokens ts).tokens = ts := by
  rw [tokens, ofTokens, List.map_map]
  exact List.map_id ts

end Cursor

open Cursor

lemma expect_ofTokens {is : Token → Bool} {what : String} {t : Token} (here : is t) (ts : List Token) :
    expect is what (ofTokens (t :: ts)) = .ok (ofTokens ts) := by
  simp only [expect, peek?_ofTokens, Option.any_some, here, if_true, advance_ofTokens]

/-- With more fuel than `need`, a reader goes from some tokens to others and has an answer. -/
def Reads {α : Type} (reader : Nat → Reader α) (need : Nat) (ts : List Token) (a : α)
    (rest : List Token) : Prop :=
  ∀ fuel, need < fuel → reader fuel (ofTokens ts) = .ok (a, ofTokens rest)

/-- With more fuel than `need`, a reader goes from some tokens to others and has two answers. -/
def Reads₂ {α β : Type} (reader : Nat → Cursor → Except SyntaxError (α × β × Cursor)) (need : Nat)
    (ts : List Token) (a : α) (b : β) (rest : List Token) : Prop :=
  ∀ fuel, need < fuel → reader fuel (ofTokens ts) = .ok (a, b, ofTokens rest)

namespace Reads

variable {α : Type} {reader : Nat → Reader α} {need more : Nat} {ts rest : List Token} {a : α}

lemma mono (h : Reads reader need ts a rest) (le : need ≤ more) : Reads reader more ts a rest :=
  fun fuel enough => h fuel (Nat.lt_of_le_of_lt le enough)

/-- A step of a reader takes one of its fuel. -/
lemma of_succ (step : ∀ fuel, need < fuel → reader (fuel + 1) (ofTokens ts) = .ok (a, ofTokens rest)) :
    Reads reader (need + 1) ts a rest := by
  intro fuel enough
  cases fuel with
  | zero => exact absurd enough (Nat.not_lt_zero _)
  | succ fuel => exact step fuel (Nat.lt_of_succ_lt_succ enough)

lemma unique {us : List Token} {b : α} {need' : Nat} (first : Reads reader need ts a rest)
    (second : Reads reader need' ts b us) : rest = us := by
  have left := first (max need need' + 1) (by omega)
  have right := second (max need need' + 1) (by omega)
  rw [left] at right
  have same := congrArg (fun c => c.rest.map (·.token)) (Prod.mk.inj (Except.ok.inj right)).2
  simpa [ofTokens, Function.comp_def] using same

end Reads

/-- The level on which a token goes on with the expression in front of it, counted from one; zero for a
token that ends every expression. -/
def Token.strength : Token → Nat
  | .ifWord => 1
  | .or => 2
  | .and => 3
  | .eqEq | .notEq | .lt | .ltEq | .gt | .gtEq | .isIn | .is | .not => 5
  | .plus | .minus => 6
  | .star | .slash | .doubleSlash | .percent => 7
  | .doubleStar => 9
  | .dot | .leftParen | .leftBracket => 10
  | .str _ => 11
  | _ => 0

/-- The lowest level on which an expression can begin with a token. -/
def Token.entrance : Token → Nat
  | .not => 3
  | .plus | .minus => 7
  | _ => 9

/-- Whether tokens do not go on with an expression on a level, nor below it. -/
def Quits (k : Nat) (rest : List Token) : Prop :=
  ∀ t, rest.head? = some t → t.strength ≤ k

/-- Whether tokens begin an expression of a level or above. -/
def Enters (k : Nat) (ts : List Token) : Prop :=
  ∀ t, ts.head? = some t → k ≤ t.entrance

lemma Quits.mono {j k : Nat} {rest : List Token} (h : Quits j rest) (le : j ≤ k) : Quits k rest :=
  fun t head => Nat.le_trans (h t head) le

lemma quits_cons {k : Nat} {t : Token} {rest : List Token} (le : t.strength ≤ k) :
    Quits k (t :: rest) := by
  intro _ head
  cases head
  exact le

lemma Enters.mono {j k : Nat} {ts : List Token} (h : Enters j ts) (le : k ≤ j) : Enters k ts :=
  fun t head => Nat.le_trans le (h t head)

section Ends

variable {rest : List Token}

lemma adjacentStrings_quits (h : Quits 10 rest) (text : String) :
    adjacentStrings text 0 0 (rest.map (⟨·, 0⟩)) = (text, ofTokens rest) := by
  cases rest with
  | nil => rfl
  | cons t rest => cases t <;> first | rfl | exact absurd (h _ rfl) (Nat.not_succ_le_self 10)

lemma suffixes_quits (h : Quits 9 rest) (base : Expr) (fuel : Nat) :
    suffixes (fuel + 1) base (ofTokens rest) = .ok (base, ofTokens rest) := by
  rw [suffixes]
  cases rest with
  | nil => rfl
  | cons t rest => cases t <;> first | rfl | exact absurd (h _ rfl) (by decide)

lemma productOp?_quits (h : Quits 6 rest) : productOp? (ofTokens rest) = none := by
  cases rest with
  | nil => rfl
  | cons t rest => cases t <;> first | rfl | exact absurd (h _ rfl) (by decide)

lemma sumOp?_quits (h : Quits 5 rest) : sumOp? (ofTokens rest) = none := by
  cases rest with
  | nil => rfl
  | cons t rest => cases t <;> first | rfl | exact absurd (h _ rfl) (by decide)

lemma compareOp?_quits (h : Quits 4 rest) : compareOp? (ofTokens rest) = none := by
  cases rest with
  | nil => rfl
  | cons t rest => cases t <;> first | rfl | exact absurd (h _ rfl) (by decide)

lemma signOp?_enters (h : Enters 8 rest) : signOp? (ofTokens rest) = none := by
  cases rest with
  | nil => rfl
  | cons t rest => cases t <;> first | rfl | exact absurd (h _ rfl) (by decide)

/-- What a token is, is not next if it says something of the token that does not hold there. -/
lemma at_eq_false {is : Token → Bool} (none : ∀ t, rest.head? = some t → is t = false) :
    (ofTokens rest).at is = false := by
  cases rest with
  | nil => rfl
  | cons t rest => exact none t rfl

lemma isPower_quits (h : Quits 8 rest) : (ofTokens rest).at Token.isPower = false :=
  at_eq_false fun t head => by cases t <;> first | rfl | exact absurd (h _ head) (by decide)

lemma isAnd_quits (h : Quits 2 rest) : (ofTokens rest).at Token.isAnd = false :=
  at_eq_false fun t head => by cases t <;> first | rfl | exact absurd (h _ head) (by decide)

lemma isOr_quits (h : Quits 1 rest) : (ofTokens rest).at Token.isOr = false :=
  at_eq_false fun t head => by cases t <;> first | rfl | exact absurd (h _ head) (by decide)

lemma isIf_quits (h : Quits 0 rest) : (ofTokens rest).at Token.isIf = false :=
  at_eq_false fun t head => by cases t <;> first | rfl | exact absurd (h _ head) (by decide)

lemma isNot_enters (h : Enters 4 rest) : (ofTokens rest).at Token.isNot = false :=
  at_eq_false fun t head => by cases t <;> first | rfl | exact absurd (h _ head) (by decide)

end Ends

/-- The readers by their levels. -/
def level : Nat → Nat → Reader Expr
  | 0 => expression
  | 1 => disjunction
  | 2 => conjunction
  | 3 => negation
  | 4 => comparison
  | 5 => sum
  | 6 => product
  | 7 => signed
  | 8 => power
  | _ => atom

namespace Reads

variable {need n m j k : Nat} {ts us rest : List Token} {e left right : Expr}

/-- What is read on a level is read on the level above, if nothing there goes on with it. -/
lemma lift (h : Reads (level (k + 1)) need ts e rest) (inside : k < 9) (quits : Quits k rest)
    (enters : Enters (k + 1) ts) : Reads (level k) (need + 1) ts e rest := by
  refine .of_succ fun fuel enough => ?_
  have read := h fuel enough
  obtain ⟨fuel, rfl⟩ : ∃ less, fuel = less + 1 := ⟨fuel - 1, by omega⟩
  match k with
  | 0 =>
    simp only [level] at read ⊢
    rw [expression, read]
    simp only [bind, Except.bind, isIf_quits quits, Bool.false_eq_true, if_false]
    rfl
  | 1 =>
    simp only [level] at read ⊢
    rw [disjunction, read]
    simp only [bind, Except.bind, moreDisjuncts, isOr_quits quits, Bool.false_eq_true, if_false]
  | 2 =>
    simp only [level] at read ⊢
    rw [conjunction, read]
    simp only [bind, Except.bind, moreConjuncts, isAnd_quits quits, Bool.false_eq_true, if_false]
  | 3 =>
    simp only [level] at read ⊢
    rw [negation]
    simp only [isNot_enters enters, Bool.false_eq_true, if_false, read]
  | 4 =>
    simp only [level] at read ⊢
    rw [comparison, read]
    simp only [bind, Except.bind, relations, compareOp?_quits quits]
    rfl
  | 5 =>
    simp only [level] at read ⊢
    rw [sum, read]
    simp only [bind, Except.bind, moreTerms, sumOp?_quits quits]
  | 6 =>
    simp only [level] at read ⊢
    rw [product, read]
    simp only [bind, Except.bind, moreFactors, productOp?_quits quits]
  | 7 =>
    simp only [level] at read ⊢
    rw [signed]
    simp only [signOp?_enters enters, read]
  | 8 =>
    simp only [level] at read ⊢
    rw [power, read]
    simp only [bind, Except.bind, suffixes_quits (quits.mono (Nat.le_succ 8)), isPower_quits quits,
      Bool.false_eq_true, if_false]
    rfl
  | k + 9 => omega

/-- What is read on a level is read on every level above, if nothing there goes on with it. -/
lemma rise (h : Reads (level j) need ts e rest) (le : k ≤ j) (inside : j ≤ 9) (quits : Quits k rest)
    (enters : Enters j ts) : Reads (level k) (need + (j - k)) ts e rest := by
  induction j generalizing need with
  | zero =>
    obtain rfl : k = 0 := by omega
    exact h
  | succ j ih =>
    by_cases here : k = j + 1
    · subst here
      exact h.mono (Nat.le_add_right _ _)
    · have above : k ≤ j := by omega
      have once := h.lift (by omega) (quits.mono above) enters
      exact (ih once above (by omega) (enters.mono (Nat.le_succ j))).mono (by omega)

end Reads

/-- In front of an expression there is no token that only ends or parts one. -/
lemma Begins.at_eq_false {ts : List Token} (h : Begins ts) {is : Token → Bool}
    (other : ∀ t, t.begins → is t = false) : (ofTokens ts).at is = false := by
  obtain ⟨t, more, rfl, begins⟩ := h
  exact other t begins

section Operands

variable {s : Style} {e : Expr} {rest : List Token}

/-- An operand begins with a token that no sign can be. -/
lemma operand_head (s : Style) (e : Expr) :
    ∃ t more, e.operand s = t :: more ∧ t.begins ∧ t.entrance = 9 := by
  cases e with
  | lit value =>
    cases value with
    | bool b => cases b <;> exact ⟨_, [], rfl, rfl, rfl⟩
    | _ => exact ⟨_, [], rfl, rfl, rfl⟩
  | name name => exact ⟨.name name, [], rfl, rfl, rfl⟩
  | _ => exact ⟨.leftParen, _, rfl, rfl, rfl⟩

lemma operand_begins (s : Style) (e : Expr) : Begins (e.operand s) := by
  obtain ⟨t, more, same, begins, _⟩ := operand_head s e
  exact ⟨t, more, same, begins⟩

lemma operand_enters (s : Style) (e : Expr) (rest : List Token) :
    Enters 9 (e.operand s ++ rest) := by
  obtain ⟨t, more, same, _, entrance⟩ := operand_head s e
  rw [same]
  intro _ head
  cases head
  exact Nat.le_of_eq entrance.symm

lemma written_begins (s : Style) (e : Expr) : Begins (e.written s) := by
  cases e with
  | lit value => exact operand_begins s (.lit value)
  | name name => exact operand_begins s (.name name)
  | unary op operand => cases op <;> exact ⟨_, _, rfl, rfl⟩
  | list | listComp => exact ⟨.leftBracket, _, rfl, rfl⟩
  | dict | dictComp => exact ⟨.leftBrace, _, rfl, rfl⟩
  | binary _ left | and left | or left => exact (operand_begins s left).append _
  | compare first => exact (operand_begins s first).append _
  | conditional _ yes => exact (operand_begins s yes).append _
  | attr base | index base | slice base => exact (operand_begins s base).append _
  | call function => exact (operand_begins s function).append _

lemma operand_length_pos (s : Style) (e : Expr) : 0 < (e.operand s).length := by
  obtain ⟨t, more, same, _⟩ := operand_head s e
  rw [same]
  exact Nat.succ_pos _

lemma item_eq (s : Style) (e : Expr) : e.item s = e.written s ∨ e.item s = e.operand s := by
  unfold Expr.item Style.item
  split
  · exact .inl rfl
  · exact .inr rfl

lemma item_begins (s : Style) (e : Expr) : Begins (e.item s) := by
  rcases item_eq s e with same | same
  · exact same ▸ written_begins s e
  · exact same ▸ operand_begins s e

/-- Whether what is written of an expression is read as this expression. -/
def ReadsBack (s : Style) (e : Expr) : Prop :=
  ∀ rest, Quits 0 rest → Reads expression (16 * (e.written s).length) (e.written s ++ rest) e rest

lemma reads_literal (value : Literal) (quits : Quits 10 rest) :
    Reads atom 0 (value.token :: rest) (.lit value) rest := by
  refine fun fuel enough => ?_
  obtain ⟨fuel, rfl⟩ : ∃ less, fuel = less + 1 := ⟨fuel - 1, by omega⟩
  rw [atom]
  cases value with
  | bool b => cases b <;> rfl
  | str text =>
    change Except.ok ((Expr.lit (.str (adjacentStrings text 0 0 (rest.map (⟨·, 0⟩))).1)),
      (adjacentStrings text 0 0 (rest.map (⟨·, 0⟩))).2) = _
    rw [adjacentStrings_quits quits]
  | _ => rfl

lemma reads_name (name : String) (rest : List Token) :
    Reads atom 0 (.name name :: rest) (.name name) rest := by
  refine fun fuel enough => ?_
  obtain ⟨fuel, rfl⟩ : ∃ less, fuel = less + 1 := ⟨fuel - 1, by omega⟩
  rw [atom]
  rfl

/-- An expression in parentheses is an operand. -/
lemma ReadsBack.parentheses (h : ReadsBack s e) (rest : List Token) :
    Reads atom (16 * (e.written s).length + 2) (.leftParen :: (e.written s ++ .rightParen :: rest)) e
      rest := by
  have inside := h (.rightParen :: rest) (quits_cons (by decide))
  have first : (ofTokens (e.written s ++ .rightParen :: rest)).at Token.isRightParen = false :=
    ((written_begins s e).append _).at_eq_false fun t begins => by
      cases t <;> first | rfl | cases begins
  refine .of_succ fun fuel enough => ?_
  obtain ⟨fuel, rfl⟩ : ∃ less, fuel = less + 1 := ⟨fuel - 1, by omega⟩
  rw [atom]
  change parenthesised (fuel + 1) (ofTokens _) = _
  rw [parenthesised]
  simp only [first, Bool.false_eq_true, if_false]
  rw [inside fuel (by omega)]
  rfl

/-- What is written of an operand is read as one. -/
lemma ReadsBack.operand (h : ReadsBack s e) (quits : Quits 10 rest) {n : Nat}
    (enough : 16 * (e.operand s).length ≤ n + 16) :
    Reads atom n (e.operand s ++ rest) e rest := by
  cases e with
  | lit value => exact (reads_literal value quits).mono (Nat.zero_le _)
  | name name => exact (reads_name name rest).mono (Nat.zero_le _)
  | _ =>
    simp only [Expr.operand, enclose, List.length_cons, List.length_append, List.length_nil] at enough
    simp only [Expr.operand, enclose, List.cons_append, List.append_assoc, List.nil_append]
    exact (h.parentheses rest).mono (by omega)

/-- What is written of an operand is read on every level. -/
lemma ReadsBack.on (h : ReadsBack s e) (k : Nat) (inside : k ≤ 9) (quits : Quits k rest) {n : Nat}
    (enough : 16 * (e.operand s).length + (9 - k) ≤ n + 16) :
    Reads (level k) n (e.operand s ++ rest) e rest := by
  have full := operand_length_pos s e
  have lowest : Reads (level 9) (n - (9 - k)) (e.operand s ++ rest) e rest :=
    h.operand (quits.mono (by omega)) (by omega)
  exact (lowest.rise inside (Nat.le_refl 9) quits (operand_enters s e rest)).mono (by omega)

lemma ReadsBack.item (h : ReadsBack s e) (quits : Quits 0 rest) :
    Reads expression (16 * (e.item s).length) (e.item s ++ rest) e rest := by
  rcases item_eq s e with same | same
  · rw [same]
    exact h rest quits
  · rw [same]
    exact h.on 0 (by omega) quits (by omega)

lemma item_length_pos (s : Style) (e : Expr) : 0 < (e.item s).length := by
  obtain ⟨t, more, same, _⟩ := item_begins s e
  rw [same]
  exact Nat.succ_pos _

end Operands

end BranchingStory.Script
