import BranchingStory.Proofs.Script.Levels

/-!
# Reading operators and suffixes back

Each form of expression that is made of operands is read back on its own level, with a fuel of sixteen
for each of its tokens.
-/

namespace BranchingStory.Script

open Cursor

attribute [local simp] Expr.written

section Nodes

variable {s : Style} {e left right : Expr} {n : Nat} {ts us rest : List Token}

lemma readsBack_literal (value : Literal) : ReadsBack s (.lit value) := by
  intro rest quits
  have lowest : Reads (level 9) 0 (value.token :: rest) (.lit value) rest :=
    reads_literal value (quits.mono (by decide))
  refine (lowest.rise (k := 0) (by decide) (by decide) quits (operand_enters s (.lit value) rest)).mono ?_
  simp only [Expr.written, List.length_cons, List.length_nil]
  omega

lemma readsBack_name (name : String) : ReadsBack s (.name name) := by
  intro rest quits
  have lowest : Reads (level 9) 0 (.name name :: rest) (.name name) rest := reads_name name rest
  refine (lowest.rise (k := 0) (by decide) (by decide) quits (operand_enters s (.name name) rest)).mono ?_
  simp only [Expr.written, List.length_cons, List.length_nil]
  omega

/-- A sum, behind its first term. -/
lemma Reads.sum {op : BinaryOp} (sign : sumOp? (ofTokens (op.token :: us)) = some op)
    (first : Reads (level 6) n ts left (op.token :: us)) (second : Reads (level 6) n us right rest)
    (quits : Quits 5 rest) : Reads (level 5) (n + 2) ts (.binary op left right) rest := by
  refine .of_succ fun fuel enough => ?_
  obtain ⟨fuel, rfl⟩ : ∃ less, fuel = less + 2 := ⟨fuel - 2, by omega⟩
  have one := first (fuel + 2) (by omega)
  have two := second (fuel + 1) (by omega)
  simp only [level] at one two ⊢
  rw [Script.sum, one]
  change moreTerms (fuel + 2) left (ofTokens (op.token :: us)) = _
  rw [moreTerms, sign]
  simp only [advance_ofTokens]
  rw [two]
  change moreTerms (fuel + 1) (.binary op left right) (ofTokens rest) = _
  rw [moreTerms, sumOp?_quits quits]

/-- A product, behind its first factor. -/
lemma Reads.product {op : BinaryOp} (sign : productOp? (ofTokens (op.token :: us)) = some op)
    (first : Reads (level 7) n ts left (op.token :: us)) (second : Reads (level 7) n us right rest)
    (quits : Quits 6 rest) : Reads (level 6) (n + 2) ts (.binary op left right) rest := by
  refine .of_succ fun fuel enough => ?_
  obtain ⟨fuel, rfl⟩ : ∃ less, fuel = less + 2 := ⟨fuel - 2, by omega⟩
  have one := first (fuel + 2) (by omega)
  have two := second (fuel + 1) (by omega)
  simp only [level] at one two ⊢
  rw [Script.product, one]
  change moreFactors (fuel + 2) left (ofTokens (op.token :: us)) = _
  rw [moreFactors, sign]
  simp only [advance_ofTokens]
  rw [two]
  change moreFactors (fuel + 1) (.binary op left right) (ofTokens rest) = _
  rw [moreFactors, productOp?_quits quits]

lemma Reads.power (first : Reads (level 9) n ts left (.doubleStar :: us))
    (second : Reads (level 7) n us right rest) :
    Reads (level 8) (n + 2) ts (.binary .pow left right) rest := by
  refine .of_succ fun fuel enough => ?_
  obtain ⟨fuel, rfl⟩ : ∃ less, fuel = less + 1 := ⟨fuel - 1, by omega⟩
  have one := first (fuel + 1) (by omega)
  have two := second (fuel + 1) (by omega)
  simp only [level] at one two ⊢
  rw [Script.power, one]
  simp only [bind, Except.bind, suffixes_quits (quits_cons (t := .doubleStar) (by decide)),
    at_ofTokens, Token.isPower, if_true, advance_ofTokens, two]
  rfl

lemma Reads.and (first : Reads (level 3) n ts left (.and :: us))
    (second : Reads (level 3) n us right rest) (quits : Quits 2 rest) :
    Reads (level 2) (n + 2) ts (.and left right) rest := by
  refine .of_succ fun fuel enough => ?_
  obtain ⟨fuel, rfl⟩ : ∃ less, fuel = less + 2 := ⟨fuel - 2, by omega⟩
  have one := first (fuel + 2) (by omega)
  have two := second (fuel + 1) (by omega)
  simp only [level] at one two ⊢
  rw [conjunction, one]
  change moreConjuncts (fuel + 2) left (ofTokens (.and :: us)) = _
  rw [moreConjuncts]
  simp only [at_ofTokens, Token.isAnd, if_true, advance_ofTokens]
  rw [two]
  change moreConjuncts (fuel + 1) (.and left right) (ofTokens rest) = _
  simp only [moreConjuncts, isAnd_quits quits, Bool.false_eq_true, if_false]

lemma Reads.or (first : Reads (level 2) n ts left (.or :: us))
    (second : Reads (level 2) n us right rest) (quits : Quits 1 rest) :
    Reads (level 1) (n + 2) ts (.or left right) rest := by
  refine .of_succ fun fuel enough => ?_
  obtain ⟨fuel, rfl⟩ : ∃ less, fuel = less + 2 := ⟨fuel - 2, by omega⟩
  have one := first (fuel + 2) (by omega)
  have two := second (fuel + 1) (by omega)
  simp only [level] at one two ⊢
  rw [disjunction, one]
  change moreDisjuncts (fuel + 2) left (ofTokens (.or :: us)) = _
  rw [moreDisjuncts]
  simp only [at_ofTokens, Token.isOr, if_true, advance_ofTokens]
  rw [two]
  change moreDisjuncts (fuel + 1) (.or left right) (ofTokens rest) = _
  simp only [moreDisjuncts, isOr_quits quits, Bool.false_eq_true, if_false]

lemma Reads.sign (op : UnaryOp) (sign : signOp? (ofTokens (op.token :: us)) = some op)
    (operand : Reads (level 7) n us e rest) :
    Reads (level 7) (n + 1) (op.token :: us) (.unary op e) rest := by
  refine .of_succ fun fuel enough => ?_
  have read := operand fuel enough
  simp only [level] at read ⊢
  rw [signed, sign]
  simp only [advance_ofTokens]
  rw [read]
  rfl

lemma Reads.not (operand : Reads (level 3) n us e rest) :
    Reads (level 3) (n + 1) (.not :: us) (.unary .not e) rest := by
  refine .of_succ fun fuel enough => ?_
  have read := operand fuel enough
  simp only [level] at read ⊢
  rw [negation]
  simp only [at_ofTokens, Token.isNot, if_true, advance_ofTokens]
  rw [read]
  rfl

lemma Reads.conditional {condition yes no : Expr} {vs : List Token}
    (first : Reads (level 1) n ts yes (.ifWord :: us))
    (second : Reads (level 1) n us condition (.elseWord :: vs)) (third : Reads (level 0) n vs no rest) :
    Reads (level 0) (n + 1) ts (.conditional condition yes no) rest := by
  refine .of_succ fun fuel enough => ?_
  have one := first fuel enough
  have two := second fuel enough
  have three := third fuel enough
  simp only [level] at one two three ⊢
  rw [expression, one]
  simp only [bind, Except.bind, at_ofTokens, Token.isIf, if_true, advance_ofTokens, two,
    expect_ofTokens (t := .elseWord) (rfl : Token.isElse .elseWord = true), three]
  rfl

/-- An operand with something behind it, such as an attribute or a subscript. -/
lemma Reads.suffixed (first : Reads atom n ts left us)
    (second : Reads (fun fuel => suffixes fuel left) n us e rest) (quits : Quits 8 rest) :
    Reads (level 8) (n + 1) ts e rest := by
  refine .of_succ fun fuel enough => ?_
  have one := first fuel enough
  have two := second fuel enough
  simp only [level] at two ⊢
  rw [Script.power, one]
  simp only [bind, Except.bind, two, isPower_quits quits, Bool.false_eq_true, if_false]
  rfl

end Nodes

section Operators

variable {s : Style} {e left right : Expr}

/-- What is read on some level by itself is read as a whole expression. -/
lemma Reads.whole {k n : Nat} {ts rest : List Token} (h : Reads (level k) n ts e rest) (inside : k ≤ 9)
    (quits : Quits 0 rest) (enters : Enters k ts) {bound : Nat} (enough : n + k ≤ bound) :
    Reads expression bound ts e rest :=
  have whole : Reads (level 0) (n + (k - 0)) ts e rest := h.rise (Nat.zero_le k) inside quits enters
  whole.mono (by omega)

lemma readsBack_unary (op : UnaryOp) (h : ReadsBack s e) : ReadsBack s (.unary op e) := by
  intro rest quits
  simp only [Expr.written, enclose_written, List.cons_append, List.length_cons]
  have signed : Reads (level 7) (16 * (e.operand s).length)
      (e.operand s ++ rest) e rest :=
    h.on 7 (by omega) (quits.mono (by omega)) (by omega)
  have negated : Reads (level 3) (16 * (e.operand s).length)
      (e.operand s ++ rest) e rest :=
    h.on 3 (by omega) (quits.mono (by omega)) (by omega)
  have enters {k : Nat} (le : k ≤ op.token.entrance) :
      Enters k (op.token :: (e.operand s ++ rest)) := by
    intro _ head
    cases head
    exact le
  cases op with
  | neg => exact (signed.sign .neg rfl).whole (by omega) quits (enters (by decide)) (by omega)
  | pos => exact (signed.sign .pos rfl).whole (by omega) quits (enters (by decide)) (by omega)
  | not => exact negated.not.whole (by omega) quits (enters (by decide)) (by omega)

lemma readsBack_binary (op : BinaryOp) (l : ReadsBack s left) (r : ReadsBack s right) :
    ReadsBack s (.binary op left right) := by
  intro rest quits
  simp only [Expr.written, enclose_written, List.append_assoc, List.cons_append, List.length_append, List.length_cons]
  -- Both operands are read on the level above that of the sign.
  have first (k : Nat) (inside : k ≤ 9) (strength : op.token.strength ≤ k) :
      Reads (level k) (16 * ((left.operand s).length + (right.operand s).length))
        (left.operand s ++ op.token :: (right.operand s ++ rest)) left
        (op.token :: (right.operand s ++ rest)) :=
    l.on k inside (quits_cons strength) (by omega)
  have second (k : Nat) (inside : k ≤ 9) :
      Reads (level k) (16 * ((left.operand s).length + (right.operand s).length))
        (right.operand s ++ rest) right rest :=
    r.on k inside (quits.mono (by omega)) (by omega)
  have enters {k : Nat} (le : k ≤ 9) :
      Enters k (left.operand s ++ op.token :: (right.operand s ++ rest)) :=
    (operand_enters s left _).mono le
  have ends {k : Nat} : Quits k rest := quits.mono (Nat.zero_le k)
  cases op with
  | add | sub =>
    have here := (first 6 (by omega) (by decide)).sum rfl (second 6 (by omega)) ends
    exact here.whole (by omega) quits (enters (by omega)) (by omega)
  | mul | div | floorDiv | mod =>
    have here := (first 7 (by omega) (by decide)).product rfl (second 7 (by omega)) ends
    exact here.whole (by omega) quits (enters (by omega)) (by omega)
  | pow =>
    have here := (first 9 (by omega) (by decide)).power (second 7 (by omega))
    exact here.whole (by omega) quits (enters (by omega)) (by omega)

lemma readsBack_and (l : ReadsBack s left) (r : ReadsBack s right) : ReadsBack s (.and left right) := by
  intro rest quits
  simp only [Expr.written, enclose_written, List.append_assoc, List.cons_append, List.length_append, List.length_cons]
  have first : Reads (level 3) (16 * ((left.operand s).length + (right.operand s).length))
      (left.operand s ++ .and :: (right.operand s ++ rest)) left (.and :: (right.operand s ++ rest)) :=
    l.on 3 (by omega) (quits_cons (by decide)) (by omega)
  have second : Reads (level 3) (16 * ((left.operand s).length + (right.operand s).length))
      (right.operand s ++ rest) right rest :=
    r.on 3 (by omega) (quits.mono (by omega)) (by omega)
  have here := first.and second (quits.mono (by omega))
  exact here.whole (by omega) quits ((operand_enters s left _).mono (by omega)) (by omega)

lemma readsBack_or (l : ReadsBack s left) (r : ReadsBack s right) : ReadsBack s (.or left right) := by
  intro rest quits
  simp only [Expr.written, enclose_written, List.append_assoc, List.cons_append, List.length_append, List.length_cons]
  have first : Reads (level 2) (16 * ((left.operand s).length + (right.operand s).length))
      (left.operand s ++ .or :: (right.operand s ++ rest)) left (.or :: (right.operand s ++ rest)) :=
    l.on 2 (by omega) (quits_cons (by decide)) (by omega)
  have second : Reads (level 2) (16 * ((left.operand s).length + (right.operand s).length))
      (right.operand s ++ rest) right rest :=
    r.on 2 (by omega) (quits.mono (by omega)) (by omega)
  have here := first.or second (quits.mono (by omega))
  exact here.whole (by omega) quits ((operand_enters s left _).mono (by omega)) (by omega)

lemma readsBack_conditional {condition yes no : Expr} (c : ReadsBack s condition)
    (y : ReadsBack s yes) (n : ReadsBack s no) : ReadsBack s (.conditional condition yes no) := by
  intro rest quits
  simp only [Expr.written, enclose_written, List.append_assoc, List.cons_append, List.length_append, List.length_cons]
  let behind := .elseWord :: (no.operand s ++ rest)
  have first : Reads (level 1)
      (16 * ((yes.operand s).length + (condition.operand s).length + (no.operand s).length))
      (yes.operand s ++ .ifWord :: (condition.operand s ++ behind)) yes
      (.ifWord :: (condition.operand s ++ behind)) :=
    y.on 1 (by omega) (quits_cons (by decide)) (by omega)
  have second : Reads (level 1)
      (16 * ((yes.operand s).length + (condition.operand s).length + (no.operand s).length))
      (condition.operand s ++ behind) condition behind :=
    c.on 1 (by omega) (quits_cons (by decide)) (by omega)
  have third : Reads (level 0)
      (16 * ((yes.operand s).length + (condition.operand s).length + (no.operand s).length))
      (no.operand s ++ rest) no rest :=
    n.on 0 (by omega) quits (by omega)
  have here := first.conditional second third
  exact here.whole (by omega) quits ((operand_enters s yes _).mono (by omega)) (by omega)

/-- Whether what is written of the relations of a chain is read as these. -/
def ReadsChain (s : Style) (chain : List (CompareOp × Expr)) : Prop :=
  ∀ rest, Quits 4 rest →
    Reads relations (16 * (writtenChain s chain).length) (writtenChain s chain ++ rest) chain rest

/-- The tokens of a relation are the relation, if no second word of another one follows. -/
lemma compareOp?_tokens (op : CompareOp) {us : List Token} (enters : Enters 4 us) :
    compareOp? (ofTokens (op.tokens ++ us)) = some (op, ofTokens us) := by
  cases op with
  | is =>
    cases us with
    | nil => rfl
    | cons t us => cases t <;> first | rfl | exact absurd (enters _ rfl) (by decide)
  | _ => rfl

lemma chain_quits (s : Style) (chain : List (CompareOp × Expr)) {rest : List Token}
    (quits : Quits 4 rest) : Quits 5 (writtenChain s chain ++ rest) := by
  cases chain with
  | nil => exact quits.mono (by omega)
  | cons link chain =>
    obtain ⟨op, right⟩ := link
    cases op <;> exact quits_cons (by decide)

lemma readsChain_nil : ReadsChain s [] := by
  intro rest quits fuel enough
  obtain ⟨fuel, rfl⟩ : ∃ less, fuel = less + 1 := ⟨fuel - 1, by omega⟩
  rw [relations]
  simp only [writtenChain, List.nil_append, compareOp?_quits quits]

lemma readsChain_cons (op : CompareOp) {chain : List (CompareOp × Expr)} (r : ReadsBack s right)
    (more : ReadsChain s chain) : ReadsChain s ((op, right) :: chain) := by
  intro rest quits
  have sign : 0 < op.tokens.length := by cases op <;> decide
  have first : Reads (level 5) (16 * ((right.operand s).length + (writtenChain s chain).length))
      (right.operand s ++ (writtenChain s chain ++ rest)) right (writtenChain s chain ++ rest) :=
    r.on 5 (by omega) (chain_quits s chain quits) (by omega)
  have second := more rest quits
  have here : Reads relations (16 * ((right.operand s).length + (writtenChain s chain).length) + 1)
      (op.tokens ++ (right.operand s ++ (writtenChain s chain ++ rest))) ((op, right) :: chain) rest := by
    refine .of_succ fun fuel enough => ?_
    have one := first fuel enough
    have two := second fuel (by omega)
    simp only [level] at one
    rw [relations, compareOp?_tokens op ((operand_enters s right _).mono (by omega))]
    simp only [bind, Except.bind, one, two]
    rfl
  simp only [writtenChain, enclose_written, List.append_assoc, List.length_append]
  exact here.mono (by omega)

lemma readsBack_compare {chain : List (CompareOp × Expr)} (f : ReadsBack s e) (c : ReadsChain s chain)
    (full : chain ≠ []) : ReadsBack s (.compare e chain) := by
  intro rest quits
  have operand := operand_length_pos s e
  have here : Reads (level 4) (16 * ((e.operand s).length + (writtenChain s chain).length) - 12 + 1)
      (e.operand s ++ (writtenChain s chain ++ rest)) (.compare e chain) rest := by
    have first : Reads (level 5) (16 * ((e.operand s).length + (writtenChain s chain).length) - 12)
        (e.operand s ++ (writtenChain s chain ++ rest)) e (writtenChain s chain ++ rest) :=
      f.on 5 (by omega) (chain_quits s chain (quits.mono (by omega))) (by omega)
    have second := c rest (quits.mono (by omega))
    refine .of_succ fun fuel enough => ?_
    have one := first fuel enough
    have two := second fuel (by omega)
    have notEmpty : chain.isEmpty = false := List.isEmpty_eq_false_iff.mpr full
    simp only [level] at one ⊢
    rw [comparison, one]
    simp only [bind, Except.bind, two, notEmpty, Bool.false_eq_true, if_false]
    rfl
  simp only [Expr.written, enclose_written, List.append_assoc, List.length_append]
  exact here.whole (by omega) quits ((operand_enters s e _).mono (by omega)) (by omega)

end Operators

section Suffixes

variable {s : Style} {base e : Expr}

/-- What stands behind an operand, with a token that goes on with it. -/
lemma ReadsBack.suffixed (b : ReadsBack s base) {n : Nat} {t : Token} {us rest : List Token}
    (strength : t.strength ≤ 10)
    (behind : Reads (fun fuel => suffixes fuel base) n (t :: us) e rest) (quits : Quits 0 rest)
    {bound : Nat} (enough : max (16 * (base.operand s).length) n + 10 ≤ bound) :
    Reads expression bound (base.operand s ++ t :: us) e rest := by
  have first : Reads atom (max (16 * (base.operand s).length) n) (base.operand s ++ t :: us) base
      (t :: us) :=
    b.operand (quits_cons strength) (by omega)
  have here := first.suffixed (behind.mono (by omega)) (quits.mono (by omega))
  exact here.whole (by omega) quits ((operand_enters s base _).mono (by omega)) (by omega)

lemma readsBack_attr (attr : String) (b : ReadsBack s base) : ReadsBack s (.attr base attr) := by
  intro rest quits
  have behind : Reads (fun fuel => suffixes fuel base) 1 (.dot :: .name attr :: rest) (.attr base attr)
      rest := by
    refine .of_succ fun fuel enough => ?_
    obtain ⟨fuel, rfl⟩ : ∃ less, fuel = less + 1 := ⟨fuel - 1, by omega⟩
    rw [suffixes]
    exact suffixes_quits (quits.mono (by omega)) (.attr base attr) fuel
  simp only [Expr.written, enclose_written, List.append_assoc, List.length_append, List.length_cons,
    List.length_nil]
  exact b.suffixed (by decide) behind quits (by omega)

/-- What stands between brackets behind an operand. -/
lemma suffixes_subscript {n : Nat} {us rest : List Token}
    (inside : Reads (fun fuel => subscript fuel base) n us e rest) (quits : Quits 0 rest) :
    Reads (fun fuel => suffixes fuel base) (n + 1) (.leftBracket :: us) e rest := by
  refine .of_succ fun fuel enough => ?_
  have read := inside fuel enough
  obtain ⟨fuel, rfl⟩ : ∃ less, fuel = less + 1 := ⟨fuel - 1, by omega⟩
  simp only at read ⊢
  rw [suffixes]
  simp only [peek?_ofTokens, advance_ofTokens, read, bind, Except.bind]
  exact suffixes_quits (quits.mono (by omega)) e fuel

lemma isColon_item (s : Style) (e : Expr) (rest : List Token) :
    (ofTokens (e.item s ++ rest)).at Token.isColon = false :=
  ((item_begins s e).append rest).at_eq_false fun t begins => by
    cases t <;> first | rfl | cases begins

lemma isRightBracket_item (s : Style) (e : Expr) (rest : List Token) :
    (ofTokens (e.item s ++ rest)).at Token.isRightBracket = false :=
  ((item_begins s e).append rest).at_eq_false fun t begins => by
    cases t <;> first | rfl | cases begins

lemma isRightBrace_item (s : Style) (e : Expr) (rest : List Token) :
    (ofTokens (e.item s ++ rest)).at Token.isRightBrace = false :=
  ((item_begins s e).append rest).at_eq_false fun t begins => by
    cases t <;> first | rfl | cases begins

lemma isRightParen_item (s : Style) (e : Expr) (rest : List Token) :
    (ofTokens (e.item s ++ rest)).at Token.isRightParen = false :=
  ((item_begins s e).append rest).at_eq_false fun t begins => by
    cases t <;> first | rfl | cases begins

lemma readsBack_index {index : Expr} (b : ReadsBack s base) (i : ReadsBack s index) :
    ReadsBack s (.index base index) := by
  intro rest quits
  have inside : Reads (fun fuel => subscript fuel base) (16 * (index.item s).length + 1)
      (index.item s ++ .rightBracket :: rest) (.index base index) rest := by
    refine .of_succ fun fuel enough => ?_
    have read := i.item (quits_cons (by decide) : Quits 0 (.rightBracket :: rest)) fuel enough
    rw [subscript]
    simp only [isColon_item, Bool.false_eq_true, if_false, read, bind, Except.bind, at_ofTokens,
      Token.isColon, expect_ofTokens (t := .rightBracket) (rfl : Token.isRightBracket .rightBracket = true)]
    rfl
  simp only [Expr.written, enclose_written, item_written, List.append_assoc, List.cons_append,
    List.nil_append, List.length_append, List.length_cons, List.length_nil]
  exact b.suffixed (by decide) (suffixes_subscript inside quits) quits (by omega)

/-- Whether what is written of a bound is read as it. -/
def ReadsBound (s : Style) : Option Expr → Prop
  | none => True
  | some e => ReadsBack s e

/-- What is written of the upper bound of a slice is read as it. -/
lemma reads_sliceEnd (base : Expr) (start : Option Expr) {stop : Option Expr} (b : ReadsBound s stop)
    (rest : List Token) :
    Reads (fun fuel => sliceEnd fuel base start) (16 * (writtenBound s stop).length + 1)
      (writtenBound s stop ++ .rightBracket :: rest) (.slice base start stop) rest := by
  refine .of_succ fun fuel enough => ?_
  rw [sliceEnd]
  cases stop with
  | none => rfl
  | some e =>
    have read := ReadsBack.item b (quits_cons (by decide) : Quits 0 (.rightBracket :: rest)) fuel enough
    simp only [writtenBound, item_written, isRightBracket_item, Bool.false_eq_true, if_false, read,
      bind, Except.bind,
      expect_ofTokens (t := .rightBracket) (rfl : Token.isRightBracket .rightBracket = true)]
    rfl

lemma readsBack_slice {start stop : Option Expr} (b : ReadsBack s base) (l : ReadsBound s start)
    (u : ReadsBound s stop) : ReadsBack s (.slice base start stop) := by
  intro rest quits
  have inside : Reads (fun fuel => subscript fuel base)
      (16 * ((writtenBound s start).length + (writtenBound s stop).length) + 2)
      (writtenBound s start ++ .colon :: (writtenBound s stop ++ .rightBracket :: rest))
      (.slice base start stop) rest := by
    refine .of_succ fun fuel enough => ?_
    have behind := reads_sliceEnd base start u rest fuel (by omega)
    simp only at behind ⊢
    rw [subscript]
    cases start with
    | none =>
      simp only [writtenBound, List.nil_append, at_ofTokens, Token.isColon, if_true, advance_ofTokens]
      exact behind
    | some e =>
      simp only [writtenBound, item_written] at enough behind ⊢
      have ends : Quits 0 (.colon :: (writtenBound s stop ++ .rightBracket :: rest)) :=
        quits_cons (by decide)
      have read := ReadsBack.item l ends fuel (by omega)
      simp only [isColon_item, Bool.false_eq_true, if_false, read, bind, Except.bind, at_ofTokens,
        Token.isColon, if_true, advance_ofTokens]
      exact behind
  simp only [Expr.written, enclose_written, List.append_assoc, List.cons_append, List.nil_append,
    List.length_append, List.length_cons, List.length_nil]
  exact b.suffixed (by decide) (suffixes_subscript inside quits) quits (by omega)

end Suffixes

end BranchingStory.Script
