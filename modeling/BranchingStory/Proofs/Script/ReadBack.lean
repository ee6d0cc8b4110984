import BranchingStory.Proofs.Script.Operations
import BranchingStory.Proofs.Script.Spelling

/-!
# Reading back what was written

The forms of expression that list others, and then every expression by its parts: what is written of an
expression is read as this expression, whatever white space there is between the tokens.
-/

namespace BranchingStory.Script

open Cursor

section Collections

variable {s : Style}

/-- Whether what is written of the further items of a list is read as these. -/
def ReadsItems (s : Style) (items : List Expr) : Prop :=
  ∀ rest, Reads (fun fuel => moreItems fuel Token.isRightBracket)
    (16 * ((writtenItems s items).flatMap (.comma :: ·)).length)
    ((writtenItems s items).flatMap (.comma :: ·) ++ .rightBracket :: rest) items
    (.rightBracket :: rest)

lemma readsItems_nil : ReadsItems s [] := by
  intro rest fuel enough
  obtain ⟨fuel, rfl⟩ : ∃ less, fuel = less + 1 := ⟨fuel - 1, by omega⟩
  rfl

lemma readsItems_cons {e : Expr} {es : List Expr} (first : ReadsBack s e) (more : ReadsItems s es) :
    ReadsItems s (e :: es) := by
  intro rest
  have here : Reads (fun fuel => moreItems fuel Token.isRightBracket)
      (16 * ((e.item s).length + ((writtenItems s es).flatMap (.comma :: ·)).length) + 1)
      (.comma :: (e.item s ++ ((writtenItems s es).flatMap (.comma :: ·) ++ .rightBracket :: rest)))
      (e :: es) (.rightBracket :: rest) := by
    refine .of_succ fun fuel enough => ?_
    have ends : Quits 0 ((writtenItems s es).flatMap (.comma :: ·) ++ .rightBracket :: rest) := by
      cases es with
      | nil => exact quits_cons (by decide)
      | cons => exact quits_cons (by decide)
    have one := first.item ends fuel (by omega)
    have two := more rest fuel (by omega)
    simp only at two
    rw [moreItems]
    simp only [at_ofTokens, Token.isComma, if_true, advance_ofTokens, isRightBracket_item,
      Bool.false_eq_true, if_false, one, two, bind, Except.bind]
    rfl
  simp only [writtenItems, item_written, List.flatMap_cons, List.cons_append, List.append_assoc,
    List.length_append, List.length_cons]
  exact here.mono (by omega)

/-- A list or a comprehension in brackets. -/
lemma Reads.brackets {e : Expr} {n : Nat} {us rest : List Token}
    (inside : Reads bracketed n us e rest) (quits : Quits 0 rest) {bound : Nat}
    (enough : n + 10 ≤ bound) : Reads expression bound (.leftBracket :: us) e rest := by
  have lowest : Reads (level 9) (n + 1) (.leftBracket :: us) e rest := by
    refine .of_succ fun fuel enough => ?_
    have read := inside fuel enough
    simp only [level]
    rw [atom]
    exact read
  have enters : Enters 9 (.leftBracket :: us) := by
    intro _ head
    cases head
    decide
  exact lowest.whole (by omega) quits enters (by omega)

/-- A dictionary or a comprehension in braces. -/
lemma Reads.braces {e : Expr} {n : Nat} {us rest : List Token}
    (inside : Reads braced n us e rest) (quits : Quits 0 rest) {bound : Nat}
    (enough : n + 10 ≤ bound) : Reads expression bound (.leftBrace :: us) e rest := by
  have lowest : Reads (level 9) (n + 1) (.leftBrace :: us) e rest := by
    refine .of_succ fun fuel enough => ?_
    have read := inside fuel enough
    simp only [level]
    rw [atom]
    exact read
  have enters : Enters 9 (.leftBrace :: us) := by
    intro _ head
    cases head
    decide
  exact lowest.whole (by omega) quits enters (by omega)

lemma readsBack_list_nil : ReadsBack s (.list []) := by
  intro rest quits
  have inside : Reads bracketed 0 (.rightBracket :: rest) (.list []) rest := by
    intro fuel enough
    obtain ⟨fuel, rfl⟩ : ∃ less, fuel = less + 1 := ⟨fuel - 1, by omega⟩
    rfl
  exact inside.brackets quits (show 0 + 10 ≤ 16 * 2 by decide)

lemma readsBack_list_cons {e : Expr} {es : List Expr} (first : ReadsBack s e) (more : ReadsItems s es) :
    ReadsBack s (.list (e :: es)) := by
  intro rest quits
  have inside : Reads bracketed
      (16 * ((e.item s).length + ((writtenItems s es).flatMap (.comma :: ·)).length) + 1)
      (e.item s ++ ((writtenItems s es).flatMap (.comma :: ·) ++ .rightBracket :: rest)) (.list (e :: es))
      rest := by
    refine .of_succ fun fuel enough => ?_
    have ends : Quits 0 ((writtenItems s es).flatMap (.comma :: ·) ++ .rightBracket :: rest) := by
      cases es with
      | nil => exact quits_cons (by decide)
      | cons => exact quits_cons (by decide)
    have noClause : (ofTokens ((writtenItems s es).flatMap (.comma :: ·) ++ .rightBracket :: rest)).at
        Token.isFor = false := by
      cases es <;> rfl
    have one := first.item ends fuel (by omega)
    have two := more rest fuel (by omega)
    simp only at two
    rw [bracketed]
    simp only [isRightBracket_item, Bool.false_eq_true, if_false, one, two, bind, Except.bind, noClause,
      expect_ofTokens (t := .rightBracket) (rfl : Token.isRightBracket .rightBracket = true)]
    rfl
  simp only [Expr.written, writtenItems, item_written, commas_cons, List.cons_append, List.append_assoc,
    List.nil_append, List.length_append, List.length_cons, List.length_nil]
  exact inside.brackets quits (by omega)

/-- A key and a value with a colon between them. -/
lemma reads_entry {key value : Expr} (k : ReadsBack s key) (v : ReadsBack s value) {rest : List Token}
    (quits : Quits 0 rest) :
    Reads₂ entry (16 * ((key.item s).length + (value.item s).length) + 1)
      (key.item s ++ .colon :: (value.item s ++ rest)) key value rest := by
  intro fuel enough
  obtain ⟨fuel, rfl⟩ : ∃ less, fuel = less + 1 := ⟨fuel - 1, by omega⟩
  have one := k.item (quits_cons (by decide) : Quits 0 (.colon :: (value.item s ++ rest))) fuel (by omega)
  have two := v.item quits fuel (by omega)
  rw [entry]
  simp only [one, two, bind, Except.bind,
    expect_ofTokens (t := .colon) (rfl : Token.isColon .colon = true)]
  rfl

/-- Whether what is written of the further entries of a dictionary is read as these. -/
def ReadsEntries (s : Style) (entries : List (Expr × Expr)) : Prop :=
  ∀ rest, Reads moreEntries (16 * ((writtenEntries s entries).flatMap (.comma :: ·)).length)
    ((writtenEntries s entries).flatMap (.comma :: ·) ++ .rightBrace :: rest) entries
    (.rightBrace :: rest)

lemma readsEntries_nil : ReadsEntries s [] := by
  intro rest fuel enough
  obtain ⟨fuel, rfl⟩ : ∃ less, fuel = less + 1 := ⟨fuel - 1, by omega⟩
  rfl

lemma quits_entries (s : Style) (entries : List (Expr × Expr)) (rest : List Token) :
    Quits 0 ((writtenEntries s entries).flatMap (.comma :: ·) ++ .rightBrace :: rest) := by
  cases entries with
  | nil => exact quits_cons (by decide)
  | cons => exact quits_cons (by decide)

lemma readsEntries_cons {key value : Expr} {entries : List (Expr × Expr)} (k : ReadsBack s key)
    (v : ReadsBack s value) (more : ReadsEntries s entries) : ReadsEntries s ((key, value) :: entries) := by
  intro rest
  have here : Reads moreEntries
      (16 * ((key.item s).length + (value.item s).length +
        ((writtenEntries s entries).flatMap (.comma :: ·)).length) + 2)
      (.comma :: (key.item s ++ .colon :: (value.item s ++
        ((writtenEntries s entries).flatMap (.comma :: ·) ++ .rightBrace :: rest))))
      ((key, value) :: entries) (.rightBrace :: rest) := by
    refine .of_succ fun fuel enough => ?_
    have one := reads_entry k v (quits_entries s entries rest) fuel (by omega)
    have two := more rest fuel (by omega)
    rw [moreEntries]
    simp only [at_ofTokens, Token.isComma, if_true, advance_ofTokens, isRightBrace_item,
      Bool.false_eq_true, if_false, one, two, bind, Except.bind]
    rfl
  simp only [writtenEntries, item_written, List.flatMap_cons, List.cons_append, List.append_assoc,
    List.length_append, List.length_cons]
  exact here.mono (by omega)

lemma readsBack_dict_nil : ReadsBack s (.dict []) := by
  intro rest quits
  have inside : Reads braced 0 (.rightBrace :: rest) (.dict []) rest := by
    intro fuel enough
    obtain ⟨fuel, rfl⟩ : ∃ less, fuel = less + 1 := ⟨fuel - 1, by omega⟩
    rfl
  exact inside.braces quits (show 0 + 10 ≤ 16 * 2 by decide)

lemma readsBack_dict_cons {key value : Expr} {entries : List (Expr × Expr)} (k : ReadsBack s key)
    (v : ReadsBack s value) (more : ReadsEntries s entries) :
    ReadsBack s (.dict ((key, value) :: entries)) := by
  intro rest quits
  have inside : Reads braced
      (16 * ((key.item s).length + (value.item s).length +
        ((writtenEntries s entries).flatMap (.comma :: ·)).length) + 2)
      (key.item s ++ .colon :: (value.item s ++
        ((writtenEntries s entries).flatMap (.comma :: ·) ++ .rightBrace :: rest)))
      (.dict ((key, value) :: entries)) rest := by
    refine .of_succ fun fuel enough => ?_
    have noClause : (ofTokens ((writtenEntries s entries).flatMap (.comma :: ·) ++ .rightBrace :: rest)).at
        Token.isFor = false := by
      cases entries <;> rfl
    have one := reads_entry k v (quits_entries s entries rest) fuel (by omega)
    have two := more rest fuel (by omega)
    rw [braced]
    simp only [isRightBrace_item, Bool.false_eq_true, if_false, one, two, bind, Except.bind, noClause,
      expect_ofTokens (t := .rightBrace) (rfl : Token.isRightBrace .rightBrace = true)]
    rfl
  simp only [Expr.written, writtenEntries, item_written, commas_cons, List.cons_append,
    List.append_assoc, List.nil_append, List.length_append, List.length_cons, List.length_nil]
  exact inside.braces quits (by omega)

end Collections

section Calls

variable {s : Style}

lemma keyword?_eq_some {ts : List Token} {name : String} (h : keyword? (ofTokens ts) = some name) :
    ∃ us, ts = .name name :: .assign .set :: us := by
  cases ts with
  | nil => cases h
  | cons t ts =>
    cases ts with
    | nil => cases t <;> cases h
    | cons u us =>
      unfold keyword? at h
      simp only [peek?_ofTokens, second?_ofTokens] at h
      split at h
      · next first second =>
        cases h
        cases first
        cases second
        exact ⟨us, rfl⟩
      · cases h

/-- No positional argument looks like a keyword argument: it is not read up to an equals sign. -/
lemma keyword?_item {e : Expr} (h : ReadsBack s e) {rest : List Token} (quits : Quits 0 rest)
    (other : ∀ us, rest ≠ .assign .set :: us) : keyword? (ofTokens (e.item s ++ rest)) = none := by
  cases found : keyword? (ofTokens (e.item s ++ rest)) with
  | none => rfl
  | some name =>
    obtain ⟨us, same⟩ := keyword?_eq_some found
    have whole := h.item quits
    rw [same] at whole
    have part := readsBack_name (s := s) name (.assign .set :: us) (quits_cons (by decide))
    exact absurd (whole.unique part) (other us)

/-- Behind an argument the others are read, which stand behind a comma. -/
lemma arguments_behind {parts : List (List Token)} {rest : List Token} {fuel : Nat}
    {args args' : List Expr} {named named' : List (String × Expr)}
    (h : arguments fuel args named (ofTokens (commas parts ++ .rightParen :: rest)) =
      .ok (args', named', ofTokens rest)) :
    (if (ofTokens (parts.flatMap (.comma :: ·) ++ .rightParen :: rest)).at Token.isComma then
        arguments fuel args named (ofTokens (parts.flatMap (.comma :: ·) ++ .rightParen :: rest)).advance
      else do
        let c ← expect Token.isRightParen "')'"
          (ofTokens (parts.flatMap (.comma :: ·) ++ .rightParen :: rest))
        return (args.reverse, named.reverse, c)) = .ok (args', named', ofTokens rest) := by
  cases parts with
  | nil =>
    cases fuel with
    | zero => cases h
    | succ fuel =>
      rw [arguments] at h
      exact h
  | cons part parts =>
    simp only [List.flatMap_cons, List.cons_append, at_ofTokens, Token.isComma, if_true,
      advance_ofTokens]
    rw [commas_cons] at h
    exact h

/-- Whether what is written of arguments is read as these, behind others that were read before. -/
def ReadsArgs (s : Style) (args : List Expr) (named : List (String × Expr)) : Prop :=
  ∀ (before : List Expr) (beforeNamed : List (String × Expr)) (rest : List Token),
    beforeNamed = [] ∨ args = [] →
    Reads₂ (fun fuel => arguments fuel before beforeNamed)
      (16 * (commas (writtenItems s args ++ writtenNamed s named)).length + 1)
      (commas (writtenItems s args ++ writtenNamed s named) ++ .rightParen :: rest)
      (before.reverse ++ args) (beforeNamed.reverse ++ named) rest

lemma quits_parts (parts : List (List Token)) (rest : List Token) :
    Quits 0 (parts.flatMap (.comma :: ·) ++ .rightParen :: rest) := by
  cases parts with
  | nil => exact quits_cons (by decide)
  | cons => exact quits_cons (by decide)

/-- The parts behind the first one are no longer with commas between than with one before each. -/
lemma length_commas_le (parts : List (List Token)) :
    (commas parts).length ≤ (parts.flatMap (Token.comma :: ·)).length := by
  cases parts with
  | nil => exact Nat.le_refl 0
  | cons part parts =>
    simp only [commas_cons, List.flatMap_cons, List.cons_append, List.length_cons, List.length_append]
    omega

lemma readsArgs_nil : ReadsArgs s [] [] := by
  intro before beforeNamed rest _ fuel enough
  obtain ⟨fuel, rfl⟩ : ∃ less, fuel = less + 1 := ⟨fuel - 1, by omega⟩
  simp only [List.append_nil]
  rfl

lemma readsArgs_named {name : String} {value : Expr} {named : List (String × Expr)}
    (v : ReadsBack s value) (more : ReadsArgs s [] named) : ReadsArgs s [] ((name, value) :: named) := by
  intro before beforeNamed rest _ fuel enough
  obtain ⟨fuel, rfl⟩ : ∃ less, fuel = less + 1 := ⟨fuel - 1, by omega⟩
  have shorter := length_commas_le (writtenNamed s named)
  simp only [writtenItems, writtenNamed, item_written, List.nil_append, commas_cons, List.cons_append,
    List.append_assoc, List.length_cons, List.length_append] at enough ⊢
  have one := v.item (quits_parts (writtenNamed s named) rest) fuel (by omega)
  have two := more before ((name, value) :: beforeNamed) rest (.inr rfl) fuel
    (by simp only [writtenItems, List.nil_append]; omega)
  simp only [writtenItems, List.nil_append, List.reverse_cons, List.append_assoc] at two
  rw [arguments]
  simp only [at_ofTokens, Token.isRightParen, Bool.false_eq_true, if_false, keyword?, peek?_ofTokens,
    second?_ofTokens, advance_ofTokens, one, bind, Except.bind, pure, Except.pure]
  exact arguments_behind two

lemma readsArgs_cons {e : Expr} {es : List Expr} {named : List (String × Expr)} (first : ReadsBack s e)
    (more : ReadsArgs s es named) : ReadsArgs s (e :: es) named := by
  intro before beforeNamed rest fresh fuel enough
  obtain rfl : beforeNamed = [] := fresh.resolve_right nofun
  obtain ⟨fuel, rfl⟩ : ∃ less, fuel = less + 1 := ⟨fuel - 1, by omega⟩
  simp only [writtenItems, item_written, List.cons_append, commas_cons, List.append_assoc,
    List.length_append] at enough ⊢
  have shorter := length_commas_le (writtenItems s es ++ writtenNamed s named)
  have quits := quits_parts (writtenItems s es ++ writtenNamed s named) rest
  have positional := keyword?_item first quits fun us => by
    cases writtenItems s es ++ writtenNamed s named <;> exact nofun
  have full := item_length_pos s e
  have one := first.item quits fuel (by omega)
  have two := more (e :: before) [] rest (.inl rfl) fuel (by omega)
  simp only [List.reverse_cons, List.append_assoc, List.singleton_append] at two
  rw [arguments]
  simp only [isRightParen_item, Bool.false_eq_true, if_false, positional, List.isEmpty_nil, if_true, one,
    bind, Except.bind, pure, Except.pure]
  exact arguments_behind two

/-- A call: an operand with arguments behind it. -/
lemma readsBack_call {function : Expr} {args : List Expr} {named : List (String × Expr)}
    (f : ReadsBack s function) (a : ReadsArgs s args named) : ReadsBack s (.call function args named) := by
  intro rest quits
  have inside := a [] [] rest (.inl rfl)
  have behind : Reads (fun fuel => suffixes fuel function)
      (16 * (commas (writtenItems s args ++ writtenNamed s named)).length + 2)
      (.leftParen :: (commas (writtenItems s args ++ writtenNamed s named) ++ .rightParen :: rest))
      (.call function args named) rest := by
    refine .of_succ fun fuel enough => ?_
    have read := inside fuel (by omega)
    obtain ⟨fuel, rfl⟩ : ∃ less, fuel = less + 1 := ⟨fuel - 1, by omega⟩
    simp only [List.reverse_nil, List.nil_append] at read
    rw [suffixes]
    simp only [peek?_ofTokens, advance_ofTokens, read, bind, Except.bind]
    exact suffixes_quits (quits.mono (by omega)) _ fuel
  simp only [Expr.written, enclose_written, List.append_assoc, List.cons_append, List.nil_append,
    List.length_append, List.length_cons, List.length_nil]
  exact f.suffixed (by decide) behind quits (by omega)

end Calls

section Comprehensions

variable {s : Style}

/-- The variables of a clause. -/
lemma targets_commas {names : List String} (full : names ≠ []) (us : List Token) :
    let c := ofTokens (commas (names.map fun name => [.name name]) ++ .isIn :: us)
    targets c.stop c.last c.rest = .ok (names, ofTokens (.isIn :: us)) := by
  induction names with
  | nil => exact absurd rfl full
  | cons name names ih =>
    cases names with
    | nil => rfl
    | cons next names =>
      have later := ih nofun
      simp only [List.map_cons, commas_cons, List.flatMap_cons, List.cons_append, List.nil_append,
        ofTokens] at later ⊢
      rw [targets, later]
      rfl

/-- Whether what is written of conditions is read as these. -/
def ReadsConditions (s : Style) (es : List Expr) : Prop :=
  ∀ rest, Quits 0 rest →
    Reads conditions (16 * (writtenConditions s es).length) (writtenConditions s es ++ rest) es rest

lemma conditions_quits (s : Style) (es : List Expr) {rest : List Token} (quits : Quits 0 rest) :
    Quits 1 (writtenConditions s es ++ rest) := by
  cases es with
  | nil => exact quits.mono (by omega)
  | cons => exact quits_cons (by decide)

lemma readsConditions_nil : ReadsConditions s [] := by
  intro rest quits fuel enough
  obtain ⟨fuel, rfl⟩ : ∃ less, fuel = less + 1 := ⟨fuel - 1, by omega⟩
  rw [conditions]
  simp only [writtenConditions, List.nil_append, isIf_quits quits, Bool.false_eq_true, if_false]

lemma readsConditions_cons {e : Expr} {es : List Expr} (first : ReadsBack s e)
    (more : ReadsConditions s es) : ReadsConditions s (e :: es) := by
  intro rest quits
  have here : Reads conditions (16 * ((e.operand s).length + (writtenConditions s es).length) + 1)
      (.ifWord :: (e.operand s ++ (writtenConditions s es ++ rest))) (e :: es) rest := by
    have condition : Reads (level 1) (16 * ((e.operand s).length + (writtenConditions s es).length))
        (e.operand s ++ (writtenConditions s es ++ rest)) e (writtenConditions s es ++ rest) :=
      first.on 1 (by omega) (conditions_quits s es quits) (by have := operand_length_pos s e; omega)
    refine .of_succ fun fuel enough => ?_
    have one := condition fuel enough
    have two := more rest quits fuel (by omega)
    simp only [level] at one
    rw [conditions]
    simp only [at_ofTokens, Token.isIf, if_true, advance_ofTokens, one, two, bind, Except.bind]
    rfl
  simp only [writtenConditions, enclose_written, List.cons_append, List.append_assoc, List.length_append,
    List.length_cons]
  exact here.mono (by omega)

/-- Whether what is written of clauses is read as these. -/
def ReadsClauses (s : Style) (cs : List Clause) : Prop :=
  ∀ rest, Quits 0 rest → (ofTokens rest).at Token.isFor = false →
    Reads clauses (16 * (writtenClauses s cs).length) (writtenClauses s cs ++ rest) cs rest

lemma clauses_quits (s : Style) (cs : List Clause) {rest : List Token} (quits : Quits 0 rest) :
    Quits 0 (writtenClauses s cs ++ rest) := by
  cases cs with
  | nil => exact quits
  | cons clause cs =>
    obtain ⟨names, source, es⟩ := clause
    exact quits_cons (by decide)

lemma readsClauses_nil : ReadsClauses s [] := by
  intro rest quits noClause fuel enough
  obtain ⟨fuel, rfl⟩ : ∃ less, fuel = less + 1 := ⟨fuel - 1, by omega⟩
  rw [clauses]
  simp only [writtenClauses, List.nil_append, noClause, Bool.false_eq_true, if_false]

lemma readsClauses_cons {names : List String} {source : Expr} {es : List Expr} {cs : List Clause}
    (full : names ≠ []) (ranged : ReadsBack s source) (conds : ReadsConditions s es)
    (more : ReadsClauses s cs) : ReadsClauses s (.mk names source es :: cs) := by
  intro rest quits noClause
  let behind := writtenClauses s cs ++ rest
  have ends : Quits 0 behind := clauses_quits s cs quits
  have positive := operand_length_pos s source
  have here : Reads clauses (16 * ((source.operand s).length + (writtenConditions s es).length +
        (writtenClauses s cs).length) + 1)
      (.forWord :: (commas (names.map fun name => [.name name]) ++ .isIn ::
        (source.operand s ++ (writtenConditions s es ++ behind)))) (.mk names source es :: cs) rest := by
    have collection : Reads (level 1) (16 * ((source.operand s).length +
          (writtenConditions s es).length + (writtenClauses s cs).length))
        (source.operand s ++ (writtenConditions s es ++ behind)) source
        (writtenConditions s es ++ behind) :=
      ranged.on 1 (by omega) (conditions_quits s es ends) (by omega)
    refine .of_succ fun fuel enough => ?_
    have one := collection fuel enough
    have two := conds behind ends fuel (by omega)
    have three := more rest quits noClause fuel (by omega)
    have bound := targets_commas full (source.operand s ++ (writtenConditions s es ++ behind))
    simp only [level] at one
    rw [clauses]
    simp only [at_ofTokens, Token.isFor, if_true, advance_ofTokens, bound, bind, Except.bind,
      expect_ofTokens (t := .isIn) (rfl : Token.isInWord .isIn = true), one, two, three, behind]
    rfl
  simp only [writtenClauses, enclose_written, List.cons_append, List.append_assoc, List.length_append,
    List.length_cons]
  exact here.mono (by omega)

/-- In front of clauses there is the first of them. -/
lemma isFor_clauses (s : Style) {cs : List Clause} (full : cs ≠ []) (rest : List Token) :
    (ofTokens (writtenClauses s cs ++ rest)).at Token.isFor := by
  cases cs with
  | nil => exact absurd rfl full
  | cons clause cs =>
    obtain ⟨names, source, es⟩ := clause
    rfl

lemma readsBack_listComp {element : Expr} {cs : List Clause} (e : ReadsBack s element)
    (c : ReadsClauses s cs) (full : cs ≠ []) : ReadsBack s (.listComp element cs) := by
  intro rest quits
  have inside : Reads bracketed (16 * ((element.item s).length + (writtenClauses s cs).length) + 1)
      (element.item s ++ (writtenClauses s cs ++ .rightBracket :: rest)) (.listComp element cs) rest := by
    refine .of_succ fun fuel enough => ?_
    have close : Quits 0 (.rightBracket :: rest) := quits_cons (by decide)
    have one := e.item (clauses_quits s cs close) fuel (by omega)
    have two := c (.rightBracket :: rest) close rfl fuel (by omega)
    rw [bracketed]
    simp only [isRightBracket_item, Bool.false_eq_true, if_false, one, two, bind, Except.bind,
      isFor_clauses s full, if_true,
      expect_ofTokens (t := .rightBracket) (rfl : Token.isRightBracket .rightBracket = true)]
    rfl
  simp only [Expr.written, item_written, List.cons_append, List.append_assoc, List.nil_append,
    List.length_append, List.length_cons, List.length_nil]
  exact inside.brackets quits (by omega)

lemma readsBack_dictComp {key value : Expr} {cs : List Clause} (k : ReadsBack s key)
    (v : ReadsBack s value) (c : ReadsClauses s cs) (full : cs ≠ []) :
    ReadsBack s (.dictComp key value cs) := by
  intro rest quits
  have inside : Reads braced
      (16 * ((key.item s).length + (value.item s).length + (writtenClauses s cs).length) + 2)
      (key.item s ++ .colon :: (value.item s ++ (writtenClauses s cs ++ .rightBrace :: rest)))
      (.dictComp key value cs) rest := by
    refine .of_succ fun fuel enough => ?_
    have close : Quits 0 (.rightBrace :: rest) := quits_cons (by decide)
    have one := reads_entry k v (clauses_quits s cs close) fuel (by omega)
    have two := c (.rightBrace :: rest) close rfl fuel (by omega)
    rw [braced]
    simp only [isRightBrace_item, Bool.false_eq_true, if_false, one, two, bind, Except.bind,
      isFor_clauses s full, if_true,
      expect_ofTokens (t := .rightBrace) (rfl : Token.isRightBrace .rightBrace = true)]
    rfl
  simp only [Expr.written, item_written, List.cons_append, List.append_assoc, List.nil_append,
    List.length_append, List.length_cons, List.length_nil]
  exact inside.braces quits (by omega)

end Comprehensions

section Trees

variable (s : Style)

mutual

/-- What is written of an expression is read as this expression. -/
theorem Expr.Spellable.readsBack : (e : Expr) → e.Spellable → ReadsBack s e
  | .lit value, _ => readsBack_literal value
  | .name name, _ => readsBack_name name
  | .list [], _ => readsBack_list_nil
  | .list (e :: es), ⟨first, more⟩ =>
    readsBack_list_cons (Expr.Spellable.readsBack e first) (SpellableItems.readsItems es more)
  | .dict [], _ => readsBack_dict_nil
  | .dict ((key, value) :: entries), ⟨k, v, more⟩ =>
    readsBack_dict_cons (Expr.Spellable.readsBack key k) (Expr.Spellable.readsBack value v)
      (SpellableEntries.readsEntries entries more)
  | .unary op operand, h => readsBack_unary op (Expr.Spellable.readsBack operand h)
  | .binary op left right, ⟨l, r⟩ =>
    readsBack_binary op (Expr.Spellable.readsBack left l) (Expr.Spellable.readsBack right r)
  | .and left right, ⟨l, r⟩ =>
    readsBack_and (Expr.Spellable.readsBack left l) (Expr.Spellable.readsBack right r)
  | .or left right, ⟨l, r⟩ =>
    readsBack_or (Expr.Spellable.readsBack left l) (Expr.Spellable.readsBack right r)
  | .compare first chain, ⟨f, c, full⟩ =>
    readsBack_compare (Expr.Spellable.readsBack first f) (SpellableChain.readsChain chain c) full
  | .conditional condition yes no, ⟨c, y, n⟩ =>
    readsBack_conditional (Expr.Spellable.readsBack condition c) (Expr.Spellable.readsBack yes y)
      (Expr.Spellable.readsBack no n)
  | .attr base attr, ⟨b, _⟩ => readsBack_attr attr (Expr.Spellable.readsBack base b)
  | .index base index, ⟨b, i⟩ =>
    readsBack_index (Expr.Spellable.readsBack base b) (Expr.Spellable.readsBack index i)
  | .slice base start stop, ⟨b, l, u⟩ =>
    readsBack_slice (Expr.Spellable.readsBack base b) (SpellableBound.readsBound start l)
      (SpellableBound.readsBound stop u)
  | .call function args named, ⟨f, a, n⟩ =>
    readsBack_call (Expr.Spellable.readsBack function f)
      (SpellableItems.readsArgs args a (SpellableNamed.readsArgs named n))
  | .listComp element cs, ⟨e, c, full⟩ =>
    readsBack_listComp (Expr.Spellable.readsBack element e) (SpellableClauses.readsClauses cs c) full
  | .dictComp key value cs, ⟨k, v, c, full⟩ =>
    readsBack_dictComp (Expr.Spellable.readsBack key k) (Expr.Spellable.readsBack value v)
      (SpellableClauses.readsClauses cs c) full

theorem SpellableItems.readsItems : (es : List Expr) → SpellableItems es → ReadsItems s es
  | [], _ => readsItems_nil
  | e :: es, ⟨first, more⟩ =>
    readsItems_cons (Expr.Spellable.readsBack e first) (SpellableItems.readsItems es more)

theorem SpellableEntries.readsEntries :
    (entries : List (Expr × Expr)) → SpellableEntries entries → ReadsEntries s entries
  | [], _ => readsEntries_nil
  | (key, value) :: entries, ⟨k, v, more⟩ =>
    readsEntries_cons (Expr.Spellable.readsBack key k) (Expr.Spellable.readsBack value v)
      (SpellableEntries.readsEntries entries more)

theorem SpellableNamed.readsArgs :
    (named : List (String × Expr)) → SpellableNamed named → ReadsArgs s [] named
  | [], _ => readsArgs_nil
  | (_, value) :: named, ⟨_, v, more⟩ =>
    readsArgs_named (Expr.Spellable.readsBack value v) (SpellableNamed.readsArgs named more)

theorem SpellableItems.readsArgs : (args : List Expr) → SpellableItems args →
    {named : List (String × Expr)} → ReadsArgs s [] named → ReadsArgs s args named
  | [], _, _, named => named
  | e :: es, ⟨first, more⟩, _, named =>
    readsArgs_cons (Expr.Spellable.readsBack e first) (SpellableItems.readsArgs es more named)

theorem SpellableChain.readsChain :
    (chain : List (CompareOp × Expr)) → SpellableChain chain → ReadsChain s chain
  | [], _ => readsChain_nil
  | (op, right) :: chain, ⟨r, more⟩ =>
    readsChain_cons op (Expr.Spellable.readsBack right r) (SpellableChain.readsChain chain more)

theorem SpellableBound.readsBound : (bound : Option Expr) → SpellableBound bound → ReadsBound s bound
  | none, _ => trivial
  | some e, h => Expr.Spellable.readsBack e h

theorem SpellableClauses.readsClauses : (cs : List Clause) → SpellableClauses cs → ReadsClauses s cs
  | [], _ => readsClauses_nil
  | .mk _ source es :: cs, ⟨⟨_, full⟩, ranged, conds, more⟩ =>
    readsClauses_cons full (Expr.Spellable.readsBack source ranged)
      (SpellableItems.readsConditions es conds) (SpellableClauses.readsClauses cs more)

theorem SpellableItems.readsConditions : (es : List Expr) → SpellableItems es → ReadsConditions s es
  | [], _ => readsConditions_nil
  | e :: es, ⟨first, more⟩ =>
    readsConditions_cons (Expr.Spellable.readsBack e first) (SpellableItems.readsConditions es more)

end

end Trees

/-- The text of tokens with one blank between any two. -/
def spaced (quote : Char) : List Token → List Char
  | [] => []
  | [t] => t.spelling quote
  | t :: ts => t.spelling quote ++ ' ' :: spaced quote ts

lemma spread_spaced (quote : Char) {ts : List Token} (full : ts ≠ []) :
    Spread quote ts (spaced quote ts) := by
  induction ts with
  | nil => exact absurd rfl full
  | cons t ts ih =>
    cases ts with
    | nil =>
      have alone : Spread quote [t] (t.spelling quote ++ []) := .last nofun
      rwa [List.append_nil] at alone
    | cons u ts =>
      have blank : Gap [' '] := by
        intro c member
        rw [List.mem_singleton.mp member]
        rfl
      exact .cons blank (List.cons_ne_nil _ _) (ih (List.cons_ne_nil _ _))

/-- A text whose tokens are those of an expression is this expression, and nothing is left over. -/
lemma read_of_tokens {s : Style} {e : Expr} (h : ReadsBack s e) {cs : List Char} {found : List Located}
    (scanned : tokens cs = .ok found) (same : found.map (·.token) = e.written s) :
    Expr.read cs = .ok e := by
  have length : found.length = (e.written s).length := by rw [← same, List.length_map]
  have full : 0 < (e.written s).length := by
    obtain ⟨t, more, begins, _⟩ := written_begins s e
    rw [begins]
    exact Nat.succ_pos _
  have read := h [] nofun (16 * (found.length + 1)) (by omega)
  rw [List.append_nil, ← same] at read
  obtain ⟨c, again, behind⟩ := expression_blind (d := ⟨found, 0, cs.length⟩) read
    (tokens_ofTokens _).symm (enough_fuel found)
  refine Expr.read_eq_ok.mpr ⟨found, c, scanned, ?_, again, behind.trans (tokens_ofTokens [])⟩
  exact List.length_pos_iff.mp (length ▸ full)

/-- Expressions that are written down can be split into tokens and are read back whole, whatever white
space stands between the tokens. -/
theorem Expr.read_written (s : Style) {e : Expr} (spellable : e.Spellable) {cs : List Char}
    (spread : Spread s.quote (e.written s) cs) :
    (∃ found, tokens cs = .ok found ∧ found.map (·.token) = e.written s) ∧ Expr.read cs = .ok e := by
  obtain ⟨found, scanned, same⟩ :=
    tokens_iff_lexes.mpr (spread.lexes s.quotes (Expr.Spellable.written s e spellable))
  exact ⟨⟨found, scanned, same⟩,
    read_of_tokens (Expr.Spellable.readsBack s e spellable) scanned same⟩

/-- The guests that are not gone, each greeted in a tone of its own. -/
def greetings : Expr :=
  .listComp
    (.call (.attr (.name "guest") "greet") [.lit (.str "\"Hi\"\n")]
      [("tone", .slice (.name "mood") (some (.lit (.int 1))) none)])
    [.mk ["guest", "mood"] (.name "party") [.compare (.name "guest") [(.notIn, .name "gone")]]]

def plainStyle : Style :=
  { quote := '"', bareItems := true }

/-- With single blanks, this expression is read back. -/
theorem greetings_read_back :
    spaced '"' (greetings.written plainStyle) =
        ("[ ( guest . greet ) ( \"\\\"Hi\\\"\\n\" , tone = mood [ 1 : ] ) " ++
          "for guest , mood in party if ( guest not in gone ) ]").toList ∧
      Expr.read (spaced '"' (greetings.written plainStyle)) = .ok greetings := by
  have spellable : greetings.Spellable := by
    simp only [greetings, Expr.Spellable, SpellableItems, SpellableNamed, SpellableClauses,
      SpellableBound, SpellableChain, Literal.Spellable, IsName]
    decide
  refine ⟨by decide +kernel, ?_⟩
  exact (Expr.read_written plainStyle spellable (spread_spaced '"' (by decide))).2

end BranchingStory.Script
