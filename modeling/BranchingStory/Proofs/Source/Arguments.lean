import BranchingStory.Proofs.Digits
import BranchingStory.Proofs.Script.Spelling
import BranchingStory.Proofs.Source.Comments
import BranchingStory.Proofs.Source.Continued

/-!
# Arguments and parameters

The arguments of a call and the parameters of a header are read back one by one as they were written: the
commas between them are found outside of brackets and string literals, and an expression is never taken
for a keyword. The scan for commas does not mind a backslash in a string literal, no more than the scan for
comments does.
-/

namespace BranchingStory.Source

open Script Text

/-! ## Commas -/

section Commas

variable {quote : Char} {body cs piece rest : List Char} {inside : Bool} {depth : Int}

lemma splitOutsideFrom_quoted (sep : Char) (fresh : quote ∉ body) :
    splitOutsideFrom sep depth (some quote) piece (body ++ quote :: rest) =
      splitOutsideFrom sep depth none (quote :: body.reverse ++ piece) rest := by
  induction body generalizing piece with
  | nil => simp only [List.nil_append, splitOutsideFrom, quoteAfter, if_true, List.reverse_nil,
      List.singleton_append]
  | cons c body ih =>
    rw [List.mem_cons, not_or] at fresh
    simp only [List.cons_append, splitOutsideFrom, quoteAfter, Ne.symm fresh.1, if_false, ih fresh.2]
    simp

section Unquoted

variable {c : Char} (noQuote : isQuote c = false) (cs : List Char)

include noQuote

lemma splitOutsideFrom_opening (opens : isOpening c) :
    splitOutsideFrom ',' depth none piece (c :: cs) = splitOutsideFrom ',' (depth + 1) none (c :: piece) cs := by
  simp only [splitOutsideFrom, noQuote, opens, Bool.false_eq_true, if_false, if_true]

lemma splitOutsideFrom_closing (noOpening : isOpening c = false) (closes : isClosing c) :
    splitOutsideFrom ',' depth none piece (c :: cs) = splitOutsideFrom ',' (depth - 1) none (c :: piece) cs := by
  simp only [splitOutsideFrom, noQuote, noOpening, closes, Bool.false_eq_true, if_false, if_true]

/-- A comma inside of brackets is like any other character. -/
lemma splitOutsideFrom_other (noOpening : isOpening c = false) (noClosing : isClosing c = false)
    (noSplit : ¬(c = ',' ∧ depth = 0)) :
    splitOutsideFrom ',' depth none piece (c :: cs) = splitOutsideFrom ',' depth none (c :: piece) cs := by
  simp only [splitOutsideFrom, noQuote, noOpening, noClosing, noSplit, Bool.false_eq_true, if_false]

end Unquoted

/-- Characters that nothing divides are all in one piece. -/
lemma splitOutsideFrom_undivided (undivided : Undivided inside cs) (fresh : escapesQuote none cs = false)
    (deep : 0 ≤ depth) (within : inside → 0 < depth) (piece rest : List Char) :
    splitOutsideFrom ',' depth none piece (cs ++ rest) =
      splitOutsideFrom ',' depth none (cs.reverse ++ piece) rest := by
  induction undivided generalizing depth piece rest with
  | nil => rfl
  | inert inert other _ ih =>
    simp only [isInert, Bool.not_eq_true', Bool.or_eq_false_iff, beq_eq_false_iff_ne] at inert
    obtain ⟨⟨⟨⟨noQuote, noOpening⟩, noClosing⟩, plain⟩, _⟩ := inert
    rw [escapesQuote_unquoted noQuote plain] at fresh
    rw [List.cons_append, splitOutsideFrom_other noQuote _ noOpening noClosing fun split => other split.1,
      ih fresh deep within]
    simp
  | @separator c _ separates _ ih =>
    have inner := within rfl
    have bare : isQuote c = false ∧ c ≠ '\\' ∧ isOpening c = false ∧ isClosing c = false := by
      rcases separates with rfl | rfl <;> decide
    rw [escapesQuote_unquoted bare.1 bare.2.1] at fresh
    rw [List.cons_append, splitOutsideFrom_other bare.1 _ bare.2.2.1 bare.2.2.2 (by omega), ih fresh deep within]
    simp
  | quoted quotes body _ ih =>
    rw [List.cons_append, escapesQuote_literal quotes body, Bool.or_eq_false_iff] at fresh
    have absent := fun member => Bool.false_ne_true (fresh.1.symm.trans (List.contains_iff_mem.mpr member))
    rw [List.append_assoc, List.cons_append, List.cons_append, splitOutsideFrom]
    simp only [quotes, if_true]
    rw [splitOutsideFrom_quoted ',' absent, ih fresh.2 deep within]
    simp
  | group pair inner _ first second =>
    rw [List.cons_append, escapesQuote_unquoted pair.opens.1 pair.unescaped.1,
      escapesQuote_balanced inner.balanced, escapesQuote_unquoted pair.closes.1 pair.unescaped.2,
      Bool.or_eq_false_iff] at fresh
    rw [List.append_assoc, List.cons_append, List.cons_append,
      splitOutsideFrom_opening pair.opens.1 _ pair.opens.2, first fresh.1 (by omega) (fun _ => by omega),
      splitOutsideFrom_closing pair.closes.1 _ pair.closes.2.1 pair.closes.2.2, Int.add_sub_cancel,
      second fresh.2 deep within]
    simp

/-- Texts are found again between the commas that join them, if the scan goes past each of them. -/
lemma joined_of_passes (split : List Char → List Char → List (List Char))
    (ends : ∀ piece, split piece [] = [piece.reverse])
    (parts : ∀ piece cs, split piece (',' :: cs) = piece.reverse :: split [] cs) {texts : List (List Char)}
    (full : texts ≠ []) (passes : ∀ text ∈ texts, ∀ rest, split [] (text ++ rest) = split text.reverse rest) :
    split [] (joinWith [','] texts) = texts := by
  obtain ⟨first, others, rfl⟩ := List.exists_cons_of_ne_nil full
  rw [joinWith_cons]
  clear full
  induction others generalizing first with
  | nil =>
    rw [List.flatMap_nil, passes first List.mem_cons_self, ends, List.reverse_reverse]
  | cons next others ih =>
    rw [passes first List.mem_cons_self, List.flatMap_cons, List.append_assoc, List.singleton_append, parts,
      List.reverse_reverse, ih next fun text member => passes text (List.mem_cons_of_mem _ member)]

lemma splitOutside_joined {texts : List (List Char)} (full : texts ≠ [])
    (undivided : ∀ text ∈ texts, Undivided false text) (fresh : ∀ text ∈ texts, escapesQuote none text = false) :
    splitOutside ',' (joinWith [','] texts) = texts := by
  refine joined_of_passes (splitOutsideFrom ',' 0 none) (fun _ => rfl) (fun _ _ => rfl) full ?_
  intro text member rest
  rw [splitOutsideFrom_undivided (undivided text member) (fresh text member) (Int.le_refl 0) nofun,
    List.append_nil]

end Commas

/-! ## White space -/

section Trim

variable {gap : List Char}

lemma trimEnd_blanks (blanks : ∀ c ∈ gap, isBlank c) (cs : List Char) : trimEnd (cs ++ gap) = trimEnd cs := by
  have behind : ∀ c ∈ gap.reverse, isBlank c := fun c member => blanks c (List.mem_reverse.mp member)
  rw [trimEnd, dropEndWhile, List.reverse_append, List.dropWhile_append_of_pos behind]
  rfl

lemma trim_blanks (blanks : ∀ c ∈ gap, isBlank c) (cs : List Char) : trim (gap ++ cs) = trim cs := by
  rw [trim, stripWhile, List.dropWhile_append_of_pos blanks]
  rfl

lemma trim_trimEnd (cs : List Char) : trim (trimEnd cs) = trim cs := by
  obtain ⟨gap, blanks, split⟩ := trimEnd_append cs
  conv_rhs => rw [split]
  rw [trim, trim, stripWhile, stripWhile, List.dropWhile_append]
  split
  · next nothing =>
    have all : gap.dropWhile isBlank = [] := by simpa using blanks
    rw [List.isEmpty_iff.mp nothing, all]
  · exact (trimEnd_blanks blanks _).symm

/-- In front of anything but white space, nothing is trimmed off the end. -/
lemma trimEnd_visible {cs : List Char} (visible : isBlankText cs = false) (front : List Char) :
    trimEnd (front ++ cs) = front ++ trimEnd cs := by
  rw [trimEnd, dropEndWhile, List.reverse_append, List.dropWhile_append]
  split
  · next nothing =>
    have blank : ∀ c ∈ cs, isBlank c := by simpa using nothing
    rw [isBlankText, List.all_eq_true.mpr blank] at visible
    cases visible
  · rw [trimEnd, dropEndWhile, List.reverse_append, List.reverse_reverse]

lemma visible_of_trim {cs : List Char} (full : (trim cs).isEmpty = false) : isBlankText cs = false := by
  refine Bool.eq_false_iff.mpr fun blank => ?_
  have nothing : trim cs = [] := by
    rw [← List.append_nil cs, trim_blanks (List.all_eq_true.mp blank)]
    rfl
  rw [nothing] at full
  cases full

lemma trim_visible {cs : List Char} (visible : EndsRun isBlank cs) : trim cs = trimEnd cs := by
  rw [trim, stripWhile, visible.dropWhile]
  rfl

end Trim

/-! ## Keywords -/

/-- An item of a list in brackets as it is written: an argument or the name of a parameter, or a name with an
expression behind an equals sign. -/
inductive Listed where
  | bare (text : List Char)
  | named (front name gap code : List Char)

namespace Listed

def text : Listed → List Char
  | bare text => text
  | named front name gap code => front ++ name ++ gap ++ '=' :: code

def isNamed : Listed → Bool
  | bare _ => false
  | named .. => true

/-- The argument that an item is. -/
def arg : Listed → Arg
  | bare text => ⟨none, String.ofList (trim text)⟩
  | named _ name _ code => ⟨some (String.ofList name), String.ofList (trim code)⟩

/-- The parameter that an item is. -/
def param : Listed → Param
  | bare text => ⟨String.ofList (trim text), none⟩
  | named _ name _ code => ⟨String.ofList name, some (String.ofList (trim code))⟩

/-- Whether an item is an argument: all its expressions are read. -/
def IsArg : Listed → Prop
  | bare text => (Expr.read text).isOk
  | named front name gap code =>
    isBlankText front ∧ isIdentifier name ∧ isBlankText gap ∧ (Expr.read code).isOk

/-- Whether an item is a parameter. -/
def IsParam : Listed → Prop
  | bare text => isIdentifier (trim text)
  | named front name gap code => IsArg (named front name gap code)

instance : DecidablePred IsArg
  | bare text => inferInstanceAs (Decidable ((Expr.read text).isOk = true))
  | named front name gap code => inferInstanceAs (Decidable
      (isBlankText front ∧ isIdentifier name ∧ isBlankText gap ∧ (Expr.read code).isOk))

instance : DecidablePred IsParam
  | bare text => inferInstanceAs (Decidable (isIdentifier (trim text) = true))
  | named front name gap code => inferInstanceAs (Decidable (IsArg (named front name gap code)))

end Listed

section Keywords

variable {front name gap code text : List Char}

lemma isWordChar_of_isIdentifier (identifier : isIdentifier name) : ∀ c ∈ name, isWordChar c := by
  cases name with
  | nil => exact nofun
  | cons first more =>
    obtain ⟨starts, word⟩ := Bool.and_eq_true_iff.mp identifier
    exact List.forall_mem_cons.mpr ⟨isWordChar_of_isWordStart starts, List.all_eq_true.mp word⟩

/-- What stands at an equals sign is a relation or an assignment. -/
lemma scans_equals {rest mid : List Char} {t : Token} (scans : Scans ('=' :: rest) t mid) :
    (t = .eqEq ∧ rest.head? = some '=') ∨ t = .assign .set := by
  have scanned := scanToken_of_scans scans
  cases rest with
  | nil =>
    cases scanned
    exact .inr rfl
  | cons c rest =>
    by_cases again : c = '='
    · subst again
      cases scanned
      exact .inl ⟨rfl, rfl⟩
    · have found : signToken? ('=' :: c :: rest) = some (.assign .set, 1) := by
        simp [signToken?, signs, List.isPrefixOf, Ne.symm again]
      have sign : scanToken ('=' :: c :: rest) = .ok (.assign .set, c :: rest) := by
        rw [scanToken, startsNumber_of_ne (by decide), found]
        rfl
      rw [sign] at scanned
      cases scanned
      exact .inr rfl

lemma lexes_visible {c : Char} {cs : List Char} {ts : List Token} (visible : isBlank c = false)
    (lexes : Lexes (c :: cs) ts []) : ∃ t us mid, ts = t :: us ∧ Scans (c :: cs) t mid ∧ Lexes mid us [] := by
  cases lexes with
  | blank blank _ =>
    rw [visible] at blank
    cases blank
  | token scans behind => exact ⟨_, _, _, rfl, scans, behind⟩

lemma row_of_read (read : (Expr.read text).isOk) :
    ∃ ts, Lexes text ts [] ∧ Begins ts ∧ Closed false ts := by
  obtain ⟨e, read⟩ := exists_of_isOk read
  obtain ⟨found, scanned, spells⟩ := Expr.spells_of_read read
  exact ⟨_, tokens_iff_lexes.mp ⟨found, scanned, rfl⟩, spells.begins, spells.closed⟩

lemma trim_isEmpty (read : (Expr.read code).isOk) : (trim code).isEmpty = false := by
  obtain ⟨e, read⟩ := exists_of_isOk read
  exact trim_full read

/-- No expression begins with an equals sign. -/
lemma head_ne_equals (read : (Expr.read text).isOk) : text.head? ≠ some '=' := by
  intro equals
  obtain ⟨rest, rfl⟩ := List.head?_eq_some_iff.mp equals
  obtain ⟨ts, lexes, ⟨_, _, rfl, begins⟩, _⟩ := row_of_read read
  obtain ⟨t, us, mid, same, scans, _⟩ := lexes_visible rfl lexes
  cases same
  rcases scans_equals scans with ⟨rfl, _⟩ | rfl <;> cases begins

lemma ends_identifier (identifier : isIdentifier name) (rest : List Char) : EndsRun isBlank (name ++ rest) := by
  intro c head
  cases name with
  | nil => cases identifier
  | cons first more =>
    cases head
    refine Bool.eq_false_iff.mpr fun blank => ?_
    have word := isWordChar_of_isIdentifier identifier c List.mem_cons_self
    rw [isWordChar_of_isBlank blank] at word
    cases word

lemma splitKeyword?_named (valid : (Listed.named front name gap code).IsArg) :
    splitKeyword? (trim (Listed.named front name gap code).text) = some (name, trim code) := by
  obtain ⟨blanks, identifier, blanks', read⟩ := valid
  have word := isWordChar_of_isIdentifier identifier
  have spaced : ∀ c ∈ gap, isBlank c := List.all_eq_true.mp blanks'
  have ends : EndsRun isWordChar (gap ++ '=' :: trimEnd code) := by
    intro c head
    cases gap with
    | nil =>
      cases head
      decide
    | cons first gap =>
      cases head
      exact isWordChar_of_isBlank (spaced c List.mem_cons_self)
  have trimmed : trim (Listed.named front name gap code).text = name ++ (gap ++ '=' :: trimEnd code) := by
    have whole : (Listed.named front name gap code).text = front ++ (name ++ ((gap ++ ['=']) ++ code)) := by
      simp [Listed.text]
    rw [whole, trim_blanks (List.all_eq_true.mp blanks), trim_visible (ends_identifier identifier _),
      ← List.append_assoc, trimEnd_visible (visible_of_trim (trim_isEmpty read))]
    simp
  have single : (trimEnd code).head? ≠ some '=' := by
    obtain ⟨_, _, split⟩ := trimEnd_append code
    intro equals
    obtain ⟨rest, same⟩ := List.head?_eq_some_iff.mp equals
    rw [same] at split
    exact head_ne_equals read (by rw [split]; rfl)
  have value : trimStart (gap ++ '=' :: trimEnd code) = '=' :: trimEnd code :=
    dropWhile_run spaced fun c head => by cases head; rfl
  simp only [trimmed, splitKeyword?, takeWhile_run word ends, dropWhile_run word ends, value, single, identifier,
    trim_trimEnd]
  simp

/-- An expression is no keyword: an equals sign behind its first word would be a token that stands inside of
brackets only. -/
lemma splitKeyword?_expression (read : (Expr.read text).isOk) : splitKeyword? text = none := by
  unfold splitKeyword?
  simp only
  split
  · next expr equals =>
    split
    · rfl
    · next keyword =>
      rw [not_or, Bool.not_eq_true, Bool.not_eq_false'] at keyword
      obtain ⟨single, identifier⟩ := keyword
      exfalso
      obtain ⟨ts, lexes, _, closed⟩ := row_of_read read
      cases text with
      | nil => cases identifier
      | cons c cs =>
        -- The text begins with a word, and the sign is behind the token of that word.
        have starts : isWordStart c := by
          rw [List.takeWhile_cons] at identifier
          split at identifier
          · exact (Bool.and_eq_true_iff.mp identifier).1
          · cases identifier
        have word := Scans.word (startsNumber_of_isWordStart starts cs) starts
        obtain ⟨t, us, mid, rfl, scans, behind⟩ := lexes_visible word.head lexes
        have same := scanToken_of_scans word
        rw [scanToken_of_scans scans, Except.ok.injEq, Prod.mk.injEq] at same
        obtain ⟨rfl, rfl⟩ := same
        have equalsBehind := behind.skip
        rw [← trimStart, equals] at equalsBehind
        obtain ⟨t, us, mid, rfl, scans, _⟩ := lexes_visible rfl equalsBehind
        rcases scans_equals scans with ⟨_, again⟩ | rfl
        · exact single again
        · cases (closed.tail (isPlain_wordToken _)).head
  · rfl

lemma splitKeyword?_identifier (identifier : isIdentifier name) : splitKeyword? name = none := by
  have word := isWordChar_of_isIdentifier identifier
  have nothing : name.dropWhile isWordChar = [] := by simpa using word
  simp only [splitKeyword?, nothing]
  rfl

end Keywords

/-! ## Lists in brackets -/

/-- The characters between the brackets of a list. -/
def listText (items : List Listed) : List Char :=
  joinWith [','] (items.map Listed.text)

/-- Whether behind an item with a name there are only such. -/
def NamedLast (items : List Listed) : Prop :=
  items.Pairwise fun i j => i.isNamed → j.isNamed

instance (items : List Listed) : Decidable (NamedLast items) :=
  inferInstanceAs (Decidable (items.Pairwise fun i j => i.isNamed → j.isNamed))

/-- Whether the items of a list are found between its commas. -/
def Parted (items : List Listed) : Prop :=
  items ≠ [] → splitOutside ',' (listText items) = items.map Listed.text

instance (items : List Listed) : Decidable (Parted items) :=
  inferInstanceAs (Decidable (items ≠ [] → splitOutside ',' (listText items) = items.map Listed.text))

lemma joinWith_map_cons {α : Type} (f : α → List Char) (a : α) (as : List α) :
    joinWith [','] ((a :: as).map f) = f a ++ as.flatMap fun b => ',' :: f b := by
  rw [List.map_cons, joinWith_cons, List.flatMap_map]
  rfl

section Lists

variable {items : List Listed} {item : Listed} {code : List Char}

lemma checkExpression_trim (read : (Expr.read code).isOk) : checkExpression (trim code) = .ok () := by
  obtain ⟨e, read⟩ := exists_of_isOk read
  rw [checkExpression, Expr.read_trim read]

lemma read_trim_isOk (read : (Expr.read code).isOk) : (Expr.read (trim code)).isOk := by
  obtain ⟨e, read⟩ := exists_of_isOk read
  rw [Expr.read_trim read]
  rfl

lemma Listed.IsArg.undivided (valid : item.IsArg) : Undivided false item.text := by
  cases item with
  | bare text =>
    obtain ⟨e, read⟩ := exists_of_isOk valid
    exact Expr.undivided_of_read read
  | named front name gap code =>
    obtain ⟨blanks, identifier, blanks', read⟩ := valid
    obtain ⟨e, read⟩ := exists_of_isOk read
    have spaces {gap : List Char} (blanks : isBlankText gap) : Undivided false gap :=
      .of_all (by decide) (List.all_eq_true.mp blanks)
    have word : Undivided false name := .of_all (by decide) (isWordChar_of_isIdentifier identifier)
    exact (((spaces blanks).append word).append (spaces blanks')).append
      (.inert rfl (by decide) (Expr.undivided_of_read read))

lemma isEmpty_of_splitKeyword? {cs : List Char} {parts : List Char × List Char}
    (found : splitKeyword? cs = some parts) : cs.isEmpty = false := by
  cases cs with
  | nil => cases found
  | cons => rfl

/-- Arguments are read one by one as they were written. -/
lemma readArgs_written (valid : ∀ item ∈ items, item.IsArg) (ordered : NamedLast items) {keyword : Bool}
    (after : keyword → ∀ item ∈ items, item.isNamed) :
    readArgs keyword (items.map Listed.text) = .ok (items.map Listed.arg) := by
  -- What is known of the items so far is whether one of them had a name.
  induction items generalizing keyword with
  | nil => rfl
  | cons item items ih =>
    obtain ⟨isArg, others⟩ := List.forall_mem_cons.mp valid
    obtain ⟨first, behind⟩ := List.pairwise_cons.mp ordered
    cases item with
    | bare text =>
      have positional : keyword = false := by
        cases keyword with
        | false => rfl
        | true => exact (after rfl _ List.mem_cons_self).symm
      have later : readArgs false (items.map Listed.text) = .ok (items.map Listed.arg) := ih others behind nofun
      simp only [List.map_cons, Listed.text, readArgs, trim_isEmpty isArg,
        splitKeyword?_expression (read_trim_isOk isArg), positional, checkExpression_trim isArg, later]
      rfl
    | named front name gap code =>
      have later : readArgs true (items.map Listed.text) = .ok (items.map Listed.arg) :=
        ih others behind fun _ item member => first item member rfl
      have split := splitKeyword?_named isArg
      simp only [List.map_cons, readArgs, isEmpty_of_splitKeyword? split, split,
        checkExpression_trim isArg.2.2.2, later]
      rfl

/-- Parameters are read one by one as they were written. -/
lemma readParams_written {params : List Param} (valid : ∀ item ∈ items, item.IsParam) (ordered : NamedLast items)
    (distinct : (params.map (·.name) ++ items.map (·.param.name)).Nodup)
    (after : params.any (·.default?.isSome) → ∀ item ∈ items, item.isNamed) :
    readParams params (items.map Listed.text) = .ok (params ++ items.map Listed.param) := by
  -- The parameters so far are those that a further one is compared with.
  induction items generalizing params with
  | nil => rw [List.map_nil, List.map_nil, List.append_nil, readParams]
  | cons item items ih =>
    obtain ⟨isParam, others⟩ := List.forall_mem_cons.mp valid
    obtain ⟨first, behind⟩ := List.pairwise_cons.mp ordered
    have fresh (name : String) (own : item.param.name = name) : params.any (·.name = name) = false := by
      refine Bool.eq_false_iff.mpr fun taken => ?_
      obtain ⟨param, member, same⟩ := List.any_eq_true.mp taken
      refine (List.nodup_append.mp distinct).2.2 _ (List.mem_map_of_mem member) _ List.mem_cons_self ?_
      exact (of_decide_eq_true same).trans own.symm
    have later : readParams (params ++ [item.param]) (items.map Listed.text) =
        .ok (params ++ item.param :: items.map Listed.param) := by
      have shifted : ((params ++ [item.param]).map (·.name) ++ items.map (·.param.name)).Nodup := by
        simpa using distinct
      rw [List.append_cons params item.param (items.map Listed.param)]
      refine ih others behind shifted fun defaults other member => ?_
      rw [List.any_append, Bool.or_eq_true] at defaults
      rcases defaults with earlier | here
      · exact after earlier other (List.mem_cons_of_mem _ member)
      · refine first other member ?_
        cases item with
        | bare text => cases here
        | named => rfl
    cases item with
    | bare text =>
      have required : params.any (·.default?.isSome) = false :=
        Bool.eq_false_iff.mpr fun defaults => Bool.false_ne_true (after defaults _ List.mem_cons_self)
      have identifier : isIdentifier (trim text) = true := isParam
      simp only [Listed.param] at later
      simp only [List.map_cons, Listed.text, readParams, splitKeyword?_identifier isParam, identifier,
        fresh (String.ofList (trim text)) rfl, required,
        Option.map_none, later, Listed.param]
      rfl
    | named front name gap code =>
      simp only [Listed.param] at later
      simp only [List.map_cons, readParams, splitKeyword?_named isParam, isParam.2.1,
        fresh (String.ofList name) rfl,
        checkExpression_trim isParam.2.2.2, Option.map_some, later, Listed.param]
      rfl

namespace Listed

lemma IsArg.full (valid : item.IsArg) : (trim item.text).isEmpty = false := by
  cases item with
  | bare text => exact trim_isEmpty valid
  | named front name gap code => exact isEmpty_of_splitKeyword? (splitKeyword?_named valid)

lemma IsParam.full (valid : item.IsParam) : (trim item.text).isEmpty = false := by
  cases item with
  | bare text =>
    have identifier : isIdentifier (trim text) := valid
    cases whole : trim text with
    | nil =>
      rw [whole] at identifier
      cases identifier
    | cons => rw [Listed.text, whole]; rfl
  | named front name gap code => exact IsArg.full valid

lemma IsParam.undivided (valid : item.IsParam) : Undivided false item.text := by
  cases item with
  | bare text =>
    have word := isWordChar_of_isIdentifier valid
    obtain ⟨gap, blanks, split⟩ := trimEnd_append (text.dropWhile isBlank)
    have whole := List.takeWhile_append_dropWhile (p := isBlank) (l := text)
    rw [split] at whole
    rw [Listed.text, ← whole]
    refine .append (.of_all (by decide) (List.all_eq_true.mp List.all_takeWhile)) (.append ?_ ?_)
    · exact .of_all (by decide) word
    · exact .of_all (by decide) blanks
  | named front name gap code => exact IsArg.undivided valid

end Listed

lemma isBlankText_listText (full : items ≠ []) (visible : ∀ item ∈ items, (trim item.text).isEmpty = false) :
    isBlankText (listText items) = false := by
  obtain ⟨item, items, rfl⟩ := List.exists_cons_of_ne_nil full
  rw [listText, joinWith_map_cons, isBlankText, List.all_append, Bool.and_eq_false_iff]
  exact .inl (visible_of_trim (visible item List.mem_cons_self))

/-- The brackets of a list are closed as those of its items are. -/
lemma balanced_listText (undivided : ∀ item ∈ items, Undivided false item.text) :
    Balanced false (listText items) := by
  cases items with
  | nil => exact .nil
  | cons item items =>
    obtain ⟨first, others⟩ := List.forall_mem_cons.mp undivided
    rw [listText, joinWith_map_cons]
    refine first.balanced.append ?_
    clear undivided first
    induction items with
    | nil => exact .nil
    | cons next items ih =>
      obtain ⟨second, others⟩ := List.forall_mem_cons.mp others
      exact .inert rfl (second.balanced.append (ih others))

lemma parted_of_unescaped (undivided : ∀ item ∈ items, Undivided false item.text)
    (fresh : ∀ item ∈ items, escapesQuote none item.text = false) : Parted items := by
  intro full
  refine splitOutside_joined (by simpa using full) ?_ ?_
  · simpa using undivided
  · simpa using fresh

lemma argList_written (valid : ∀ item ∈ items, item.IsArg) (ordered : NamedLast items) (parted : Parted items) :
    argList (listText items) = .ok (items.map Listed.arg) := by
  by_cases nothing : items = []
  · subst nothing
    rfl
  · rw [argList, isBlankText_listText nothing fun item member => (valid item member).full, parted nothing]
    exact readArgs_written valid ordered nofun

lemma paramList_written (valid : ∀ item ∈ items, item.IsParam) (ordered : NamedLast items)
    (distinct : (items.map (·.param.name)).Nodup) (parted : Parted items) :
    paramList (listText items) = .ok (items.map Listed.param) := by
  by_cases nothing : items = []
  · subst nothing
    rfl
  · rw [paramList, isBlankText_listText nothing fun item member => (valid item member).full, parted nothing]
    exact readParams_written valid ordered distinct nofun

end Lists

/-! ## Calls -/

/-- A call as it is written: a target, and perhaps a list of arguments. -/
structure WrittenCall where
  target : List Char
  list? : Option (List Listed)

namespace WrittenCall

def text (call : WrittenCall) : List Char :=
  match call.list? with
  | none => call.target
  | some items => call.target ++ '(' :: listText items ++ [')']

def items (call : WrittenCall) : List Listed :=
  call.list?.getD []

def args (call : WrittenCall) : List Arg :=
  call.items.map Listed.arg

/-- Whether a call has a target and its arguments are expressions, with those by name at the end. -/
structure Valid (call : WrittenCall) : Prop where
  target : isPassageName call.target
  args : ∀ item ∈ call.items, item.IsArg
  ordered : NamedLast call.items

end WrittenCall

section Calls

variable {call : WrittenCall} {gap name : List Char}

lemma unspaced_of_isPassageChar {c : Char} (char : isPassageChar c) : isBlank c = false := by
  refine Bool.eq_false_iff.mpr fun blank => ?_
  have noWord := isWordChar_of_isBlank blank
  rw [isWordChar, Bool.or_eq_false_iff] at noWord
  simp only [isPassageChar, noWord.1, noWord.2, Bool.false_or, beq_iff_eq] at char
  subst char
  cases blank

lemma ends_isPassageName (valid : isPassageName name) (rest : List Char) : EndsRun isBlank (name ++ rest) := by
  obtain ⟨full, chars⟩ := Bool.and_eq_true_iff.mp valid
  intro c head
  cases name with
  | nil => cases full
  | cons first more =>
    cases head
    exact unspaced_of_isPassageChar (List.all_eq_true.mp chars c List.mem_cons_self)

/-- A name of a passage is found at the beginning of a text, up to a character that it cannot have. -/
lemma isPassageName_run (valid : isPassageName name) {rest : List Char} (ends : EndsRun isPassageChar rest) :
    name.isEmpty = false ∧ (name ++ rest).takeWhile isPassageChar = name ∧
      (name ++ rest).dropWhile isPassageChar = rest := by
  obtain ⟨full, chars⟩ := Bool.and_eq_true_iff.mp valid
  have passage := List.all_eq_true.mp chars
  exact ⟨(Bool.not_eq_true' _).mp full, takeWhile_run passage ends, dropWhile_run passage ends⟩

/-- A call begins with a character of its target. -/
lemma WrittenCall.Valid.front (valid : call.Valid) : EndsRun isBlank call.text ∧ call.text.isEmpty = false := by
  obtain ⟨target, list?⟩ := call
  obtain ⟨first, more, rfl⟩ : ∃ first more, target = first :: more := by
    cases target with
    | nil => cases valid.target
    | cons first more => exact ⟨first, more, rfl⟩
  cases list? with
  | none =>
    have ends := ends_isPassageName valid.target []
    rw [List.append_nil] at ends
    exact ⟨ends, rfl⟩
  | some items =>
    have ends := ends_isPassageName valid.target ('(' :: listText items ++ [')'])
    rw [← List.append_assoc] at ends
    exact ⟨ends, rfl⟩

/-- A call is read as it was written, between white space. -/
lemma readCall_written (valid : call.Valid) (parted : Parted call.items) (blanks : ∀ c ∈ gap, isBlank c)
    {back : List Char} (blanks' : ∀ c ∈ back, isBlank c) :
    readCall (gap ++ (call.text ++ back)) = .ok (String.ofList call.target, call.args, back) := by
  have ends : EndsRun isPassageChar back := by
    intro c head
    refine Bool.eq_false_iff.mpr fun char => ?_
    have blank := blanks' c (List.mem_of_mem_head? head)
    rw [unspaced_of_isPassageChar char] at blank
    cases blank
  obtain ⟨target, list?⟩ := call
  cases list? with
  | none =>
    obtain ⟨full, taken, left⟩ := isPassageName_run valid.target ends
    have front := ends_isPassageName valid.target back
    rw [WrittenCall.text, readCall, trimStart, dropWhile_run blanks front]
    simp only [taken, left, full, Bool.false_eq_true, if_false]
    split
    · cases blanks' '(' List.mem_cons_self
    · rfl
  | some items =>
    have ends : EndsRun isPassageChar ('(' :: listText items ++ ')' :: back) := by
      rintro _ ⟨⟩
      decide
    obtain ⟨full, taken, left⟩ := isPassageName_run valid.target ends
    have front := ends_isPassageName valid.target ('(' :: listText items ++ ')' :: back)
    have closed : Balanced false (listText items) :=
      balanced_listText fun item member => (valid.args item member).undivided
    have enclosed := enclosed?_balanced .parens (by decide) closed back
    have list : argList (listText items) = .ok (items.map Listed.arg) :=
      argList_written valid.args valid.ordered parted
    have whole : (⟨target, some items⟩ : WrittenCall).text ++ back =
        target ++ ('(' :: listText items ++ ')' :: back) := by
      simp [WrittenCall.text]
    rw [whole, readCall, trimStart, dropWhile_run blanks front]
    simp only [taken, left, full]
    simp only [List.cons_append] at enclosed ⊢
    simp only [enclosed, list]
    rfl

lemma readCall_last (valid : call.Valid) (parted : Parted call.items) (blanks : ∀ c ∈ gap, isBlank c) :
    readCall (gap ++ call.text) = .ok (String.ofList call.target, call.args, []) := by
  have read := readCall_written valid parted blanks (show ∀ c ∈ [], isBlank c from nofun)
  rwa [List.append_nil] at read

end Calls

end BranchingStory.Source
