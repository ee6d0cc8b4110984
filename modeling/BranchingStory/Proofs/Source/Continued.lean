import Mathlib.Data.List.Chain
import BranchingStory.Proofs.Script.Brackets
import BranchingStory.Proofs.Source.Lines
import BranchingStory.Proofs.Source.Reserved
import BranchingStory.Proofs.Source.Slices

/-!
# Statements over several lines

A statement is open for as long as one of its brackets is. The lines of a statement that is broken inside of
its brackets, whatever white space stands around them, are joined to a text with the tokens of the statement,
and no line behind them is taken along.
-/

namespace BranchingStory.Script

open Text

/-! ## Open brackets -/

/-- What a token adds to the number of brackets that are open. -/
def Token.nesting : Token → Int
  | .leftParen | .leftBracket | .leftBrace => 1
  | .rightParen | .rightBracket | .rightBrace => -1
  | _ => 0

/-- How many brackets are open behind tokens. -/
def nesting : List Token → Int
  | [] => 0
  | t :: ts => t.nesting + nesting ts

/-- Whether what comes behind a part of a statement is outside of string literals and inside of brackets: in
the part there are whole tokens, and more of the opening brackets than of the closing ones. -/
def InBrackets (front : List Char) : Prop :=
  ∃ found, tokens front = .ok found ∧ 0 < nesting (found.map (·.token))

instance (front : List Char) : Decidable (InBrackets front) :=
  match scanned : tokens front with
  | .ok found =>
    decidable_of_iff (0 < nesting (found.map (·.token)))
      ⟨fun deep => ⟨found, scanned, deep⟩, fun ⟨_, again, deep⟩ => by
        cases scanned.symm.trans again
        exact deep⟩
  | .error _ => isFalse fun ⟨_, again, _⟩ => nomatch scanned.symm.trans again

/-- Whether the lines of a statement end outside of its string literals and inside of its brackets. -/
def BreaksInBrackets (code : List Char) : Prop :=
  ∀ front behind, code = front ++ '\n' :: behind → InBrackets front

lemma breaksInBrackets_iff {code : List Char} :
    BreaksInBrackets code ↔ ∀ n < code.length, code[n]? = some '\n' → InBrackets (code.take n) := by
  constructor
  · intro breaks n inside lineBreak
    obtain ⟨_, found⟩ := List.getElem?_eq_some_iff.mp lineBreak
    refine breaks _ (code.drop (n + 1)) ?_
    rw [← found, List.getElem_cons_drop, List.take_append_drop]
  · rintro breaks front behind rfl
    have here := breaks front.length (by simp) (by simp)
    rwa [List.take_left] at here

instance : DecidablePred BreaksInBrackets :=
  fun _ => decidable_of_iff' _ breaksInBrackets_iff

/-- Whether a statement assigns to the submitted input values, or to something inside of them. -/
def Stmt.assignsInputs : Stmt → Bool
  | .assign target _ _ => target.root? == some inputsVariable
  | .expr _ => false

section Tokens

variable {inside : Bool} {t : Token} {ts us : List Token} {cs rest : List Char}

lemma nesting_append (ts us : List Token) : nesting (ts ++ us) = nesting ts + nesting us := by
  induction ts with
  | nil => exact (Int.zero_add _).symm
  | cons t ts ih => rw [List.cons_append, nesting, nesting, ih, Int.add_assoc]

lemma Closed.nesting (closed : Closed inside ts) : nesting ts = 0 := by
  induction closed with
  | nil => rfl
  | @plain _ t _ plain _ ih =>
    rw [Script.nesting, ih]
    cases t <;> first
      | rfl
      | cases plain
  | @separator t _ separates _ _ ih =>
    rw [Script.nesting, ih]
    cases t <;> first
      | rfl
      | cases separates
  | group encloses _ _ within behind =>
    rw [nesting_append, Script.nesting, Script.nesting, within, behind]
    cases encloses <;> rfl

/-- No colon stands right behind another. -/
lemma Closed.apart (closed : Closed inside ts) : ts.IsChain fun t u => t = .colon → u ≠ .colon := by
  induction closed with
  | nil => exact .nil
  | plain plain _ ih =>
    refine List.isChain_cons.mpr ⟨fun u _ => ?_, ih⟩
    rintro rfl
    cases plain
  | separator _ front _ ih =>
    refine List.isChain_cons.mpr ⟨fun u next _ => ?_, ih⟩
    rintro rfl
    exact front next
  | @group _ left right ts us encloses _ _ within behind =>
    have opens : left ≠ .colon := by cases encloses <;> nofun
    have closes : right ≠ .colon := by cases encloses <;> nofun
    refine List.isChain_append.mpr ⟨List.isChain_cons.mpr ⟨fun _ _ colon => absurd colon opens, within⟩,
      List.isChain_cons.mpr ⟨fun _ _ colon => absurd colon closes, behind⟩, ?_⟩
    rintro t _ u next _
    cases next
    exact closes

/-! ## Parts of a text with tokens -/

/-- A text has the tokens of its front, and behind these the tokens of what is left. -/
lemma Lexes.behind {mid : List Char} (whole : Lexes cs ts []) (front : Lexes cs us mid) :
    ∃ vs, ts = us ++ vs ∧ Lexes mid vs [] := by
  induction front generalizing ts with
  | done => exact ⟨ts, rfl, whole⟩
  | blank blank _ ih => exact ih (whole.of_blank blank)
  | @token cs t _ _ _ scans _ ih =>
    cases whole with
    | done =>
      obtain ⟨taken, full, nothing⟩ := scans.suffix
      exact absurd (List.append_eq_nil_iff.mp nothing.symm).1 full
    | blank blank _ =>
      have head := scans.head
      rw [blank] at head
      cases head
    | token scans' later =>
      have same := (scanToken_of_scans scans).symm.trans (scanToken_of_scans scans')
      cases same
      obtain ⟨vs, rfl, behind⟩ := ih later
      exact ⟨vs, rfl, behind⟩

/-- Where a line ends behind whole tokens, the tokens of the next lines begin. -/
lemma Lexes.next_line {front behind : List Char} (whole : Lexes (front ++ '\n' :: behind) ts [])
    (lexes : Lexes front us []) : ∃ vs, ts = us ++ vs ∧ Lexes behind vs [] := by
  have spaced : Spaced ('\n' :: behind) := by
    rintro _ ⟨⟩
    rfl
  obtain ⟨vs, split, later⟩ := whole.behind (lexes.extend spaced)
  exact ⟨vs, split, later.of_blank rfl⟩

/-- Two texts on lines of their own have the tokens of both. -/
lemma Lexes.line {front behind : List Char} (first : Lexes front ts []) (second : Lexes behind us []) :
    Lexes (front ++ '\n' :: behind) (ts ++ us) [] := by
  have spaced : Spaced ('\n' :: behind) := by
    rintro _ ⟨⟩
    rfl
  exact (first.extend spaced).append (.blank rfl second)

/-- The first token of a text is what the scanner finds there. -/
lemma Lexes.head {c : Char} (lexes : Lexes (c :: cs) ts []) (visible : isBlank c = false) :
    ∃ t mid us, scanToken (c :: cs) = .ok (t, mid) ∧ ts = t :: us ∧ Lexes mid us [] := by
  cases lexes with
  | blank blank _ =>
    rw [visible] at blank
    cases blank
  | token scans later => exact ⟨_, _, _, scanToken_of_scans scans, rfl, later⟩

lemma not_lexes_at : ¬Lexes ('@' :: cs) ts [] := by
  intro lexes
  obtain ⟨t, mid, us, found, _⟩ := lexes.head rfl
  cases found

lemma Lexes.visible (lexes : Lexes cs ts []) (full : ts ≠ []) : cs ≠ [] := by
  rintro rfl
  exact full (lexes.unique (.done []))

lemma Lexes.noComment (lexes : Lexes cs ts []) : cs.head? ≠ some '#' := by
  cases cs with
  | nil => nofun
  | cons c cs =>
    rintro ⟨⟩
    obtain ⟨t, mid, us, found, _⟩ := lexes.head rfl
    cases found

lemma Lexes.colon (lexes : Lexes (':' :: cs) ts []) : ∃ us, ts = .colon :: us ∧ Lexes cs us [] := by
  obtain ⟨t, mid, us, found, rfl, later⟩ := lexes.head rfl
  cases found
  exact ⟨us, rfl, later⟩

end Tokens

end BranchingStory.Script

namespace BranchingStory.Source

open Text Script

/-! ## Whether a statement is open -/

section Scan

variable {inside : Bool} {quote : Char} {t : Token} {ts : List Token} {cs text body rest : List Char}

lemma isOpenFrom_plain {c : Char} (plain : c ≠ '\\') (depth : Int) (cs : List Char) :
    isOpenFrom depth (some quote) (c :: cs) = isOpenFrom depth (quoteAfter (some quote) c) cs := by
  rw [isOpenFrom]
  · exact fun same _ => plain same
  · exact fun _ _ same _ => plain same

lemma isOpenFrom_escaped (c : Char) (depth : Int) (cs : List Char) :
    isOpenFrom depth (some quote) ('\\' :: c :: cs) = isOpenFrom depth (some quote) cs := rfl

lemma isOpenFrom_unquoted (c : Char) (depth : Int) (cs : List Char) :
    isOpenFrom depth none (c :: cs) =
      if isQuote c then isOpenFrom depth (some c) cs
      else if isOpening c then isOpenFrom (depth + 1) none cs
      else if isClosing c then isOpenFrom (depth - 1) none cs
      else isOpenFrom depth none cs := rfl

lemma isOpenFrom_quoted (quotes : isQuote quote) (inner : QuoteBody quote body) (depth : Int) :
    isOpenFrom depth (some quote) (body ++ quote :: rest) = isOpenFrom depth none rest := by
  have unescaped : quote ≠ '\\' := by
    rintro rfl
    cases quotes
  induction inner with
  | nil =>
    rw [List.nil_append, isOpenFrom_plain unescaped]
    simp only [quoteAfter, if_true]
  | escaped _ ih => rw [List.cons_append, List.cons_append, isOpenFrom_escaped, ih]
  | plain other unescaped _ ih =>
    rw [List.cons_append, isOpenFrom_plain unescaped]
    simp only [quoteAfter, other, if_false]
    exact ih

section Unquoted

variable {c : Char} (noQuote : isQuote c = false) (depth : Int) (cs : List Char)

include noQuote

lemma isOpenFrom_opening (opens : isOpening c) :
    isOpenFrom depth none (c :: cs) = isOpenFrom (depth + 1) none cs := by
  simp only [isOpenFrom_unquoted, noQuote, opens, Bool.false_eq_true, if_false, if_true]

lemma isOpenFrom_closing (noOpening : isOpening c = false) (closes : isClosing c) :
    isOpenFrom depth none (c :: cs) = isOpenFrom (depth - 1) none cs := by
  simp only [isOpenFrom_unquoted, noQuote, noOpening, closes, Bool.false_eq_true, if_false, if_true]

lemma isOpenFrom_other (noOpening : isOpening c = false) (noClosing : isClosing c = false) :
    isOpenFrom depth none (c :: cs) = isOpenFrom depth none cs := by
  simp only [isOpenFrom_unquoted, noQuote, noOpening, noClosing, Bool.false_eq_true, if_false]

end Unquoted

lemma isOpenFrom_balanced (balanced : Balanced inside cs) (depth : Int) (rest : List Char) :
    isOpenFrom depth none (cs ++ rest) = isOpenFrom depth none rest := by
  induction balanced generalizing depth rest with
  | nil => rfl
  | inert inert _ ih =>
    simp only [isInert, Bool.not_eq_true', Bool.or_eq_false_iff] at inert
    obtain ⟨⟨⟨⟨noQuote, noOpening⟩, noClosing⟩, _⟩, _⟩ := inert
    rw [List.cons_append, isOpenFrom_other noQuote _ _ noOpening noClosing, ih]
  | colon _ ih => rw [List.cons_append, isOpenFrom_other rfl _ _ rfl rfl, ih]
  | quoted quotes body _ ih =>
    rw [List.append_assoc, List.cons_append, List.cons_append, isOpenFrom_unquoted, if_pos quotes,
      isOpenFrom_quoted quotes body, ih]
  | group pair _ _ within behind =>
    rw [List.append_assoc, List.cons_append, List.cons_append,
      isOpenFrom_opening pair.opens.1 _ _ pair.opens.2, within,
      isOpenFrom_closing pair.closes.1 _ _ pair.closes.2.1 pair.closes.2.2, behind, Int.add_sub_cancel]

/-- Behind a token as many brackets are open as it opens. -/
lemma isOpenFrom_writes (writes : Writes t text) (depth : Int) (rest : List Char) :
    isOpenFrom depth none (text ++ rest) = isOpenFrom (depth + t.nesting) none rest := by
  have closed {inside : Bool} (balanced : Balanced inside text) (none : t.nesting = 0) :
      isOpenFrom depth .none (text ++ rest) = isOpenFrom (depth + t.nesting) .none rest := by
    rw [isOpenFrom_balanced balanced, none, Int.add_zero]
  cases t with
  | leftParen | leftBracket | leftBrace =>
    rw [writes.bracket _ rfl]
    exact isOpenFrom_opening rfl _ _ rfl
  | rightParen | rightBracket | rightBrace =>
    rw [writes.bracket _ rfl]
    exact isOpenFrom_closing rfl _ _ rfl rfl
  | comma | colon | assign => exact closed (writes.separator rfl).balanced rfl
  | _ => exact closed (writes.plain rfl).balanced rfl

/-- Behind tokens as many brackets are open as they leave open. -/
lemma isOpenFrom_lexes (lexes : Lexes cs ts rest) (depth : Int) :
    isOpenFrom depth none cs = isOpenFrom (depth + nesting ts) none rest := by
  induction lexes generalizing depth with
  | done => rw [show nesting [] = 0 from rfl, Int.add_zero]
  | blank blank _ ih =>
    have gap : Balanced true [_] := .inert (isInert_of_isBlank blank) .nil
    rw [← ih]
    exact isOpenFrom_balanced gap depth _
  | token scans _ ih =>
    obtain ⟨text, rfl, writes⟩ := scans.writes
    rw [isOpenFrom_writes writes, ih, nesting, Int.add_assoc]

/-- A text with tokens is open if these leave a bracket open. -/
lemma isOpen_lexes (lexes : Lexes cs ts []) : isOpen cs = decide (0 < nesting ts) := by
  rw [isOpen, isOpenFrom_lexes lexes, Int.zero_add]
  exact Bool.or_false _

end Scan

/-! ## The command of a statement -/

section Commands

variable {code : List Char} {tree : Stmt}

lemma lexes_of_read (read : Stmt.read code = .ok tree) :
    ∃ ts, Lexes code ts [] ∧ ts ≠ [] ∧ Closed true ts := by
  obtain ⟨found, scanned, full, closed⟩ := Stmt.closed_of_read read
  exact ⟨_, tokens_iff_lexes.mp ⟨found, scanned, rfl⟩, full, closed⟩

lemma visible_of_tokens {cs : List Char} {found : List Located} (scanned : tokens cs = .ok found)
    (full : found.map (·.token) ≠ []) : ¬cs.isEmpty := by
  intro empty
  rw [List.isEmpty_iff.mp empty] at scanned
  cases scanned
  exact full rfl

/-- A statement has a command if it does not assign to the submitted input values. -/
lemma readCommand_of_read (read : Stmt.read code = .ok tree)
    (free : tree.assignsInputs = false) (line : Nat) : ∃ c, readCommand code line = .ok c ∧ c.line = line := by
  obtain ⟨ts, lexes, _, _⟩ := lexes_of_read read
  have trimmed : Stmt.read (trim code) = .ok tree := read_of_lexes lexes lexes.trim read
  unfold readCommand
  simp only [check_eq_ok, bind_eq_ok, mapError_eq_ok]
  cases tree with
  | expr e =>
    obtain ⟨found, scanned, spells⟩ := Expr.spells_of_read (Stmt.read_expr.mp trimmed)
    have noSign : assignment? 0 found = none := by
      have gone := assignment?_closed spells.closed (Int.le_refl 0) nofun rfl []
      rwa [List.append_nil] at gone
    have visible := visible_of_tokens scanned spells.full
    refine ⟨.eval (String.ofList (trim code)) line, ⟨visible, found, scanned, _, trimmed, ?_⟩, rfl⟩
    rw [noSign]
    rfl
  | assign target op value =>
    obtain ⟨front, column, behind, scanned, ofTarget, _, isPlace, alone⟩ := Stmt.sides_of_read trimmed
    -- The target is cut off at the sign, and is read there as it was in the statement.
    obtain ⟨found, again, same⟩ := tokens_iff_lexes.mpr (cut_at_sign scanned).1
    have place : Expr.readPlace (trim ((trim code).take column)) = .ok target := by
      unfold Expr.readPlace
      rw [alone _ found again same]
      exact if_pos isPlace
    have visible := visible_of_tokens scanned (by simp)
    refine ⟨.assign (String.ofList (trim ((trim code).take column))) op
      (String.ofList (trim ((trim code).drop (column + op.symbol.length)))) line,
      ⟨visible, _, scanned, _, trimmed, ?_⟩, rfl⟩
    rw [assignment?_of_spells ofTarget]
    simp only [bind_eq_ok, mapError_eq_ok, check_eq_ok, pure_eq_ok]
    exact ⟨target, place, beq_eq_false_iff_ne.mp free, trivial⟩

end Commands

/-! ## The lines of a statement -/

/-- Whether a line is taken along by the text or the script in front of it: it is no header, and it does not
end a script. -/
structure SourceLine.Continues (l : SourceLine) : Prop where
  noHeader : l.isHeader = false
  noEnd : trim l.text ≠ "@endscript".toList

section Lines

variable {code : List Char} {ts us : List Token} {l : SourceLine} {ls : List SourceLine}

lemma joinWith_cons (sep first : List Char) (rest : List (List Char)) :
    joinWith sep (first :: rest) = first ++ rest.flatMap (sep ++ ·) := by
  induction rest generalizing first with
  | nil => simp [joinWith]
  | cons next rest ih =>
    have behind := ih next
    rw [joinWith] at behind
    rw [joinWith, List.intersperse_cons_cons, List.flatten_cons, List.flatten_cons, behind]
    simp

/-- A line with tokens of which no two colons stand side by side is taken along. -/
lemma continues_of_lexes {part : List Char} (same : trim l.text = trim part) (lexes : Lexes part us [])
    (apart : us.IsChain fun t u => t = .colon → u ≠ .colon) : l.Continues where
  noHeader := by
    have written : Lexes (trimStart l.text) us [] := (same ▸ lexes.trim).of_trim.skip
    rw [SourceLine.isHeader, Option.isSome_eq_false_iff, Option.isNone_iff_eq_none]
    cases header : dropFront? [':', ':'] (trimStart l.text) with
    | none => rfl
    | some behind =>
      rw [dropFront?_eq_some.mp header] at written
      obtain ⟨us, rfl, second⟩ := written.colon
      obtain ⟨us, rfl, _⟩ := second.colon
      exact absurd rfl (List.isChain_cons_cons.mp apart |>.1 rfl)
  noEnd := by
    intro ends
    rw [ends] at same
    exact not_lexes_at (same ▸ lexes.trim)

/-- In front of a line break in brackets there are whole tokens. -/
lemma lexes_front (whole : Lexes code ts [])
    (breaks : BreaksInBrackets code) {front : List Char}
    {rest : List (List Char)} (cut : code = front ++ rest.flatMap ('\n' :: ·)) :
    ∃ us vs, ts = us ++ vs ∧ Lexes front us [] ∧ (us = ts ∨ 0 < nesting us) := by
  cases rest with
  | nil =>
    rw [List.flatMap_nil, List.append_nil] at cut
    exact ⟨ts, [], (List.append_nil ts).symm, cut ▸ whole, .inl rfl⟩
  | cons next rest =>
    rw [List.flatMap_cons, List.cons_append] at cut
    obtain ⟨found, scanned, deep⟩ := breaks _ _ cut
    have lexes := tokens_iff_lexes.mp ⟨found, scanned, rfl⟩
    obtain ⟨vs, split, _⟩ := (cut ▸ whole : Lexes _ ts []).next_line lexes
    exact ⟨_, vs, split, lexes, .inr deep⟩

/-- The lines of a statement that is broken inside of its brackets are joined, and no others. -/
lemma joinOpen_lines (whole : Lexes code ts []) (closed : Closed true ts)
    (breaks : BreaksInBrackets code) {rest : List (List Char)}
    (same : ls.map (trim ·.text) = rest.map trim) {front joined : List Char}
    (cut : code = front ++ rest.flatMap ('\n' :: ·)) (left : Lexes front us []) (right : Lexes joined us []) :
    ∃ joined', Lexes joined' ts [] ∧ (∀ l ∈ ls, l.Continues) ∧
      ∀ after, joinOpen joined (ls ++ after) = (joined', after) := by
  induction rest generalizing front joined us ls with
  | nil =>
    obtain rfl : ls = [] := List.map_eq_nil_iff.mp same
    rw [List.flatMap_nil, List.append_nil] at cut
    obtain rfl : us = ts := left.unique (cut ▸ whole)
    have done : isOpen joined = false := by
      rw [isOpen_lexes right, closed.nesting]
      rfl
    refine ⟨joined, right, nofun, fun after => ?_⟩
    cases after with
    | nil => rfl
    | cons l after => rw [List.nil_append, joinOpen, done, if_neg (by simp)]
  | cons part rest ih =>
    obtain ⟨l, ls, rfl, line, same⟩ := List.map_eq_cons_iff.mp same
    rw [List.flatMap_cons, List.cons_append] at cut
    -- In front of the break brackets are open.
    obtain ⟨found, scanned, deep⟩ := breaks _ _ cut
    have opened : isOpen joined := by
      rw [isOpen_lexes right, left.unique (tokens_iff_lexes.mp ⟨found, scanned, rfl⟩)]
      exact decide_eq_true deep
    rw [← List.cons_append, ← List.append_assoc] at cut
    obtain ⟨vs, ws, rfl, further, _⟩ := lexes_front whole breaks cut
    obtain ⟨xs, rfl, lexed⟩ := further.next_line left
    have apart : xs.IsChain fun t u => t = .colon → u ≠ .colon :=
      (List.isChain_append.mp (List.isChain_append.mp closed.apart).1).2.1
    have here := continues_of_lexes line lexed apart
    have longer : Lexes (joined ++ '\n' :: trim l.text) (us ++ xs) [] := right.line (line ▸ lexed.trim)
    obtain ⟨joined', lexes, continues, joins⟩ := ih same cut further longer
    refine ⟨joined', lexes, List.forall_mem_cons.mpr ⟨here, continues⟩, fun after => ?_⟩
    rw [List.cons_append, joinOpen, opened, here.noHeader, if_pos (by simp), joins]

end Lines

/-! ## Reading a statement -/

section Reading

variable {r : Reading} {d : Draft} {l : SourceLine} {ls lines : List SourceLine}

/-- The reading with a command more in the open passage. -/
def Reading.withCommand (r : Reading) (d : Draft) (c : Command) : Reading :=
  { r with current? := some (d.addCommand c) }

lemma Reading.statement_ok {code : List Char} {c : Command} (command : readCommand code l.line = .ok c) :
    r.statement d l code = r.withCommand d c := by
  rw [Reading.statement, Draft.readStatement, command]
  rfl

lemma Reading.next_tilde {first : List Char} (opened : r.current? = some d)
    (tilde : trim l.text = '~' :: first) :
    r.next l lines =
      some (r.statement d l (joinOpen (trim first) lines).1, (joinOpen (trim first) lines).2) := by
  have noHeader : dropFront? [':', ':'] ('~' :: first) = none := rfl
  have noComment : '~' ≠ '#' := by decide
  have noStart : directiveArg? "@start".toList ('~' :: first) = none := rfl
  have noMetadata : '~' :: first ≠ "@metadata".toList := nofun
  have noScript : dropFront? "@script".toList ('~' :: first) = none := rfl
  unfold Reading.next
  simp only [tilde, noHeader, List.head?_cons, Option.some.injEq, noComment, noStart, noMetadata, noScript,
    opened, List.isEmpty_cons, Option.isSome_none, Bool.false_eq_true, if_false]

lemma Reading.next_script (opened : r.current? = some d) (script : trim l.text = "@script:".toList) :
    r.next l lines =
      some ((r.scriptEnds l (takeScript lines).2.1).script (scriptStatements (takeScript lines).1),
        (takeScript lines).2.2) := by
  have noHeader : dropFront? [':', ':'] "@script:".toList = none := rfl
  have noComment : "@script:".toList.head? ≠ some '#' := by decide
  have noStart : directiveArg? "@start".toList "@script:".toList = none := rfl
  have noMetadata : "@script:".toList ≠ "@metadata".toList := by decide
  have full : "@script:".toList.isEmpty = false := rfl
  have isScript : dropFront? "@script".toList "@script:".toList = some [':'] := rfl
  rw [← script] at noHeader noComment noStart noMetadata full isScript
  unfold Reading.next
  simp only [noHeader, noComment, noStart, noMetadata, full, isScript, opened, Option.isSome_some,
    Bool.false_eq_true, if_false, if_true]

lemma takeScript_continues (continues : ∀ l ∈ ls, l.Continues) (more : List SourceLine) :
    takeScript (ls ++ more) = (ls ++ (takeScript more).1, (takeScript more).2) := by
  induction ls with
  | nil => rfl
  | cons l ls ih =>
    obtain ⟨here, later⟩ := List.forall_mem_cons.mp continues
    rw [List.cons_append, takeScript, if_neg here.noEnd, here.noHeader, ih later]
    rfl

lemma scriptStatements_cons {code : List Char} (text : trim l.text = code) (visible : code ≠ [])
    (noComment : code.head? ≠ some '#') (lines : List SourceLine) :
    scriptStatements (l :: lines) =
      (l, (joinOpen code lines).1) :: scriptStatements (joinOpen code lines).2 := by
  subst text
  rw [scriptStatements.eq_def]
  simp only
  split
  · next none => exact absurd none visible
  · next mark =>
    rw [mark] at noComment
    exact absurd rfl noComment
  · rfl

/-- A statement at the beginning of a script is read in front of what is left of the script. -/
lemma readLines_script {start : SourceLine} {joined : List Char} {c : Command}
    (opened : r.current? = some d) (script : trim start.text = "@script:".toList)
    (visible : trim l.text ≠ []) (noComment : (trim l.text).head? ≠ some '#')
    (continues : ∀ l' ∈ l :: ls, l'.Continues)
    (joins : ∀ after, joinOpen (trim l.text) (ls ++ after) = (joined, after))
    (command : readCommand joined l.line = .ok c) (more : List SourceLine) :
    readLines r (start :: (l :: ls ++ more)) = readLines (r.withCommand d c) (start :: more) := by
  -- The ends of the script are looked at first, and only add problems.
  have passed (closed : Bool) (statements : List (SourceLine × List Char)) :
      (r.scriptEnds start closed).script ((l, joined) :: statements) =
        ((r.withCommand d c).scriptEnds start closed).script statements := by
    have kept : (r.scriptEnds start closed).current? = some d := by
      rw [Reading.scriptEnds, if_pos script]
      cases closed <;> exact opened
    have same : (r.scriptEnds start closed).withCommand d c = (r.withCommand d c).scriptEnds start closed := by
      rw [Reading.scriptEnds, Reading.scriptEnds, if_pos script, if_pos script]
      cases closed <;> rfl
    rw [← same, Reading.script, List.foldl_cons]
    simp only [kept]
    rw [Reading.statement_ok command]
    rfl
  have next : (r.withCommand d c).current? = some (d.addCommand c) := rfl
  rw [readLines_cons, readLines_cons, Reading.next_script opened script, Reading.next_script next script,
    takeScript_continues continues, List.cons_append, scriptStatements_cons rfl visible noComment, joins, passed]

end Reading

/-- A statement is not open, and it is open in front of each line break inside of its brackets. If all its
line breaks are there, and it does not assign to the submitted input values, its lines are read as one
command, behind `~` or in a script, whatever white space stands around them. The command has the number of
the first line and stands for the statement. What follows is read as if the command had been there before. -/
theorem statement_joined {code : List Char} {tree : Stmt} (read : Stmt.read code = .ok tree) :
    isOpen code = false ∧
      (∀ front behind, code = front ++ '\n' :: behind → InBrackets front → isOpen front) ∧
      (tree.assignsInputs = false → BreaksInBrackets code →
        ∀ (l : SourceLine) (ls : List SourceLine) (first : List Char) (rest : List (List Char)),
          code = joinWith ['\n'] (first :: rest) →
          ls.map (trim ·.text) = rest.map trim →
          ∃ c, c.line = l.line ∧ Stmt.read c.source.toList = .ok tree ∧
            ∀ (r : Reading) (d : Draft), r.current? = some d →
              (∀ written, trim l.text = '~' :: written → trim written = trim first →
                ∀ after, readLines r (l :: ls ++ after) = readLines (r.withCommand d c) after) ∧
              (trim l.text = trim first →
                ∀ start, trim start.text = "@script:".toList →
                  (∀ more, readLines r (start :: (l :: ls ++ more)) =
                    readLines (r.withCommand d c) (start :: more)) ∧
                  ∀ stop, trim stop.text = "@endscript".toList →
                    ∀ after, readLines r (start :: (l :: ls ++ stop :: after)) =
                      readLines (r.withCommand d c) after)) := by
  obtain ⟨ts, whole, full, closed⟩ := lexes_of_read read
  refine ⟨?_, ?_, fun free breaks l ls first rest cut same => ?_⟩
  · rw [isOpen_lexes whole, closed.nesting]
    rfl
  · rintro front _ _ ⟨found, scanned, deep⟩
    rw [isOpen_lexes (tokens_iff_lexes.mp ⟨found, scanned, rfl⟩)]
    exact decide_eq_true deep
  rw [joinWith_cons] at cut
  obtain ⟨us, vs, rfl, lexes, opens⟩ := lexes_front whole breaks cut
  obtain ⟨joined, lexed, continues, joins⟩ := joinOpen_lines whole closed breaks same cut lexes lexes.trim
  have again : Stmt.read joined = .ok tree := read_of_lexes whole lexed read
  obtain ⟨c, command, line⟩ := readCommand_of_read again free l.line
  obtain ⟨tree', written, kept⟩ := source_of_readCommand command
  cases again.symm.trans written
  refine ⟨c, line, kept, fun r d opened => ⟨fun text tilde trimmed after => ?_, fun trimmed start script => ?_⟩⟩
  · rw [List.cons_append, readLines_cons, Reading.next_tilde opened tilde, trimmed, joins,
      Reading.statement_ok command]
    rfl
  · have begun : us ≠ [] := by
      rintro rfl
      rcases opens with all | deep
      · exact full all.symm
      · exact absurd deep (Int.lt_irrefl 0)
    have apart := (List.isChain_append.mp closed.apart).1
    have here := continues_of_lexes trimmed lexes apart
    have written : Lexes (trim l.text) us [] := trimmed ▸ lexes.trim
    have before (more : List SourceLine) := readLines_script opened script (written.visible begun)
      written.noComment (List.forall_mem_cons.mpr ⟨here, continues⟩) (trimmed ▸ joins) command more
    refine ⟨before, fun stop ends after => ?_⟩
    rw [before, readLines_cons, Reading.next_script (r := r.withCommand d c) rfl script, takeScript, if_pos ends,
      Reading.scriptEnds, if_pos script, scriptStatements]
    rfl

/-- A list over several lines. -/
def deck : List Char :=
  "deck = [\n    'sun',\n    'moon',\n]".toList

def deckStart : SourceLine :=
  ⟨inlineLabel, 3, "  ~ deck = [".toList⟩

/-- The other lines of the list, with white space of their own. -/
def deckItems : List SourceLine :=
  [⟨inlineLabel, 4, "'sun',".toList⟩, ⟨inlineLabel, 5, "          'moon', ".toList⟩,
    ⟨inlineLabel, 6, "  ]".toList⟩]

/-- The lines of this list are one command, with the number of the first of them. -/
theorem deck_joined :
    ∃ tree c, Stmt.read deck = .ok tree ∧ isOpen deck = false ∧ isOpen "deck = [\n    'sun',".toList ∧
      c.line = 3 ∧ Stmt.read c.source.toList = .ok tree ∧
        ∀ (r : Reading) (d : Draft), r.current? = some d →
          ∀ after, readLines r (deckStart :: deckItems ++ after) = readLines (r.withCommand d c) after := by
  have readable : (Stmt.read deck).toOption.any (!·.assignsInputs) := by decide +kernel
  obtain ⟨tree, read, free⟩ : ∃ tree, Stmt.read deck = .ok tree ∧ tree.assignsInputs = false := by
    cases read : Stmt.read deck with
    | error reason =>
      rw [read] at readable
      cases readable
    | ok tree =>
      rw [read] at readable
      exact ⟨tree, rfl, by simpa [Except.toOption] using readable⟩
  obtain ⟨closed, opens, joins⟩ := statement_joined read
  have broken : BreaksInBrackets deck := by decide +kernel
  obtain ⟨c, line, kept, reads⟩ := joins free broken deckStart deckItems "deck = [".toList
    ["    'sun',".toList, "    'moon',".toList, "]".toList] (by decide +kernel) (by decide +kernel)
  have first := opens "deck = [\n    'sun',".toList "    'moon',\n]".toList (by decide +kernel)
    (by decide +kernel)
  refine ⟨tree, c, read, closed, first, line, kept, fun r d opened after => ?_⟩
  exact (reads r d opened).1 " deck = [".toList (by decide +kernel) (by decide +kernel) after

end BranchingStory.Source
