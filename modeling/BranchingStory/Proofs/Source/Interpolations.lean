import BranchingStory.Proofs.Script.Brackets
import BranchingStory.Proofs.Source.Tidied
import BranchingStory.Source.Line

/-!
# Interpolations

Text with interpolations is read back as the pieces that it was written from. The scans that look for the
end of an interpolation, for its format specification and for a comment go past an expression as the
tokenizer does.
-/

namespace BranchingStory.Source

open Script Text

/-! ## Going past an expression -/

section Scans

variable {quote : Char} {body cs rest : List Char} {inside : Bool}

lemma no_backslash_of_isQuote (quotes : isQuote quote) : quote ≠ '\\' := by
  rintro rfl
  cases quotes

lemma closeFrom_plain {quotes : Bool} {depth : Nat} {c : Char} (plain : c ≠ '\\') (before cs : List Char) :
    closeFrom quotes depth (some quote) before (c :: cs) =
      closeFrom quotes depth (quoteAfter (some quote) c) (c :: before) cs := by
  rw [closeFrom]
  exact fun _ _ same _ => plain same

lemma closeFrom_opened (quotes : isQuote quote) {depth : Nat} (before cs : List Char) :
    closeFrom true depth none before (quote :: cs) = closeFrom true depth (some quote) (quote :: before) cs := by
  rw [closeFrom.eq_def]
  simp only [quotes, and_self, if_true]

/-- The end of a bracket is looked for behind a string literal. -/
lemma closeFrom_quoted (quotes : isQuote quote) (inner : QuoteBody quote body) {depth : Nat}
    (before : List Char) :
    closeFrom true depth (some quote) before (body ++ quote :: rest) =
      closeFrom true depth none (quote :: body.reverse ++ before) rest := by
  induction inner generalizing before with
  | nil =>
    rw [List.nil_append, closeFrom_plain (no_backslash_of_isQuote quotes)]
    simp only [quoteAfter, if_true, List.reverse_nil, List.singleton_append]
  | escaped _ ih =>
    rw [List.cons_append, List.cons_append, closeFrom, ih]
    simp
  | plain other unescaped _ ih =>
    rw [List.cons_append, closeFrom_plain unescaped]
    simp only [quoteAfter, other, if_false]
    rw [ih]
    simp

section Unquoted

variable {depth : Nat} {c : Char} (noQuote : isQuote c = false) (before cs : List Char)

include noQuote

lemma closeFrom_opening (opens : isOpening c) :
    closeFrom true depth none before (c :: cs) = closeFrom true (depth + 1) none (c :: before) cs := by
  rw [closeFrom.eq_def]
  simp only [noQuote, opens, Bool.false_eq_true, and_false, if_false, if_true]

lemma closeFrom_closing (noOpening : isOpening c = false) (closes : isClosing c) :
    closeFrom true (depth + 1) none before (c :: cs) = closeFrom true depth none (c :: before) cs := by
  rw [closeFrom.eq_def]
  simp only [noQuote, noOpening, closes, Bool.false_eq_true, and_false, if_false, if_true]

lemma closeFrom_end (noOpening : isOpening c = false) (closes : isClosing c) :
    closeFrom true 0 none before (c :: cs) = some (before.reverse, cs) := by
  rw [closeFrom.eq_def]
  simp only [noQuote, noOpening, closes, Bool.false_eq_true, and_false, if_false, if_true]

lemma closeFrom_other (noOpening : isOpening c = false) (noClosing : isClosing c = false) :
    closeFrom true depth none before (c :: cs) = closeFrom true depth none (c :: before) cs := by
  rw [closeFrom.eq_def]
  simp only [noQuote, noOpening, noClosing, Bool.false_eq_true, and_false, if_false]

end Unquoted

/-- The end of a bracket is looked for behind closed brackets. -/
lemma closeFrom_balanced (balanced : Balanced inside cs) {depth : Nat} (before rest : List Char) :
    closeFrom true depth none before (cs ++ rest) = closeFrom true depth none (cs.reverse ++ before) rest := by
  induction balanced generalizing depth before rest with
  | nil => rfl
  | inert inert _ ih =>
    simp only [isInert, Bool.not_eq_true', Bool.or_eq_false_iff] at inert
    obtain ⟨⟨⟨⟨noQuote, noOpening⟩, noClosing⟩, _⟩, _⟩ := inert
    rw [List.cons_append, closeFrom_other noQuote _ _ noOpening noClosing, ih]
    simp
  | colon _ ih =>
    rw [List.cons_append, closeFrom_other rfl _ _ rfl rfl, ih]
    simp
  | quoted quotes body _ ih =>
    rw [List.append_assoc, List.cons_append, List.cons_append, closeFrom_opened quotes,
      closeFrom_quoted quotes body, ih]
    simp
  | group pair _ _ within behind =>
    rw [List.append_assoc, List.cons_append, List.cons_append, closeFrom_opening pair.opens.1 _ _ pair.opens.2,
      within, closeFrom_closing pair.closes.1 _ _ pair.closes.2.1 pair.closes.2.2, behind]
    simp

/-- A bracket in which quotes count ends behind its closed characters. -/
lemma enclosed?_balanced {left right : Char} (pair : Pair left right) (counts : left ≠ '[')
    (balanced : Balanced inside cs) (rest : List Char) :
    enclosed? (left :: cs ++ right :: rest) = some (cs, rest) := by
  have quotes : (left != '[') = true := bne_iff_ne.mpr counts
  rw [List.cons_append, enclosed?, quotes, closeFrom_balanced balanced,
    closeFrom_end pair.closes.1 _ _ pair.closes.2.1 pair.closes.2.2]
  simp

/-- In front of no backslash the scan for the last colon goes on by one character. -/
lemma lastColonFrom_cons {depth : Int} {quote? : Option Char} {c : Char} (plain : c ≠ '\\')
    (before : List Char) (found : Option Halves) (cs : List Char) :
    lastColonFrom depth quote? before found (c :: cs) =
      quote?.elim
        (if isQuote c then lastColonFrom depth (some c) (c :: before) found cs
        else if isOpening c then lastColonFrom (depth + 1) none (c :: before) found cs
        else if isClosing c then lastColonFrom (depth - 1) none (c :: before) found cs
        else if c = ':' ∧ depth = 0 then
          lastColonFrom depth none (c :: before) (some (before.reverse, cs)) cs
        else lastColonFrom depth none (c :: before) found cs)
        fun quote => lastColonFrom depth (quoteAfter (some quote) c) (c :: before) found cs := by
  rw [lastColonFrom.eq_def]
  simp only [isQuote, isOpening, isClosing, Bool.or_eq_true, beq_iff_eq, or_assoc]
  split
  · next empty => cases empty
  · next only => exact absurd (List.cons.inj only).1 plain
  · next escape => exact absurd (List.cons.inj escape).1 plain
  · next same =>
    obtain ⟨rfl, rfl⟩ := List.cons.inj same
    cases quote? <;> rfl

/-- The last colon is looked for behind a string literal. -/
lemma lastColonFrom_quoted (quotes : isQuote quote) (inner : QuoteBody quote body) {depth : Int}
    (before : List Char) (found : Option Halves) :
    lastColonFrom depth (some quote) before found (body ++ quote :: rest) =
      lastColonFrom depth none (quote :: body.reverse ++ before) found rest := by
  induction inner generalizing before with
  | nil =>
    rw [List.nil_append, lastColonFrom_cons (no_backslash_of_isQuote quotes)]
    simp only [Option.elim_some, quoteAfter, if_true, List.reverse_nil, List.singleton_append]
  | escaped _ ih =>
    rw [List.cons_append, List.cons_append, lastColonFrom, ih]
    simp
  | plain other unescaped _ ih =>
    rw [List.cons_append, lastColonFrom_cons unescaped]
    simp only [Option.elim_some, quoteAfter, other, if_false]
    rw [ih]
    simp

/-- The last colon is looked for behind closed brackets. -/
lemma lastColonFrom_balanced (balanced : Balanced inside cs) {depth : Int} (deep : 0 ≤ depth)
    (within : inside → 0 < depth) (before : List Char) (found : Option Halves) (rest : List Char) :
    lastColonFrom depth none before found (cs ++ rest) =
      lastColonFrom depth none (cs.reverse ++ before) found rest := by
  induction balanced generalizing depth before found rest with
  | nil => rfl
  | inert inert _ ih =>
    simp only [isInert, Bool.not_eq_true', Bool.or_eq_false_iff, beq_eq_false_iff_ne] at inert
    rw [List.cons_append, lastColonFrom_cons inert.1.2]
    simp only [Option.elim_none, inert, Bool.false_eq_true, if_false, false_and]
    rw [ih deep within]
    simp
  | colon _ ih =>
    have inner := within rfl
    rw [List.cons_append, lastColonFrom_cons (by decide), Option.elim_none, if_neg (by decide),
      if_neg (by decide), if_neg (by decide), if_neg (by omega), ih deep within]
    simp
  | quoted quotes body _ ih =>
    rw [List.append_assoc, List.cons_append, List.cons_append,
      lastColonFrom_cons (no_backslash_of_isQuote quotes), Option.elim_none, if_pos quotes,
      lastColonFrom_quoted quotes body, ih deep within]
    simp
  | group pair _ _ first second =>
    rw [List.append_assoc, List.cons_append, List.cons_append, lastColonFrom_cons pair.unescaped.1]
    simp only [Option.elim_none, pair.opens, Bool.false_eq_true, if_false, if_true]
    rw [first (by omega) (fun _ => by omega), lastColonFrom_cons pair.unescaped.2]
    simp only [Option.elim_none, pair.closes, Bool.false_eq_true, if_false, if_true, Int.add_sub_cancel]
    rw [second deep within]
    simp

end Scans

/-! ## Pieces of text -/

/-- A piece of a text: literal characters, or an expression with a format specification. -/
inductive TextPiece where
  | literal (chars : List Char)
  | interpolation (code : List Char) (spec? : Option (List Char))

/-- Characters with all braces doubled. -/
def doubled (chars : List Char) : List Char :=
  chars.flatMap fun c => if c = '{' ∨ c = '}' then [c, c] else [c]

lemma doubled_brace {c : Char} (brace : c = '{' ∨ c = '}') (chars : List Char) :
    doubled (c :: chars) = c :: c :: doubled chars := by
  simp [doubled, brace]

lemma doubled_other {c : Char} (other : ¬(c = '{' ∨ c = '}')) (chars : List Char) :
    doubled (c :: chars) = c :: doubled chars := by
  simp [doubled, other]

/-- An expression with the specification behind a colon. -/
def specified (code : List Char) : Option (List Char) → List Char
  | none => code
  | some spec => code ++ ':' :: spec

namespace TextPiece

/-- The characters that a piece is written with. -/
def written : TextPiece → List Char
  | .literal chars => doubled chars
  | .interpolation code spec? => '{' :: specified code spec? ++ ['}']

/-- The content that a piece stands for. -/
def item : TextPiece → ContentItem
  | .literal chars => .text (String.ofList chars)
  | .interpolation code spec? => .expression (String.ofList (trim code)) (spec?.map String.ofList)

/-- Whether an interpolation is one: its expression is read and does not begin with a brace, and its
specification is read and has nothing in it that the scans look for. -/
def Readable : TextPiece → Prop
  | .literal _ => True
  | .interpolation code spec? =>
    (Expr.read code).isOk ∧ code.head? ≠ some '{' ∧
      spec?.all fun spec => (FormatSpec.read? spec).isSome && spec.all isInert

instance : DecidablePred Readable
  | .literal _ => inferInstanceAs (Decidable True)
  | .interpolation code spec? => inferInstanceAs (Decidable ((Expr.read code).isOk ∧ code.head? ≠ some '{' ∧
      spec?.all fun spec => (FormatSpec.read? spec).isSome && spec.all isInert))

lemma Readable.spec {code spec : List Char} (readable : Readable (.interpolation code (some spec))) :
    (FormatSpec.read? spec).isSome ∧ ∀ c ∈ spec, isInert c := by
  have valid := Bool.and_eq_true_iff.mp readable.2.2
  exact ⟨valid.1, List.all_eq_true.mp valid.2⟩

end TextPiece

section Pieces

variable {code : List Char} {spec? : Option (List Char)}

lemma exists_of_isOk {ε α : Type} {m : Except ε α} (ok : m.isOk) : ∃ a, m = .ok a := by
  cases m with
  | error reason => cases ok
  | ok a => exact ⟨a, rfl⟩

lemma trim_full {e : Expr} (read : Expr.read code = .ok e) : (trim code).isEmpty = false := by
  have trimmed := Expr.read_trim read
  cases whole : trim code with
  | nil =>
    rw [whole] at trimmed
    cases trimmed
  | cons c cs => rfl

/-- The last colon outside of brackets and quotes is the one in front of the specification. -/
lemma splitSpec_specified (readable : TextPiece.Readable (.interpolation code spec?)) :
    splitSpec (specified code spec?) = (trim code, spec?) := by
  obtain ⟨e, read⟩ := exists_of_isOk readable.1
  have balanced := Expr.balanced_of_read read
  cases spec? with
  | none =>
    have noColon : lastColon? code = none := by
      have whole := lastColonFrom_balanced balanced (Int.le_refl 0) nofun [] none []
      rwa [List.append_nil] at whole
    simp only [specified, splitSpec, noColon]
  | some spec =>
    obtain ⟨valid, inert⟩ := readable.spec
    have atColon : lastColon? (code ++ ':' :: spec) = some (code, spec) := by
      have closed : Balanced false spec := .of_inert inert
      have behind := lastColonFrom_balanced closed (Int.le_refl 0) nofun (':' :: code.reverse)
        (some (code, spec)) []
      rw [List.append_nil, lastColonFrom] at behind
      rw [lastColon?, lastColonFrom_balanced balanced (Int.le_refl 0) nofun, List.append_nil,
        lastColonFrom_cons (by decide)]
      simpa [isQuote, isOpening, isClosing] using behind
    simp only [specified, splitSpec, atColon, trim_full read, valid, Bool.not_false, Bool.and_self, if_true]

lemma readInterpolation_specified (readable : TextPiece.Readable (.interpolation code spec?)) :
    readInterpolation (specified code spec?) = .ok (TextPiece.item (.interpolation code spec?)) := by
  obtain ⟨e, read⟩ := exists_of_isOk readable.1
  have checked : checkExpression (trim code) = .ok () := by
    rw [checkExpression, Expr.read_trim read]
  simp only [readInterpolation, splitSpec_specified readable, trim_full read, checked, Bool.false_eq_true,
    if_false]
  rfl

/-- An interpolation is closed as its expression and its specification are. -/
lemma balanced_specified (readable : TextPiece.Readable (.interpolation code spec?)) :
    Balanced true (specified code spec?) := by
  obtain ⟨e, read⟩ := exists_of_isOk readable.1
  have balanced := Expr.balanced_of_read read
  cases spec? with
  | none => exact balanced.anywhere
  | some spec => exact balanced.anywhere.append (.colon (.of_inert readable.spec.2))

lemma specified_head (readable : TextPiece.Readable (.interpolation code spec?)) (rest : List Char) :
    ∃ c cs, specified code spec? ++ rest = c :: cs ∧ c ≠ '{' := by
  obtain ⟨ok, noBrace, _⟩ := readable
  cases code with
  | nil => cases ok
  | cons c cs =>
    have other : c ≠ '{' := fun same => noBrace (congrArg some same)
    cases spec? with
    | none => exact ⟨c, _, rfl, other⟩
    | some spec => exact ⟨c, _, rfl, other⟩

/-- Doubled braces are read as the characters that they stand for. -/
lemma readTextFrom_doubled (chars literal rest : List Char) :
    readTextFrom literal (doubled chars ++ rest) = readTextFrom (chars.reverse ++ literal) rest := by
  induction chars generalizing literal with
  | nil => rfl
  | cons c chars ih =>
    by_cases brace : c = '{' ∨ c = '}'
    · rw [doubled_brace brace, List.cons_append, List.cons_append]
      rcases brace with rfl | rfl
      · rw [readTextFrom, ih]
        simp
      · rw [readTextFrom, ih]
        simp
    · rw [doubled_other brace, List.cons_append, readTextFrom, ih]
      · simp
      · rintro _ rfl _
        exact brace (.inl rfl)
      · rintro _ rfl _
        exact brace (.inr rfl)
      · rintro rfl
        exact brace (.inl rfl)

/-- An interpolation is read as its piece, and the text goes on behind it. -/
lemma readTextFrom_interpolation (readable : TextPiece.Readable (.interpolation code spec?))
    (literal rest : List Char) :
    readTextFrom literal ('{' :: specified code spec? ++ '}' :: rest) =
      (readTextFrom [] rest).map
        (literalItem literal ++ TextPiece.item (.interpolation code spec?) :: ·) := by
  have ended := enclosed?_balanced .braces (by decide) (balanced_specified readable) rest
  obtain ⟨c, cs, split, other⟩ := specified_head readable ('}' :: rest)
  rw [List.cons_append, split] at ended ⊢
  rw [readTextFrom]
  · split
    · next found =>
      rw [ended] at found
      cases found
    · next inside behind found =>
      rw [ended] at found
      cases found
      rw [readInterpolation_specified readable]
      cases readTextFrom [] rest <;> rfl
  · rintro _ same
    exact other (List.cons.inj same).1

/-- Literal characters in front of an interpolation are an item, unless there are none. -/
lemma mergeTexts_interpolation (literal : List Char) (items : List ContentItem) :
    mergeTexts (.text (String.ofList literal.reverse) :: TextPiece.item (.interpolation code spec?) :: items) =
      literalItem literal ++ TextPiece.item (.interpolation code spec?) :: mergeTexts items := by
  have first : mergeTexts (TextPiece.item (.interpolation code spec?) :: items) =
      TextPiece.item (.interpolation code spec?) :: mergeTexts items := by
    rw [TextPiece.item, mergeTexts]
    rintro _ ⟨⟩
  cases literal with
  | nil => exact (mergeTexts_empty _).trans first
  | cons c literal =>
    have full : String.ofList (c :: literal).reverse ≠ "" := by simp
    rw [mergeTexts_full full, first]
    rfl

/-- A text is read as the pieces that it was written from, behind literal characters. -/
lemma readTextFrom_written {pieces : List TextPiece} (readable : ∀ piece ∈ pieces, piece.Readable)
    (literal : List Char) :
    readTextFrom literal (pieces.flatMap TextPiece.written) =
      .ok (mergeTexts (.text (String.ofList literal.reverse) :: pieces.map TextPiece.item)) := by
  induction pieces generalizing literal with
  | nil =>
    rw [List.flatMap_nil, readTextFrom]
    cases literal with
    | nil => rfl
    | cons c literal =>
      have full : String.ofList (c :: literal).reverse ≠ "" := by simp
      rw [List.map_nil, mergeTexts_full full]
      rfl
  | cons piece pieces ih =>
    have later := ih fun piece member => readable piece (List.mem_cons_of_mem _ member)
    cases piece with
    | literal chars =>
      rw [List.flatMap_cons, TextPiece.written, readTextFrom_doubled, later, List.map_cons, TextPiece.item,
        mergeTexts_text_text, ← String.ofList_append, List.reverse_append, List.reverse_reverse]
    | interpolation code spec? =>
      rw [List.flatMap_cons, TextPiece.written, List.append_assoc, List.singleton_append,
        readTextFrom_interpolation (readable _ List.mem_cons_self), later, List.map_cons,
        mergeTexts_interpolation, List.reverse_nil, String.ofList_nil, mergeTexts_empty]
      rfl

/-- A text with interpolations is read as the pieces that it was written from, with neighbouring literals
made one and empty ones dropped. -/
theorem readText_written {pieces : List TextPiece} (readable : ∀ piece ∈ pieces, piece.Readable) :
    readText (pieces.flatMap TextPiece.written) = .ok (mergeTexts (pieces.map TextPiece.item)) := by
  rw [readText, readTextFrom_written readable, List.reverse_nil, String.ofList_nil, mergeTexts_empty]

end Pieces

/-- The pieces of `{{a}}b: { xs[1:2] == {'}:': [1]}}{gold if rich else 'it\'s':>+8,.2f}{n:,}`: doubled braces, a
slice, a string literal with a brace and a colon, and two specifications. -/
def ledger : List TextPiece :=
  [.literal "\x7ba\x7d".toList, .literal "b: ".toList,
    .interpolation " xs[1:2] == \x7b'\x7d:': [1]\x7d".toList none, .literal [],
    .interpolation "gold if rich else 'it\\'s'".toList (some ">+8,.2f".toList),
    .interpolation "n".toList (some ",".toList)]

/-- The pieces of a ledger are read back. -/
theorem ledger_read_back :
    (∀ piece ∈ ledger, piece.Readable) ∧
      readText (ledger.flatMap TextPiece.written) =
        .ok [.text "\x7ba\x7db: ", .expression "xs[1:2] == \x7b'\x7d:': [1]\x7d" none,
          .expression "gold if rich else 'it\\'s'" (some ">+8,.2f"), .expression "n" (some ",")] := by
  have readable : ∀ piece ∈ ledger, piece.Readable := by decide +kernel
  exact ⟨readable, (readText_written readable).trans (by rfl)⟩

end BranchingStory.Source
