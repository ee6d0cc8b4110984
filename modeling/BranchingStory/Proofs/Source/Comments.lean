import BranchingStory.Proofs.Source.Interpolations

/-!
# Comments

A line of text without the comment at its end is the line as it was written: escaped slashes are slashes
again, and interpolations are unchanged. The scan for the comment does not mind a backslash in a string
literal, so that a quote behind one must not be the quote that the literal stands in.
-/

namespace BranchingStory.Source

open Script Text

/-! ## Going past an expression -/

/-- Whether a string literal holds its own quote behind a backslash, with `quote?` open in front of the
characters. -/
def escapesQuote (quote? : Option Char) : List Char → Bool
  | [] => false
  | c :: cs =>
    match quote?, c, cs with
    | some quote, '\\', d :: rest => d == quote || escapesQuote (some quote) rest
    | quote?, c, cs => escapesQuote (quoteAfter quote? c) cs

section Scans

variable {quote : Char} {body cs rest : List Char} {inside : Bool}

lemma escapesQuote_plain {quote? : Option Char} {c : Char} (plain : c ≠ '\\') (cs : List Char) :
    escapesQuote quote? (c :: cs) = escapesQuote (quoteAfter quote? c) cs := by
  rw [escapesQuote]
  exact fun _ _ _ _ same => absurd same plain

/-- Behind an opening quote the scan for escaped quotes goes to the closing one. -/
lemma escapesQuote_quoted (quotes : isQuote quote) (inner : QuoteBody quote body) :
    escapesQuote (some quote) (body ++ quote :: rest) = (body.contains quote || escapesQuote none rest) := by
  have unescaped := no_backslash_of_isQuote quotes
  induction inner with
  | nil =>
    rw [List.nil_append, escapesQuote_plain unescaped]
    simp only [quoteAfter, if_true, List.contains_nil, Bool.false_or]
  | @escaped c cs _ ih =>
    rw [List.cons_append, List.cons_append, escapesQuote, ih, List.contains_cons, List.contains_cons,
      beq_eq_false_iff_ne.mpr unescaped, Bool.false_or, Bool.or_assoc, BEq.comm]
  | plain other plain _ ih =>
    rw [List.cons_append, escapesQuote_plain plain, List.contains_cons, beq_eq_false_iff_ne.mpr other.symm]
    simp only [quoteAfter, other, if_false, ih, Bool.false_or]

lemma escapesQuote_unquoted {c : Char} (noQuote : isQuote c = false) (plain : c ≠ '\\') (cs : List Char) :
    escapesQuote none (c :: cs) = escapesQuote none cs := by
  rw [escapesQuote_plain plain]
  simp only [quoteAfter, noQuote, Bool.false_eq_true, if_false]

lemma escapesQuote_literal (quotes : isQuote quote) (inner : QuoteBody quote body) :
    escapesQuote none (quote :: (body ++ quote :: rest)) = (body.contains quote || escapesQuote none rest) := by
  rw [escapesQuote_plain (no_backslash_of_isQuote quotes)]
  simp only [quoteAfter, quotes, if_true]
  exact escapesQuote_quoted quotes inner

/-- The scan for escaped quotes starts anew behind closed brackets. -/
lemma escapesQuote_balanced (balanced : Balanced inside cs) (rest : List Char) :
    escapesQuote none (cs ++ rest) = (escapesQuote none cs || escapesQuote none rest) := by
  induction balanced generalizing rest with
  | nil => rfl
  | inert inert _ ih =>
    simp only [isInert, Bool.not_eq_true', Bool.or_eq_false_iff, beq_eq_false_iff_ne] at inert
    obtain ⟨⟨⟨⟨noQuote, _⟩, _⟩, plain⟩, _⟩ := inert
    rw [List.cons_append, escapesQuote_unquoted noQuote plain, escapesQuote_unquoted noQuote plain, ih]
  | colon _ ih =>
    rw [List.cons_append, escapesQuote_unquoted rfl (by decide), escapesQuote_unquoted rfl (by decide), ih]
  | quoted quotes body _ ih =>
    rw [List.append_assoc, List.cons_append, List.cons_append, escapesQuote_literal quotes body, ih,
      List.cons_append, escapesQuote_literal quotes body, Bool.or_assoc]
  | group pair _ _ within behind =>
    have opens := escapesQuote_unquoted pair.opens.1 pair.unescaped.1
    have closes := escapesQuote_unquoted pair.closes.1 pair.unescaped.2
    rw [List.append_assoc, List.cons_append, List.cons_append, opens, within, closes, behind,
      List.cons_append, opens, within, closes, Bool.or_assoc]

lemma stripFrom_quoted (depth : Nat) (fresh : quote ∉ body) :
    stripFrom (depth + 1) (some quote) (body ++ quote :: rest) =
      body ++ quote :: stripFrom (depth + 1) none rest := by
  induction body with
  | nil => simp only [List.nil_append, stripFrom, quoteAfter, if_true]
  | cons c body ih =>
    rw [List.mem_cons, not_or] at fresh
    simp only [List.cons_append, stripFrom, quoteAfter, Ne.symm fresh.1, if_false, ih fresh.2]

lemma stripFrom_kept {c : Char} (noOpening : c ≠ '{') (noClosing : c ≠ '}') (depth : Nat) (cs : List Char) :
    stripFrom (depth + 1) none (c :: cs) = c :: stripFrom (depth + 1) (quoteAfter none c) cs := by
  simp only [stripFrom, noOpening, noClosing, if_false]

/-- Closed brackets inside of braces are kept as they are. -/
lemma stripFrom_balanced (balanced : Balanced inside cs) (fresh : escapesQuote none cs = false) (depth : Nat)
    (rest : List Char) :
    stripFrom (depth + 1) none (cs ++ rest) = cs ++ stripFrom (depth + 1) none rest := by
  induction balanced generalizing depth rest with
  | nil => rfl
  | @inert _ c _ inert _ ih =>
    simp only [isInert, Bool.not_eq_true', Bool.or_eq_false_iff, beq_eq_false_iff_ne] at inert
    obtain ⟨⟨⟨⟨noQuote, noOpening⟩, noClosing⟩, plain⟩, _⟩ := inert
    rw [escapesQuote_unquoted noQuote plain] at fresh
    have other : c ≠ '{' ∧ c ≠ '}' := by
      constructor
      · rintro rfl
        cases noOpening
      · rintro rfl
        cases noClosing
    rw [List.cons_append, stripFrom_kept other.1 other.2]
    simp only [quoteAfter, noQuote, Bool.false_eq_true, if_false, ih fresh, List.cons_append]
  | colon _ ih =>
    rw [escapesQuote_unquoted rfl (by decide)] at fresh
    rw [List.cons_append, stripFrom_kept (by decide) (by decide)]
    exact congrArg _ (ih fresh depth rest)
  | @quoted _ quote _ _ quotes body _ ih =>
    rw [List.cons_append, escapesQuote_literal quotes body, Bool.or_eq_false_iff] at fresh
    have absent := fun member => Bool.false_ne_true (fresh.1.symm.trans (List.contains_iff_mem.mpr member))
    have other : quote ≠ '{' ∧ quote ≠ '}' := by
      constructor
      · rintro rfl
        cases quotes
      · rintro rfl
        cases quotes
    rw [List.append_assoc, List.cons_append, List.cons_append, stripFrom_kept other.1 other.2]
    simp only [quoteAfter, quotes, if_true]
    rw [stripFrom_quoted depth absent, ih fresh.2]
    simp
  | @group _ left right text more pair inner _ within behind =>
    rw [List.cons_append, escapesQuote_unquoted pair.opens.1 pair.unescaped.1, escapesQuote_balanced inner,
      escapesQuote_unquoted pair.closes.1 pair.unescaped.2, Bool.or_eq_false_iff] at fresh
    -- Braces are counted, and the other brackets are not.
    have grouped (l r : Char) (deep : Nat)
        (opens : ∀ cs, stripFrom (depth + 1) none (l :: cs) = l :: stripFrom (deep + 1) none cs)
        (closes : ∀ cs, stripFrom (deep + 1) none (r :: cs) = r :: stripFrom (depth + 1) none cs) :
        stripFrom (depth + 1) none (l :: text ++ r :: more ++ rest) =
          l :: text ++ r :: more ++ stripFrom (depth + 1) none rest := by
      rw [List.append_assoc, List.cons_append, List.cons_append, opens, within fresh.1, closes,
        behind fresh.2]
      simp
    cases pair with
    | parens => exact grouped _ _ depth (fun _ => rfl) fun _ => rfl
    | brackets => exact grouped _ _ depth (fun _ => rfl) fun _ => rfl
    | braces => exact grouped _ _ (depth + 1) (fun _ => rfl) fun _ => rfl

end Scans

/-! ## Lines of text -/

/-- Characters with a backslash in front of each two slashes. -/
def slashed : List Char → List Char
  | '/' :: '/' :: cs => '\\' :: '/' :: '/' :: slashed cs
  | c :: cs => c :: slashed cs
  | [] => []

/-- The line that pieces are written as behind literal characters. All the characters between two
interpolations are taken together, as two slashes may come from two pieces. -/
def lineFrom (literal : List Char) : List TextPiece → List Char
  | [] => doubled (slashed literal)
  | .literal chars :: pieces => lineFrom (literal ++ chars) pieces
  | .interpolation code spec? :: pieces =>
    doubled (slashed literal) ++ '{' :: specified code spec? ++ '}' :: lineFrom [] pieces

/-- Whether the expression of a piece holds no quote behind a backslash that could end its string literal. -/
def TextPiece.Unescaped : TextPiece → Prop
  | .literal _ => True
  | .interpolation code _ => escapesQuote none code = false

instance : DecidablePred TextPiece.Unescaped
  | .literal _ => inferInstanceAs (Decidable True)
  | .interpolation code _ => inferInstanceAs (Decidable (escapesQuote none code = false))

section Lines

variable {chars rest : List Char}

lemma doubled_append (first second : List Char) : doubled (first ++ second) = doubled first ++ doubled second :=
  List.flatMap_append

/-- The first character of doubled characters is the first one of these. -/
lemma doubled_head (c : Char) (chars : List Char) : ∃ more, doubled (c :: chars) = c :: more := by
  by_cases brace : c = '{' ∨ c = '}'
  · exact ⟨_, doubled_brace brace chars⟩
  · exact ⟨_, doubled_other brace chars⟩

/-- A line begins with a slash only if its literal characters do. -/
lemma head_of_slashed (noSlash : rest.head? ≠ some '/')
    (slash : (doubled (slashed chars) ++ rest).head? = some '/') :
    ∃ cs, chars = '/' :: cs ∧ cs.head? ≠ some '/' := by
  fun_cases slashed chars with
  | case1 cs =>
    rw [slashed, doubled_other (by decide)] at slash
    cases slash
  | case2 c cs single =>
    obtain ⟨more, written⟩ := doubled_head c (slashed cs)
    rw [slashed, written] at slash
    · obtain rfl : c = '/' := Option.some.inj slash
      refine ⟨cs, rfl, fun again => ?_⟩
      obtain ⟨cs, rfl⟩ := List.head?_eq_some_iff.mp again
      exact single cs rfl rfl
    · exact single
  | case3 => exact absurd slash noSlash

/-- Two slashes without a backslash are not written. -/
lemma slashed_ne (noSlash : rest.head? ≠ some '/') (more : List Char) :
    doubled (slashed chars) ++ rest ≠ '/' :: '/' :: more := by
  intro written
  obtain ⟨cs, rfl, single⟩ := head_of_slashed noSlash (congrArg List.head? written)
  have first : slashed ('/' :: cs) = '/' :: slashed cs := by
    rw [slashed]
    rintro _ _ rfl
    exact single rfl
  rw [first, doubled_other (by decide), List.cons_append, List.cons.injEq] at written
  obtain ⟨cs', rfl, _⟩ := head_of_slashed noSlash (congrArg List.head? written.2)
  exact single rfl

lemma stripFrom_other {c : Char} {cs : List Char} (noEscape : c = '\\' → ∀ more, cs ≠ '/' :: '/' :: more)
    (noComment : c = '/' → ∀ more, cs ≠ '/' :: more) (noBrace : c ≠ '{') :
    stripFrom 0 none (c :: cs) = c :: stripFrom 0 none cs := by
  rw [stripFrom]
  · exact noBrace
  · exact fun more first same => noEscape first more same
  · exact fun more first same => noComment first more same
  · exact fun more first => absurd first noBrace

lemma stripFrom_opening {cs : List Char} (single : ∀ more, cs ≠ '{' :: more) :
    stripFrom 0 none ('{' :: cs) = '{' :: stripFrom 1 none cs := by
  rw [stripFrom]
  exact single

/-- Literal characters are kept, with their slashes as they were. -/
lemma stripFrom_literal (noSlash : rest.head? ≠ some '/') :
    stripFrom 0 none (doubled (slashed chars) ++ rest) = doubled chars ++ stripFrom 0 none rest := by
  fun_induction slashed chars with
  | case1 cs ih =>
    rw [doubled_other (by decide), doubled_other (by decide), doubled_other (by decide)]
    simp only [List.cons_append]
    rw [stripFrom, ih, doubled_other (by decide), doubled_other (by decide)]
    rfl
  | case2 c cs single ih =>
    by_cases brace : c = '{' ∨ c = '}'
    · rw [doubled_brace brace, doubled_brace brace]
      simp only [List.cons_append]
      rcases brace with rfl | rfl
      · rw [stripFrom, ih]
      · have kept (cs : List Char) : stripFrom 0 none ('}' :: cs) = '}' :: stripFrom 0 none cs :=
          stripFrom_other (fun same => absurd same (by decide)) (fun same => absurd same (by decide)) (by decide)
        rw [kept, kept, ih]
    · rw [doubled_other brace, doubled_other brace, List.cons_append, List.cons_append, stripFrom_other, ih]
      · exact fun _ => slashed_ne noSlash
      · rintro rfl more written
        obtain ⟨cs', rfl, _⟩ := head_of_slashed noSlash (congrArg List.head? written)
        exact single cs' rfl rfl
      · exact fun same => brace (.inl same)
  | case3 => rfl

lemma escapesQuote_inert {cs : List Char} (inert : ∀ c ∈ cs, isInert c) : escapesQuote none cs = false := by
  induction cs with
  | nil => rfl
  | cons c cs ih =>
    have first := inert c List.mem_cons_self
    simp only [isInert, Bool.not_eq_true', Bool.or_eq_false_iff, beq_eq_false_iff_ne] at first
    rw [escapesQuote_unquoted first.1.1.1.1 first.1.2]
    exact ih fun d member => inert d (List.mem_cons_of_mem _ member)

variable {code : List Char} {spec? : Option (List Char)} {pieces : List TextPiece}

/-- A specification adds no quotes. -/
lemma escapesQuote_specified (readable : TextPiece.Readable (.interpolation code spec?))
    (unescaped : escapesQuote none code = false) : escapesQuote none (specified code spec?) = false := by
  obtain ⟨e, read⟩ := exists_of_isOk readable.1
  cases spec? with
  | none => exact unescaped
  | some spec =>
    rw [specified, escapesQuote_balanced (Expr.balanced_of_read read), unescaped, Bool.false_or,
      escapesQuote_unquoted rfl (by decide)]
    exact escapesQuote_inert readable.spec.2

/-- An interpolation is kept as it is. -/
lemma stripFrom_interpolation (readable : TextPiece.Readable (.interpolation code spec?))
    (unescaped : escapesQuote none code = false) (rest : List Char) :
    stripFrom 0 none ('{' :: specified code spec? ++ '}' :: rest) =
      '{' :: specified code spec? ++ '}' :: stripFrom 0 none rest := by
  obtain ⟨c, cs, split, other⟩ := specified_head readable ('}' :: rest)
  have single : ∀ more, c :: cs ≠ '{' :: more := fun more same => other (List.cons.inj same).1
  rw [List.cons_append, split, stripFrom_opening single, ← split,
    stripFrom_balanced (balanced_specified readable) (escapesQuote_specified readable unescaped)]
  rfl

/-- A line is read as its pieces are written, up to what is behind it. -/
lemma stripFrom_line (readable : ∀ piece ∈ pieces, piece.Readable)
    (unescaped : ∀ piece ∈ pieces, piece.Unescaped) (noSlash : rest.head? ≠ some '/') (literal : List Char) :
    stripFrom 0 none (lineFrom literal pieces ++ rest) =
      doubled literal ++ pieces.flatMap TextPiece.written ++ stripFrom 0 none rest := by
  induction pieces generalizing literal with
  | nil => rw [lineFrom, stripFrom_literal noSlash, List.flatMap_nil, List.append_nil]
  | cons piece pieces ih =>
    have later := ih (fun piece member => readable piece (List.mem_cons_of_mem _ member))
      (fun piece member => unescaped piece (List.mem_cons_of_mem _ member))
    cases piece with
    | literal chars =>
      rw [lineFrom, later, doubled_append, List.flatMap_cons, TextPiece.written, List.append_assoc (doubled literal)]
    | interpolation code spec? =>
      have kept := stripFrom_interpolation (readable _ List.mem_cons_self) (unescaped _ List.mem_cons_self)
        (lineFrom [] pieces ++ rest)
      have shape : lineFrom literal (.interpolation code spec? :: pieces) ++ rest =
          doubled (slashed literal) ++ ('{' :: specified code spec? ++ '}' :: (lineFrom [] pieces ++ rest)) := by
        simp [lineFrom]
      rw [shape, stripFrom_literal (by simp), kept, later]
      simp [TextPiece.written, doubled]

/-- A line of text without the comment behind it is as its pieces are written, with the blank in front of
the comment. -/
theorem stripComment_line (readable : ∀ piece ∈ pieces, piece.Readable)
    (unescaped : ∀ piece ∈ pieces, piece.Unescaped) :
    stripComment (lineFrom [] pieces) = pieces.flatMap TextPiece.written ∧
      ∀ note, stripComment (lineFrom [] pieces ++ ' ' :: '/' :: '/' :: note) =
        pieces.flatMap TextPiece.written ++ [' '] := by
  have line (rest : List Char) (noSlash : rest.head? ≠ some '/') :
      stripComment (lineFrom [] pieces ++ rest) =
        pieces.flatMap TextPiece.written ++ stripFrom 0 none rest :=
    stripFrom_line readable unescaped noSlash []
  constructor
  · have whole := line [] nofun
    rwa [List.append_nil, stripFrom, List.append_nil] at whole
  · intro note
    rw [line _ (by simp)]
    rfl

end Lines

/-- The pieces of `http:\//x {{{7 // n}}}\///{ {'}//': "it's"}['}//']}{gold:,}`: slashes from two pieces, a floor
division, string literals with a brace and slashes in them, and a specification. -/
def signpost : List TextPiece :=
  [.literal "http:/".toList, .literal "/x \x7b".toList, .interpolation "7 // n".toList none,
    .literal "\x7d///".toList, .interpolation " \x7b'\x7d//': \"it's\"\x7d['\x7d//']".toList none,
    .interpolation "gold".toList (some ",".toList)]

/-- The comment behind a signpost is taken off, and its slashes are slashes again. -/
theorem signpost_kept :
    (∀ piece ∈ signpost, piece.Readable) ∧ (∀ piece ∈ signpost, piece.Unescaped) ∧
      stripComment (lineFrom [] signpost ++ " // it's \x7bgold".toList) =
        ("http://x \x7b\x7b\x7b7 // n\x7d\x7d\x7d///" ++
          "\x7b \x7b'\x7d//': \"it's\"\x7d['\x7d//']\x7d\x7bgold:,\x7d ").toList := by
  have readable : ∀ piece ∈ signpost, piece.Readable := by decide +kernel
  have unescaped : ∀ piece ∈ signpost, piece.Unescaped := by decide +kernel
  refine ⟨readable, unescaped, ?_⟩
  exact ((stripComment_line readable unescaped).2 " it's \x7bgold".toList).trans (by decide +kernel)

/-- Behind a string literal with an escaped quote, as in `{'it\'s'} // note`, the comment is not seen. -/
theorem escaped_quote_keeps_comment :
    (Expr.read "'it\\'s'".toList).isOk ∧
      stripComment "\x7b'it\\'s'\x7d // note".toList = "\x7b'it\\'s'\x7d // note".toList := by
  decide +kernel

end BranchingStory.Source
