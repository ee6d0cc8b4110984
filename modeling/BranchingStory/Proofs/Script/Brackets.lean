import BranchingStory.Proofs.Script.Extents
import BranchingStory.Proofs.Script.Lexing
import BranchingStory.Source.Scan

/-!
# Characters with closed brackets

What the tokens of an expression say about its characters. Brackets and quotes are closed, and commas and
colons stand inside of brackets only; in a string literal a backslash keeps the next character from ending
it. The scans that look for the end of an interpolation, for its format specification, for a comment and
for the arguments of a call see no more of an expression than this.
-/

namespace BranchingStory.Script

open Text Number
open Source (isQuote isOpening isClosing)

/-! ## Closed brackets and quotes -/

/-- Whether a character is nothing to the scans: no quote, no bracket, no backslash and no colon. -/
def isInert (c : Char) : Bool :=
  !(isQuote c || isOpening c || isClosing c || c == '\\' || c == ':')

/-- The characters between two quotes. -/
inductive QuoteBody (quote : Char) : List Char → Prop where
  | nil :
    QuoteBody quote []
  | escaped {c cs} :
    QuoteBody quote cs →
    QuoteBody quote ('\\' :: c :: cs)
  | plain {c cs} :
    c ≠ quote →
    c ≠ '\\' →
    QuoteBody quote cs →
    QuoteBody quote (c :: cs)

/-- An opening bracket and the one that closes it. -/
inductive Pair : Char → Char → Prop where
  | parens : Pair '(' ')'
  | brackets : Pair '[' ']'
  | braces : Pair '{' '}'

lemma Pair.opens {left right : Char} (pair : Pair left right) :
    isQuote left = false ∧ isOpening left = true := by
  cases pair <;> exact ⟨rfl, rfl⟩

lemma Pair.closes {left right : Char} (pair : Pair left right) :
    isQuote right = false ∧ isOpening right = false ∧ isClosing right = true := by
  cases pair <;> exact ⟨rfl, rfl, rfl⟩

lemma Pair.unescaped {left right : Char} (pair : Pair left right) : left ≠ '\\' ∧ right ≠ '\\' := by
  cases pair <;> decide

/-- Characters in which all brackets and quotes are closed. Outside of these there are colons only if the
characters stand `inside` of brackets themselves. -/
inductive Balanced : Bool → List Char → Prop where
  | nil {inside} :
    Balanced inside []
  | inert {inside c cs} :
    isInert c →
    Balanced inside cs →
    Balanced inside (c :: cs)
  | colon {cs} :
    Balanced true cs →
    Balanced true (':' :: cs)
  | quoted {inside quote body cs} :
    isQuote quote →
    QuoteBody quote body →
    Balanced inside cs →
    Balanced inside (quote :: body ++ quote :: cs)
  | group {inside left right within behind} :
    Pair left right →
    Balanced true within →
    Balanced inside behind →
    Balanced inside (left :: within ++ right :: behind)

namespace Balanced

variable {inside : Bool} {cs ds : List Char}

lemma append (first : Balanced inside cs) (second : Balanced inside ds) : Balanced inside (cs ++ ds) := by
  induction first with
  | nil => exact second
  | inert inert _ ih => exact .inert inert (ih second)
  | colon _ ih => exact .colon (ih second)
  | quoted quotes body _ ih =>
    have longer := Balanced.quoted quotes body (ih second)
    simpa only [List.cons_append, List.append_assoc] using longer
  | group pair within _ _ ih =>
    have longer := Balanced.group pair within (ih second)
    simpa only [List.cons_append, List.append_assoc] using longer

lemma anywhere (balanced : Balanced false cs) : Balanced inside cs := by
  generalize outside : false = here at balanced
  induction balanced with
  | nil => exact .nil
  | inert inert _ ih => exact .inert inert (ih outside)
  | colon => cases outside
  | quoted quotes body _ ih => exact .quoted quotes body (ih outside)
  | group pair within _ _ ih => exact .group pair within (ih outside)

lemma of_inert (inert : ∀ c ∈ cs, isInert c) : Balanced inside cs := by
  induction cs with
  | nil => exact .nil
  | cons c cs ih =>
    refine .inert (inert c List.mem_cons_self) (ih ?_)
    exact fun d member => inert d (List.mem_cons_of_mem _ member)

end Balanced

/-- Balanced characters with commas, too, inside of brackets only. -/
inductive Undivided : Bool → List Char → Prop where
  | nil {inside} :
    Undivided inside []
  | inert {inside c cs} :
    isInert c →
    c ≠ ',' →
    Undivided inside cs →
    Undivided inside (c :: cs)
  | separator {c cs} :
    c = ',' ∨ c = ':' →
    Undivided true cs →
    Undivided true (c :: cs)
  | quoted {inside quote body cs} :
    isQuote quote →
    QuoteBody quote body →
    Undivided inside cs →
    Undivided inside (quote :: body ++ quote :: cs)
  | group {inside left right within behind} :
    Pair left right →
    Undivided true within →
    Undivided inside behind →
    Undivided inside (left :: within ++ right :: behind)

namespace Undivided

variable {inside : Bool} {cs ds : List Char}

lemma balanced (undivided : Undivided inside cs) : Balanced inside cs := by
  induction undivided with
  | nil => exact .nil
  | inert inert _ _ ih => exact .inert inert ih
  | separator separates _ ih =>
    rcases separates with rfl | rfl
    · exact .inert rfl ih
    · exact .colon ih
  | quoted quotes body _ ih => exact .quoted quotes body ih
  | group pair _ _ within behind => exact .group pair within behind

lemma append (first : Undivided inside cs) (second : Undivided inside ds) : Undivided inside (cs ++ ds) := by
  induction first with
  | nil => exact second
  | inert inert other _ ih => exact .inert inert other (ih second)
  | separator separates _ ih => exact .separator separates (ih second)
  | quoted quotes body _ ih =>
    have longer := Undivided.quoted quotes body (ih second)
    simpa only [List.cons_append, List.append_assoc] using longer
  | group pair within _ _ ih =>
    have longer := Undivided.group pair within (ih second)
    simpa only [List.cons_append, List.append_assoc] using longer

lemma anywhere (undivided : Undivided false cs) : Undivided inside cs := by
  generalize outside : false = here at undivided
  induction undivided with
  | nil => exact .nil
  | inert inert other _ ih => exact .inert inert other (ih outside)
  | separator => cases outside
  | quoted quotes body _ ih => exact .quoted quotes body (ih outside)
  | group pair within _ _ ih => exact .group pair within (ih outside)

lemma of_inert (chars : ∀ c ∈ cs, isInert c ∧ c ≠ ',') : Undivided inside cs := by
  induction cs with
  | nil => exact .nil
  | cons c cs ih =>
    obtain ⟨inert, other⟩ := chars c List.mem_cons_self
    exact .inert inert other (ih fun d member => chars d (List.mem_cons_of_mem _ member))

lemma of_inert_or_separator (chars : ∀ c ∈ cs, isInert c ∨ c = ':') : Undivided true cs := by
  induction cs with
  | nil => exact .nil
  | cons c cs ih =>
    have behind : Undivided true cs := ih fun d member => chars d (List.mem_cons_of_mem _ member)
    by_cases separates : c = ',' ∨ c = ':'
    · exact .separator separates behind
    · rw [not_or] at separates
      exact .inert ((chars c List.mem_cons_self).resolve_right separates.2) separates.1 behind

end Undivided

/-- The characters that are something to the scans. -/
def sentinels : List Char :=
  ['\x27', '"', '(', '[', '{', ')', ']', '}', '\\', ':']

lemma isInert_of_not_mem {c : Char} (other : c ∉ sentinels) : isInert c := by
  simp only [sentinels, List.mem_cons, List.not_mem_nil, or_false, not_or] at other
  simp [isInert, isQuote, isOpening, isClosing, other]

lemma not_mem_of_all {p : Char → Bool} {ds : List Char} (apart : ds.all (!p ·)) {c : Char} (holds : p c) :
    c ∉ ds := by
  intro member
  have never := List.all_eq_true.mp apart c member
  rw [holds] at never
  cases never

lemma isInert_of_isBlank {c : Char} (blank : isBlank c) : isInert c :=
  isInert_of_not_mem (not_mem_of_all (by decide) blank)

/-- Characters of a kind divide nothing if the characters that matter to the scans are not of it. -/
lemma Undivided.of_all {p : Char → Bool} (apart : (',' :: sentinels).all (!p ·)) {inside : Bool} {cs : List Char}
    (holds : ∀ c ∈ cs, p c) : Undivided inside cs := by
  refine .of_inert fun c member => ?_
  have other := not_mem_of_all apart (holds c member)
  rw [List.mem_cons, not_or] at other
  exact ⟨isInert_of_not_mem other.2, other.1⟩

/-! ## Characters of a token -/

/-- The character of a bracket. -/
def bracket? : Token → Option Char
  | .leftParen => some '('
  | .rightParen => some ')'
  | .leftBracket => some '['
  | .rightBracket => some ']'
  | .leftBrace => some '{'
  | .rightBrace => some '}'
  | _ => none

/-- What the characters of a token are: brackets and quotes are closed in it, unless it is a bracket. -/
structure Writes (t : Token) (text : List Char) : Prop where
  plain : t.isPlain → Undivided false text
  separator : t.separates → Undivided true text
  bracket : ∀ c, bracket? t = some c → text = [c]
  last : ∀ c, text.getLast? = some c → isBlank c = false

lemma Writes.of_plain {t : Token} {text : List Char} (plain : t.isPlain) (undivided : Undivided false text)
    (last : ∀ c, text.getLast? = some c → isBlank c = false) : Writes t text where
  plain _ := undivided
  separator separates := by
    simp [Token.isPlain, separates] at plain
  bracket c found := by
    cases t <;> first | (cases found; done) | cases plain
  last := last

/-- The characters of numbers. -/
def isNumberChar (c : Char) : Bool :=
  isWordChar c || c == '.' || c == '+' || c == '-'

lemma isNumberChar_of_isDigit {c : Char} (digit : c.isDigit) : isNumberChar c := by
  simp only [isNumberChar, isWordChar_of_isDigit digit, Bool.true_or]

lemma isNumberChar_of_isLeading {c : Char} (leading : isLeading c) : isNumberChar c := by
  rcases Bool.or_eq_true_iff.mp leading with digit | underscore
  · exact isNumberChar_of_isDigit digit
  · simp [isNumberChar, isWordChar, underscore]

lemma scanFraction_chars (cs : List Char) : ∀ c ∈ (scanFraction cs).2.1, isNumberChar c := by
  unfold scanFraction
  split
  · nofun
  · next after =>
    intro c member
    rcases List.mem_cons.mp member with rfl | digits
    · rfl
    · exact isNumberChar_of_isDigit (List.all_eq_true.mp List.all_takeWhile c digits)
  · nofun

lemma scanExponent_chars (cs : List Char) : ∀ c ∈ (scanExponent cs).2.1, isNumberChar c := by
  unfold scanExponent
  split
  · nofun
  · next e after =>
    split
    · next letter =>
      simp only
      split
      · nofun
      · intro c member
        rw [List.mem_append, List.mem_cons] at member
        rcases member with (rfl | sign) | digits
        · rcases letter with rfl | rfl <;> rfl
        · unfold splitSign at sign
          split at sign
          · cases List.mem_singleton.mp sign
            rfl
          · cases List.mem_singleton.mp sign
            rfl
          · cases sign
        · exact isNumberChar_of_isDigit (List.all_eq_true.mp List.all_takeWhile c digits)
    · nofun

lemma scanNumber_chars (cs : List Char) : ∀ c ∈ (scanNumber cs).2.1, isNumberChar c := by
  intro c member
  unfold scanNumber at member
  simp only [List.mem_append] at member
  rcases member with (leading | fraction) | exponent
  · exact isNumberChar_of_isLeading (List.all_eq_true.mp List.all_takeWhile c leading)
  · exact scanFraction_chars _ c fraction
  · exact scanExponent_chars _ c exponent

/-- A string literal ends at the first quote that no backslash stands in front of. -/
lemma scanString_body {quote : Char} {text cs content rest : List Char}
    (ends : scanString quote text cs = some (content, rest)) :
    ∃ body, cs = body ++ quote :: rest ∧ QuoteBody quote body := by
  fun_induction scanString quote text cs with
  | case1 => cases ends
  | case2 text c cs ih =>
    obtain ⟨body, rfl, inner⟩ := ih ends
    exact ⟨'\\' :: c :: body, rfl, .escaped inner⟩
  | case3 =>
    cases ends
    exact ⟨[], rfl, .nil⟩
  | case4 text c cs unpaired goesOn ih =>
    obtain ⟨body, rfl, inner⟩ := ih ends
    refine ⟨c :: body, rfl, .plain goesOn ?_ inner⟩
    -- A backslash that escapes nothing is the last character, but the quote comes behind it.
    intro escape
    cases body with
    | nil => exact unpaired _ _ escape rfl
    | cons d body => exact unpaired _ _ escape rfl

lemma signs_plain : ∀ entry ∈ signs, entry.2.isPlain → ∀ c ∈ entry.1, isInert c ∧ c ≠ ',' := by
  have checked : (signs.all fun entry => !entry.2.isPlain || entry.1.all fun c => isInert c && c != ',') := by
    decide
  intro entry member plain c inside
  have written := List.all_eq_true.mp checked entry member
  rw [plain] at written
  simpa using List.all_eq_true.mp written c inside

lemma signs_separator : ∀ entry ∈ signs, entry.2.separates → ∀ c ∈ entry.1, isInert c ∨ c = ':' := by
  have checked : (signs.all fun entry => !entry.2.separates || entry.1.all fun c => isInert c || c == ':') := by
    decide
  intro entry member separates c inside
  have written := List.all_eq_true.mp checked entry member
  rw [separates] at written
  simpa using List.all_eq_true.mp written c inside

lemma signs_bracket : ∀ entry ∈ signs, ∀ c, bracket? entry.2 = some c → entry.1 = [c] := by
  have checked : (signs.all fun entry => (bracket? entry.2).all (entry.1 == [·])) := by decide
  intro entry member c found
  have written := List.all_eq_true.mp checked entry member
  rw [found] at written
  exact beq_iff_eq.mp written

lemma isPlain_of_numberToken {isFloat : Bool} {digits : List Char} {t : Token}
    (made : numberToken isFloat digits = .ok t) : t.isPlain := by
  unfold numberToken at made
  simp only at made
  split at made
  · split at made <;> cases made
    rfl
  · split at made <;> cases made
    rfl

lemma isPlain_wordToken (word : List Char) : (wordToken word).isPlain := by
  unfold wordToken Token.ofKeyword?
  split <;> rfl

lemma unspaced_of_isNumberChar {c : Char} (char : isNumberChar c) : isBlank c = false := by
  refine Bool.eq_false_iff.mpr fun blank => ?_
  simp only [isNumberChar, isWordChar_of_isBlank blank, Bool.false_or, Bool.or_eq_true,
    beq_iff_eq] at char
  rcases char with (rfl | rfl) | rfl <;> cases blank

/-- The characters of a token are closed in themselves, and it does not end in white space. -/
lemma Scans.writes {cs rest : List Char} {t : Token} (scans : Scans cs t rest) :
    ∃ text, cs = text ++ rest ∧ Writes t text := by
  cases scans with
  | number _ made =>
    refine ⟨_, (scanNumber_taken cs).symm, .of_plain (isPlain_of_numberToken made) ?_ fun c last => ?_⟩
    · exact .of_all (by decide) (scanNumber_chars cs)
    · exact unspaced_of_isNumberChar (scanNumber_chars cs c (List.mem_of_getLast? last))
  | @word c cs =>
    have chars : ∀ d ∈ (c :: cs).takeWhile isWordChar, isWordChar d := List.all_eq_true.mp List.all_takeWhile
    refine ⟨_, List.takeWhile_append_dropWhile.symm, .of_plain (isPlain_wordToken _) ?_ fun d last => ?_⟩
    · exact .of_all (by decide) chars
    · refine Bool.eq_false_iff.mpr fun blank => ?_
      have word := chars d (List.mem_of_getLast? last)
      rw [isWordChar_of_isBlank blank] at word
      cases word
  | @string quote _ _ _ _ _ quotes ends =>
    obtain ⟨body, rfl, inner⟩ := scanString_body ends
    refine ⟨quote :: body ++ [quote], by simp, .of_plain rfl (.quoted ?_ inner .nil) fun c last => ?_⟩
    · rcases quotes with rfl | rfl <;> rfl
    · rw [List.getLast?_concat] at last
      cases last
      rcases quotes with rfl | rfl <;> decide
  | @sign c cs _ width _ _ _ found =>
    obtain ⟨before, sign, after, split, rfl, ⟨behind, whole⟩, _⟩ := signToken?_eq_some _ found
    have entry : (sign, t) ∈ signs := by
      rw [split]
      simp
    refine ⟨sign, by rw [← whole, List.drop_left], fun plain => ?_, fun separates => ?_, ?_, fun d last => ?_⟩
    · exact .of_inert (signs_plain _ entry plain)
    · exact .of_inert_or_separator (signs_separator _ entry separates)
    · exact signs_bracket _ entry
    · exact signs_unspaced _ entry d (List.mem_of_getLast? last)

/-! ## Characters of an expression -/

section Tokens

variable {cs mid rest : List Char} {t : Token} {ts us : List Token} {inside : Bool}

lemma Lexes.blank_front (lexes : Lexes cs [] rest) : ∃ gap, cs = gap ++ rest ∧ ∀ c ∈ gap, isBlank c := by
  generalize nothing : [] = ts at lexes
  induction lexes with
  | done => exact ⟨[], rfl, nofun⟩
  | @blank c _ _ _ blank _ ih =>
    obtain ⟨gap, rfl, blanks⟩ := ih nothing
    exact ⟨c :: gap, rfl, List.forall_mem_cons.mpr ⟨blank, blanks⟩⟩
  | token => cases nothing

lemma Lexes.uncons (lexes : Lexes cs (t :: ts) rest) :
    ∃ gap text mid, cs = gap ++ text ∧ (∀ c ∈ gap, isBlank c) ∧ Scans text t mid ∧ Lexes mid ts rest := by
  generalize whole : t :: ts = us at lexes
  induction lexes with
  | done => cases whole
  | @blank c _ _ _ blank _ ih =>
    obtain ⟨gap, text, mid, rfl, blanks, scans, behind⟩ := ih whole
    exact ⟨c :: gap, text, mid, rfl, List.forall_mem_cons.mpr ⟨blank, blanks⟩, scans, behind⟩
  | @token cs _ mid _ _ scans behind =>
    cases whole
    exact ⟨[], cs, mid, rfl, nofun, scans, behind⟩

lemma Lexes.split (lexes : Lexes cs (ts ++ us) rest) : ∃ mid, Lexes cs ts mid ∧ Lexes mid us rest := by
  induction ts generalizing cs with
  | nil => exact ⟨cs, .done cs, lexes⟩
  | cons t ts ih =>
    obtain ⟨gap, text, next, rfl, blanks, scans, behind⟩ := lexes.uncons
    obtain ⟨mid, first, second⟩ := ih behind
    exact ⟨mid, (Lexes.blanks blanks text).append (.token scans first), second⟩

/-- A token and the white space in front of it. -/
lemma Lexes.writes (lexes : Lexes cs (t :: ts) rest) :
    ∃ gap text mid, cs = gap ++ text ++ mid ∧ (∀ c ∈ gap, isBlank c) ∧ Writes t text ∧ Lexes mid ts rest := by
  obtain ⟨gap, _, mid, rfl, blanks, scans, behind⟩ := lexes.uncons
  obtain ⟨text, rfl, writes⟩ := scans.writes
  exact ⟨gap, text, mid, (List.append_assoc _ _ _).symm, blanks, writes, behind⟩

/-- Characters are closed as their tokens are. -/
theorem Closed.undivided (closed : Closed inside ts) (lexes : Lexes cs ts rest) :
    ∃ text, cs = text ++ rest ∧ Undivided inside text := by
  have ofBlanks {inside : Bool} {gap : List Char} (blanks : ∀ c ∈ gap, isBlank c) : Undivided inside gap :=
    .of_all (by decide) blanks
  induction closed generalizing cs rest with
  | nil =>
    obtain ⟨gap, rfl, blanks⟩ := lexes.blank_front
    exact ⟨gap, rfl, ofBlanks blanks⟩
  | plain plain _ ih =>
    obtain ⟨gap, text, mid, rfl, blanks, writes, behind⟩ := lexes.writes
    obtain ⟨more, rfl, undivided⟩ := ih behind
    refine ⟨gap ++ text ++ more, (List.append_assoc _ _ _).symm, ?_⟩
    exact ((ofBlanks blanks).append (writes.plain plain).anywhere).append undivided
  | separator separates _ _ ih =>
    obtain ⟨gap, text, mid, rfl, blanks, writes, behind⟩ := lexes.writes
    obtain ⟨more, rfl, undivided⟩ := ih behind
    refine ⟨gap ++ text ++ more, (List.append_assoc _ _ _).symm, ?_⟩
    exact ((ofBlanks blanks).append (writes.separator separates)).append undivided
  | @group inside left right ts us encloses _ _ within behind =>
    obtain ⟨gap, text, mid, rfl, blanks, opens, lexed⟩ := lexes.writes
    obtain ⟨end_, lexedWithin, lexedEnd⟩ := Lexes.split (show Lexes mid (ts ++ right :: us) rest from lexed)
    obtain ⟨inner, rfl, undivided⟩ := within lexedWithin
    obtain ⟨gap', text', mid', rfl, blanks', closes, lexedBehind⟩ := lexedEnd.writes
    obtain ⟨more, rfl, after⟩ := behind lexedBehind
    have grouped (l r : Char) (pair : Pair l r) (first : text = [l]) (last : text' = [r]) :
        ∃ whole, gap ++ text ++ (inner ++ (gap' ++ text' ++ (more ++ rest))) = whole ++ rest ∧
          Undivided inside whole := by
      subst first last
      refine ⟨gap ++ (l :: (inner ++ gap') ++ r :: more), by simp, ?_⟩
      exact (ofBlanks blanks).append (.group pair (undivided.append (ofBlanks blanks')) after)
    cases encloses with
    | parens => exact grouped _ _ .parens (opens.bracket _ rfl) (closes.bracket _ rfl)
    | brackets => exact grouped _ _ .brackets (opens.bracket _ rfl) (closes.bracket _ rfl)
    | braces => exact grouped _ _ .braces (opens.bracket _ rfl) (closes.bracket _ rfl)

/-- In an expression all brackets and quotes are closed, and commas and colons stand inside of brackets. -/
theorem Expr.undivided_of_read {e : Expr} (read : Expr.read cs = .ok e) : Undivided false cs := by
  obtain ⟨found, scanned, spells⟩ := Expr.spells_of_read read
  have lexes := tokens_iff_lexes.mp ⟨found, scanned, rfl⟩
  obtain ⟨text, rfl, undivided⟩ := spells.closed.undivided lexes
  rwa [List.append_nil]

theorem Expr.balanced_of_read {e : Expr} (read : Expr.read cs = .ok e) : Balanced false cs :=
  (Expr.undivided_of_read read).balanced

/-! ## White space around an expression -/

/-- White space at the end of a text is no part of its tokens. -/
lemma Lexes.of_blank_end {gap : List Char} (lexes : Lexes (cs ++ gap) ts []) (blanks : ∀ c ∈ gap, isBlank c) :
    Lexes cs ts [] := by
  have stops : Stops gap := Spaced.stops fun c head => blanks c (List.mem_of_head? head)
  generalize whole : cs ++ gap = ds at lexes
  generalize nothing : [] = end_ at lexes
  induction lexes generalizing cs with
  | done =>
    subst nothing
    rw [(List.append_eq_nil_iff.mp whole).1]
    exact .done []
  | @blank c ds ts _ blank later ih =>
    subst nothing
    cases cs with
    | nil =>
      -- There is white space only, and so no token.
      have only : Lexes gap ts [] := by
        rw [← List.nil_append gap, whole]
        exact .blank blank later
      have none := Lexes.blanks blanks []
      rw [List.append_nil] at none
      rw [only.unique none]
      exact .done []
    | cons d cs =>
      obtain ⟨rfl, same⟩ := List.cons.inj whole
      exact .blank blank (ih same rfl)
  | @token ds t mid ts _ scans later ih =>
    subst whole nothing
    obtain ⟨text, split, writes⟩ := scans.writes
    -- A token that reaches into the white space would end there.
    obtain ⟨more, rfl, rfl⟩ : ∃ more, cs = text ++ more ∧ mid = more ++ gap := by
      rcases List.append_eq_append_iff.mp split with ⟨more, rfl, reached⟩ | beyond
      · cases last : more.getLast? with
        | none =>
          rw [List.getLast?_eq_none_iff.mp last] at reached ⊢
          exact ⟨[], by simp, reached.symm⟩
        | some c =>
          have visible := writes.last c (by rw [List.getLast?_append, last]; rfl)
          have inGap : c ∈ gap := by
            rw [reached]
            exact List.mem_append_left _ (List.mem_of_getLast? last)
          rw [blanks c inGap] at visible
          cases visible
      · exact beyond
    exact .token (scans.cut stops) (ih rfl rfl)

lemma Lexes.trim (lexes : Lexes cs ts []) : Lexes (trim cs) ts [] := by
  obtain ⟨gap, blanks, split⟩ := trimEnd_append (cs.dropWhile isBlank)
  have started := lexes.skip
  rw [split] at started
  exact started.of_blank_end blanks

/-- An expression is the same without white space around it. -/
theorem Expr.read_trim {e : Expr} (read : Expr.read cs = .ok e) : Expr.read (trim cs) = .ok e := by
  obtain ⟨found, scanned, _⟩ := Expr.spells_of_read read
  obtain ⟨found', scanned', same⟩ := tokens_iff_lexes.mpr (tokens_iff_lexes.mp ⟨found, scanned, rfl⟩).trim
  exact Expr.read_blind scanned scanned' same.symm read

end Tokens

end BranchingStory.Script
