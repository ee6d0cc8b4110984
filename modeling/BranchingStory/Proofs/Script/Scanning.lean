import Mathlib.Tactic.Lemma
import BranchingStory.Proofs.Answer
import BranchingStory.Script.Lexer

/-!
# Tokens at a cut

What becomes of a token when the text behind it changes. If the text behind a cut stops every token
(white space, the sign of an assignment, or nothing), a token in front of the cut is the same without
that text; and white space behind a text leaves its tokens as they were.
-/

namespace BranchingStory.Script

open Text Number

/-- Stretches of code points without a letter or a number. -/
def gaps : List (Nat × Nat) :=
  [(0x80, 0xA0), (0x1680, 0x1680), (0x2000, 0x205F), (0x3000, 0x3000)]

/-- Whether a stretch of code points has nothing in common with some ranges. -/
def isApart (ranges : List (Nat × Nat)) (gap : Nat × Nat) : Bool :=
  ranges.all fun (lo, hi) => hi.blt gap.1 || gap.2.blt lo

lemma inRanges_of_isApart {ranges : List (Nat × Nat)} {gap : Nat × Nat} (apart : isApart ranges gap)
    {code : Nat} (low : gap.1 ≤ code) (high : code ≤ gap.2) : inRanges ranges code = false := by
  refine List.any_eq_false.mpr fun ⟨lo, hi⟩ member => ?_
  have beside := List.all_eq_true.mp apart (lo, hi) member
  simp only [Bool.or_eq_true, Nat.blt_eq] at beside
  simp only [Bool.and_eq_true, decide_eq_true_eq]
  omega

/-- White space beyond ASCII lies in the gaps. -/
lemma gap_of_isBlank {c : Char} (h : isBlank c) :
    c.toNat ∈ [0x20, 0x9, 0xA, 0xB, 0xC, 0xD] ∨ ∃ gap ∈ gaps, gap.1 ≤ c.toNat ∧ c.toNat ≤ gap.2 := by
  simp only [isBlank, Bool.or_eq_true, Bool.and_eq_true, beq_iff_eq, decide_eq_true_eq] at h
  rcases h with (((((((((rfl | h) | rfl) | rfl) | rfl) | h) | rfl) | rfl) | rfl) | rfl) | rfl
  · decide
  · have low : 9 ≤ c.toNat := h.1
    have high : c.toNat ≤ 13 := h.2
    left
    simp only [List.mem_cons]
    omega
  · decide
  · decide
  · decide
  · have low : 0x2000 ≤ c.toNat := h.1
    have high : c.toNat ≤ 0x200A := h.2
    exact .inr ⟨(0x2000, 0x205F), by decide, low, by omega⟩
  all_goals decide

/-- Beyond ASCII, the tables alone say what may stand in a word. -/
lemma isWordChar_beyond {c : Char} (beyond : 128 ≤ c.toNat)
    (noLetter : inRanges alphabeticRanges c.toNat = false)
    (noNumber : inRanges numericRanges c.toNat = false) : isWordChar c = false := by
  have noAlpha : c.isAlpha = false := by
    refine Bool.eq_false_iff.mpr fun letter => ?_
    have bound : c.toNat ≤ 122 := by
      rcases Bool.or_eq_true_iff.mp letter with upper | lower
      · exact Nat.le_trans (of_decide_eq_true upper).2 (by decide : 90 ≤ 122)
      · exact of_decide_eq_true (Bool.and_eq_true_iff.mp lower).2
    omega
  have noDigit : c.isDigit = false := by
    refine Bool.eq_false_iff.mpr fun digit => ?_
    have bound : c.toNat ≤ 57 := of_decide_eq_true (Bool.and_eq_true_iff.mp digit).2
    omega
  have noUnderscore : (c == '_') = false := by
    refine beq_eq_false_iff_ne.mpr fun same => ?_
    rw [same] at beyond
    exact absurd beyond (by decide)
  simp only [isWordChar, isAlphanumeric, isLetter, isNumber, noAlpha, noDigit, noUnderscore, noLetter,
    noNumber, Bool.and_false, Bool.or_false]

lemma isWordChar_of_isBlank {c : Char} (h : isBlank c) : isWordChar c = false := by
  rcases gap_of_isBlank h with ascii | ⟨gap, member, low, high⟩
  · have none : ∀ n ∈ [0x20, 0x9, 0xA, 0xB, 0xC, 0xD], isWordChar (Char.ofNat n) = false := by decide
    have checked := none c.toNat ascii
    rwa [Char.ofNat_toNat] at checked
  · have apart : gaps.all (fun gap => 128 ≤ gap.1 &&
        isApart alphabeticRanges gap && isApart numericRanges gap) := by
      decide +kernel
    have beside := List.all_eq_true.mp apart gap member
    simp only [Bool.and_eq_true, decide_eq_true_eq] at beside
    exact isWordChar_beyond (Nat.le_trans beside.1.1 low) (inRanges_of_isApart beside.1.2 low high)
      (inRanges_of_isApart beside.2 low high)

lemma isWordChar_of_isDigit {c : Char} (h : c.isDigit) : isWordChar c := by
  simp [isWordChar, isAlphanumeric, isNumber, h]

lemma isWordChar_of_isWordStart {c : Char} (h : isWordStart c) : isWordChar c := by
  simp only [isWordStart, Bool.or_eq_true] at h
  rcases h with letter | underscore
  · simp [isWordChar, isAlphanumeric, letter]
  · simp only [isWordChar, underscore, Bool.or_true]

lemma signs_unspaced : ∀ entry ∈ signs, ∀ c ∈ entry.1, isBlank c = false := by
  have checked : (signs.all fun entry => entry.1.all (!isBlank ·)) = true := by decide
  simpa only [List.all_eq_true, Bool.not_eq_true'] using checked

/-- Whether a text ends the word or number in front of it: it goes on with no character of a word, with
no point, and with no signed digit. -/
structure Stops (v : List Char) : Prop where
  word : ∀ c, v.head? = some c → isWordChar c = false
  point : ∀ c, v.head? = some c → c ≠ '.'
  signed : (splitSign v).2.takeWhile Char.isDigit = []

/-- Whether a text is empty or begins with white space. -/
def Spaced (v : List Char) : Prop :=
  ∀ c, v.head? = some c → isBlank c

lemma Spaced.stops {v : List Char} (h : Spaced v) : Stops v := by
  constructor
  case word => exact fun c head => isWordChar_of_isBlank (h c head)
  case point =>
    intro c head same
    subst same
    exact absurd (h _ head) (by decide)
  case signed =>
    cases v with
    | nil => rfl
    | cons c v =>
      have blank := h c rfl
      have noDigit : c.isDigit = false := by
        refine Bool.eq_false_iff.mpr fun digit => ?_
        have word := isWordChar_of_isDigit digit
        rw [isWordChar_of_isBlank blank] at word
        cases word
      unfold splitSign
      split
      · next same =>
        cases same
        exact absurd blank (by decide)
      · next same =>
        cases same
        exact absurd blank (by decide)
      · simp only [List.takeWhile_cons, noDigit, Bool.false_eq_true, if_false]

lemma stops_symbol (op : AssignOp) (v : List Char) : Stops (op.symbol.toList ++ v) := by
  cases op <;>
    exact ⟨fun c head => by cases head; decide, fun c head => by cases head; decide, rfl⟩

/-- The first character of a text that stops a number is no digit and no underscore. -/
lemma Stops.leading {v : List Char} (h : Stops v) (c : Char) (head : v.head? = some c) :
    isLeading c = false := by
  have noWord := h.word c head
  refine Bool.eq_false_iff.mpr fun leading => ?_
  rw [isLeading, Bool.or_eq_true] at leading
  rcases leading with digit | underscore
  · rw [isWordChar_of_isDigit digit] at noWord
    cases noWord
  · simp only [isWordChar, underscore, Bool.or_true] at noWord
    cases noWord

lemma Stops.digit {v : List Char} (h : Stops v) (c : Char) (head : v.head? = some c) :
    c.isDigit = false := by
  have noLeading := h.leading c head
  simp only [isLeading, Bool.or_eq_false_iff] at noLeading
  exact noLeading.1

section Runs

variable {p : Char → Bool} {v : List Char}

lemma takeWhile_append_stop (stop : ∀ c, v.head? = some c → p c = false) (u : List Char) :
    (u ++ v).takeWhile p = u.takeWhile p := by
  induction u with
  | nil =>
    cases v with
    | nil => rfl
    | cons c v => simp only [List.nil_append, List.takeWhile_cons, stop c rfl, List.takeWhile_nil,
        Bool.false_eq_true, if_false]
  | cons c u ih => simp only [List.cons_append, List.takeWhile_cons, ih]

lemma dropWhile_append_stop (stop : ∀ c, v.head? = some c → p c = false) (u : List Char) :
    (u ++ v).dropWhile p = u.dropWhile p ++ v := by
  induction u with
  | nil =>
    cases v with
    | nil => rfl
    | cons c v => simp only [List.nil_append, List.dropWhile_cons, stop c rfl, List.dropWhile_nil,
        Bool.false_eq_true, if_false]
  | cons c u ih =>
    simp only [List.cons_append, List.dropWhile_cons, ih]
    split <;> rfl

end Runs

def NumberPart.append (part : NumberPart) (v : List Char) : NumberPart :=
  (part.1, part.2.1, part.2.2 ++ v)

section Numbers

variable {v : List Char}

lemma scanFraction_of_point {rest : List Char} (last : ∀ c, rest.head? = some c → c ≠ '.') :
    scanFraction ('.' :: rest) =
      (true, '.' :: rest.takeWhile Char.isDigit, rest.dropWhile Char.isDigit) := by
  unfold scanFraction
  split
  · next same =>
    cases same
    exact absurd rfl (last '.' rfl)
  · next same =>
    cases same
    rfl
  · next other => exact absurd rfl (other rest)

lemma scanFraction_of_other {cs : List Char} (other : ∀ c, cs.head? = some c → c ≠ '.') :
    scanFraction cs = (false, [], cs) := by
  unfold scanFraction
  split
  · exact absurd rfl (other '.' rfl)
  · exact absurd rfl (other '.' rfl)
  · rfl

lemma scanFraction_append (stops : Stops v) (u : List Char) :
    scanFraction (u ++ v) = (scanFraction u).append v := by
  cases u with
  | nil => rw [List.nil_append, scanFraction_of_other stops.point, scanFraction_of_other (by simp)]; rfl
  | cons c u =>
    by_cases point : c = '.'
    · subst point
      -- A point with another one behind it is no part of a number: the case is split there.
      have pointed (last : ∀ c, u.head? = some c → c ≠ '.') :
          scanFraction ('.' :: u ++ v) = (scanFraction ('.' :: u)).append v := by
        have last' : ∀ c, (u ++ v).head? = some c → c ≠ '.' := by
          cases u with
          | nil => exact stops.point
          | cons d u => exact last
        rw [List.cons_append, scanFraction_of_point last, scanFraction_of_point last',
          takeWhile_append_stop stops.digit, dropWhile_append_stop stops.digit]
        rfl
      cases u with
      | nil => exact pointed (by simp)
      | cons d u =>
        by_cases again : d = '.'
        · subst again
          rfl
        · refine pointed fun c head => ?_
          cases head
          exact again
    · have other (w : List Char) : ∀ d, (c :: w).head? = some d → d ≠ '.' := by
        intro d head
        cases head
        exact point
      rw [List.cons_append, scanFraction_of_other (other _), scanFraction_of_other (other _)]
      rfl

lemma splitSign_append (u : List Char) (full : u ≠ []) :
    splitSign (u ++ v) = ((splitSign u).1, (splitSign u).2 ++ v) := by
  cases u with
  | nil => exact absurd rfl full
  | cons c u =>
    unfold splitSign
    rw [List.cons_append]
    split
    · next same =>
      cases same
      rfl
    · next same =>
      cases same
      rfl
    · next plus minus =>
      split
      · next same =>
        cases same
        exact absurd rfl (plus _)
      · next same =>
        cases same
        exact absurd rfl (minus _)
      · rfl

lemma scanExponent_append (stops : Stops v) (u : List Char) :
    scanExponent (u ++ v) = (scanExponent u).append v := by
  cases u with
  | nil =>
    cases v with
    | nil => rfl
    | cons c v =>
      have noLetter : ¬(c = 'e' ∨ c = 'E') := by
        rintro (rfl | rfl)
        · exact absurd (stops.word 'e' rfl) (by decide)
        · exact absurd (stops.word 'E' rfl) (by decide)
      rw [List.nil_append]
      simp only [scanExponent, noLetter, if_false, NumberPart.append, List.nil_append]
  | cons c u =>
    by_cases letter : c = 'e' ∨ c = 'E'
    · cases u with
      | nil =>
        simp only [List.cons_append, List.nil_append, scanExponent, letter, if_true, stops.signed,
          List.isEmpty_nil]
        rfl
      | cons d u =>
        simp only [List.cons_append, scanExponent, letter, if_true]
        have signs := splitSign_append (v := v) (d :: u) nofun
        rw [List.cons_append] at signs
        simp only [signs, takeWhile_append_stop stops.digit, dropWhile_append_stop stops.digit]
        split <;> rfl
    · simp only [List.cons_append, scanExponent, letter, if_false, NumberPart.append]

lemma scanNumber_append (stops : Stops v) (u : List Char) :
    scanNumber (u ++ v) = (scanNumber u).append v := by
  unfold scanNumber
  rw [dropWhile_append_stop stops.leading, takeWhile_append_stop stops.leading,
    scanFraction_append stops]
  simp only [NumberPart.append]
  rw [scanExponent_append stops]
  rfl

end Numbers

section Strings

variable {quote : Char}

lemma scanString_plain {c : Char} (plain : c ≠ '\\') (text cs : List Char) :
    scanString quote text (c :: cs) =
      if c = quote then some (text.reverse, cs) else scanString quote (c :: text) cs := by
  rw [scanString]
  exact fun _ _ same _ => plain same

lemma scanString_suffix {text cs : List Char} {found : List Char × List Char}
    (h : scanString quote text cs = some found) : ∃ taken, cs = taken ++ found.2 := by
  fun_induction scanString quote text cs with
  | case1 => cases h
  | case2 text c cs ih =>
    obtain ⟨taken, same⟩ := ih h
    exact ⟨'\\' :: c :: taken, congrArg (fun end_ => '\\' :: c :: end_) same⟩
  | case3 =>
    cases h
    exact ⟨[_], rfl⟩
  | case4 text c cs _ _ ih =>
    obtain ⟨taken, same⟩ := ih h
    exact ⟨c :: taken, congrArg (c :: ·) same⟩

lemma scanString_length {text cs : List Char} {found : List Char × List Char}
    (h : scanString quote text cs = some found) : found.2.length < cs.length := by
  fun_induction scanString quote text cs with
  | case1 => cases h
  | case2 _ _ _ ih =>
    have shorter := ih h
    simp only [List.length_cons]
    omega
  | case3 =>
    cases h
    exact Nat.lt_succ_self _
  | case4 _ _ _ _ _ ih =>
    have shorter := ih h
    simp only [List.length_cons]
    omega

/-- A string literal that ends is the same whatever comes behind it. -/
lemma scanString_append (noQuote : quote ≠ '\\') {text u : List Char} {found : List Char × List Char}
    (h : scanString quote text u = some found) (v : List Char) :
    scanString quote text (u ++ v) = some (found.1, found.2 ++ v) := by
  fun_induction scanString quote text u with
  | case1 => cases h
  | case2 _ _ _ ih => exact ih h
  | case3 =>
    cases h
    rw [List.cons_append, scanString_plain noQuote]
    simp only [if_true]
  | case4 text c u unpaired goesOn ih =>
    by_cases escape : c = '\\'
    · -- A backslash that escapes nothing is the last character, and nothing ends behind it.
      cases u with
      | nil => cases h
      | cons d u => exact (unpaired d u escape rfl).elim
    · rw [List.cons_append, scanString_plain escape]
      simp only [goesOn, if_false]
      exact ih h

/-- A string literal that does not end in a text takes a part of what comes behind the text. -/
lemma scanString_beyond {text u v : List Char} {found : List Char × List Char}
    (openEnd : scanString quote text u = none) (h : scanString quote text (u ++ v) = some found) :
    found.2.length < v.length := by
  fun_induction scanString quote text u with
  | case1 => exact scanString_length h
  | case2 _ _ _ ih => exact ih openEnd h
  | case3 => cases openEnd
  | case4 text c u unpaired goesOn ih =>
    by_cases escape : c = '\\'
    · cases u with
      | nil =>
        -- The backslash at the end escapes the first character behind the text.
        subst escape
        cases v with
        | nil =>
          rw [List.append_nil] at h
          simp only [scanString, goesOn, if_false] at h
          cases h
        | cons d v =>
          have shorter : found.2.length < v.length := scanString_length h
          simp only [List.length_cons]
          omega
      | cons d u => exact (unpaired d u escape rfl).elim
    · rw [List.cons_append, scanString_plain escape] at h
      simp only [goesOn, if_false] at h
      exact ih openEnd h

/-- A string literal in front of a cut is the same without what is behind it. -/
lemma scanString_cut (noQuote : quote ≠ '\\') {text u v content rest : List Char}
    (h : scanString quote text (u ++ v) = some (content, rest ++ v)) :
    scanString quote text u = some (content, rest) := by
  cases ends : scanString quote text u with
  | none =>
    have beyond := scanString_beyond ends h
    simp only [List.length_append] at beyond
    omega
  | some found =>
    rw [scanString_append noQuote ends v] at h
    simp only [Option.some.injEq, Prod.mk.injEq, List.append_cancel_right_eq] at h
    obtain ⟨content', rest'⟩ := found
    obtain ⟨rfl, rfl⟩ := h
    rfl

end Strings

section Signs

variable {u v : List Char} {token : Token} {width : Nat}

lemma signs_length : ∀ entry ∈ signs, 0 < entry.1.length := by
  decide

lemma signToken?_eq_some (cs : List Char) (h : signToken? cs = some (token, width)) :
    ∃ before sign after, signs = before ++ (sign, token) :: after ∧ sign.length = width ∧
      sign <+: cs ∧ ∀ entry ∈ before, ¬entry.1 <+: cs := by
  unfold signToken? at h
  rw [Option.map_eq_some_iff] at h
  obtain ⟨⟨sign, token'⟩, found, same⟩ := h
  cases same
  rw [List.find?_eq_some_iff_append] at found
  obtain ⟨here, before, after, split, earlier⟩ := found
  refine ⟨before, sign, after, split, rfl, List.isPrefixOf_iff_prefix.mp here, ?_⟩
  intro entry member isPrefix
  have none := earlier entry member
  rw [List.isPrefixOf_iff_prefix.mpr isPrefix] at none
  cases none

/-- The first sign of the table that a text begins with is its sign. -/
lemma signToken?_of_first {cs sign : List Char} {before after : List (List Char × Token)}
    (split : signs = before ++ (sign, token) :: after) (here : sign <+: cs)
    (first : ∀ entry ∈ before, ¬entry.1 <+: cs) : signToken? cs = some (token, sign.length) := by
  have found : signs.find? (·.1.isPrefixOf cs) = some (sign, token) := by
    rw [List.find?_eq_some_iff_append]
    refine ⟨List.isPrefixOf_iff_prefix.mpr here, before, after, split, ?_⟩
    intro entry member
    have none := first entry member
    rw [← List.isPrefixOf_iff_prefix, Bool.not_eq_true] at none
    rw [none]
    rfl
  unfold signToken?
  rw [found]
  rfl

/-- A sign in front of a cut is the same without what is behind it. -/
lemma signToken?_cut (h : signToken? (u ++ v) = some (token, width)) (fits : width ≤ u.length) :
    signToken? u = some (token, width) := by
  obtain ⟨before, sign, after, split, rfl, here, first⟩ := signToken?_eq_some _ h
  refine signToken?_of_first split
    (List.prefix_of_prefix_length_le here (List.prefix_append u v) fits) ?_
  exact fun entry member isPrefix => first entry member (isPrefix.trans (List.prefix_append u v))

/-- A sign is the same with white space behind it, as no sign goes on with white space. -/
lemma signToken?_append (h : signToken? u = some (token, width)) (spaced : Spaced v) :
    signToken? (u ++ v) = some (token, width) := by
  obtain ⟨before, sign, after, split, rfl, here, first⟩ := signToken?_eq_some _ h
  refine signToken?_of_first split (here.trans (List.prefix_append u v)) ?_
  intro entry member isPrefix
  rcases Nat.le_total entry.1.length u.length with short | long
  · exact first entry member (List.prefix_of_prefix_length_le isPrefix (List.prefix_append u v) short)
  · -- A longer sign would begin with the whole text and go on with white space.
    obtain ⟨x, whole⟩ := List.prefix_of_prefix_length_le (List.prefix_append u v) isPrefix long
    have inSigns : entry ∈ signs := by
      rw [split]
      exact List.mem_append_left _ member
    cases x with
    | nil =>
      rw [List.append_nil] at whole
      exact first entry member (whole ▸ List.prefix_refl u)
    | cons c x =>
      rw [← whole, List.prefix_append_right_inj] at isPrefix
      have head : v.head? = some c := by
        obtain ⟨y, rfl⟩ := isPrefix
        rfl
      have unspaced := signs_unspaced entry inSigns c (by rw [← whole]; simp)
      rw [spaced c head] at unspaced
      cases unspaced

lemma signToken?_width {cs : List Char} (h : signToken? cs = some (token, width)) :
    0 < width ∧ width ≤ cs.length := by
  obtain ⟨before, sign, after, split, rfl, here, _⟩ := signToken?_eq_some _ h
  refine ⟨signs_length (sign, token) ?_, here.length_le⟩
  rw [split]
  simp

/-- The sign of an assignment is that of its operator. -/
lemma signToken?_assign {cs : List Char} {op : AssignOp}
    (h : signToken? cs = some (.assign op, width)) :
    width = op.symbol.toList.length ∧ cs = op.symbol.toList ++ cs.drop width := by
  obtain ⟨before, sign, after, split, rfl, ⟨rest, rfl⟩, _⟩ := signToken?_eq_some _ h
  have member : (sign, Token.assign op) ∈ signs := by
    rw [split]
    simp
  have same : sign = op.symbol.toList := by
    simp only [signs, List.mem_cons, Prod.mk.injEq, reduceCtorEq, and_false, false_or, or_false,
      Token.assign.injEq, List.not_mem_nil] at member
    rcases member with ⟨rfl, rfl⟩ | ⟨rfl, rfl⟩ | ⟨rfl, rfl⟩ | ⟨rfl, rfl⟩ | ⟨rfl, rfl⟩ | ⟨rfl, rfl⟩ |
      ⟨rfl, rfl⟩ | ⟨rfl, rfl⟩ <;> rfl
  subst same
  exact ⟨rfl, by rw [List.drop_left]⟩

end Signs

section Tokens

variable {u v rest : List Char} {token : Token}

def wordToken (word : List Char) : Token :=
  (Token.ofKeyword? (String.ofList word)).getD (.name (String.ofList word))

/-- The first token of a text and what follows it, by the kind of the token. -/
inductive Scans : List Char → Token → List Char → Prop where
  | number {cs token} :
    startsNumber cs →
    numberToken (scanNumber cs).1 (scanNumber cs).2.1 = .ok token →
    Scans cs token (scanNumber cs).2.2
  | word {c cs} :
    startsNumber (c :: cs) = false →
    isWordStart c →
    Scans (c :: cs) (wordToken ((c :: cs).takeWhile isWordChar)) ((c :: cs).dropWhile isWordChar)
  | string {c cs text rest} :
    startsNumber (c :: cs) = false →
    isWordStart c = false →
    c = '"' ∨ c = '\x27' →
    scanString c [] cs = some (text, rest) →
    Scans (c :: cs) (.str (String.ofList text)) rest
  | sign {c cs token width} :
    startsNumber (c :: cs) = false →
    isWordStart c = false →
    ¬(c = '"' ∨ c = '\x27') →
    signToken? (c :: cs) = some (token, width) →
    Scans (c :: cs) token ((c :: cs).drop width)

lemma scans_of_scanToken {cs : List Char} (h : scanToken cs = .ok (token, rest)) :
    Scans cs token rest := by
  unfold scanToken at h
  split at h
  · cases h
  · next c after =>
    split at h
    · next starts =>
      simp only [map_eq_ok, Prod.mk.injEq] at h
      obtain ⟨_, read, rfl, rfl⟩ := h
      exact .number starts read
    · next noNumber =>
      rw [Bool.not_eq_true] at noNumber
      split at h
      · next word =>
        cases h
        exact .word noNumber word
      · next noWord =>
        rw [Bool.not_eq_true] at noWord
        split at h
        · next quoted =>
          split at h
          · next ends =>
            cases h
            exact .string noNumber noWord quoted ends
          · cases h
        · next noQuote =>
          split at h
          · next found =>
            cases h
            exact .sign noNumber noWord noQuote found
          · cases h

lemma scanToken_of_scans {cs : List Char} (h : Scans cs token rest) :
    scanToken cs = .ok (token, rest) := by
  unfold scanToken
  cases h with
  | @number cs token starts read =>
    cases cs with
    | nil => cases starts
    | cons c cs =>
      simp only [starts, if_true, read]
      rfl
  | word noNumber word => simp only [noNumber, word, if_true, Bool.false_eq_true, if_false, wordToken]
  | string noNumber noWord quoted ends =>
    simp only [noNumber, noWord, quoted, ends, if_true, Bool.false_eq_true, if_false]
  | sign noNumber noWord noQuote found =>
    simp only [noNumber, noWord, noQuote, found, Bool.false_eq_true, if_false]

lemma startsNumber_append (stops : Stops v) (c : Char) (u : List Char) :
    startsNumber (c :: (u ++ v)) = startsNumber (c :: u) := by
  by_cases point : c = '.'
  · subst point
    cases u with
    | nil =>
      cases v with
      | nil => rfl
      | cons d v =>
        change d.isDigit = false
        exact stops.digit d rfl
    | cons d u => rfl
  · have only (w : List Char) : startsNumber (c :: w) = c.isDigit := by
      cases w <;> simp [startsNumber, point]
    rw [only, only]

/-- A part of a number leaves an end of the text. -/
lemma scanFraction_taken (cs : List Char) : (scanFraction cs).2.1 ++ (scanFraction cs).2.2 = cs := by
  unfold scanFraction
  split
  · rfl
  · simp only [List.cons_append, List.takeWhile_append_dropWhile]
  · rfl

lemma splitSign_taken (cs : List Char) : (splitSign cs).1 ++ (splitSign cs).2 = cs := by
  unfold splitSign
  split <;> rfl

lemma scanExponent_taken (cs : List Char) : (scanExponent cs).2.1 ++ (scanExponent cs).2.2 = cs := by
  unfold scanExponent
  split
  · rfl
  · next e after =>
    simp only
    split
    · split
      · rfl
      · simp only [List.cons_append, List.append_assoc, List.takeWhile_append_dropWhile,
          splitSign_taken]
    · rfl

lemma scanNumber_taken (cs : List Char) : (scanNumber cs).2.1 ++ (scanNumber cs).2.2 = cs := by
  unfold scanNumber
  simp only [List.append_assoc, scanExponent_taken, scanFraction_taken, List.takeWhile_append_dropWhile]

/-- A number takes a character at least. -/
lemma scanNumber_full {cs : List Char} (starts : startsNumber cs) : (scanNumber cs).2.1 ≠ [] := by
  cases cs with
  | nil => cases starts
  | cons c cs =>
    by_cases digit : c.isDigit
    · have leading : isLeading c := by simp only [isLeading, digit, Bool.true_or]
      simp only [scanNumber, List.takeWhile_cons, leading, if_true, List.cons_append]
      exact nofun
    · have point : c = '.' := by
        unfold startsNumber at starts
        split at starts
        · next same =>
          cases same
          rfl
        · next same =>
          cases same
          exact absurd starts digit
        · cases starts
      subst point
      have noLeading : isLeading '.' = false := by decide
      cases cs with
      | nil => cases starts
      | cons d cs =>
        have ahead : ∀ c, (d :: cs).head? = some c → c ≠ '.' := by
          rintro _ head rfl
          cases head
          cases starts
        simp only [scanNumber, List.takeWhile_cons, List.dropWhile_cons, noLeading, Bool.false_eq_true,
          if_false, scanFraction_of_point ahead, List.nil_append, List.cons_append]
        exact nofun

lemma Scans.suffix {cs : List Char} (h : Scans cs token rest) :
    ∃ taken, taken ≠ [] ∧ cs = taken ++ rest := by
  cases h with
  | number starts _ => exact ⟨_, scanNumber_full starts, (scanNumber_taken _).symm⟩
  | @word c cs _ word =>
    refine ⟨_, ?_, (List.takeWhile_append_dropWhile (p := isWordChar)).symm⟩
    simp only [List.takeWhile_cons, isWordChar_of_isWordStart word, if_true]
    exact nofun
  | @string c cs text _ _ _ _ ends =>
    obtain ⟨taken, same⟩ := scanString_suffix ends
    exact ⟨c :: taken, nofun, congrArg _ same⟩
  | @sign c cs _ width _ _ _ found =>
    obtain ⟨positive, fits⟩ := signToken?_width found
    refine ⟨(c :: cs).take width, ?_, (List.take_append_drop _ _).symm⟩
    intro none
    have lengths := congrArg List.length none
    rw [List.length_take, List.length_nil] at lengths
    omega

/-- White space begins no token. -/
lemma Scans.head {c : Char} {cs : List Char} (h : Scans (c :: cs) token rest) : isBlank c = false := by
  refine Bool.eq_false_iff.mpr fun blank => ?_
  have noWord := isWordChar_of_isBlank blank
  have noSign {width : Nat} (found : signToken? (c :: cs) = some (token, width)) : False := by
    obtain ⟨before, sign, after, split, rfl, here, _⟩ := signToken?_eq_some _ found
    have member : (sign, token) ∈ signs := by
      rw [split]
      simp
    have positive := signs_length _ member
    cases sign with
    | nil => cases positive
    | cons d sign =>
      rw [List.cons_prefix_cons] at here
      have unspaced := signs_unspaced _ member d List.mem_cons_self
      rw [here.1, blank] at unspaced
      cases unspaced
  cases h with
  | number starts _ =>
    unfold startsNumber at starts
    split at starts
    · next same =>
      cases same
      exact absurd blank (by decide)
    · next same =>
      cases same
      rw [isWordChar_of_isDigit starts] at noWord
      cases noWord
    · cases starts
  | word _ word =>
    rw [isWordChar_of_isWordStart word] at noWord
    cases noWord
  | string _ _ quoted _ =>
    rcases quoted with rfl | rfl
    · exact absurd blank (by decide)
    · exact absurd blank (by decide)
  | sign _ _ _ found => exact noSign found

lemma no_backslash {c : Char} (quoted : c = '"' ∨ c = '\x27') : c ≠ '\\' := by
  rintro rfl
  rcases quoted with same | same <;> cases same

/-- A token in front of a cut is the same without what is behind it. -/
theorem Scans.cut (stops : Stops v) (h : Scans (u ++ v) token (rest ++ v)) : Scans u token rest := by
  cases u with
  | nil =>
    obtain ⟨taken, full, same⟩ := h.suffix
    have lengths := congrArg List.length same
    have positive := List.length_pos_iff.mpr full
    simp only [List.nil_append, List.length_append] at lengths
    omega
  | cons c u =>
    rw [List.cons_append] at h
    generalize left : rest ++ v = end_ at h
    cases h with
    | number starts read =>
      rw [← List.cons_append, scanNumber_append stops] at read left
      rw [startsNumber_append stops] at starts
      rw [List.append_cancel_right left]
      exact .number starts read
    | word noNumber word =>
      rw [← List.cons_append, dropWhile_append_stop stops.word] at left
      rw [← List.cons_append, takeWhile_append_stop stops.word, List.append_cancel_right left]
      rw [startsNumber_append stops] at noNumber
      exact .word noNumber word
    | string noNumber noWord quoted ends =>
      subst left
      rw [startsNumber_append stops] at noNumber
      exact .string noNumber noWord quoted (scanString_cut (no_backslash quoted) ends)
    | @sign _ _ _ width noNumber noWord noQuote found =>
      rw [startsNumber_append stops] at noNumber
      have fits : width ≤ (c :: u).length := by
        have bound := (signToken?_width found).2
        have lengths := congrArg List.length left
        simp only [List.length_append, List.length_drop, List.length_cons] at lengths bound ⊢
        omega
      have same : rest = (c :: u).drop width := by
        rw [← List.cons_append, List.drop_append_of_le_length fits] at left
        exact List.append_cancel_right left
      rw [same]
      exact .sign noNumber noWord noQuote (signToken?_cut found fits)

/-- A token is the same in front of a text that ends it and makes no other sign of it. -/
lemma Scans.append_of_stops (h : Scans u token rest) (stops : Stops v)
    (signs : ∀ token width, signToken? u = some (token, width) →
      signToken? (u ++ v) = some (token, width)) :
    Scans (u ++ v) token (rest ++ v) := by
  cases h with
  | number starts read =>
    have same := scanNumber_append stops u
    have left : (scanNumber u).2.2 ++ v = (scanNumber (u ++ v)).2.2 := by rw [same]; rfl
    rw [left]
    refine .number ?_ ?_
    · cases u with
      | nil => cases starts
      | cons c u => rwa [List.cons_append, startsNumber_append stops]
    · rwa [same]
  | @word c cs noNumber word =>
    rw [← takeWhile_append_stop stops.word, ← dropWhile_append_stop stops.word, List.cons_append]
    exact .word ((startsNumber_append stops c cs).trans noNumber) word
  | @string c cs text rest noNumber noWord quoted ends =>
    exact .string ((startsNumber_append stops c cs).trans noNumber) noWord quoted
      (scanString_append (no_backslash quoted) ends v)
  | @sign c cs token width noNumber noWord noQuote found =>
    rw [← List.drop_append_of_le_length (signToken?_width found).2]
    exact .sign ((startsNumber_append stops c cs).trans noNumber) noWord noQuote
      (signs token width found)

/-- White space behind a text changes none of its tokens. -/
theorem Scans.append (h : Scans u token rest) (spaced : Spaced v) :
    Scans (u ++ v) token (rest ++ v) :=
  h.append_of_stops spaced.stops fun _ _ found => signToken?_append found spaced

/-- The token of an assignment is the sign of its operator. -/
lemma Scans.assign {cs : List Char} {op : AssignOp} (h : Scans cs (.assign op) rest) :
    cs = op.symbol.toList ++ rest := by
  generalize same : Token.assign op = token at h
  cases h with
  | number _ read =>
    subst same
    unfold numberToken at read
    simp only at read
    split at read <;> split at read <;> cases read
  | word =>
    unfold wordToken Token.ofKeyword? at same
    split at same <;> cases same
  | string => cases same
  | sign _ _ _ found =>
    subst same
    obtain ⟨width, whole⟩ := signToken?_assign found
    exact whole

/-- With white space behind it, the sign of an operator is the token of its assignment. -/
lemma Scans.symbol (op : AssignOp) (spaced : Spaced v) :
    Scans (op.symbol.toList ++ v) (.assign op) v := by
  have alone : Scans op.symbol.toList (.assign op) [] := by
    apply scans_of_scanToken
    cases op <;> rfl
  exact alone.append spaced

end Tokens

end BranchingStory.Script
