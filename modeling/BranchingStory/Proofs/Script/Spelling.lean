import Mathlib.Data.List.TakeWhile
import BranchingStory.Proofs.Script.Lexing
import BranchingStory.Script.Spelling

/-!
# Tokens of spelled texts

A token that is spelled out is scanned as that token, and a text of spelled tokens with white space
between them has these tokens.
-/

namespace BranchingStory.Script

open Text Number

section Spellings

variable {quote : Char}

/-- Whether a token has a spelling that stands for it. -/
def Token.Spellable : Token → Prop
  | .int i => 0 ≤ i.toInt
  | .float _ => False
  | .name word => IsName word
  | _ => True

lemma isWordStart_of_isDigit {c : Char} (h : c.isDigit) : isWordStart c = false := by
  have none : ∀ n ∈ List.range' 48 10, isWordStart (Char.ofNat n) = false := by decide +kernel
  simp only [Char.isDigit, Bool.and_eq_true, decide_eq_true_eq] at h
  have low : 48 ≤ c.toNat := h.1
  have high : c.toNat ≤ 57 := h.2
  have checked := none c.toNat (List.mem_range'_1.mpr ⟨low, by omega⟩)
  rwa [Char.ofNat_toNat] at checked

lemma startsNumber_of_ne {c : Char} (other : c ≠ '.') (cs : List Char) :
    startsNumber (c :: cs) = c.isDigit := by
  cases cs <;> simp [startsNumber, other]

lemma startsNumber_of_isWordStart {c : Char} (h : isWordStart c) (cs : List Char) :
    startsNumber (c :: cs) = false := by
  have noDigit : c.isDigit = false := by
    refine Bool.eq_false_iff.mpr fun digit => ?_
    rw [isWordStart_of_isDigit digit] at h
    cases h
  rw [startsNumber_of_ne _ cs, noDigit]
  rintro rfl
  exact absurd h (by decide +kernel)

/-- Only digits are scanned as one number. -/
lemma scanNumber_digits {cs : List Char} (digits : ∀ c ∈ cs, c.isDigit) :
    scanNumber cs = (false, cs, []) := by
  have leading : ∀ c ∈ cs, isLeading c := by
    intro c member
    simp only [isLeading, digits c member, Bool.true_or]
  have none : cs.dropWhile isLeading = [] := List.dropWhile_eq_nil_iff.mpr leading
  have all : cs.takeWhile isLeading = cs := List.takeWhile_eq_self_iff.mpr leading
  simp only [scanNumber, none, all, scanFraction, scanExponent, List.append_nil, Bool.or_self]

/-- The decimal digits of an integer that is not negative are read as this integer. -/
lemma readInt?_toDigits {i : Int64} (h : 0 ≤ i.toInt) :
    readInt? (Nat.toDigits 10 i.toInt.toNat) = some i := by
  have digits : ∀ c ∈ Nat.toDigits 10 i.toInt.toNat, c.isDigit :=
    fun c member => Nat.isDigit_of_mem_toDigits (by decide) (by decide) member
  have value : natOfDigits (Nat.toDigits 10 i.toInt.toNat) = i.toInt.toNat :=
    Nat.ofDigitChars_toDigits (by decide) (by decide)
  have unsigned : Number.splitSign (Nat.toDigits 10 i.toInt.toNat) =
      (false, Nat.toDigits 10 i.toInt.toNat) := by
    unfold Number.splitSign
    split
    · next same => exact absurd (digits '+' (by rw [same]; exact List.mem_cons_self)) (by decide)
    · next same => exact absurd (digits '-' (by rw [same]; exact List.mem_cons_self)) (by decide)
    · rfl
  have full : (Nat.toDigits 10 i.toInt.toNat).isEmpty = false :=
    List.isEmpty_eq_false_iff.mpr Nat.toDigits_ne_nil
  have inRange : minInt ≤ i.toInt ∧ i.toInt ≤ maxInt := by
    have low := i.le_toInt
    have high := i.toInt_lt
    simp only [minInt, maxInt]
    omega
  simp only [readInt?, unsigned, full, List.all_eq_true.mpr digits, Bool.not_false, Bool.and_self,
    if_true, Bool.false_eq_true, if_false, value, Int.toNat_of_nonneg h, narrow?, inRange, and_self,
    Int64.ofInt_toInt]

lemma scans_int {i : Int64} (h : 0 ≤ i.toInt) :
    Scans (Nat.toDigits 10 i.toInt.toNat) (.int i) [] := by
  have digits : ∀ c ∈ Nat.toDigits 10 i.toInt.toNat, c.isDigit :=
    fun c member => Nat.isDigit_of_mem_toDigits (by decide) (by decide) member
  have scanned := scanNumber_digits digits
  have starts : startsNumber (Nat.toDigits 10 i.toInt.toNat) := by
    cases split : Nat.toDigits 10 i.toInt.toNat with
    | nil => exact absurd split Nat.toDigits_ne_nil
    | cons c cs =>
      have digit := digits c (by rw [split]; exact List.mem_cons_self)
      rw [startsNumber_of_ne _ cs, digit]
      rintro rfl
      cases digit
  have plain : (Nat.toDigits 10 i.toInt.toNat).filter (· != '_') = Nat.toDigits 10 i.toInt.toNat := by
    refine List.filter_eq_self.mpr fun c member => ?_
    have digit := digits c member
    refine bne_iff_ne.mpr ?_
    rintro rfl
    cases digit
  have read : numberToken (scanNumber (Nat.toDigits 10 i.toInt.toNat)).1
      (scanNumber (Nat.toDigits 10 i.toInt.toNat)).2.1 = .ok (.int i) := by
    rw [scanned]
    simp only [numberToken, Bool.false_eq_true, if_false, plain, readInt?_toDigits h]
  have taken := Scans.number starts read
  rwa [scanned] at taken

lemma scans_name {word : String} (h : IsName word) : Scans word.toList (.name word) [] := by
  obtain ⟨identifier, noKeyword⟩ := h
  cases split : word.toList with
  | nil =>
    rw [split] at identifier
    cases identifier
  | cons c cs =>
    rw [split, isIdentifier, Bool.and_eq_true, List.all_eq_true] at identifier
    obtain ⟨start, rest⟩ := identifier
    have chars : ∀ d ∈ c :: cs, isWordChar d := by
      intro d member
      rcases List.mem_cons.mp member with rfl | later
      · exact isWordChar_of_isWordStart start
      · exact rest d later
    have taken := Scans.word (startsNumber_of_isWordStart start cs) start
    rw [List.takeWhile_eq_self_iff.mpr chars, List.dropWhile_eq_nil_iff.mpr chars, wordToken, ← split,
      String.ofList_toList, noKeyword] at taken
    rwa [split] at taken

/-- The characters of a text are read again however each one was written. -/
lemma scanString_flatMap (quotes : quote = '"' ∨ quote = '\x27') {write : Char → List Char}
    {text : List Char}
    (step : ∀ c ∈ text, ∀ before more, scanString quote before (write c ++ more) =
      scanString quote (c :: before) more) (before rest : List Char) :
    scanString quote before (text.flatMap write ++ quote :: rest) =
      some (before.reverse ++ text, rest) := by
  induction text generalizing before with
  | nil =>
    rw [List.flatMap_nil, List.nil_append, scanString_plain (no_backslash quotes)]
    simp only [if_true, List.append_nil]
  | cons c text ih =>
    have later := ih fun d member => step d (List.mem_cons_of_mem c member)
    rw [List.flatMap_cons, List.append_assoc, step c List.mem_cons_self, later, List.reverse_cons,
      List.append_assoc]
    rfl

/-- A character is put in front of what was read, whichever way it is escaped. -/
lemma scanString_escape (quotes : quote = '"' ∨ quote = '\x27') (c : Char) (before more : List Char) :
    scanString quote before (escape quote c ++ more) = scanString quote (c :: before) more := by
  unfold escape
  split
  · rfl
  · rfl
  · rfl
  · rfl
  · split
    · next special =>
      have itself : unescape c = c := by
        rcases special with rfl | rfl
        · rcases quotes with rfl | rfl <;> rfl
        · rfl
      rw [List.cons_append, List.cons_append, scanString, itself, List.nil_append]
    · next plain =>
      rw [not_or] at plain
      rw [List.cons_append, List.nil_append, scanString_plain plain.2, if_neg plain.1]

/-- Between quotes, a text is scanned as a string however its characters were written. -/
lemma scans_between (quotes : quote = '"' ∨ quote = '\x27') {write : Char → List Char} {text : String}
    (step : ∀ c ∈ text.toList, ∀ before more, scanString quote before (write c ++ more) =
      scanString quote (c :: before) more) (rest : List Char) :
    Scans (quote :: (text.toList.flatMap write ++ quote :: rest)) (.str text) rest := by
  have noWord : isWordStart quote = false := by
    rcases quotes with rfl | rfl <;> decide +kernel
  have noNumber (cs : List Char) : startsNumber (quote :: cs) = false := by
    rcases quotes with rfl | rfl <;> rw [startsNumber_of_ne (by decide) cs] <;> decide
  have taken := Scans.string (noNumber _) noWord quotes (scanString_flatMap quotes step [] rest)
  rwa [List.reverse_nil, List.nil_append, String.ofList_toList] at taken

lemma scans_str (quotes : quote = '"' ∨ quote = '\x27') (text : String) :
    Scans (quoted quote text) (.str text) [] :=
  scans_between quotes (fun c _ before more => scanString_escape quotes c before more) []

/-- A spelled token is scanned as that token. -/
theorem Token.Spellable.scans (quotes : quote = '"' ∨ quote = '\x27') {t : Token} (h : t.Spellable) :
    Scans (t.spelling quote) t [] := by
  cases t with
  | int => exact scans_int h
  | float => exact h.elim
  | str => exact scans_str quotes _
  | name => exact scans_name h
  | assign op =>
    have spaced : Spaced [] := nofun
    have taken := Scans.symbol op spaced
    rwa [List.append_nil] at taken
  | _ => exact scans_of_scanToken rfl

lemma Gap.spaced {gap : List Char} (blank : Gap gap) (full : gap ≠ []) (rest : List Char) :
    Spaced (gap ++ rest) := by
  cases gap with
  | nil => exact absurd rfl full
  | cons c gap =>
    intro d head
    cases head
    exact blank c List.mem_cons_self

/-- A text of spelled tokens has these tokens. -/
theorem Spread.lexes (quotes : quote = '"' ∨ quote = '\x27') {ts : List Token} {cs : List Char}
    (h : Spread quote ts cs) (spellable : ∀ t ∈ ts, t.Spellable) : Lexes cs ts [] := by
  induction h with
  | @last t gap blank =>
    have scans := (spellable t List.mem_cons_self).scans quotes
    cases gap with
    | nil =>
      rw [List.append_nil]
      exact .token scans (.done [])
    | cons c gap =>
      have spaced := blank.spaced nofun []
      rw [List.append_nil] at spaced
      have skip := Lexes.blanks blank []
      rw [List.append_nil] at skip
      exact .token (scans.append spaced) skip
  | @cons t gap ts cs blank full _ ih =>
    have scans := (spellable t List.mem_cons_self).scans quotes
    have later := ih fun t member => spellable t (List.mem_cons_of_mem _ member)
    exact .token (scans.append (blank.spaced full cs)) ((Lexes.blanks blank cs).append later)

end Spellings

section Trees

/-- Whether all tokens have spellings. -/
def AllSpellable (ts : List Token) : Prop :=
  ∀ t ∈ ts, t.Spellable

variable {s : Style} {e : Expr} {t : Token} {ts us : List Token}

lemma allSpellable_nil : AllSpellable [] :=
  nofun

lemma allSpellable_cons : AllSpellable (t :: ts) ↔ t.Spellable ∧ AllSpellable ts :=
  List.forall_mem_cons

lemma allSpellable_append : AllSpellable (ts ++ us) ↔ AllSpellable ts ∧ AllSpellable us :=
  List.forall_mem_append

lemma AllSpellable.enclose (h : AllSpellable ts) : AllSpellable (enclose e ts) := by
  cases e with
  | lit | name => exact h
  | _ =>
    simp only [Script.enclose, allSpellable_cons, allSpellable_append]
    exact ⟨trivial, h, trivial, allSpellable_nil⟩

lemma AllSpellable.item (h : AllSpellable ts) : AllSpellable (s.item e ts) := by
  unfold Style.item
  split
  · exact h
  · exact h.enclose

/-- Parts with commas between them: the first one, and the others each behind a comma. -/
lemma commas_cons (part : List Token) (parts : List (List Token)) :
    commas (part :: parts) = part ++ parts.flatMap (.comma :: ·) := by
  unfold commas
  induction parts generalizing part with
  | nil => simp only [List.intercalate_singleton, List.flatMap_nil, List.append_nil]
  | cons next parts ih =>
    rw [List.intercalate_cons_cons, ih, List.flatMap_cons, List.append_assoc]
    rfl

lemma allSpellable_commas {parts : List (List Token)} (h : ∀ part ∈ parts, AllSpellable part) :
    AllSpellable (commas parts) := by
  cases parts with
  | nil => exact allSpellable_nil
  | cons part parts =>
    have ⟨first, more⟩ := List.forall_mem_cons.mp h
    rw [commas_cons, allSpellable_append]
    refine ⟨first, fun t member => ?_⟩
    obtain ⟨later, inParts, member⟩ := List.mem_flatMap.mp member
    exact (allSpellable_cons (t := .comma)).mpr ⟨trivial, more later inParts⟩ t member

lemma allSpellable_targets {names : List String} (h : ∀ name ∈ names, IsName name) :
    AllSpellable (commas (names.map fun name => [.name name])) := by
  refine allSpellable_commas fun part member => ?_
  obtain ⟨name, inNames, rfl⟩ := List.mem_map.mp member
  exact allSpellable_cons.mpr ⟨h name inNames, allSpellable_nil⟩

mutual

/-- What is written of an expression that can be written down can be spelled. -/
theorem Expr.Spellable.written (s : Style) : (e : Expr) → e.Spellable → AllSpellable (e.written s)
  | .lit value, h => by
    cases value with
    | bool b => cases b <;> exact allSpellable_cons.mpr ⟨trivial, allSpellable_nil⟩
    | _ => exact allSpellable_cons.mpr ⟨h, allSpellable_nil⟩
  | .name name, h => allSpellable_cons.mpr ⟨h, allSpellable_nil⟩
  | .list items, h => by
    simp only [Expr.written, allSpellable_cons, allSpellable_append]
    exact ⟨trivial, allSpellable_commas (SpellableItems.written s items h), trivial, allSpellable_nil⟩
  | .dict entries, h => by
    simp only [Expr.written, allSpellable_cons, allSpellable_append]
    exact ⟨trivial, allSpellable_commas (SpellableEntries.written s entries h), trivial,
      allSpellable_nil⟩
  | .unary op operand, h => by
    simp only [Expr.written, allSpellable_cons]
    exact ⟨by cases op <;> trivial, (Expr.Spellable.written s operand h).enclose⟩
  | .binary op left right, ⟨l, r⟩ => by
    simp only [Expr.written, allSpellable_cons, allSpellable_append]
    exact ⟨(Expr.Spellable.written s left l).enclose, by cases op <;> trivial,
      (Expr.Spellable.written s right r).enclose⟩
  | .and left right, ⟨l, r⟩ => by
    simp only [Expr.written, allSpellable_cons, allSpellable_append]
    exact ⟨(Expr.Spellable.written s left l).enclose, trivial, (Expr.Spellable.written s right r).enclose⟩
  | .or left right, ⟨l, r⟩ => by
    simp only [Expr.written, allSpellable_cons, allSpellable_append]
    exact ⟨(Expr.Spellable.written s left l).enclose, trivial, (Expr.Spellable.written s right r).enclose⟩
  | .compare first chain, ⟨f, c, _⟩ => by
    simp only [Expr.written, allSpellable_append]
    exact ⟨(Expr.Spellable.written s first f).enclose, SpellableChain.written s chain c⟩
  | .conditional condition yes no, ⟨c, y, n⟩ => by
    simp only [Expr.written, allSpellable_cons, allSpellable_append]
    exact ⟨(Expr.Spellable.written s yes y).enclose, trivial,
      (Expr.Spellable.written s condition c).enclose, trivial, (Expr.Spellable.written s no n).enclose⟩
  | .attr base attr, ⟨b, a⟩ => by
    simp only [Expr.written, allSpellable_cons, allSpellable_append]
    exact ⟨(Expr.Spellable.written s base b).enclose, trivial, a, allSpellable_nil⟩
  | .index base index, ⟨b, i⟩ => by
    simp only [Expr.written, allSpellable_cons, allSpellable_append]
    exact ⟨(Expr.Spellable.written s base b).enclose, trivial, (Expr.Spellable.written s index i).item,
      trivial, allSpellable_nil⟩
  | .slice base start stop, ⟨b, l, u⟩ => by
    simp only [Expr.written, allSpellable_cons, allSpellable_append]
    exact ⟨(Expr.Spellable.written s base b).enclose, trivial, SpellableBound.written s start l, trivial,
      SpellableBound.written s stop u, trivial, allSpellable_nil⟩
  | .call function args named, ⟨f, a, n⟩ => by
    simp only [Expr.written, allSpellable_cons, allSpellable_append]
    refine ⟨(Expr.Spellable.written s function f).enclose, trivial, ?_, trivial, allSpellable_nil⟩
    exact allSpellable_commas (List.forall_mem_append.mpr
      ⟨SpellableItems.written s args a, SpellableNamed.written s named n⟩)
  | .listComp element clauses, ⟨e, c, _⟩ => by
    simp only [Expr.written, allSpellable_cons, allSpellable_append]
    exact ⟨trivial, (Expr.Spellable.written s element e).item, SpellableClauses.written s clauses c, trivial,
      allSpellable_nil⟩
  | .dictComp key value clauses, ⟨k, v, c, _⟩ => by
    simp only [Expr.written, allSpellable_cons, allSpellable_append]
    exact ⟨trivial, (Expr.Spellable.written s key k).item, trivial, (Expr.Spellable.written s value v).item,
      SpellableClauses.written s clauses c, trivial, allSpellable_nil⟩

theorem SpellableItems.written (s : Style) : (es : List Expr) → SpellableItems es →
    ∀ part ∈ writtenItems s es, AllSpellable part
  | [], _ => nofun
  | e :: es, ⟨first, more⟩ =>
    List.forall_mem_cons.mpr
      ⟨(Expr.Spellable.written s e first).item, SpellableItems.written s es more⟩

theorem SpellableEntries.written (s : Style) : (entries : List (Expr × Expr)) →
    SpellableEntries entries → ∀ part ∈ writtenEntries s entries, AllSpellable part
  | [], _ => nofun
  | (key, value) :: entries, ⟨k, v, more⟩ => by
    refine List.forall_mem_cons.mpr ⟨?_, SpellableEntries.written s entries more⟩
    simp only [allSpellable_cons, allSpellable_append]
    exact ⟨(Expr.Spellable.written s key k).item, trivial, (Expr.Spellable.written s value v).item⟩

theorem SpellableNamed.written (s : Style) : (named : List (String × Expr)) →
    SpellableNamed named → ∀ part ∈ writtenNamed s named, AllSpellable part
  | [], _ => nofun
  | (name, value) :: named, ⟨n, v, more⟩ => by
    refine List.forall_mem_cons.mpr ⟨?_, SpellableNamed.written s named more⟩
    simp only [allSpellable_cons]
    exact ⟨n, trivial, (Expr.Spellable.written s value v).item⟩

theorem SpellableChain.written (s : Style) : (chain : List (CompareOp × Expr)) →
    SpellableChain chain → AllSpellable (writtenChain s chain)
  | [], _ => allSpellable_nil
  | (op, right) :: chain, ⟨r, more⟩ => by
    simp only [writtenChain, allSpellable_append]
    refine ⟨?_, (Expr.Spellable.written s right r).enclose, SpellableChain.written s chain more⟩
    cases op <;> simp only [CompareOp.tokens, allSpellable_cons] <;>
      simp [Token.Spellable, allSpellable_nil]

theorem SpellableBound.written (s : Style) : (bound : Option Expr) → SpellableBound bound →
    AllSpellable (writtenBound s bound)
  | none, _ => allSpellable_nil
  | some e, h => (Expr.Spellable.written s e h).item

theorem SpellableClauses.written (s : Style) : (clauses : List Clause) → SpellableClauses clauses →
    AllSpellable (writtenClauses s clauses)
  | [], _ => allSpellable_nil
  | .mk names source conditions :: clauses, ⟨⟨targets, _⟩, ranged, conds, more⟩ => by
    simp only [writtenClauses, allSpellable_cons, allSpellable_append]
    exact ⟨trivial, allSpellable_targets targets, trivial, (Expr.Spellable.written s source ranged).enclose,
      SpellableItems.writtenConditions s conditions conds, SpellableClauses.written s clauses more⟩

theorem SpellableItems.writtenConditions (s : Style) : (es : List Expr) → SpellableItems es →
    AllSpellable (writtenConditions s es)
  | [], _ => allSpellable_nil
  | e :: es, ⟨first, more⟩ => by
    simp only [Script.writtenConditions, allSpellable_cons, allSpellable_append]
    exact ⟨trivial, (Expr.Spellable.written s e first).enclose,
      SpellableItems.writtenConditions s es more⟩

end

end Trees

end BranchingStory.Script
