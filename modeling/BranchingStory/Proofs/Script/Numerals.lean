import Mathlib.Data.List.Basic
import Mathlib.Data.List.TakeWhile
import BranchingStory.Host.Toybox
import BranchingStory.Proofs.Digits
import BranchingStory.Proofs.Machine.Formatting

/-!
# Formatted integers

An integer that is padded with zeros behind its sign keeps its value in every base: without sign, mark and
commas the digits are those of its magnitude. The zeros stand in front of the mark of the base, so that they
are next to the digits only where there is no mark.
-/

namespace BranchingStory.Script

open Number

def Radix.base : Radix → Nat
  | .binary => 2
  | .octal => 8
  | .decimal => 10
  | .hex _ => 16

section Digits

/-- The digit that a character stands for in a base. -/
def digitOf? (base : Nat) (c : Char) : Option Nat :=
  let digit :=
    if c.isDigit then c.toNat - '0'.toNat
    else if c.isLower then c.toNat - 'a'.toNat + 10
    else if c.isUpper then c.toNat - 'A'.toNat + 10
    else base
  if digit < base then some digit else none

/-- The number that a text stands for in a base, if it is made of digits. -/
def readIn? (base : Nat) (cs : List Char) : Option Nat :=
  cs.foldlM (fun n c => (digitOf? base c).map (base * n + ·)) 0

variable {base : Nat}

lemma readIn?_append (u v : List Char) :
    readIn? base (u ++ v) =
      (readIn? base u).bind fun n => v.foldlM (fun n c => (digitOf? base c).map (base * n + ·)) n :=
  List.foldlM_append

/-- The digits of a number are read as this number, however a digit is written. -/
lemma readIn?_toDigits (write : Char → Char) (big : 1 < base)
    (digit : ∀ d < base, digitOf? base (write d.digitChar) = some d) (n : Nat) :
    readIn? base ((Nat.toDigits base n).map write) = some n := by
  have concat {cs : List Char} {n d : Nat} (front : readIn? base cs = some n) (small : d < base) :
      readIn? base (cs ++ [write d.digitChar]) = some (base * n + d) := by
    rw [readIn?_append, front, Option.bind_some, List.foldlM_cons, digit d small]
    rfl
  induction n using Nat.base_induction base big with
  | single d small =>
    have read := concat (rfl : readIn? base [] = some 0) small
    rw [Nat.mul_zero, Nat.zero_add] at read
    rwa [Nat.toDigits_of_lt_base small]
  | digit more d small positive ih =>
    rw [← Nat.toDigits_append_toDigits big positive small, Nat.toDigits_of_lt_base small, List.map_append]
    exact concat ih small

/-- Zeros in front of digits change nothing. -/
lemma readIn?_zeros (positive : 0 < base) {zeros : List Char} (all : ∀ c ∈ zeros, c = '0')
    (cs : List Char) : readIn? base (zeros ++ cs) = readIn? base cs := by
  have zero : digitOf? base '0' = some 0 := if_pos positive
  have none : readIn? base zeros = some 0 := by
    induction zeros with
    | nil => rfl
    | cons c zeros ih =>
      obtain rfl := all c List.mem_cons_self
      have later := ih fun d member => all d (List.mem_cons_of_mem _ member)
      unfold readIn? at later ⊢
      rw [List.foldlM_cons, zero]
      exact later
  rw [readIn?_append, none]
  rfl

/-- Only digits are read. -/
lemma digitOf?_of_readIn? {cs : List Char} {n : Nat} (read : readIn? base cs = some n) {c : Char}
    (member : c ∈ cs) : (digitOf? base c).isSome := by
  obtain ⟨u, v, rfl⟩ := List.append_of_mem member
  rw [readIn?_append] at read
  obtain ⟨front, -, read⟩ := Option.bind_eq_some_iff.mp read
  rw [List.foldlM_cons] at read
  obtain ⟨next, found, -⟩ := Option.bind_eq_some_iff.mp read
  obtain ⟨d, digit, -⟩ := Option.map_eq_some_iff.mp found
  rw [digit]
  rfl

/-- The digits of a radix are read in its base. -/
lemma readIn?_digits (radix : Radix) (n : Nat) : readIn? radix.base (radix.digits n) = some n := by
  have plain {b : Nat} (big : 1 < b) (digit : ∀ d < b, digitOf? b d.digitChar = some d) :
      readIn? b (Nat.toDigits b n) = some n := by
    have read := readIn?_toDigits id big digit n
    rwa [List.map_id] at read
  cases radix with
  | binary => exact plain (b := 2) (by decide) (by decide)
  | octal => exact plain (b := 8) (by decide) (by decide)
  | decimal => exact plain (b := 10) (by decide) (by decide)
  | hex upper =>
    cases upper with
    | false => exact plain (b := 16) (by decide) (by decide)
    | true =>
      have digit : ∀ d < 16, digitOf? 16 d.digitChar.toUpper = some d := by decide
      exact readIn?_toDigits Char.toUpper (by decide) digit n

end Digits

section Groups

/-- No digit of a radix looks like a sign between digits. -/
lemma plain_digits (radix : Radix) (n : Nat) : ',' ∉ radix.digits n ∧ '.' ∉ radix.digits n := by
  have digits {c : Char} (member : c ∈ radix.digits n) : (digitOf? radix.base c).isSome :=
    digitOf?_of_readIn? (readIn?_digits radix n) member
  constructor
  · intro member
    have digit := digits member
    cases radix <;> cases digit
  · intro member
    have digit := digits member
    cases radix <;> cases digit

/-- Without their commas, grouped digits are the digits again. -/
lemma filter_groupDigits {digits : List Char} (plain : ',' ∉ digits) :
    (groupDigits digits).filter (· ≠ ',') = digits := by
  have each : ∀ entry ∈ digits.zipIdx,
      (if 0 < entry.2 ∧ (digits.length - entry.2) % 3 = 0 then [',', entry.1] else [entry.1]).filter
        (· ≠ ',') = [entry.1] := by
    intro entry member
    have noComma : entry.1 ≠ ',' := fun same => plain (same ▸ List.fst_mem_of_mem_zipIdx member)
    split <;> simp [noComma]
  calc
    (groupDigits digits).filter (· ≠ ',')
    _ = digits.zipIdx.flatMap fun entry => [entry.1] := by
      rw [groupDigits, List.filter_flatMap]
      exact List.flatMap_congr each
    _ = digits.zipIdx.map Prod.fst := (List.map_eq_flatMap).symm
    _ = digits := List.zipIdx_map_fst 0 digits

lemma filter_groupIf (grouping : Bool) {digits : List Char} (noComma : ',' ∉ digits)
    (noPoint : '.' ∉ digits) : (groupIf grouping digits).filter (· ≠ ',') = digits := by
  have whole : ∀ c ∈ digits, (c != '.') = true := by
    intro c member
    refine bne_iff_ne.mpr ?_
    rintro rfl
    exact noPoint member
  cases grouping with
  | false =>
    refine List.filter_eq_self.mpr fun c member => decide_eq_true ?_
    rintro rfl
    exact noComma member
  | true =>
    change (groupThousands digits).filter (· ≠ ',') = digits
    rw [groupThousands, List.takeWhile_eq_self_iff.mpr whole, List.dropWhile_eq_nil_iff.mpr whole,
      List.append_nil]
    exact filter_groupDigits noComma

end Groups

section Specifications

/-- How a specification asks for zeros behind the sign: by a zero in front of the width, or by an alignment;
or it has no width, and nothing is padded. -/
inductive ZeroPadding where
  | absent
  | flag (width : List Char)
  | aligned (width : List Char)

namespace ZeroPadding

def width : ZeroPadding → List Char
  | .absent => []
  | .flag width => width
  | .aligned width => width

/-- What stands at the beginning of the specification. -/
def front : ZeroPadding → List Char
  | .aligned _ => ['0', '=']
  | _ => []

/-- The fill character and alignment that these ask for. -/
def fill : ZeroPadding → Char
  | .aligned _ => '0'
  | _ => ' '

def align? : ZeroPadding → Option Align
  | .aligned _ => some .afterSign
  | _ => none

/-- The fill character and alignment that come of it all. -/
def meaning : ZeroPadding → Char × Option Align
  | .absent => (' ', none)
  | _ => ('0', some .afterSign)

/-- What stands in front of the width. -/
def zero : ZeroPadding → List Char
  | .flag _ => ['0']
  | _ => []

end ZeroPadding

/-- A specification of an integer within the limits of width and precision, part by part. -/
structure IntegerSpec where
  padding : ZeroPadding
  sign? : Option SignRule
  alternate : Bool
  grouping : Bool
  precision? : Option (List Char)
  radix? : Option Radix
  widthDigits : ∀ c ∈ padding.width, c.isDigit
  widthLimit : natOfDigits padding.width ≤ FormatSpec.fieldLimit
  precisionDigits : ∀ digits, precision? = some digits → digits ≠ [] ∧ ∀ c ∈ digits, c.isDigit
  precisionLimit : ∀ digits, precision? = some digits → natOfDigits digits ≤ FormatSpec.fieldLimit

def SignRule.mark : SignRule → Char
  | .onlyMinus => '-'
  | .plus => '+'
  | .space => ' '

/-- The letter of a radix is neither a digit nor a sign. -/
lemma letter_apart (radix : Radix) :
    (Presentation.integer radix).letter ∈ ['b', 'o', 'd', 'x', 'X'] ∧
      (Presentation.integer radix).letter.isDigit = false ∧
      (Presentation.integer radix).letter ≠ ',' ∧ (Presentation.integer radix).letter ≠ '.' := by
  cases radix with
  | hex upper => cases upper <;> decide
  | _ => decide

lemma eq_of_mem_optional {there : Bool} {c d : Char} (member : c ∈ if there then [d] else []) : c = d := by
  cases there with
  | false => cases member
  | true => exact List.mem_singleton.mp member

namespace IntegerSpec

variable (p : IntegerSpec)

/-- The precision and the letter. -/
def back : List Char :=
  (match p.precision? with | some digits => '.' :: digits | none => []) ++
    (p.radix?.map fun radix => (Presentation.integer radix).letter).toList

/-- What is behind the width. -/
def behind : List Char :=
  (if p.grouping then [','] else []) ++ p.back

/-- The width with what is in front of it and behind it. -/
def body : List Char :=
  p.padding.zero ++ (p.padding.width ++ p.behind)

/-- The sign rule and what is behind it. -/
def signed : List Char :=
  (p.sign?.map SignRule.mark).toList ++ ((if p.alternate then ['#'] else []) ++ p.body)

def text : List Char :=
  p.padding.front ++ p.signed

/-- What the text means. -/
def meaning : FormatSpec where
  fill := p.padding.meaning.1
  align? := p.padding.meaning.2
  sign := p.sign?.getD .onlyMinus
  alternate := p.alternate
  width := natOfDigits p.padding.width
  grouping := p.grouping
  precision? := p.precision?.map natOfDigits
  presentation? := p.radix?.map .integer

def radix : Radix :=
  p.radix?.getD .decimal

def mark : List Char :=
  if p.alternate then p.radix.mark else []

/-- The sign of an integer. -/
def signOf (n : Int64) : List Char :=
  if n.toInt < 0 then ['-']
  else
    match p.sign? with
    | some .plus => ['+']
    | some .space => [' ']
    | _ => []

/-- The digits of the magnitude of an integer. -/
def digitsOf (n : Int64) : List Char :=
  groupIf (p.grouping && p.radix == .decimal) (p.radix.digits n.toInt.natAbs)

/-- The characters of a width and of what is behind it. -/
def IsBodyChar (c : Char) : Prop :=
  c.isDigit ∨ c ∈ [',', '.', 'b', 'o', 'd', 'x', 'X']

lemma ofChar?_bodyChar {c : Char} (body : IsBodyChar c) :
    Align.ofChar? c = none ∧ SignRule.ofChar? c = none ∧ c ≠ '#' := by
  have other : ∀ d ∈ ['<', '>', '^', '=', '-', '+', ' ', '#'], ¬IsBodyChar d := by
    simp only [List.forall_mem_cons, List.not_mem_nil, false_implies, implies_true, and_true, IsBodyChar]
    decide
  have apart : ∀ d ∈ ['<', '>', '^', '=', '-', '+', ' ', '#'], c ≠ d :=
    fun d member same => other d member (same ▸ body)
  refine ⟨?_, ?_, apart '#' (by decide)⟩
  · unfold Align.ofChar?
    split
    · exact absurd rfl (apart '<' (by decide))
    · exact absurd rfl (apart '>' (by decide))
    · exact absurd rfl (apart '^' (by decide))
    · exact absurd rfl (apart '=' (by decide))
    · rfl
  · unfold SignRule.ofChar?
    split
    · exact absurd rfl (apart '-' (by decide))
    · exact absurd rfl (apart '+' (by decide))
    · exact absurd rfl (apart ' ' (by decide))
    · rfl

lemma back_chars : ∀ c ∈ p.back, IsBodyChar c := by
  intro c member
  rw [back, List.mem_append] at member
  rcases member with point | letter
  · cases given : p.precision? with
    | none => simp [given] at point
    | some digits =>
      rw [given] at point
      rcases List.mem_cons.mp point with rfl | digit
      · exact .inr (by decide)
      · exact .inl ((p.precisionDigits digits given).2 c digit)
  · rw [Option.mem_toList, Option.map_eq_some_iff] at letter
    obtain ⟨radix, -, rfl⟩ := letter
    exact .inr (List.mem_append_right [',', '.'] (letter_apart radix).1)

lemma body_chars : ∀ c ∈ p.body, IsBodyChar c := by
  intro c member
  simp only [body, behind, List.mem_append] at member
  rcases member with zero | digit | comma | back
  · cases given : p.padding with
    | flag width =>
      rw [given] at zero
      obtain rfl := List.mem_singleton.mp zero
      exact .inl rfl
    | _ =>
      rw [given] at zero
      cases zero
  · exact .inl (p.widthDigits c digit)
  · obtain rfl := eq_of_mem_optional comma
    exact .inr (by decide)
  · exact p.back_chars c back

/-- Only digits end a width or a precision. -/
lemma endsRun_back : EndsRun Char.isDigit p.back ∧ ∀ c, p.back.head? = some c → c ≠ ',' := by
  unfold back EndsRun
  cases p.precision? with
  | some digits => exact ⟨fun c head => by cases head; rfl, fun c head => by cases head; decide⟩
  | none =>
    cases p.radix? with
    | none => exact ⟨nofun, nofun⟩
    | some radix =>
      obtain ⟨-, noDigit, noComma, -⟩ := letter_apart radix
      exact ⟨fun c head => by cases head; exact noDigit, fun c head => by cases head; exact noComma⟩

end IntegerSpec

section Reading

variable {c : Char} {cs : List Char}

lemma skip_of_ne (other : ∀ d, cs.head? = some d → d ≠ c) : FormatSpec.skip c cs = (false, cs) := by
  cases cs with
  | nil => rfl
  | cons d cs => exact if_neg (other d rfl)

/-- A sign that may be there is skipped if it is. -/
lemma skip_optional (there : Bool) (other : ∀ d, cs.head? = some d → d ≠ c) :
    FormatSpec.skip c ((if there then [c] else []) ++ cs) = (there, cs) := by
  cases there with
  | false => exact skip_of_ne other
  | true => exact if_pos rfl

lemma readAlign_of_none (none : ∀ c ∈ cs, Align.ofChar? c = none) :
    FormatSpec.readAlign cs = (' ', Option.none, cs) := by
  cases cs with
  | nil => rfl
  | cons c cs =>
    have second : cs.head?.bind Align.ofChar? = Option.none := by
      cases cs with
      | nil => rfl
      | cons d cs => exact none d (List.mem_cons_of_mem c List.mem_cons_self)
    simp only [FormatSpec.readAlign, second, none c List.mem_cons_self]

lemma takeSign_optional (sign? : Option SignRule)
    (other : ∀ d, cs.head? = some d → SignRule.ofChar? d = none) :
    Machine.takeSign ((sign?.map SignRule.mark).toList ++ cs) = (sign?.getD .onlyMinus, cs) := by
  cases sign? with
  | some rule => cases rule <;> rfl
  | none =>
    have unsigned : cs.head?.bind SignRule.ofChar? = none := by
      cases cs with
      | nil => rfl
      | cons d cs => exact other d rfl
    simp only [Machine.takeSign, Option.map_none, Option.toList_none, List.nil_append, unsigned,
      Option.getD_none]

lemma readCount_of_le {digits : List Char} (small : natOfDigits digits ≤ FormatSpec.fieldLimit) :
    FormatSpec.readCount digits = some (natOfDigits digits) := by
  have fits : natOfDigits digits < twoTo 64 := Nat.lt_of_le_of_lt small (by decide +kernel)
  exact if_pos fits

/-- A zero in front of a width takes nothing from it. -/
lemma skip_zero {width : List Char} (digits : ∀ c ∈ width, c.isDigit)
    (ends : EndsRun Char.isDigit cs) :
    ∃ zero rest, FormatSpec.skip '0' (width ++ cs) = (zero, rest ++ cs) ∧ (∀ c ∈ rest, c.isDigit) ∧
      natOfDigits rest = natOfDigits width ∧ (width = [] → zero = false) := by
  cases width with
  | nil =>
    have other : ∀ d, cs.head? = some d → d ≠ '0' := by
      rintro d head rfl
      cases ends _ head
    exact ⟨false, [], skip_of_ne other, nofun, rfl, fun _ => rfl⟩
  | cons d width =>
    rw [List.cons_append]
    by_cases zero : d = '0'
    · subst zero
      exact ⟨true, width, rfl, fun c member => digits c (List.mem_cons_of_mem _ member), rfl, nofun⟩
    · exact ⟨false, d :: width, if_neg zero, digits, rfl, nofun⟩

/-- The zero in front of the width, and what is behind it. -/
lemma skip_padding {padding : ZeroPadding} (digits : ∀ c ∈ padding.width, c.isDigit)
    (ends : EndsRun Char.isDigit cs) :
    ∃ zero rest, FormatSpec.skip '0' (padding.zero ++ (padding.width ++ cs)) = (zero, rest ++ cs) ∧
      (∀ c ∈ rest, c.isDigit) ∧ natOfDigits rest = natOfDigits padding.width ∧
      (if zero && padding.align?.isNone then ('0', some .afterSign) else (padding.fill, padding.align?)) =
        padding.meaning := by
  cases padding with
  | absent =>
    obtain ⟨zero, rest, skipped, digits, same, none⟩ := skip_zero digits ends
    refine ⟨zero, rest, skipped, digits, same, ?_⟩
    rw [none rfl]
    rfl
  | flag width => exact ⟨true, width, rfl, digits, rfl, rfl⟩
  | aligned width =>
    obtain ⟨zero, rest, skipped, digits, same, -⟩ := skip_zero digits ends
    refine ⟨zero, rest, skipped, digits, same, ?_⟩
    cases zero <;> rfl

end Reading

namespace IntegerSpec

variable {p : IntegerSpec}

lemma readPrecision_back (p : IntegerSpec) :
    ∃ rest, FormatSpec.readPrecision p.back = some (p.precision?.map natOfDigits, rest) ∧
      FormatSpec.readPresentation rest = some (p.radix?.map .integer) := by
  have read : FormatSpec.readPresentation
      (p.radix?.map fun radix => (Presentation.integer radix).letter).toList =
        some (p.radix?.map .integer) := by
    cases p.radix? with
    | none => rfl
    | some radix =>
      rcases radix with _ | _ | _ | upper
      on_goal 4 => cases upper
      all_goals rfl
  have letter : ∀ c, (p.radix?.map fun radix => (Presentation.integer radix).letter).toList.head? = some c →
      c.isDigit = false ∧ c ≠ '.' := by
    intro c head
    have member := List.mem_of_head? head
    rw [Option.mem_toList, Option.map_eq_some_iff] at member
    obtain ⟨radix, -, rfl⟩ := member
    obtain ⟨-, noDigit, -, noPoint⟩ := letter_apart radix
    exact ⟨noDigit, noPoint⟩
  refine ⟨_, ?_, read⟩
  unfold back
  cases given : p.precision? with
  | none =>
    have noPoint := skip_of_ne fun c head => (letter c head).2
    simp only [FormatSpec.readPrecision, List.nil_append, noPoint, Option.map_none]
  | some digits =>
    obtain ⟨full, all⟩ := p.precisionDigits digits given
    have limit := readCount_of_le (p.precisionLimit digits given)
    have ends : EndsRun Char.isDigit
        (p.radix?.map fun radix => (Presentation.integer radix).letter).toList :=
      fun c head => (letter c head).1
    have notEmpty : digits.isEmpty = false := List.isEmpty_eq_false_iff.mpr full
    simp only [FormatSpec.readPrecision, List.cons_append, FormatSpec.skip, if_true, takeWhile_run all ends,
      dropWhile_run all ends, notEmpty, Bool.false_eq_true, if_false, limit, Option.map_some]

/-- What stands behind the alignment is made of no sign of an alignment. -/
lemma unaligned (p : IntegerSpec) : ∀ c ∈ p.signed, Align.ofChar? c = none := by
  intro c member
  simp only [signed, List.mem_append] at member
  rcases member with sign | mark | body
  · rw [Option.mem_toList, Option.map_eq_some_iff] at sign
    obtain ⟨rule, -, rfl⟩ := sign
    cases rule <;> rfl
  · obtain rfl := eq_of_mem_optional mark
    rfl
  · exact (ofChar?_bodyChar (p.body_chars c body)).1

lemma readAlign_text (p : IntegerSpec) :
    FormatSpec.readAlign p.text = (p.padding.fill, p.padding.align?, p.signed) := by
  have plain := readAlign_of_none p.unaligned
  unfold text
  cases p.padding with
  | aligned width => rfl
  | _ => exact plain

/-- The sign rule and the mark in front of the body. -/
lemma read_signed (p : IntegerSpec) :
    Machine.takeSign p.signed =
        (p.sign?.getD .onlyMinus, (if p.alternate then ['#'] else []) ++ p.body) ∧
      FormatSpec.skip '#' ((if p.alternate then ['#'] else []) ++ p.body) = (p.alternate, p.body) := by
  have plain : ∀ c, p.body.head? = some c → SignRule.ofChar? c = none ∧ c ≠ '#' :=
    fun c head => (ofChar?_bodyChar (p.body_chars c (List.mem_of_head? head))).2
  constructor
  · refine takeSign_optional p.sign? fun c head => ?_
    cases given : p.alternate with
    | false =>
      rw [given] at head
      exact (plain c head).1
    | true =>
      rw [given] at head
      cases head
      rfl
  · exact skip_optional p.alternate fun c head => (plain c head).2

lemma endsRun_behind (p : IntegerSpec) : EndsRun Char.isDigit p.behind := by
  unfold behind
  cases p.grouping with
  | false => exact p.endsRun_back.1
  | true =>
    intro c head
    cases head
    rfl

/-- The text of a specification is read as what it means. -/
lemma read_text (p : IntegerSpec) (full : p.text ≠ []) :
    FormatSpec.read (String.ofList p.text) = .ok p.meaning := by
  have ends := p.endsRun_behind
  obtain ⟨ruled, marked⟩ := p.read_signed
  obtain ⟨zero, width, padded, digits, same, meant⟩ := skip_padding p.widthDigits ends
  obtain ⟨letter, precise, presented⟩ := p.readPrecision_back
  have counted : FormatSpec.readCount width = some (natOfDigits p.padding.width) := by
    rw [← same]
    exact readCount_of_le (same ▸ p.widthLimit)
  have grouped : FormatSpec.skip ',' ((width ++ p.behind).dropWhile Char.isDigit) = (p.grouping, p.back) := by
    rw [dropWhile_run digits ends]
    exact skip_optional p.grouping p.endsRun_back.2
  have parts := Machine.read?_eq (by simpa using full) p.readAlign_text ruled marked padded grouped
  rw [takeWhile_run digits ends, meant] at parts
  have read : FormatSpec.read? p.text = some p.meaning := by
    rw [parts]
    simp only [counted, precise, presented, Option.bind_eq_bind, Option.bind_some]
    rfl
  simp only [FormatSpec.read, String.toList_ofList, read]

end IntegerSpec

end Specifications

section Formats

variable {Obj : Type} [HostObject Obj] (p : IntegerSpec)

namespace IntegerSpec

lemma isModest_meaning : p.meaning.isModest := by
  have width : p.meaning.width ≤ FormatSpec.fieldLimit := p.widthLimit
  have precision : p.meaning.precision?.all (· ≤ FormatSpec.fieldLimit) := by
    unfold meaning
    cases given : p.precision? with
    | none => rfl
    | some digits => exact decide_eq_true (p.precisionLimit digits given)
  rw [FormatSpec.isModest, precision, Bool.and_true]
  exact decide_eq_true width

/-- What the width asks for beyond sign and body is filled with zeros between both. -/
lemma pad_meaning (sign body : List Char) :
    pad p.meaning true sign body =
      sign ++ List.replicate (natOfDigits p.padding.width - (sign.length + body.length)) '0' ++ body := by
  unfold pad meaning
  cases p.padding with
  | absent =>
    have none : natOfDigits ZeroPadding.absent.width - (sign.length + body.length) = 0 := Nat.zero_sub _
    rw [none]
    simp [ZeroPadding.meaning]
  | _ => rfl

lemma signText_meaning (n : Int64) : signText p.meaning.sign (n < 0) = p.signOf n := by
  have negative : n < 0 ↔ n.toInt < 0 := Int64.lt_iff_toInt_lt
  unfold signText signOf meaning
  simp only [decide_eq_true_iff, negative]
  rcases p.sign? with _ | rule
  · rfl
  · cases rule <;> rfl

lemma format_text (full : p.text ≠ []) (n : Int64) :
    format (.int n : Value Obj) (String.ofList p.text) =
      .ok (String.ofList (pad p.meaning true (p.signOf n) (p.mark ++ p.digitsOf n))) := by
  have presentation : p.meaning.presentation?.getD (defaultPresentation p.meaning (.int n : Value Obj)) =
      .integer p.radix := by
    unfold meaning radix
    cases p.radix? <;> rfl
  have body : bodyOf (.integer p.radix) p.meaning (.int n : Value Obj) =
      .ok (n < 0, p.mark ++ p.digitsOf n) :=
    rfl
  rw [format, p.read_text full, ← p.signText_meaning n]
  change formatWith p.meaning (.int n : Value Obj) = _
  rw [formatWith, p.isModest_meaning, presentation]
  simp only [Bool.not_true, Bool.false_eq_true, if_false, body]
  rfl

/-- There are commas only where decimal digits are grouped. -/
lemma comma_digitsOf {n : Int64} (comma : ',' ∈ p.digitsOf n) : p.grouping ∧ p.radix = .decimal := by
  have noComma := (plain_digits p.radix n.toInt.natAbs).1
  unfold digitsOf at comma
  cases grouped : p.grouping && p.radix == .decimal with
  | true => simpa using grouped
  | false =>
    rw [grouped] at comma
    exact absurd comma noComma

/-- An integer is formatted with its sign, the mark of its base and its digits, and with zeros behind the sign
up to the width. Without commas, zeros and digits are read as its magnitude in the base. Where there is no
mark, or nothing is padded, the zeros stand between the mark and the digits. -/
theorem format_keeps_value (full : p.text ≠ []) (n : Int64) :
    ∃ zeros, (∀ c ∈ zeros, c = '0') ∧
      format (.int n : Value Obj) (String.ofList p.text) =
        .ok (String.ofList (p.signOf n ++ zeros ++ p.mark ++ p.digitsOf n)) ∧
      (p.signOf n ++ zeros ++ p.mark ++ p.digitsOf n).length =
        max (natOfDigits p.padding.width) (p.signOf n ++ p.mark ++ p.digitsOf n).length ∧
      (p.mark = [] ∨ natOfDigits p.padding.width ≤ (p.signOf n ++ p.mark ++ p.digitsOf n).length →
        format (.int n : Value Obj) (String.ofList p.text) =
          .ok (String.ofList (p.signOf n ++ p.mark ++ zeros ++ p.digitsOf n))) ∧
      (',' ∈ p.digitsOf n → p.grouping ∧ p.radix = .decimal) ∧
      readIn? p.radix.base ((zeros ++ p.digitsOf n).filter (· ≠ ',')) = some n.toInt.natAbs := by
  have ⟨noComma, noPoint⟩ := plain_digits p.radix n.toInt.natAbs
  have formatted := @format_text Obj _ p full n
  rw [p.pad_meaning, ← List.append_assoc _ p.mark] at formatted
  have missing : natOfDigits p.padding.width - ((p.signOf n).length + (p.mark ++ p.digitsOf n).length) =
      natOfDigits p.padding.width - (p.signOf n ++ p.mark ++ p.digitsOf n).length := by
    simp only [List.length_append, Nat.add_assoc]
  rw [missing] at formatted
  generalize count : natOfDigits p.padding.width - (p.signOf n ++ p.mark ++ p.digitsOf n).length = k
    at formatted
  have zeros : ∀ c ∈ List.replicate k '0', c = '0' := fun c member => List.eq_of_mem_replicate member
  refine ⟨List.replicate k '0', zeros, formatted, ?_, ?_, p.comma_digitsOf, ?_⟩
  case refine_1 =>
    simp only [List.length_append, List.length_replicate] at count ⊢
    omega
  case refine_2 =>
    rw [formatted]
    rintro (none | wide)
    · simp only [none, List.append_nil]
    · obtain rfl : k = 0 := by omega
      simp only [List.replicate_zero, List.append_nil]
  case refine_3 =>
    have noSigns : (List.replicate k '0').filter (· ≠ ',') = List.replicate k '0' := by
      refine List.filter_eq_self.mpr fun c member => ?_
      rw [zeros c member]
      rfl
    have positive : 0 < p.radix.base := by cases p.radix <;> exact Nat.succ_pos _
    rw [List.filter_append, noSigns, digitsOf, filter_groupIf _ noComma noPoint,
      readIn?_zeros positive zeros]
    exact readIn?_digits p.radix n.toInt.natAbs

end IntegerSpec

end Formats

section Examples

open Toybox

/-- Seven digits with commas and a plus sign in sixteen places. -/
def amount : IntegerSpec where
  padding := .flag ['1', '6']
  sign? := some .plus
  alternate := false
  grouping := true
  precision? := none
  radix? := some .decimal
  widthDigits := List.all_eq_true.mp rfl
  widthLimit := by decide
  precisionDigits := nofun
  precisionLimit := nofun

theorem amount_format :
    amount.text ≠ [] ∧ format (.int (-1234567) : Value Thing) "+016,d" = .ok "-0000001,234,567" := by
  have full : amount.text ≠ [] := by decide
  obtain ⟨zeros, all, formatted, length, -⟩ := @IntegerSpec.format_keeps_value Thing _ amount full (-1234567)
  have text : String.ofList amount.text = "+016,d" := by decide
  have count : zeros.length = 6 := by
    have sign : amount.signOf (-1234567) = ['-'] := by decide
    have mark : amount.mark = [] := by decide
    have digits : (amount.digitsOf (-1234567)).length = 9 := by decide +kernel
    have width : natOfDigits amount.padding.width = 16 := by decide
    simp only [List.length_append, sign, mark, digits, width, List.length_cons, List.length_nil] at length
    omega
  obtain rfl : zeros = List.replicate 6 '0' := List.eq_replicate_iff.mpr ⟨count, all⟩
  rw [text] at formatted
  rw [formatted]
  exact ⟨full, congrArg Except.ok (by decide +kernel)⟩

/-- The zeros stand in front of the mark and not behind it. -/
theorem zeros_before_mark :
    format (.int 255 : Value Thing) "#06x" = .ok "000xff" ∧
      format (.int 255 : Value Thing) "#06x" ≠ .ok "0x00ff" := by
  have formatted : format (.int 255 : Value Thing) "#06x" = .ok "000xff" := rfl
  refine ⟨formatted, ?_⟩
  rw [formatted]
  exact fun same => absurd (Except.ok.inj same) (by decide)

end Examples

end BranchingStory.Script
