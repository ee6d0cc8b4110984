import Mathlib.Control.Basic
import Mathlib.Data.Option.Basic
import BranchingStory.Proofs.Digits
import BranchingStory.Proofs.Json.Nesting
import BranchingStory.Proofs.Json.Strings

/-!
# Indented JSON read back

The indented text of a value is read as this value, cut at the greatest depth that is read.
-/

namespace BranchingStory.Json

open Number

attribute [local simp] value? prettyAt

/-- What a number may go on with. -/
def goesOn (c : Char) : Bool :=
  c.isDigit || c == '.' || c == 'e' || c == 'E'

section Numbers

variable {rest : List Char}

lemma digits_end (ends : EndsRun goesOn rest) : EndsRun Char.isDigit rest := by
  intro c head
  have none := ends c head
  simp only [goesOn, Bool.or_eq_false_iff] at none
  exact none.1.1.1

lemma number?_toDigits {n : Nat} (small : n < digitBound) (ends : EndsRun goesOn rest) :
    number? (Nat.toDigits 10 n ++ rest) = some (.int n, rest) := by
  have trimmed := toDigits_trimmed n
  have full : (Nat.toDigits 10 n).isEmpty = false := List.isEmpty_eq_false_iff.mpr Nat.toDigits_ne_nil
  have unsigned : ∀ cs, Nat.toDigits 10 n ++ rest ≠ '-' :: cs := by
    intro cs same
    obtain ⟨c, digits, split⟩ := List.exists_cons_of_ne_nil (Nat.toDigits_ne_nil (n := n) (b := 10))
    have digit := isDigit_toDigits n c (split ▸ List.mem_cons_self)
    rw [split] at same
    cases same
    exact absurd digit (by decide)
  unfold number?
  split
  next below after sign =>
    split at sign
    · next cs same => exact absurd same (unsigned cs)
    · cases sign
      rw [takeWhile_run (isDigit_toDigits n) (digits_end ends),
        dropWhile_run (isDigit_toDigits n) (digits_end ends)]
      cases rest with
      | nil => simp [full, trimmed, integerOfDigits, natOfDigits_toDigits, small]
      | cons c rest =>
        have none := ends c rfl
        simp only [goesOn, Bool.or_eq_false_iff, beq_eq_false_iff_ne] at none
        obtain ⟨⟨⟨_, noPoint⟩, noSmall⟩, noBig⟩ := none
        simp [full, trimmed, integerOfDigits, natOfDigits_toDigits, small, noPoint, noSmall, noBig]

end Numbers

mutual

/-- Whether no float is in a value and its integers have no sign and fit in 64 bits. -/
def Plain : Json → Prop
  | .int n => 0 ≤ n ∧ n < digitBound
  | .float _ => False
  | .arr items => PlainItems items
  | .obj fields => PlainFields fields
  | _ => True

def PlainItems : List Json → Prop
  | [] => True
  | item :: items => item.Plain ∧ PlainItems items

def PlainFields : List (String × Json) → Prop
  | [] => True
  | (_, value) :: fields => value.Plain ∧ PlainFields fields

end

/-! ## Lines -/

/-- The characters of a line break and the spaces of an indentation level. -/
def breakChars (level : Nat) : List Char :=
  '\n' :: List.replicate (2 * level) ' '

lemma toList_lineBreak (level : Nat) : (lineBreak level).toList = breakChars level := by
  simp only [lineBreak, String.toList_append, String.toList_ofList]
  rfl

lemma isSpace_breakChars (level : Nat) : ∀ c ∈ breakChars level, isSpace c := by
  intro c member
  rcases List.mem_cons.mp member with rfl | space
  · decide
  · rw [List.eq_of_mem_replicate space]
    decide

/-- The lines of parts inside brackets of an indentation level. -/
def lines (level : Nat) : List String → List Char
  | [] => breakChars level
  | [part] => breakChars (level + 1) ++ (part.toList ++ breakChars level)
  | part :: next :: parts =>
    breakChars (level + 1) ++ (part.toList ++ ',' :: lines level (next :: parts))

lemma toList_encloseLines (level : Nat) (opening closing : String) {parts : List String}
    (full : parts ≠ []) :
    (encloseLines level opening closing parts).toList =
      opening.toList ++ (lines level parts ++ closing.toList) := by
  have joined : ∀ parts : List String, parts ≠ [] →
      (String.intercalate "," (parts.map (lineBreak (level + 1) ++ ·))).toList ++ breakChars level =
        lines level parts := by
    intro parts
    induction parts with
    | nil => exact fun full => absurd rfl full
    | cons part parts ih =>
      intro _
      cases parts with
      | nil =>
        simp only [List.map_cons, List.map_nil, String.intercalate_singleton, String.toList_append,
          toList_lineBreak, lines, List.append_assoc]
      | cons next parts =>
        have behind := ih nofun
        rw [List.map_cons] at behind
        simp only [List.map_cons, String.intercalate_cons_cons, String.toList_append, toList_lineBreak,
          lines, List.append_assoc, behind]
        rfl
  have filled : parts.isEmpty = false := List.isEmpty_eq_false_iff.mpr full
  simp only [encloseLines, filled, Bool.false_eq_true, if_false, String.toList_append, toList_lineBreak,
    ← joined parts full, List.append_assoc]

/-- A field is its key between quotes, a colon, a space and the value. -/
lemma toList_field (key text : String) :
    (quoted key ++ ": " ++ text).toList =
      '"' :: (key.toList.flatMap escapeChar ++ '"' :: ':' :: ' ' :: text.toList) := by
  simp only [String.toList_append, toList_quoted, List.cons_append, List.append_assoc]
  rfl

section Blanks

variable {depth fuel : Nat} {pad cs rest : List Char}

/-! ## Reading behind blanks -/

lemma value?_pad (blank : ∀ c ∈ pad, isSpace c) :
    value? depth (pad ++ cs) fuel = value? depth cs fuel := by
  cases fuel with
  | zero => rfl
  | succ fuel => rw [value?, value?, List.dropWhile_append_of_pos blank]

lemma value?_space : value? depth (' ' :: cs) fuel = value? depth cs fuel := by
  have blank : ∀ c ∈ [' '], isSpace c := List.all_eq_true.mp rfl
  exact value?_pad blank

lemma items?_pad (blank : ∀ c ∈ pad, isSpace c) :
    items? depth (pad ++ cs) fuel = items? depth cs fuel := by
  cases fuel with
  | zero => rfl
  | succ fuel => rw [items?, items?, value?_pad blank]

lemma fields?_pad (blank : ∀ c ∈ pad, isSpace c) :
    fields? depth (pad ++ cs) fuel = fields? depth cs fuel := by
  cases fuel with
  | zero => rfl
  | succ fuel => rw [fields?, fields?, List.dropWhile_append_of_pos blank]

/-- Whether a value may begin with a character: with no blank and no closing bracket. -/
def opens (c : Char) : Bool :=
  !isSpace c && c != ']' && c != '}'

lemma opens_of_isDigit {c : Char} (digit : c.isDigit) : opens c := by
  refine Bool.not_eq_false _ ▸ fun closed => ?_
  simp only [opens, isSpace, Bool.and_eq_false_iff, Bool.not_eq_false', Bool.or_eq_true, beq_iff_eq,
    bne_eq_false_iff_eq] at closed
  rcases closed with (((((rfl | rfl) | rfl) | rfl) | rfl) | rfl) <;> exact absurd digit (by decide)

lemma ends_opens {c : Char} (first : opens c) : EndsRun isSpace (c :: cs) := by
  rintro d ⟨⟩
  simp only [opens, Bool.and_eq_true, Bool.not_eq_true'] at first
  exact first.1.1

lemma dropWhile_opens (blank : ∀ c ∈ pad, isSpace c) {c : Char} (first : opens c) :
    (pad ++ c :: cs).dropWhile isSpace = c :: cs :=
  dropWhile_run blank (ends_opens first)

/-- An array with something in it. -/
lemma value?_array (blank : ∀ c ∈ pad, isSpace c) {c : Char} (first : opens c) :
    value? depth ('[' :: (pad ++ c :: cs)) (fuel + 1) =
      (items? (depth - 1) (pad ++ c :: cs) fuel).map fun (items, rest) =>
        (within depth (.arr items), rest) := by
  have here : ('[' :: (pad ++ c :: cs)).dropWhile isSpace = '[' :: (pad ++ c :: cs) := rfl
  rw [value?, here, items?_pad blank]
  simp only [dropWhile_opens blank first]
  split
  · next same =>
    cases same
    exact absurd first (by decide)
  · rfl

/-- An object with something in it. -/
lemma value?_object (blank : ∀ c ∈ pad, isSpace c) {c : Char} (first : opens c) :
    value? depth ('{' :: (pad ++ c :: cs)) (fuel + 1) =
      (fields? (depth - 1) (pad ++ c :: cs) fuel).map fun (fields, rest) =>
        (within depth (.ofFields fields), rest) := by
  have here : ('{' :: (pad ++ c :: cs)).dropWhile isSpace = '{' :: (pad ++ c :: cs) := rfl
  rw [value?, here, fields?_pad blank]
  simp only [dropWhile_opens blank first]
  split
  · next same =>
    cases same
    exact absurd first (by decide)
  · rfl

lemma value?_text (text : String) :
    value? depth ('"' :: (text.toList.flatMap escapeChar ++ '"' :: rest)) (fuel + 1) =
      some (.str text, rest) := by
  have here : ('"' :: (text.toList.flatMap escapeChar ++ '"' :: rest)).dropWhile isSpace =
      '"' :: (text.toList.flatMap escapeChar ++ '"' :: rest) := rfl
  rw [value?, here]
  simp only [text?_escaped, Option.map_some, Written.orUnfit]

/-- What begins with a digit is a number. -/
lemma value?_digit {c : Char} (digit : c.isDigit) :
    value? depth (c :: cs) (fuel + 1) = number? (c :: cs) := by
  have here : (c :: cs).dropWhile isSpace = c :: cs :=
    (ends_opens (opens_of_isDigit digit)).dropWhile
  rw [value?, here]
  split <;> first | rfl | (next same => cases same; exact absurd digit (by decide))

/-! ## One item or field -/

lemma items?_last {item : Written} (blank : ∀ c ∈ pad, isSpace c)
    (read : value? depth cs fuel = some (item, pad ++ ']' :: rest)) :
    items? depth cs (fuel + 1) = some ([item], rest) := by
  have ends : EndsRun isSpace (']' :: rest) := by
    rintro c ⟨⟩
    rfl
  simp only [items?, read, bind, Option.bind_some, dropWhile_run blank ends, pure]

lemma items?_next {item : Written} {items : List Written} {behind : List Char}
    (read : value? depth cs fuel = some (item, ',' :: behind))
    (more : items? depth behind fuel = some (items, rest)) :
    items? depth cs (fuel + 1) = some (item :: items, rest) := by
  have here : (',' :: behind).dropWhile isSpace = ',' :: behind := rfl
  simp only [items?, read, bind, Option.bind_some, here, more, pure]

variable {key : String} {value : Written}

lemma fields?_last (blank : ∀ c ∈ pad, isSpace c)
    (read : value? depth cs fuel = some (value, pad ++ '}' :: rest)) :
    fields? depth ('"' :: (key.toList.flatMap escapeChar ++ '"' :: ':' :: ' ' :: cs)) (fuel + 1) =
      some ([(some key, value)], rest) := by
  have here (cs : List Char) : ('"' :: cs).dropWhile isSpace = '"' :: cs := rfl
  have colon (cs : List Char) : (':' :: cs).dropWhile isSpace = ':' :: cs := rfl
  have ends : EndsRun isSpace ('}' :: rest) := by
    rintro c ⟨⟩
    rfl
  rw [← value?_space] at read
  simp only [fields?, here, text?_escaped, colon, read, bind, Option.bind_some, dropWhile_run blank ends,
    pure]

lemma fields?_next {fields : List (Option String × Written)} {behind : List Char}
    (read : value? depth cs fuel = some (value, ',' :: behind))
    (more : fields? depth behind fuel = some (fields, rest)) :
    fields? depth ('"' :: (key.toList.flatMap escapeChar ++ '"' :: ':' :: ' ' :: cs)) (fuel + 1) =
      some ((some key, value) :: fields, rest) := by
  have here (cs : List Char) : ('"' :: cs).dropWhile isSpace = '"' :: cs := rfl
  have colon (cs : List Char) : (':' :: cs).dropWhile isSpace = ':' :: cs := rfl
  rw [← value?_space] at read
  have comma : (',' :: behind).dropWhile isSpace = ',' :: behind := rfl
  simp only [fields?, here, text?_escaped, colon, read, bind, Option.bind_some, comma, more, pure]

end Blanks

lemma mapM_keys (fields : List (String × Written)) :
    (fields.map fun (key, value) => (some key, value)).mapM (fun (key?, value) => key?.map (·, value)) =
      some fields := by
  induction fields with
  | nil => rfl
  | cons field fields ih =>
    simp only [List.map_cons, List.mapM_cons, ih, Option.map_some, bind, Option.bind_some, pure]

lemma ofFields_some (fields : List (String × Written)) :
    Written.ofFields (fields.map fun (key, value) => (some key, value)) = .obj fields := by
  simp only [Written.ofFields, mapM_keys, Written.orUnfit]

/-! ## Whole values -/

section Texts

variable (level : Nat)

lemma toList_null : (prettyAt level .null).toList = ['n', 'u', 'l', 'l'] := by
  simp [prettyAt, scalarText]

lemma toList_true : (prettyAt level (.bool true)).toList = ['t', 'r', 'u', 'e'] := by
  simp [prettyAt, scalarText]

lemma toList_false : (prettyAt level (.bool false)).toList = ['f', 'a', 'l', 's', 'e'] := by
  simp [prettyAt, scalarText]

lemma toList_nat (n : Nat) : (prettyAt level (.int n)).toList = Nat.toDigits 10 n :=
  Nat.toList_repr

lemma toList_str (s : String) :
    (prettyAt level (.str s)).toList = '"' :: (s.toList.flatMap escapeChar ++ ['"']) :=
  toList_quoted s

lemma toList_noItems : (prettyAt level (.arr [])).toList = ['[', ']'] := by
  simp [prettyAt, prettyItems, encloseLines]

lemma toList_noFields : (prettyAt level (.obj [])).toList = ['{', '}'] := by
  simp [prettyAt, prettyFields, encloseLines]

lemma toList_items (item : Json) (items : List Json) :
    (prettyAt level (.arr (item :: items))).toList =
      '[' :: (lines level (prettyItems (level + 1) (item :: items)) ++ [']']) :=
  toList_encloseLines level "[" "]" nofun

lemma toList_fields (field : String × Json) (fields : List (String × Json)) :
    (prettyAt level (.obj (field :: fields))).toList =
      '{' :: (lines level (prettyFields (level + 1) (field :: fields)) ++ ['}']) :=
  toList_encloseLines level "\x7b" "\x7d" nofun

end Texts

/-- The text of a value begins with what a value may begin with. -/
lemma prettyAt_opens {j : Json} (plain : j.Plain) (level : Nat) :
    ∃ c cs, (j.prettyAt level).toList = c :: cs ∧ opens c := by
  cases j with
  | null => exact ⟨'n', _, toList_null level, rfl⟩
  | bool b =>
    cases b with
    | true => exact ⟨'t', _, toList_true level, rfl⟩
    | false => exact ⟨'f', _, toList_false level, rfl⟩
  | float x => exact plain.elim
  | str s => exact ⟨'"', _, toList_str level s, rfl⟩
  | int n =>
    obtain ⟨k, rfl⟩ := Int.eq_ofNat_of_zero_le plain.1
    obtain ⟨c, cs, split⟩ := List.exists_cons_of_ne_nil (Nat.toDigits_ne_nil (n := k) (b := 10))
    have digit := isDigit_toDigits k c (split ▸ List.mem_cons_self)
    exact ⟨c, cs, (toList_nat level k).trans split, opens_of_isDigit digit⟩
  | arr items =>
    cases items with
    | nil => exact ⟨'[', _, toList_noItems level, rfl⟩
    | cons item items => exact ⟨'[', _, toList_items level item items, rfl⟩
  | obj fields =>
    cases fields with
    | nil => exact ⟨'{', _, toList_noFields level, rfl⟩
    | cons field fields => exact ⟨'{', _, toList_fields level field fields, rfl⟩

/-- Behind the opening bracket there is a line break and then the first part. -/
lemma lines_cons (level : Nat) (part : String) (parts : List String) :
    ∃ behind, lines level (part :: parts) = breakChars (level + 1) ++ (part.toList ++ behind) := by
  cases parts with
  | nil => exact ⟨_, rfl⟩
  | cons next parts => exact ⟨_, rfl⟩

lemma ends_breakChars (level : Nat) (rest : List Char) : EndsRun goesOn (breakChars level ++ rest) := by
  intro c head
  cases head
  decide

lemma ends_comma (rest : List Char) : EndsRun goesOn (',' :: rest) := by
  intro c head
  cases head
  decide

mutual

/-- The indented text of a value is read as the value, cut at the depth that is read. -/
lemma value?_prettyAt (depth : Nat) : ∀ (j : Json) (level fuel : Nat) (rest : List Char),
    j.Plain → EndsRun goesOn rest → 2 * (j.prettyAt level).toList.length < fuel →
      value? depth ((j.prettyAt level).toList ++ rest) fuel = some (j.cut depth, rest)
  | _, _, 0, _ => fun _ _ enough => absurd enough (Nat.not_lt_zero _)
  | .null, level, _ + 1, _ => by
    intros
    rw [toList_null]
    rfl
  | .bool true, level, _ + 1, _ => by
    intros
    rw [toList_true]
    rfl
  | .bool false, level, _ + 1, _ => by
    intros
    rw [toList_false]
    rfl
  | .float _, _, _ + 1, _ => fun plain _ _ => plain.elim
  | .str s, level, fuel + 1, rest => by
    intros
    rw [toList_str, List.cons_append, List.append_assoc, List.singleton_append, value?_text]
    rfl
  | .int n, level, fuel + 1, rest => by
    intro plain ends _
    obtain ⟨k, rfl⟩ := Int.eq_ofNat_of_zero_le plain.1
    have small : k < digitBound := Int.ofNat_lt.mp plain.2
    obtain ⟨c, cs, split⟩ := List.exists_cons_of_ne_nil (Nat.toDigits_ne_nil (n := k) (b := 10))
    have digit := isDigit_toDigits k c (split ▸ List.mem_cons_self)
    have read := number?_toDigits small ends
    rw [split] at read
    rw [toList_nat, split, List.cons_append, value?_digit digit, ← List.cons_append, read]
    rfl
  | .arr [], level, fuel + 1, rest => by
    intros
    rw [toList_noItems]
    rfl
  | .obj [], level, fuel + 1, rest => by
    intros
    rw [toList_noFields]
    rfl
  | .arr (item :: items), level, fuel + 1, rest => by
    intro plain _ enough
    rw [toList_items, List.length_cons, List.length_append, List.length_singleton] at enough
    have read := items?_lines (depth - 1) item items level fuel rest plain (by omega)
    obtain ⟨c, cs, first, opening⟩ := prettyAt_opens plain.1 (level + 1)
    obtain ⟨behind, begins⟩ := lines_cons level (item.prettyAt (level + 1)) (prettyItems (level + 1) items)
    have text : lines level (prettyItems (level + 1) (item :: items)) ++ ']' :: rest =
        breakChars (level + 1) ++ c :: (cs ++ behind ++ ']' :: rest) := by
      rw [prettyItems, begins, first]
      simp only [List.append_assoc, List.cons_append]
    rw [toList_items, List.cons_append, List.append_assoc, List.singleton_append, text,
      value?_array (isSpace_breakChars _) opening, ← text, read]
    rfl
  | .obj ((key, value) :: fields), level, fuel + 1, rest => by
    intro plain _ enough
    rw [toList_fields, List.length_cons, List.length_append, List.length_singleton] at enough
    have read := fields?_lines (depth - 1) key value fields level fuel rest plain (by omega)
    obtain ⟨behind, begins⟩ := lines_cons level (quoted key ++ ": " ++ value.prettyAt (level + 1))
      (prettyFields (level + 1) fields)
    have text : ∃ cs, lines level (prettyFields (level + 1) ((key, value) :: fields)) ++ '}' :: rest =
        breakChars (level + 1) ++ '"' :: cs := by
      rw [prettyFields, begins, toList_field]
      simp only [List.append_assoc, List.cons_append]
      exact ⟨_, rfl⟩
    obtain ⟨cs, text⟩ := text
    rw [toList_fields, List.cons_append, List.append_assoc, List.singleton_append, text,
      value?_object (isSpace_breakChars _) rfl, ← text, read]
    simp only [Option.map_some, ofFields_some]
    rfl
termination_by structural _ _ fuel => fuel

lemma items?_lines (depth : Nat) : ∀ (item : Json) (items : List Json) (level fuel : Nat)
    (rest : List Char), item.Plain ∧ PlainItems items →
      2 * (lines level (prettyItems (level + 1) (item :: items))).length + 1 < fuel →
      items? depth (lines level (prettyItems (level + 1) (item :: items)) ++ ']' :: rest) fuel =
        some (cutItems depth (item :: items), rest)
  | _, _, _, 0, _ => fun _ enough => absurd enough (Nat.not_lt_zero _)
  | item, [], level, fuel + 1, rest => by
    intro plain enough
    simp only [prettyItems, lines, List.length_append] at enough
    have read := value?_prettyAt depth item (level + 1) fuel (breakChars level ++ ']' :: rest)
      plain.1 (ends_breakChars _ _) (by omega)
    rw [prettyItems, prettyItems, lines, List.append_assoc, List.append_assoc,
      items?_pad (isSpace_breakChars _), items?_last (isSpace_breakChars _) read]
    rfl
  | item, next :: items, level, fuel + 1, rest => by
    intro plain enough
    simp only [prettyItems, lines, List.length_append, List.length_cons] at enough
    have more := items?_lines depth next items level fuel rest plain.2
      (by simp only [prettyItems]; omega)
    have read := value?_prettyAt depth item (level + 1) fuel
      (',' :: (lines level (prettyItems (level + 1) (next :: items)) ++ ']' :: rest)) plain.1
      (ends_comma _) (by omega)
    rw [prettyItems, prettyItems, lines, List.append_assoc, List.append_assoc, List.cons_append,
      items?_pad (isSpace_breakChars _), ← prettyItems, items?_next read more]
    rfl
termination_by structural _ _ _ fuel => fuel

lemma fields?_lines (depth : Nat) : ∀ (key : String) (value : Json) (fields : List (String × Json))
    (level fuel : Nat) (rest : List Char), value.Plain ∧ PlainFields fields →
      2 * (lines level (prettyFields (level + 1) ((key, value) :: fields))).length + 1 < fuel →
      fields? depth (lines level (prettyFields (level + 1) ((key, value) :: fields)) ++ '}' :: rest) fuel =
        some ((cutFields depth ((key, value) :: fields)).map fun (key, value) => (some key, value), rest)
  | _, _, _, _, 0, _ => fun _ enough => absurd enough (Nat.not_lt_zero _)
  | key, value, [], level, fuel + 1, rest => by
    intro plain enough
    simp only [prettyFields, lines, toList_field, List.length_append, List.length_cons] at enough
    have read := value?_prettyAt depth value (level + 1) fuel (breakChars level ++ '}' :: rest)
      plain.1 (ends_breakChars _ _) (by omega)
    rw [prettyFields, prettyFields, lines, toList_field]
    simp only [List.append_assoc, List.cons_append]
    rw [fields?_pad (isSpace_breakChars _), fields?_last (isSpace_breakChars _) read]
    rfl
  | key, value, (next, other) :: fields, level, fuel + 1, rest => by
    intro plain enough
    simp only [prettyFields, lines, toList_field, List.length_append, List.length_cons] at enough
    have more := fields?_lines depth next other fields level fuel rest plain.2
      (by simp only [prettyFields]; omega)
    have read := value?_prettyAt depth value (level + 1) fuel
      (',' :: (lines level (prettyFields (level + 1) ((next, other) :: fields)) ++ '}' :: rest)) plain.1
      (ends_comma _) (by omega)
    rw [prettyFields, prettyFields, lines, toList_field, ← prettyFields]
    simp only [List.append_assoc, List.cons_append]
    rw [fields?_pad (isSpace_breakChars _), fields?_next read more]
    rfl
termination_by structural _ _ _ _ fuel => fuel

end

/-- The indented text of a value is read as the value, cut at the greatest depth that is read. -/
theorem read?_pretty {j : Json} (plain : j.Plain) : read? j.pretty = some (j.cut maxDepth) := by
  have ends : EndsRun goesOn [] := fun c head => nomatch head
  have read := value?_prettyAt maxDepth j 0 (2 * j.pretty.toList.length + 2) [] plain ends
    (by rw [pretty]; omega)
  rw [List.append_nil] at read
  simp only [read?, pretty] at read ⊢
  simp only [read, bind, Option.bind_some, List.all_nil, guard_true, pure]

end BranchingStory.Json
