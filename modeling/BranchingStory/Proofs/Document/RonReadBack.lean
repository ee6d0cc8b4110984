import Mathlib.Control.Basic
import Mathlib.Data.Option.Basic
import BranchingStory.Proofs.Digits
import BranchingStory.Proofs.Document.RonStrings
import BranchingStory.Proofs.Json.ReadBack

/-!
# RON read back

The text of a document is read as this document, if the names in it are words.
-/

namespace BranchingStory

namespace Ron

open Json (isSpace)

/-- Whether a name is made of letters, digits and underscores, begins with no digit and is no word of
the notation. -/
def isWord (name : String) : Bool :=
  name.toList.all isNameChar && name.toList.head?.any (!·.isDigit) &&
    !(["None", "true", "false", "Some"].contains name)

end Ron

namespace Doc

open Ron (isWord)

mutual

/-- Whether the names of all fields and choices of a document are words, and no choice with fields is
without any. -/
def Named : Doc → Prop
  | .some content => content.Named
  | .list items => NamedItems items
  | .table entries => NamedValues entries
  | .record fields => NamedFields fields
  | .unit tag => isWord tag
  | .tagged tag content => isWord tag ∧ content.Named
  | .taggedRecord tag fields => isWord tag ∧ fields ≠ [] ∧ NamedFields fields
  | _ => True

def NamedItems : List Doc → Prop
  | [] => True
  | item :: items => item.Named ∧ NamedItems items

def NamedValues : List (String × Doc) → Prop
  | [] => True
  | (_, value) :: entries => value.Named ∧ NamedValues entries

def NamedFields : List (String × Doc) → Prop
  | [] => True
  | (name, value) :: fields => isWord name ∧ value.Named ∧ NamedFields fields

end

end Doc

namespace Ron

open Json (isSpace opens ends_opens dropWhile_opens)

attribute [local simp] doc? printAt

/-! ## Words and rows -/

section Words

variable {name : String}

lemma isNameChar_of_isWord (word : isWord name) : ∀ c ∈ name.toList, isNameChar c := by
  simp only [isWord, Bool.and_eq_true] at word
  exact List.all_eq_true.mp word.1.1

lemma isWord_cons (word : isWord name) :
    ∃ c cs, name.toList = c :: cs ∧ isNameChar c ∧ c.isDigit = false := by
  have chars := isNameChar_of_isWord word
  simp only [isWord, Bool.and_eq_true] at word
  cases split : name.toList with
  | nil =>
    rw [split] at word
    exact absurd word.1.2 (by decide)
  | cons c cs =>
    rw [split] at word chars
    refine ⟨c, cs, rfl, chars c List.mem_cons_self, ?_⟩
    simpa using word.1.2

lemma isWord_reserved (word : isWord name) :
    name ≠ "None" ∧ name ≠ "true" ∧ name ≠ "false" ∧ name ≠ "Some" := by
  simp only [isWord, Bool.and_eq_true, Bool.not_eq_true', List.contains_eq_mem, decide_eq_false_iff_not,
    List.mem_cons, not_or] at word
  exact ⟨word.2.1, word.2.2.1, word.2.2.2.1, word.2.2.2.2.1⟩

end Words

/-- The spaces in front of a line of an indentation level. -/
def spaces (level : Nat) : List Char :=
  List.replicate (4 * level) ' '

lemma toList_indent (level : Nat) : (indent level).toList = spaces level := by
  rw [indent, String.toList_ofList, spaces]

lemma isSpace_spaces (level : Nat) : ∀ c ∈ spaces level, isSpace c := by
  intro c member
  rw [List.eq_of_mem_replicate member]
  decide

/-- The lines of parts inside brackets of an indentation level, behind the first line break. -/
def rows (level : Nat) : List String → List Char
  | [] => spaces level
  | part :: parts => spaces (level + 1) ++ (part.toList ++ ',' :: '\n' :: rows level parts)

lemma toList_enclose (level : Nat) (opening closing : String) {parts : List String} (full : parts ≠ []) :
    (enclose level opening closing parts).toList =
      opening.toList ++ '\n' :: (rows level parts ++ closing.toList) := by
  have joined : ∀ parts : List String,
      (parts.map fun part => indent (level + 1) ++ part ++ ",\n").flatMap String.toList ++ spaces level =
        rows level parts := by
    intro parts
    induction parts with
    | nil => rfl
    | cons part parts ih =>
      rw [rows, ← ih]
      simp only [List.map_cons, List.flatMap_cons, String.toList_append, toList_indent, List.append_assoc]
      rfl
  have filled : parts.isEmpty = false := List.isEmpty_eq_false_iff.mpr full
  simp only [enclose, filled, Bool.false_eq_true, if_false, String.toList_append, String.toList_join,
    toList_indent, ← joined parts, List.append_assoc]
  rfl

/-! ## The parts of a text -/

lemma isNameChar_of_isDigit {c : Char} (digit : c.isDigit) : isNameChar c := by
  simp only [isNameChar, Char.isAlphanum, digit, Bool.or_true, Bool.true_or]

lemma opens_of_isNameChar {c : Char} (part : isNameChar c) : opens c := by
  refine Bool.not_eq_false _ ▸ fun closed => ?_
  simp only [opens, isSpace, Bool.and_eq_false_iff, Bool.not_eq_false', Bool.or_eq_true, beq_iff_eq,
    bne_eq_false_iff_eq] at closed
  rcases closed with (((((rfl | rfl) | rfl) | rfl) | rfl) | rfl) <;> exact absurd part (by decide)

/-- Whether a text is a name, or begins with an opening bracket or a quote, perhaps behind a name. -/
structure Shaped (text : List Char) : Prop where
  full : text ≠ []
  parts : ∃ name more, text = name ++ more ∧ (∀ c ∈ name, isNameChar c) ∧
    ∀ c, more.head? = some c → c ∈ ['"', '[', '{', '(']

lemma Shaped.opens {text : List Char} (shaped : Shaped text) : ∃ c cs, text = c :: cs ∧ opens c := by
  obtain ⟨c, cs, split⟩ := List.exists_cons_of_ne_nil shaped.full
  obtain ⟨name, more, same, chars, opening⟩ := shaped.parts
  refine ⟨c, cs, split, ?_⟩
  rw [split] at same
  cases name with
  | nil =>
    have first := opening c (by rw [← List.nil_append more, ← same]; rfl)
    have table : ∀ c ∈ ['"', '[', '{', '('], Json.opens c := List.all_eq_true.mp rfl
    exact table c first
  | cons d name =>
    cases same
    exact opens_of_isNameChar (chars c List.mem_cons_self)

/-- The content of a choice is no field with a name. -/
lemma Shaped.fieldName? {text : List Char} (shaped : Shaped text) (rest : List Char) :
    fieldName? (text ++ ')' :: rest) = none := by
  obtain ⟨name, more, rfl, chars, opening⟩ := shaped.parts
  have first : ∃ c cs, more ++ ')' :: rest = c :: cs ∧ c ∈ ['"', '[', '{', '(', ')'] := by
    cases more with
    | nil => exact ⟨')', rest, rfl, by decide⟩
    | cons c more => exact ⟨c, _, rfl, List.mem_append_left [')'] (opening c rfl)⟩
  obtain ⟨c, cs, split, member⟩ := first
  have table : ∀ c ∈ ['"', '[', '{', '(', ')'], !isNameChar c && !isSpace c && c != ':' :=
    List.all_eq_true.mp rfl
  have none := table c member
  simp only [Bool.and_eq_true, Bool.not_eq_true', bne_iff_ne] at none
  obtain ⟨⟨noName, noSpace⟩, noColon⟩ := none
  have ends : EndsRun isNameChar (c :: cs) := by
    rintro d ⟨⟩
    exact noName
  have stays : (c :: cs).dropWhile isSpace = c :: cs := by
    refine EndsRun.dropWhile ?_
    rintro d ⟨⟩
    exact noSpace
  rw [List.append_assoc, split, Ron.fieldName?, skipSpace, dropWhile_run chars ends, stays]
  split
  · next same =>
    cases same
    exact absurd rfl noColon
  · rfl

lemma shaped_name {name : List Char} (full : name ≠ []) (chars : ∀ c ∈ name, isNameChar c) : Shaped name :=
  ⟨full, name, [], (List.append_nil name).symm, chars, nofun⟩

lemma shaped_bracket {name more : List Char} {c : Char} (chars : ∀ c ∈ name, isNameChar c)
    (opening : c ∈ ['"', '[', '{', '(']) : Shaped (name ++ c :: more) := by
  refine ⟨List.append_ne_nil_of_right_ne_nil _ nofun, name, c :: more, rfl, chars, ?_⟩
  rintro d ⟨⟩
  exact opening

lemma shaped_opening {more : List Char} {c : Char} (opening : c ∈ ['"', '[', '{', '(']) :
    Shaped (c :: more) := by
  have chars : ∀ c ∈ [], isNameChar c := nofun
  exact shaped_bracket chars opening

/-! ## The texts of documents -/

section Texts

variable (level : Nat)

lemma toList_none : (printAt level .none).toList = ['N', 'o', 'n', 'e'] := by
  simp [printAt]

lemma toList_some (content : Doc) :
    (printAt level (.some content)).toList =
      ['S', 'o', 'm', 'e'] ++ '(' :: ((printAt level content).toList ++ [')']) := by
  simp [printAt]

lemma toList_true : (printAt level (.bool true)).toList = ['t', 'r', 'u', 'e'] := by
  simp [printAt]

lemma toList_false : (printAt level (.bool false)).toList = ['f', 'a', 'l', 's', 'e'] := by
  simp [printAt]

lemma toList_nat (n : Nat) : (printAt level (.nat n)).toList = Nat.toDigits 10 n :=
  Nat.toList_repr

lemma toList_str (s : String) :
    (printAt level (.str s)).toList = '"' :: (s.toList.flatMap escapeChar ++ ['"']) :=
  toList_quoted s

lemma toList_noItems : (printAt level (.list [])).toList = ['[', ']'] := by
  simp [printAt, printItems, enclose]

lemma toList_noEntries : (printAt level (.table [])).toList = ['{', '}'] := by
  simp [printAt, printEntries, enclose]

lemma toList_noFields : (printAt level (.record [])).toList = ['(', ')'] := by
  simp [printAt, printFields, enclose]

lemma toList_items (item : Doc) (items : List Doc) :
    (printAt level (.list (item :: items))).toList =
      '[' :: '\n' :: (rows level (printItems (level + 1) (item :: items)) ++ [']']) :=
  toList_enclose level "[" "]" nofun

lemma toList_entries (entry : String × Doc) (entries : List (String × Doc)) :
    (printAt level (.table (entry :: entries))).toList =
      '{' :: '\n' :: (rows level (printEntries (level + 1) (entry :: entries)) ++ ['}']) :=
  toList_enclose level "\x7b" "\x7d" nofun

lemma toList_fields (field : String × Doc) (fields : List (String × Doc)) :
    (printAt level (.record (field :: fields))).toList =
      '(' :: '\n' :: (rows level (printFields (level + 1) (field :: fields)) ++ [')']) :=
  toList_enclose level "(" ")" nofun

lemma toList_unit (tag : String) : (printAt level (.unit tag)).toList = tag.toList :=
  rfl

lemma toList_tagged (tag : String) (content : Doc) :
    (printAt level (.tagged tag content)).toList =
      tag.toList ++ '(' :: ((printAt level content).toList ++ [')']) := by
  simp [printAt]

lemma toList_taggedRecord (tag : String) (field : String × Doc) (fields : List (String × Doc)) :
    (printAt level (.taggedRecord tag (field :: fields))).toList =
      tag.toList ++ '(' :: '\n' :: (rows level (printFields (level + 1) (field :: fields)) ++ [')']) := by
  have full : printFields (level + 1) (field :: fields) ≠ [] := nofun
  rw [printAt, String.toList_append, toList_enclose level "(" ")" full]
  rfl

/-- An entry is its key between quotes, a colon, a space and the value. -/
lemma toList_entry (key text : String) :
    (quoted key ++ ": " ++ text).toList =
      '"' :: (key.toList.flatMap escapeChar ++ '"' :: ':' :: ' ' :: text.toList) := by
  simp only [String.toList_append, toList_quoted, List.cons_append, List.append_assoc]
  rfl

lemma toList_field (name text : String) :
    (name ++ ": " ++ text).toList = name.toList ++ ':' :: ' ' :: text.toList := by
  simp only [String.toList_append, List.append_assoc]
  rfl

end Texts

lemma printAt_shaped {d : Doc} (named : d.Named) (level : Nat) : Shaped (printAt level d).toList := by
  have digits (n : Nat) : ∀ c ∈ Nat.toDigits 10 n, isNameChar c :=
    fun c member => isNameChar_of_isDigit (Number.isDigit_toDigits n c member)
  cases d with
  | none => exact toList_none level ▸ shaped_name nofun (List.all_eq_true.mp rfl)
  | some content => exact toList_some level content ▸ shaped_bracket (List.all_eq_true.mp rfl) (by decide)
  | bool b =>
    cases b with
    | true => exact toList_true level ▸ shaped_name nofun (List.all_eq_true.mp rfl)
    | false => exact toList_false level ▸ shaped_name nofun (List.all_eq_true.mp rfl)
  | nat n => exact toList_nat level n ▸ shaped_name Nat.toDigits_ne_nil (digits n)
  | str s => exact toList_str level s ▸ shaped_opening (by decide)
  | list items =>
    cases items with
    | nil => exact toList_noItems level ▸ shaped_opening (by decide)
    | cons item items => exact toList_items level item items ▸ shaped_opening (by decide)
  | table entries =>
    cases entries with
    | nil => exact toList_noEntries level ▸ shaped_opening (by decide)
    | cons entry entries =>
      exact toList_entries level entry entries ▸ shaped_opening (by decide)
  | record fields =>
    cases fields with
    | nil => exact toList_noFields level ▸ shaped_opening (by decide)
    | cons field fields =>
      exact toList_fields level field fields ▸ shaped_opening (by decide)
  | unit tag =>
    obtain ⟨c, cs, split, _⟩ := isWord_cons named
    exact shaped_name (split ▸ List.cons_ne_nil c cs) (isNameChar_of_isWord named)
  | tagged tag content =>
    exact toList_tagged level tag content ▸ shaped_bracket (isNameChar_of_isWord named.1) (by decide)
  | taggedRecord tag fields =>
    cases fields with
    | nil => exact absurd rfl named.2.1
    | cons field fields =>
      exact toList_taggedRecord level tag field fields ▸
        shaped_bracket (isNameChar_of_isWord named.1) (by decide)

/-! ## Reading one form -/

/-- What a name may go on with. -/
def goesOn (c : Char) : Bool :=
  isNameChar c || c == '('

section Forms

variable {fuel : Nat} {cs rest : List Char}

lemma doc?_space : doc? (' ' :: cs) fuel = doc? cs fuel := by
  have here : skipSpace (' ' :: cs) = skipSpace cs := rfl
  cases fuel with
  | zero => rfl
  | succ fuel => rw [doc?, doc?, here]

lemma name_ends (ends : EndsRun goesOn rest) : EndsRun isNameChar rest := by
  intro c head
  have none := ends c head
  rw [goesOn, Bool.or_eq_false_iff] at none
  exact none.1

lemma digits_end (ends : EndsRun goesOn rest) : EndsRun Char.isDigit rest := by
  intro c head
  refine Bool.eq_false_iff.mpr fun digit => ?_
  have none := name_ends ends c head
  rw [isNameChar_of_isDigit digit] at none
  cases none

lemma doc?_name {c : Char} {name : List Char} (chars : ∀ d ∈ c :: name, isNameChar d)
    (noDigit : c.isDigit = false) (ends : EndsRun isNameChar rest) :
    doc? (c :: name ++ rest) (fuel + 1) = named? (String.ofList (c :: name)) rest fuel := by
  have part : isNameChar c := chars c List.mem_cons_self
  have here : skipSpace (c :: (name ++ rest)) = c :: (name ++ rest) :=
    (ends_opens (opens_of_isNameChar part)).dropWhile
  have word := takeWhile_run chars ends
  have behind := dropWhile_run chars ends
  rw [List.cons_append] at word behind ⊢
  rw [doc?, here]
  split
  case h_5 same =>
    cases same
    simp only [noDigit, Bool.false_eq_true, if_false, word, behind, List.isEmpty_cons]
  case h_6 same => cases same
  all_goals
    next same =>
    cases same
    exact absurd part (by decide)

lemma doc?_word {name : String} (word : isWord name) (ends : EndsRun isNameChar rest) :
    doc? (name.toList ++ rest) (fuel + 1) = named? name rest fuel := by
  have chars := isNameChar_of_isWord word
  obtain ⟨c, cs, split, _, noDigit⟩ := isWord_cons word
  have same : name = String.ofList (c :: cs) := by rw [← split, String.ofList_toList]
  rw [split] at chars ⊢
  rw [doc?_name chars noDigit ends, ← same]

lemma doc?_nat (n : Nat) (ends : EndsRun Char.isDigit rest) :
    doc? (Nat.toDigits 10 n ++ rest) (fuel + 1) = some (.nat n, rest) := by
  obtain ⟨c, cs, split⟩ := List.exists_cons_of_ne_nil (Nat.toDigits_ne_nil (n := n) (b := 10))
  have digits := Number.isDigit_toDigits n
  have digit : c.isDigit := digits c (split ▸ List.mem_cons_self)
  have run := takeWhile_run digits ends
  have behind := dropWhile_run digits ends
  have value := Number.natOfDigits_toDigits n
  have here : skipSpace (c :: (cs ++ rest)) = c :: (cs ++ rest) :=
    (ends_opens (opens_of_isNameChar (isNameChar_of_isDigit digit))).dropWhile
  rw [split] at run behind value ⊢
  rw [List.cons_append] at run behind ⊢
  rw [doc?, here]
  split
  case h_5 same =>
    cases same
    simp only [digit, if_true, run, behind, value]
  case h_6 same => cases same
  all_goals
    next same =>
    cases same
    exact absurd digit (by decide)

lemma doc?_str (s : String) (enough : s.toList.length < fuel) :
    doc? ('"' :: (s.toList.flatMap escapeChar ++ '"' :: rest)) (fuel + 1) = some (.str s, rest) := by
  have here (cs : List Char) : skipSpace ('"' :: cs) = '"' :: cs := rfl
  simp only [doc?, here, text?_escaped s.toList [] rest enough, Option.map_some, List.reverse_nil,
    List.nil_append, String.ofList_toList]

lemma doc?_list : doc? ('[' :: '\n' :: cs) (fuel + 1) =
    (items? (skipSpace cs) fuel).map fun (items, rest) => (.list items, rest) :=
  rfl

lemma doc?_table : doc? ('{' :: '\n' :: cs) (fuel + 1) =
    (entries? (skipSpace cs) fuel).map fun (entries, rest) => (.table entries, rest) :=
  rfl

lemma doc?_record : doc? ('(' :: '\n' :: cs) (fuel + 1) =
    (fields? (skipSpace cs) fuel).map fun (fields, rest) => (.record fields, rest) :=
  rfl

lemma named?_unit {tag : String} (word : isWord tag) (ends : EndsRun goesOn rest) :
    named? tag rest (fuel + 1) = some (.unit tag, rest) := by
  obtain ⟨noNone, noTrue, noFalse, _⟩ := isWord_reserved word
  rw [named?]
  · exact noNone
  · exact noTrue
  · exact noFalse
  · rintro behind rfl
    exact absurd (ends '(' rfl) (by decide)

/-- A choice with a content that is no fields. -/
lemma named?_content {tag : String} {d : Doc} (word : isWord tag) (noField : fieldName? (skipSpace cs) = none)
    (read : doc? (skipSpace cs) fuel = some (d, ')' :: rest)) :
    named? tag ('(' :: cs) (fuel + 1) = some (.tagged tag d, rest) := by
  obtain ⟨noNone, noTrue, noFalse, noSome⟩ := isWord_reserved word
  have closing : skipSpace (')' :: rest) = ')' :: rest := rfl
  rw [named?]
  · simp only [noField, Option.isSome_none, Bool.false_eq_true, and_false, if_false, read, bind,
      Option.bind_some, closing, noSome, pure]
  · exact noNone
  · exact noTrue
  · exact noFalse

lemma named?_some {d : Doc} (read : doc? (skipSpace cs) fuel = some (d, ')' :: rest)) :
    named? "Some" ('(' :: cs) (fuel + 1) = some (.some d, rest) := by
  have closing : skipSpace (')' :: rest) = ')' :: rest := rfl
  rw [named?]
  · simp only [ne_eq, not_true_eq_false, false_and, if_false, read, bind, Option.bind_some, closing,
      if_true, pure]
  all_goals decide

/-- A choice whose content is fields. -/
lemma named?_fields {tag : String} {fields : List (String × Doc)} (word : isWord tag)
    (field : (fieldName? (skipSpace cs)).isSome) (read : fields? (skipSpace cs) fuel = some (fields, rest)) :
    named? tag ('(' :: cs) (fuel + 1) = some (.taggedRecord tag fields, rest) := by
  obtain ⟨noNone, noTrue, noFalse, noSome⟩ := isWord_reserved word
  rw [named?]
  · simp only [noSome, field, ne_eq, not_false_eq_true, and_self, if_true, read, Option.map_some]
  · exact noNone
  · exact noTrue
  · exact noFalse

/-! ## One item, entry or field -/

lemma skipComma_next (closing : Char) : skipComma closing (',' :: '\n' :: rest) = some (skipSpace rest) :=
  rfl

lemma items?_next {item : Doc} {items : List Doc} {c : Char} {behind : List Char} (first : opens c)
    (read : doc? (c :: cs) fuel = some (item, ',' :: '\n' :: behind))
    (more : items? (skipSpace behind) fuel = some (items, rest)) :
    items? (c :: cs) (fuel + 1) = some (item :: items, rest) := by
  rw [items?]
  · simp only [read, bind, Option.bind_some, skipComma_next, more, pure]
  · rintro _ ⟨⟩
    exact absurd first (by decide)

lemma entries?_next {key : String} {value : Doc} {entries : List (String × Doc)} {behind : List Char}
    (enough : key.toList.length < fuel) (read : doc? cs fuel = some (value, ',' :: '\n' :: behind))
    (more : entries? (skipSpace behind) fuel = some (entries, rest)) :
    entries? ('"' :: (key.toList.flatMap escapeChar ++ '"' :: ':' :: ' ' :: cs)) (fuel + 1) =
      some ((key, value) :: entries, rest) := by
  have colon (cs : List Char) : skipSpace (':' :: cs) = ':' :: cs := rfl
  rw [← doc?_space] at read
  simp only [entries?, text?_escaped key.toList [] _ enough, bind, Option.bind_some, colon, read,
    skipComma_next, more, pure, List.reverse_nil, List.nil_append, String.ofList_toList]

lemma fieldName?_word {name : String} (word : isWord name) (rest : List Char) :
    fieldName? (name.toList ++ ':' :: rest) = some (name, rest) := by
  have ends : EndsRun isNameChar (':' :: rest) := by
    rintro c ⟨⟩
    decide
  have colon : skipSpace (':' :: rest) = ':' :: rest := rfl
  obtain ⟨c, cs, split, _⟩ := isWord_cons word
  have full : name.toList.isEmpty = false := by rw [split]; rfl
  simp only [fieldName?, takeWhile_run (isNameChar_of_isWord word) ends,
    dropWhile_run (isNameChar_of_isWord word) ends, colon, full, Bool.false_eq_true, if_false,
    String.ofList_toList]

lemma fields?_next {name : String} {value : Doc} {fields : List (String × Doc)} {behind : List Char}
    (word : isWord name) (read : doc? cs fuel = some (value, ',' :: '\n' :: behind))
    (more : fields? (skipSpace behind) fuel = some (fields, rest)) :
    fields? (name.toList ++ ':' :: ' ' :: cs) (fuel + 1) = some ((name, value) :: fields, rest) := by
  rw [← doc?_space] at read
  rw [fields?]
  · simp only [fieldName?_word word, read, bind, Option.bind_some, skipComma_next, more, pure]
  · intro behind same
    obtain ⟨c, cs, split, part, _⟩ := isWord_cons word
    rw [split] at same
    cases same
    exact absurd part (by decide)

end Forms

/-! ## Whole documents -/

lemma ends_comma (rest : List Char) : EndsRun goesOn (',' :: rest) := by
  rintro c ⟨⟩
  decide

lemma ends_paren (rest : List Char) : EndsRun goesOn (')' :: rest) := by
  rintro c ⟨⟩
  decide

lemma ends_opening (rest : List Char) : EndsRun isNameChar ('(' :: rest) := by
  rintro c ⟨⟩
  decide

/-- Behind the blanks of the rows there are the closing bracket or the first part. -/
lemma skipSpace_noRows (level : Nat) {c : Char} (closing : isSpace c = false) (rest : List Char) :
    skipSpace (rows level [] ++ c :: rest) = c :: rest := by
  refine dropWhile_run (isSpace_spaces level) ?_
  rintro d ⟨⟩
  exact closing

lemma skipSpace_rows (level : Nat) {part : String} {c : Char} {cs : List Char}
    (split : part.toList = c :: cs) (first : opens c) (parts : List String) (rest : List Char) :
    skipSpace (rows level (part :: parts) ++ rest) =
      part.toList ++ (',' :: '\n' :: (rows level parts ++ rest)) := by
  rw [rows, List.append_assoc, split]
  simp only [List.append_assoc, List.cons_append]
  exact dropWhile_opens (isSpace_spaces _) first

lemma skipSpace_shaped {text : List Char} (shaped : Shaped text) (rest : List Char) :
    skipSpace (text ++ rest) = text ++ rest := by
  obtain ⟨c, cs, rfl, first⟩ := shaped.opens
  exact (ends_opens first).dropWhile

/-- A text that is not empty is read with enough for what is inside of it. -/
lemma exists_fuel {text : List Char} {fuel : Nat} (full : text ≠ []) (enough : 2 * text.length < fuel + 1) :
    ∃ less, fuel = less + 1 := by
  have positive := List.length_pos_iff.mpr full
  exact Nat.exists_eq_add_one.mpr (by omega)

mutual

/-- The text of a document is read as the document, whatever comes behind it. -/
lemma doc?_printAt : ∀ (d : Doc) (level fuel : Nat) (rest : List Char), d.Named → EndsRun goesOn rest →
    2 * (printAt level d).toList.length < fuel →
      doc? ((printAt level d).toList ++ rest) fuel = some (d, rest)
  | _, _, 0, _ => fun _ _ enough => absurd enough (Nat.not_lt_zero _)
  | .none, level, fuel + 1, rest => by
    intro _ ends enough
    rw [toList_none] at enough ⊢
    obtain ⟨fuel, rfl⟩ := exists_fuel (List.cons_ne_nil _ _) enough
    rw [doc?_name (List.all_eq_true.mp rfl) rfl (name_ends ends)]
    rfl
  | .bool true, level, fuel + 1, rest => by
    intro _ ends enough
    rw [toList_true] at enough ⊢
    obtain ⟨fuel, rfl⟩ := exists_fuel (List.cons_ne_nil _ _) enough
    rw [doc?_name (List.all_eq_true.mp rfl) rfl (name_ends ends)]
    rfl
  | .bool false, level, fuel + 1, rest => by
    intro _ ends enough
    rw [toList_false] at enough ⊢
    obtain ⟨fuel, rfl⟩ := exists_fuel (List.cons_ne_nil _ _) enough
    rw [doc?_name (List.all_eq_true.mp rfl) rfl (name_ends ends)]
    rfl
  | .nat n, level, fuel + 1, rest => by
    intro _ ends _
    rw [toList_nat, doc?_nat n (digits_end ends)]
  | .str s, level, fuel + 1, rest => by
    intro _ _ enough
    have held := length_le_escaped s.toList
    rw [toList_str] at enough ⊢
    simp only [List.length_cons, List.length_append, List.length_nil] at enough
    rw [List.cons_append, List.append_assoc, List.singleton_append, doc?_str s (by omega)]
  | .unit tag, level, fuel + 1, rest => by
    intro word ends enough
    obtain ⟨c, cs, split, _⟩ := isWord_cons word
    rw [toList_unit] at enough ⊢
    obtain ⟨fuel, rfl⟩ := exists_fuel (split ▸ List.cons_ne_nil c cs) enough
    rw [doc?_word word (name_ends ends), named?_unit word ends]
  | .some content, level, fuel + 1, rest => by
    intro named _ enough
    rw [toList_some] at enough ⊢
    simp only [List.length_append, List.length_cons, List.length_nil] at enough
    obtain ⟨fuel, rfl⟩ : ∃ less, fuel = less + 1 := Nat.exists_eq_add_one.mpr (by omega)
    have read := doc?_printAt content level fuel (')' :: rest) named (ends_paren rest) (by omega)
    rw [← skipSpace_shaped (printAt_shaped (d := content) named level)] at read
    have text : ['S', 'o', 'm', 'e'] ++ '(' :: ((printAt level content).toList ++ [')']) ++ rest =
        'S' :: ['o', 'm', 'e'] ++ '(' :: ((printAt level content).toList ++ ')' :: rest) := by
      simp only [List.cons_append, List.nil_append, List.append_assoc]
    rw [text, doc?_name (List.all_eq_true.mp rfl) rfl (ends_opening _)]
    exact named?_some read
  | .tagged tag content, level, fuel + 1, rest => by
    intro named _ enough
    obtain ⟨word, inside⟩ := named
    have shaped := printAt_shaped inside level
    rw [toList_tagged] at enough ⊢
    simp only [List.length_append, List.length_cons, List.length_nil] at enough
    obtain ⟨fuel, rfl⟩ : ∃ less, fuel = less + 1 := Nat.exists_eq_add_one.mpr (by omega)
    have read := doc?_printAt content level fuel (')' :: rest) inside (ends_paren rest) (by omega)
    have noField := shaped.fieldName? rest
    rw [← skipSpace_shaped shaped] at read noField
    rw [List.append_assoc, List.cons_append, List.append_assoc, List.singleton_append,
      doc?_word word (ends_opening _), named?_content word noField read]
  | .taggedRecord tag [], _, fuel + 1, rest => fun named _ _ => absurd rfl named.2.1
  | .taggedRecord tag ((name, value) :: fields), level, fuel + 1, rest => by
    intro named _ enough
    obtain ⟨word, _, inside⟩ := named
    rw [toList_taggedRecord] at enough ⊢
    simp only [List.length_append, List.length_cons, List.length_nil] at enough
    obtain ⟨fuel, rfl⟩ : ∃ less, fuel = less + 1 := Nat.exists_eq_add_one.mpr (by omega)
    have read := fields?_rows ((name, value) :: fields) level fuel rest inside (by omega)
    have text := toList_field name (printAt (level + 1) value)
    obtain ⟨c, cs, split, part, _⟩ := isWord_cons inside.1
    have field : (fieldName? (skipSpace
        (rows level (printFields (level + 1) ((name, value) :: fields)) ++ ')' :: rest))).isSome := by
      have begins := text
      rw [split, List.cons_append] at begins
      rw [printFields, skipSpace_rows level begins (opens_of_isNameChar part), text, List.append_assoc,
        List.cons_append, fieldName?_word inside.1]
      rfl
    rw [List.append_assoc, List.cons_append, List.cons_append, List.append_assoc, List.singleton_append,
      doc?_word word (ends_opening _)]
    exact named?_fields word field read
  | .list [], level, fuel + 1, rest => by
    intro _ _ enough
    rw [toList_noItems] at enough ⊢
    obtain ⟨fuel, rfl⟩ := exists_fuel (List.cons_ne_nil _ _) enough
    rfl
  | .list (item :: items), level, fuel + 1, rest => by
    intro named _ enough
    rw [toList_items] at enough ⊢
    simp only [List.length_append, List.length_cons, List.length_nil] at enough
    have read := items?_rows (item :: items) level fuel rest named (by omega)
    simp only [List.cons_append, List.append_assoc, List.nil_append, doc?_list, read, Option.map_some]
  | .table [], level, fuel + 1, rest => by
    intro _ _ enough
    rw [toList_noEntries] at enough ⊢
    obtain ⟨fuel, rfl⟩ := exists_fuel (List.cons_ne_nil _ _) enough
    rfl
  | .table (entry :: entries), level, fuel + 1, rest => by
    intro named _ enough
    rw [toList_entries] at enough ⊢
    simp only [List.length_append, List.length_cons, List.length_nil] at enough
    have read := entries?_rows (entry :: entries) level fuel rest named (by omega)
    simp only [List.cons_append, List.append_assoc, List.nil_append, doc?_table, read, Option.map_some]
  | .record [], level, fuel + 1, rest => by
    intro _ _ enough
    rw [toList_noFields] at enough ⊢
    obtain ⟨fuel, rfl⟩ := exists_fuel (List.cons_ne_nil _ _) enough
    rfl
  | .record (field :: fields), level, fuel + 1, rest => by
    intro named _ enough
    rw [toList_fields] at enough ⊢
    simp only [List.length_append, List.length_cons, List.length_nil] at enough
    have read := fields?_rows (field :: fields) level fuel rest named (by omega)
    simp only [List.cons_append, List.append_assoc, List.nil_append, doc?_record, read, Option.map_some]

lemma items?_rows : ∀ (items : List Doc) (level fuel : Nat) (rest : List Char), Doc.NamedItems items →
    2 * (rows level (printItems (level + 1) items)).length < fuel →
      items? (skipSpace (rows level (printItems (level + 1) items) ++ ']' :: rest)) fuel =
        some (items, rest)
  | _, _, 0, _ => fun _ enough => absurd enough (Nat.not_lt_zero _)
  | [], level, fuel + 1, rest => by
    intros
    rw [printItems, skipSpace_noRows level rfl, items?]
  | item :: items, level, fuel + 1, rest => by
    intro named enough
    have shaped := printAt_shaped named.1 (level + 1)
    simp only [printItems, rows, List.length_append, List.length_cons] at enough
    have more := items?_rows items level fuel rest named.2 (by omega)
    have read := doc?_printAt item (level + 1) fuel _ named.1
      (ends_comma ('\n' :: (rows level (printItems (level + 1) items) ++ ']' :: rest))) (by omega)
    obtain ⟨c, cs, split, first⟩ := shaped.opens
    rw [printItems, skipSpace_rows level split first]
    rw [split, List.cons_append] at read ⊢
    exact items?_next first read more

lemma entries?_rows : ∀ (entries : List (String × Doc)) (level fuel : Nat) (rest : List Char),
    Doc.NamedValues entries → 2 * (rows level (printEntries (level + 1) entries)).length < fuel →
      entries? (skipSpace (rows level (printEntries (level + 1) entries) ++ '}' :: rest)) fuel =
        some (entries, rest)
  | _, _, 0, _ => fun _ enough => absurd enough (Nat.not_lt_zero _)
  | [], level, fuel + 1, rest => by
    intros
    rw [printEntries, skipSpace_noRows level rfl, entries?]
  | (key, value) :: entries, level, fuel + 1, rest => by
    intro named enough
    have held := length_le_escaped key.toList
    have text := toList_entry key (printAt (level + 1) value)
    simp only [printEntries, rows, text, List.length_append, List.length_cons] at enough
    have more := entries?_rows entries level fuel rest named.2 (by omega)
    have read := doc?_printAt value (level + 1) fuel _ named.1
      (ends_comma ('\n' :: (rows level (printEntries (level + 1) entries) ++ '}' :: rest))) (by omega)
    rw [printEntries, skipSpace_rows level text rfl, text]
    simp only [List.cons_append, List.append_assoc]
    exact entries?_next (by omega) read more

lemma fields?_rows : ∀ (fields : List (String × Doc)) (level fuel : Nat) (rest : List Char),
    Doc.NamedFields fields → 2 * (rows level (printFields (level + 1) fields)).length < fuel →
      fields? (skipSpace (rows level (printFields (level + 1) fields) ++ ')' :: rest)) fuel =
        some (fields, rest)
  | _, _, 0, _ => fun _ enough => absurd enough (Nat.not_lt_zero _)
  | [], level, fuel + 1, rest => by
    intros
    rw [printFields, skipSpace_noRows level rfl, fields?]
  | (name, value) :: fields, level, fuel + 1, rest => by
    intro named enough
    have text := toList_field name (printAt (level + 1) value)
    obtain ⟨c, cs, split, part, _⟩ := isWord_cons named.1
    simp only [printFields, rows, text, List.length_append, List.length_cons] at enough
    have more := fields?_rows fields level fuel rest named.2.2 (by omega)
    have read := doc?_printAt value (level + 1) fuel _ named.2.1
      (ends_comma ('\n' :: (rows level (printFields (level + 1) fields) ++ ')' :: rest))) (by omega)
    have begins := text
    rw [split, List.cons_append] at begins
    rw [printFields, skipSpace_rows level begins (opens_of_isNameChar part), text]
    simp only [List.cons_append, List.append_assoc]
    exact fields?_next named.1 read more

end

/-- The text of a document is read as the document, unless too many levels are in one another. -/
theorem parse?_printAt {d : Doc} (named : d.Named) :
    parse? (printAt 0 d) = if d.depth 1 ≤ maxReadDepth then some d else none := by
  have ends : EndsRun goesOn [] := fun c head => nomatch head
  have read := doc?_printAt d 0 (2 * (printAt 0 d).toList.length + 2) [] named ends (by omega)
  rw [List.append_nil] at read
  by_cases held : d.depth 1 ≤ maxReadDepth
  · simp only [parse?, read, bind, Option.bind_some, List.all_nil, Bool.true_and, held, decide_true,
      guard_true, if_true, pure]
  · simp only [parse?, read, bind, Option.bind_some, List.all_nil, Bool.true_and, held, decide_false,
      Bool.false_eq_true, guard_false, if_false]
    rfl

end Ron

namespace Doc

mutual

/-- A document that may be read may also be written, where tags are no levels. -/
lemma depth_le_depth : ∀ d : Doc, d.depth 0 ≤ d.depth 1
  | .none | .bool _ | .nat _ | .str _ => Nat.le_refl _
  | .unit _ => Nat.zero_le _
  | .some content => Nat.succ_le_succ (depth_le_depth content)
  | .list items => Nat.succ_le_succ (itemsDepth_le_itemsDepth items)
  | .table entries => Nat.succ_le_succ (fieldsDepth_le_fieldsDepth entries)
  | .record fields => Nat.succ_le_succ (fieldsDepth_le_fieldsDepth fields)
  | .tagged _ content => Nat.add_le_add (Nat.zero_le 1) (Nat.succ_le_succ (depth_le_depth content))
  | .taggedRecord _ fields =>
    Nat.add_le_add (Nat.zero_le 1) (Nat.succ_le_succ (fieldsDepth_le_fieldsDepth fields))

lemma itemsDepth_le_itemsDepth : ∀ items : List Doc, itemsDepth 0 items ≤ itemsDepth 1 items
  | [] => Nat.le_refl _
  | item :: items => by
    have first := depth_le_depth item
    have others := itemsDepth_le_itemsDepth items
    simp only [itemsDepth]
    omega

lemma fieldsDepth_le_fieldsDepth :
    ∀ fields : List (String × Doc), fieldsDepth 0 fields ≤ fieldsDepth 1 fields
  | [] => Nat.le_refl _
  | (_, value) :: fields => by
    have first := depth_le_depth value
    have others := fieldsDepth_le_fieldsDepth fields
    simp only [fieldsDepth]
    omega

end

end Doc

end BranchingStory
