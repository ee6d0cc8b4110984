import Mathlib.Data.List.Forall2
import BranchingStory.Host.Toybox
import BranchingStory.Proofs.Assoc
import BranchingStory.Proofs.Machine.Arithmetic
import BranchingStory.Proofs.Script.Computation
import BranchingStory.Proofs.Script.ReadBack

/-!
# Values that are read back from their texts

The text of a value in a collection is a fragment, and its value is the value again: integers that have a
positive counterpart, texts, and lists and dictionaries of such values, as long as no key holds a quote or a
backslash. These are escaped in texts, but not in keys.
-/

namespace BranchingStory

open Number Script Text

variable {Obj : Type}

namespace Value

/-- Whether a key means itself between quotes. -/
def IsPlainKey (key : String) : Prop :=
  ∀ c ∈ key.toList, c ≠ '\x27' ∧ c ≠ '\\'

instance (key : String) : Decidable (IsPlainKey key) :=
  List.decidableBAll (fun c => c ≠ '\x27' ∧ c ≠ '\\') key.toList

mutual

/-- Whether the text of a value can stand for it. -/
def Spellable : Value Obj → Prop
  | .int i => i.toInt ≠ minInt
  | .float _ => False
  | .object _ => False
  | .list items => SpellableItems items
  | .dict fields => (Assoc.keys fields).Nodup ∧ SpellableFields fields
  | _ => True

def SpellableItems : List (Value Obj) → Prop
  | [] => True
  | item :: items => item.Spellable ∧ SpellableItems items

def SpellableFields : List (String × Value Obj) → Prop
  | [] => True
  | (key, value) :: fields => IsPlainKey key ∧ value.Spellable ∧ SpellableFields fields

end

mutual

/-- The expression that stands for a value; a negative integer is a minus sign in front of a literal. -/
def toExpr : Value Obj → Expr
  | .bool b => .lit (.bool b)
  | .int i =>
    if i.toInt < 0 then .unary .neg (.lit (.int (Int64.ofInt (-i.toInt)))) else .lit (.int i)
  | .float x => .lit (.float x)
  | .str s => .lit (.str s)
  | .list items => .list (toExprItems items)
  | .dict fields => .dict (toExprFields fields)
  | _ => .lit .none

def toExprItems : List (Value Obj) → List Expr
  | [] => []
  | item :: items => item.toExpr :: toExprItems items

def toExprFields : List (String × Value Obj) → List (Expr × Expr)
  | [] => []
  | (key, value) :: fields => (.lit (.str key), value.toExpr) :: toExprFields fields

end

/-- The magnitude of a negative integer that is not the least one. -/
lemma toInt_magnitude {i : Int64} (negative : i.toInt < 0) (other : i.toInt ≠ minInt) :
    (Int64.ofInt (-i.toInt)).toInt = -i.toInt := by
  have least := minInt_le i
  apply toInt_ofInt
  · simp only [minInt]
    omega
  · simp only [minInt, maxInt] at *
    omega

end Value

namespace Script

section Characters

variable {rest : List Char}

/-- A text that is empty or begins with a sign between the parts of a collection. -/
def Delimited (rest : List Char) : Prop :=
  ∀ c, rest.head? = some c → c ∈ [',', ':', ']', '}']

lemma delimited_cons {c : Char} (delimiter : c ∈ [',', ':', ']', '}']) : Delimited (c :: rest) := by
  intro d head
  cases head
  exact delimiter

lemma Delimited.stops (h : Delimited rest) : Stops rest := by
  have checked : ∀ c ∈ [',', ':', ']', '}'], isWordChar c = false ∧ c ≠ '.' ∧ c ≠ '+' ∧ c ≠ '-' := by
    rw [List.forall_mem_cons, List.forall_mem_cons, List.forall_mem_cons, List.forall_mem_singleton]
    decide
  constructor
  case word => exact fun c head => (checked c (h c head)).1
  case point => exact fun c head => (checked c (h c head)).2.1
  case signed =>
    cases rest with
    | nil => rfl
    | cons c rest =>
      obtain ⟨noWord, -, plus, minus⟩ := checked c (h c rfl)
      have noDigit : c.isDigit = false := by
        refine Bool.eq_false_iff.mpr fun digit => ?_
        rw [isWordChar_of_isDigit digit] at noWord
        cases noWord
      have unsigned : (splitSign (c :: rest)).2 = c :: rest := by
        unfold splitSign
        split
        · next same => exact absurd (List.cons.inj same).1 plus
        · next same => exact absurd (List.cons.inj same).1 minus
        · rfl
      rw [unsigned, List.takeWhile_cons, noDigit]
      rfl

/-- The signs that no other sign goes on from. -/
def delimiters : List (Char × Token) :=
  [('[', .leftBracket), (']', .rightBracket), ('{', .leftBrace), ('}', .rightBrace), (',', .comma),
    (':', .colon)]

lemma scans_delimiter {c : Char} {token : Token} (entry : (c, token) ∈ delimiters) (rest : List Char) :
    Scans (c :: rest) token rest := by
  have checked : ∀ entry ∈ delimiters, entry.1 ≠ '.' ∧ entry.1.isDigit = false ∧
      isWordStart entry.1 = false ∧ ¬(entry.1 = '"' ∨ entry.1 = '\x27') := by
    decide +kernel
  obtain ⟨noPoint, noDigit, noWord, noQuote⟩ := checked _ entry
  have found : signToken? (c :: rest) = some (token, 1) := by
    simp only [delimiters, List.mem_cons, Prod.mk.injEq, List.not_mem_nil, or_false] at entry
    rcases entry with ⟨rfl, rfl⟩ | ⟨rfl, rfl⟩ | ⟨rfl, rfl⟩ | ⟨rfl, rfl⟩ | ⟨rfl, rfl⟩ | ⟨rfl, rfl⟩ <;> rfl
  exact .sign ((startsNumber_of_ne noPoint rest).trans noDigit) noWord noQuote found

lemma signs_wordless : ∀ entry ∈ signs, ∀ c ∈ entry.1, isWordChar c = false := by
  have checked : (signs.all fun entry => entry.1.all (!isWordChar ·)) = true := by decide
  simpa only [List.all_eq_true, Bool.not_eq_true'] using checked

/-- No sign begins with a character of a word. -/
lemma signToken?_of_isWordChar {c : Char} (word : isWordChar c) (cs : List Char) :
    signToken? (c :: cs) = none := by
  cases found : signToken? (c :: cs) with
  | none => rfl
  | some sign =>
    obtain ⟨token, width⟩ := sign
    obtain ⟨before, sign, after, split, rfl, ⟨more, whole⟩, _⟩ := signToken?_eq_some _ found
    have member : (sign, token) ∈ signs := by
      rw [split]
      exact List.mem_append_right before List.mem_cons_self
    cases sign with
    | nil => exact absurd (signs_length _ member) (Nat.lt_irrefl 0)
    | cons d sign =>
      obtain rfl : d = c := (List.cons.inj whole).1
      have first := signs_wordless _ member d List.mem_cons_self
      rw [word] at first
      cases first

end Characters

section Texts

variable {text : List Char} {ts : List Token} {texts : List (List Char)} {parts : List (List Token)}

/-- Whether a text is scanned as some tokens wherever a collection goes on behind it. -/
def Prints (text : List Char) (ts : List Token) : Prop :=
  ∀ rest, Delimited rest → Lexes (text ++ rest) ts rest

/-- A number or a word is scanned as before. -/
lemma prints_word {c : Char} {token : Token} (scanned : scanToken (c :: text) = .ok (token, []))
    (word : isWordChar c) : Prints (c :: text) [token] := by
  intro rest delimited
  have scans := scans_of_scanToken scanned
  refine .token (scans.append_of_stops delimited.stops fun _ _ found => ?_) (.done rest)
  rw [signToken?_of_isWordChar word] at found
  cases found

lemma toDigits_cons (n : Nat) : ∃ c cs, Nat.toDigits 10 n = c :: cs ∧ c.isDigit := by
  cases split : Nat.toDigits 10 n with
  | nil => exact absurd split Nat.toDigits_ne_nil
  | cons c cs =>
    have digit : c.isDigit :=
      Nat.isDigit_of_mem_toDigits (by decide) (by decide) (split ▸ List.mem_cons_self)
    exact ⟨c, cs, rfl, digit⟩

lemma prints_natural {i : Int64} (h : 0 ≤ i.toInt) :
    Prints (Nat.toDigits 10 i.toInt.toNat) [.int i] := by
  have scans := scans_int h
  obtain ⟨c, cs, split, digit⟩ := toDigits_cons i.toInt.toNat
  rw [split] at scans ⊢
  exact prints_word (scanToken_of_scans scans) (isWordChar_of_isDigit digit)

lemma prints_negative {i : Int64} (h : 0 ≤ i.toInt) :
    Prints ('-' :: Nat.toDigits 10 i.toInt.toNat) [.minus, .int i] := by
  intro rest delimited
  have prints := prints_natural h rest delimited
  have found : signToken? ('-' :: (Nat.toDigits 10 i.toInt.toNat ++ rest)) = some (.minus, 1) := by
    obtain ⟨c, cs, split, digit⟩ := toDigits_cons i.toInt.toNat
    -- A digit does not make an assignment of the sign.
    have noEquals : ('=' == c) = false := by
      refine beq_eq_false_iff_ne.mpr ?_
      rintro rfl
      cases digit
    rw [split]
    simp only [signToken?, signs, List.cons_append, List.find?, List.isPrefixOf, noEquals]
    rfl
  have noNumber : startsNumber ('-' :: (Nat.toDigits 10 i.toInt.toNat ++ rest)) = false :=
    startsNumber_of_ne (by decide) _
  have minus : Scans ('-' :: (Nat.toDigits 10 i.toInt.toNat ++ rest)) .minus
      (Nat.toDigits 10 i.toInt.toNat ++ rest) :=
    .sign noNumber (by decide) (by decide) found
  exact .token minus prints

lemma prints_between {write : Char → List Char} {text : String}
    (step : ∀ c ∈ text.toList, ∀ before more, scanString '\x27' before (write c ++ more) =
      scanString '\x27' (c :: before) more) :
    Prints ('\x27' :: (text.toList.flatMap write ++ ['\x27'])) [.str text] := by
  intro rest _
  have scans := scans_between (.inr rfl) step rest
  rw [List.cons_append, List.append_assoc]
  exact .token scans (.done rest)

lemma prints_quoted (text : String) : Prints (Value.quoted text).toList [.str text] := by
  rw [Value.quoted, String.toList_ofList]
  refine prints_between fun c _ before more => ?_
  unfold Value.quoteChar
  split
  · rfl
  · rfl
  · next noBackslash noQuote =>
    rw [List.cons_append, List.nil_append, scanString_plain noBackslash, if_neg noQuote]

lemma prints_key {key : String} (plain : Value.IsPlainKey key) :
    Prints ('\x27' :: (key.toList ++ ['\x27'])) [.str key] := by
  have unescaped : Prints ('\x27' :: (key.toList.flatMap (fun c => [c]) ++ ['\x27'])) [.str key] := by
    refine prints_between fun c member before more => ?_
    obtain ⟨noQuote, noBackslash⟩ := plain c member
    rw [List.cons_append, List.nil_append, scanString_plain noBackslash, if_neg noQuote]
  rwa [List.flatMap_singleton'] at unescaped

/-- Parts of a collection: each one behind a comma and a blank but the first. -/
lemma prints_commas (h : List.Forall₂ Prints texts parts) :
    Prints ([',', ' '].intercalate texts) (commas parts) := by
  induction h with
  | nil => exact fun rest _ => .done rest
  | @cons text ts texts parts first more ih =>
    cases more with
    | nil =>
      rw [List.intercalate_singleton, commas, List.intercalate_singleton]
      exact first
    | @cons next _ texts parts second more =>
      intro rest delimited
      rw [List.intercalate_cons_cons, commas, List.intercalate_cons_cons, List.append_assoc,
        List.append_assoc, List.append_assoc]
      have entry : (',', Token.comma) ∈ delimiters := by simp [delimiters]
      have comma := scans_delimiter entry (' ' :: ([',', ' '].intercalate (next :: texts) ++ rest))
      have behind := Lexes.token comma (.blank (by decide) (ih rest delimited))
      exact (first _ (delimited_cons (by decide))).append behind

/-- Parts between brackets. -/
lemma prints_enclosed {before after : Char} {opening closing : Token}
    (opens : (before, opening) ∈ delimiters) (closes : (after, closing) ∈ delimiters)
    (delimiter : after ∈ [',', ':', ']', '}']) (h : Prints text ts) :
    Prints (before :: (text ++ [after])) (opening :: (ts ++ [closing])) := by
  intro rest _
  rw [List.cons_append, List.append_assoc]
  refine .token (scans_delimiter opens _) ?_
  exact (h _ (delimited_cons delimiter)).append (.token (scans_delimiter closes rest) (.done rest))

lemma prints_field {key : String} (plain : Value.IsPlainKey key) (h : Prints text ts) :
    Prints ('\x27' :: (key.toList ++ '\x27' :: ':' :: ' ' :: text)) (.str key :: .colon :: ts) := by
  intro rest delimited
  have name := prints_key plain (':' :: ' ' :: (text ++ rest)) (delimited_cons (by decide))
  have entry : (':', Token.colon) ∈ delimiters := by simp [delimiters]
  have colon := scans_delimiter entry (' ' :: (text ++ rest))
  have value := name.append (.token colon (.blank (by decide) (h rest delimited)))
  simpa only [List.cons_append, List.append_assoc, List.nil_append] using value

end Texts

/-- How collections are written: their parts have no parentheses. -/
def displayStyle : Style :=
  { quote := '\x27', bareItems := true }

end Script

namespace Value

section Expressions

mutual

/-- The expression of a value can be written down. -/
theorem spellable_toExpr : (v : Value Obj) → v.Spellable → v.toExpr.Spellable
  | .none, _ => trivial
  | .bool _, _ => trivial
  | .int i, other => by
    rw [toExpr]
    split
    · next negative =>
      have magnitude := toInt_magnitude negative other
      exact (show 0 ≤ (Int64.ofInt (-i.toInt)).toInt by omega)
    · next natural => exact (show 0 ≤ i.toInt by omega)
  | .str _, _ => trivial
  | .list items, h => spellable_toExprItems items h
  | .dict fields, ⟨_, h⟩ => spellable_toExprFields fields h

theorem spellable_toExprItems : (items : List (Value Obj)) → SpellableItems items →
    Script.SpellableItems (toExprItems items)
  | [], _ => trivial
  | item :: items, ⟨first, more⟩ => ⟨spellable_toExpr item first, spellable_toExprItems items more⟩

theorem spellable_toExprFields : (fields : List (String × Value Obj)) → SpellableFields fields →
    SpellableEntries (toExprFields fields)
  | [], _ => trivial
  | (_, value) :: fields, ⟨_, first, more⟩ =>
    ⟨trivial, spellable_toExpr value first, spellable_toExprFields fields more⟩

end

end Expressions

section Numbers

lemma toList_toString (n : Int) :
    (toString n).toList =
      if n < 0 then '-' :: Nat.toDigits 10 (-n).toNat else Nat.toDigits 10 n.toNat := by
  cases n with
  | ofNat n =>
    rw [if_neg (by simp)]
    change (Nat.repr n).toList = _
    rw [Nat.repr_eq_ofList_toDigits, String.toList_ofList]
    rfl
  | negSucc n =>
    rw [if_pos (Int.negSucc_lt_zero n)]
    change ("-" ++ Nat.repr (n + 1)).toList = _
    simp only [String.toList_append, Nat.repr_eq_ofList_toDigits, String.toList_ofList, Int.neg_negSucc,
      Int.toNat_natCast]
    rfl

lemma prints_int {i : Int64} (other : i.toInt ≠ minInt) :
    Prints (toString i.toInt).toList ((Value.int i : Value Obj).toExpr.written displayStyle) := by
  rw [toList_toString, toExpr]
  split
  · next negative =>
    have magnitude := toInt_magnitude negative other
    have prints := prints_negative (i := Int64.ofInt (-i.toInt)) (by omega)
    rwa [magnitude] at prints
  · next natural => exact prints_natural (by omega)
end Numbers

section Texts

variable [HostText Obj]

lemma displayItems_eq (items : List (Value Obj)) : displayItems items = items.map repr := by
  induction items with
  | nil => rfl
  | cons item items ih => cases item <;> simp only [displayItems, repr, ih, List.map_cons]

lemma displayFields_eq (fields : List (String × Value Obj)) :
    displayFields fields = fields.map fun (key, value) => "'" ++ key ++ "': " ++ value.repr := by
  induction fields with
  | nil => rfl
  | cons field fields ih =>
    obtain ⟨key, value⟩ := field
    cases value <;> simp only [displayFields, repr, ih, List.map_cons]

mutual

/-- The text of a value has the tokens of its expression. -/
theorem prints_repr : (v : Value Obj) → v.Spellable →
    Prints v.repr.toList (v.toExpr.written displayStyle)
  | .none, _ => by
    change Prints "None".toList [.nothing]
    exact prints_word rfl (by decide)
  | .bool true, _ => by
    change Prints "True".toList [.truth]
    exact prints_word rfl (by decide)
  | .bool false, _ => by
    change Prints "False".toList [.falsity]
    exact prints_word rfl (by decide)
  | .int _, other => prints_int other
  | .str s, _ => prints_quoted s
  | .list items, h => by
    have parts := prints_commas (prints_items items h)
    have opens : ('[', Token.leftBracket) ∈ delimiters := by simp [delimiters]
    have closes : (']', Token.rightBracket) ∈ delimiters := by simp [delimiters]
    have whole := prints_enclosed opens closes (by decide) parts
    change Prints ("[" ++ String.intercalate ", " (displayItems items) ++ "]").toList _
    rw [String.toList_append, String.toList_append, String.toList_intercalate]
    exact whole
  | .dict fields, ⟨_, h⟩ => by
    have parts := prints_commas (prints_fields fields h)
    have opens : ('{', Token.leftBrace) ∈ delimiters := by simp [delimiters]
    have closes : ('}', Token.rightBrace) ∈ delimiters := by simp [delimiters]
    have whole := prints_enclosed opens closes (by decide) parts
    change Prints ("\x7b" ++ String.intercalate ", " (displayFields fields) ++ "\x7d").toList _
    rw [String.toList_append, String.toList_append, String.toList_intercalate]
    exact whole

theorem prints_items : (items : List (Value Obj)) → SpellableItems items →
    List.Forall₂ Prints ((displayItems items).map String.toList)
      (writtenItems displayStyle (toExprItems items))
  | [], _ => .nil
  | item :: items, ⟨first, more⟩ => by
    have here := prints_repr item first
    have later := prints_items items more
    rw [displayItems_eq] at later ⊢
    exact .cons here later

theorem prints_fields : (fields : List (String × Value Obj)) → SpellableFields fields →
    List.Forall₂ Prints ((displayFields fields).map String.toList)
      (writtenEntries displayStyle (toExprFields fields))
  | [], _ => .nil
  | (key, value) :: fields, ⟨plain, first, more⟩ => by
    have here := prints_field plain (prints_repr value first)
    have later := prints_fields fields more
    rw [displayFields_eq] at later ⊢
    refine .cons ?_ later
    simp only [String.toList_append, List.append_assoc]
    exact here

end

end Texts

section Evaluation

variable [HostObject Obj] {s : Scope Obj}

mutual

/-- The expression of a value has this value in every scope, and changes nothing. -/
theorem eval_toExpr : (v : Value Obj) → v.Spellable → eval v.toExpr s = (.ok v, s)
  | .none, _ => rfl
  | .bool _, _ => rfl
  | .int i, other => by
    rw [toExpr]
    split
    · next negative =>
      have magnitude := toInt_magnitude negative other
      have exact : (unary .neg (.int (Int64.ofInt (-i.toInt))) : Except EvalError (Value Obj)) =
          .ok (.int i) :=
        Machine.exactInt_eq (by omega)
      simp only [eval, bind_apply]
      exact congrArg (·, s) exact
    · rfl
  | .str _, _ => rfl
  | .list items, h => by
    simp only [toExpr, eval, bind_apply, eval_toExprItems items h]
    rfl
  | .dict fields, ⟨distinct, h⟩ => by
    have all := Assoc.ofEntries_of_nodup distinct
    rw [Assoc.ofEntries] at all
    simp only [toExpr, eval, bind_apply, eval_toExprFields fields h [], all]
    rfl

theorem eval_toExprItems : (items : List (Value Obj)) → SpellableItems items →
    evalItems (toExprItems items) s = (.ok items, s)
  | [], _ => rfl
  | item :: items, ⟨first, more⟩ => by
    simp only [toExprItems, evalItems, bind_apply, eval_toExpr item first, eval_toExprItems items more]
    rfl

theorem eval_toExprFields : (fields : List (String × Value Obj)) → SpellableFields fields →
    ∀ before, evalEntries (toExprFields fields) before s = (.ok (Assoc.merge before fields), s)
  | [], _, _ => rfl
  | (key, value) :: fields, ⟨_, first, more⟩, before => by
    have name : (eval (.lit (.str key)) : EvalM Obj (Value Obj)) s = (.ok (.str key), s) := rfl
    have checked : (EvalM.ofExcept (dictKey (.str key : Value Obj)) : EvalM Obj String) s =
        (.ok key, s) := rfl
    simp only [toExprFields, evalEntries, bind_apply, name, checked, eval_toExpr value first,
      eval_toExprFields fields more]
    rfl

end

/-- The text of a value is read as its expression. -/
lemma read_repr {v : Value Obj} (spellable : v.Spellable) : Expr.read v.repr.toList = .ok v.toExpr := by
  have lexes := prints_repr v spellable [] nofun
  rw [List.append_nil] at lexes
  obtain ⟨found, scanned, same⟩ := tokens_iff_lexes.mpr lexes
  exact read_of_tokens (Expr.Spellable.readsBack displayStyle _ (spellable_toExpr v spellable)) scanned same

lemma evalSource_repr {v : Value Obj} (spellable : v.Spellable) (s : Scope Obj) :
    evalSource v.repr s = (.ok v, s) := by
  have read : (EvalM.ofExcept (Expr.read v.repr.toList) : EvalM Obj Expr) s = (.ok v.toExpr, s) :=
    congrArg (·, s) (read_repr spellable)
  rw [evalSource, bind_apply, read]
  exact eval_toExpr v spellable

/-- The text of a value in a collection is evaluated to the value itself in every scope, and to change
nothing. So no other value has the same text. -/
theorem repr_reads_back {v : Value Obj} (spellable : v.Spellable) :
    (∀ s : Scope Obj, evalSource v.repr s = (.ok v, s)) ∧
      ∀ w : Value Obj, w.Spellable → w.repr = v.repr → w = v := by
  refine ⟨evalSource_repr spellable, fun w spellable' same => ?_⟩
  let s : Scope Obj := .start .owned [] [] (Generator.ofSeed 0) []
  have first := evalSource_repr spellable' s
  rw [same, evalSource_repr spellable s] at first
  cases first
  rfl

end Evaluation

section Examples

open Toybox

def emptyScope : Scope Thing :=
  .start .owned [] [] (Generator.ofSeed 0) []

/-- A value with everything that is escaped in a text, at several depths. -/
def letter : Value Thing :=
  .list [.none, .int (-7), .str "it's a \\n",
    .dict [("to whom", .list []), ("", .dict [("\n", .bool true)])]]

/-- This value is read back. -/
theorem letter_reads_back :
    letter.Spellable ∧
      evalSource "[None, -7, 'it\\'s a \\\\n', \x7b'to whom': [], '': \x7b'\n': True\x7d\x7d]" emptyScope =
        (.ok letter, emptyScope) := by
  have spellable : letter.Spellable := by
    simp only [letter, Spellable, SpellableItems, SpellableFields]
    decide
  have text : letter.repr =
      "[None, -7, 'it\\'s a \\\\n', \x7b'to whom': [], '': \x7b'\n': True\x7d\x7d]" := by
    decide +kernel
  refine ⟨spellable, ?_⟩
  rw [← text]
  exact (repr_reads_back spellable).1 emptyScope

/-- One entry with quotes inside its key, in a list. -/
def quotedEntry : Value Thing :=
  .list [.dict [("a': 1, 'b", .int 2)]]

/-- The two entries that it looks like. -/
def twoEntries : Value Thing :=
  .list [.dict [("a", .int 1), ("b", .int 2)]]

/-- A quote inside a key is not escaped: one entry can print like two and is read back as these, and another
one cannot be read at all. -/
theorem keys_misread :
    quotedEntry.repr = twoEntries.repr ∧ quotedEntry.same twoEntries = false ∧
      evalSource quotedEntry.repr emptyScope = (.ok twoEntries, emptyScope) ∧
      (Expr.read (Value.dict [("it's", .int 1)] : Value Thing).repr.toList).isOk = false := by
  have alike : quotedEntry.repr = twoEntries.repr := by
    decide +kernel
  have spellable : twoEntries.Spellable := by
    simp only [twoEntries, Spellable, SpellableItems, SpellableFields]
    decide
  refine ⟨alike, by decide +kernel, ?_, by decide +kernel⟩
  rw [alike]
  exact evalSource_repr spellable emptyScope

end Examples

end Value

end BranchingStory
