import Mathlib.Tactic.Lemma
import BranchingStory.Document.RonParser
import BranchingStory.Document.RonPrinter
import BranchingStory.Proofs.Json.Strings

/-!
# RON strings read back

Every character has a form between quotes that is read as this character: itself, a letter behind a
backslash, or its number in braces.
-/

namespace BranchingStory.Ron

open Json (hexDigit? hexDigit?_hexChar)

lemma codeUpToBrace_digit {d : Nat} (small : d < 16) (code : Nat) (cs : List Char) :
    codeUpToBrace code (Nat.digitChar d :: cs) = codeUpToBrace (16 * code + d) cs := by
  have noBrace : Nat.digitChar d ≠ '}' := Nat.digitChar_ne '}' rfl
  have digit : hexDigit? (Nat.digitChar d) = some d := hexDigit?_hexChar small
  rw [codeUpToBrace, digit, Option.bind_some]
  exact noBrace

/-- The hexadecimal digits of a number are read as this number. -/
lemma codeUpToBrace_hexDigits (n : Nat) (cs : List Char) :
    codeUpToBrace 0 (hexDigits n ++ cs) = codeUpToBrace n cs := by
  unfold hexDigits
  induction n using Nat.base_induction 16 (by decide) generalizing cs with
  | single d small =>
    rw [Nat.toDigits_of_lt_base small, List.singleton_append, codeUpToBrace_digit small]
    simp only [Nat.mul_zero, Nat.zero_add]
  | digit more d small positive ih =>
    rw [← Nat.toDigits_append_toDigits (by decide) positive small, List.append_assoc, ih,
      Nat.toDigits_of_lt_base small, List.singleton_append, codeUpToBrace_digit small]

lemma charWithCode?_toNat (c : Char) : charWithCode? c.toNat = some c := by
  have valid : c.toNat.isValidChar := c.valid
  rw [charWithCode?, if_pos valid, Char.ofNat_toNat]

section Reading

variable {fuel : Nat}

/-- A character that stands for itself between quotes. -/
lemma text?_shown {c : Char} (noQuote : c ≠ '"') (noEscape : c ≠ '\\') (done cs : List Char) :
    text? done (c :: cs) (fuel + 1) = text? (c :: done) cs fuel := by
  rw [text?]
  · exact noQuote
  · exact fun _ same => absurd same noEscape
  · exact fun _ _ same => absurd same noEscape

/-- A character that is written by its number. -/
lemma text?_code (c : Char) (done cs : List Char) :
    text? done (['\\', 'u', '{'] ++ hexDigits c.toNat ++ ['}'] ++ cs) (fuel + 1) =
      text? (c :: done) cs fuel := by
  have code : codeUpToBrace 0 (hexDigits c.toNat ++ '}' :: cs) = some (c.toNat, cs) := by
    rw [codeUpToBrace_hexDigits, codeUpToBrace]
  simp only [List.cons_append, List.nil_append, List.append_assoc, text?, code, charWithCode?_toNat, bind,
    Option.bind_some]

lemma text?_escapeChar (c : Char) (done cs : List Char) :
    text? done (escapeChar c ++ cs) (fuel + 1) = text? (c :: done) cs fuel := by
  unfold escapeChar
  split
  case h_8 noQuote noEscape =>
    split
    · exact text?_shown noQuote noEscape done cs
    · exact text?_code c done cs
  all_goals rfl

lemma text?_escaped (text done rest : List Char) (enough : text.length < fuel) :
    text? done (text.flatMap escapeChar ++ '"' :: rest) fuel =
      some (String.ofList (done.reverse ++ text), rest) := by
  induction text generalizing done fuel with
  | nil =>
    obtain ⟨fuel, rfl⟩ := Nat.exists_eq_add_one.mpr enough
    simp only [List.flatMap_nil, List.nil_append, text?, List.append_nil]
  | cons c text ih =>
    rw [List.length_cons] at enough
    obtain ⟨fuel, rfl⟩ : ∃ less, fuel = less + 1 := Nat.exists_eq_add_one.mpr (by omega)
    rw [List.flatMap_cons, List.append_assoc, text?_escapeChar, ih _ (by omega), List.reverse_cons,
      List.append_assoc, List.singleton_append]

end Reading

lemma toList_quoted (text : String) :
    (quoted text).toList = '"' :: (text.toList.flatMap escapeChar ++ ['"']) := by
  rw [quoted, String.toList_ofList, List.cons_append]

lemma escapeChar_length_pos (c : Char) : 0 < (escapeChar c).length := by
  unfold escapeChar
  split
  case h_8 =>
    split <;> simp
  all_goals decide

lemma length_le_escaped (text : List Char) : text.length ≤ (text.flatMap escapeChar).length := by
  induction text with
  | nil => exact Nat.le_refl _
  | cons c text ih =>
    have pos := escapeChar_length_pos c
    rw [List.flatMap_cons, List.length_append, List.length_cons]
    omega

end BranchingStory.Ron
