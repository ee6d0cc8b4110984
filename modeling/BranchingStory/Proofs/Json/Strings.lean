import Mathlib.Tactic.Lemma
import BranchingStory.Json.Parser
import BranchingStory.Json.Printer

/-!
# JSON strings read back

Every character has a form between quotes that is read as this character: itself, a letter behind a
backslash, or its number.
-/

namespace BranchingStory.Json

lemma hexDigit?_hexChar {d : Nat} (small : d < 16) : hexDigit? (hexChar d) = some d := by
  have table : ∀ d < 16, hexDigit? (hexChar d) = some d := by decide
  exact table d small

/-- A character that stands for itself between quotes. -/
lemma units?_plain {c : Char} (noQuote : c ≠ '"') (noEscape : c ≠ '\\') (shown : ¬c < ' ')
    (units : List Nat) (cs : List Char) : units? units (c :: cs) = units? (c.toNat :: units) cs := by
  rw [units?]
  · simp only [shown, noEscape, or_self, if_false]
  · exact noQuote
  · exact fun _ _ _ _ _ same => absurd same noEscape
  · exact fun _ _ same => absurd same noEscape

/-- A character that is written by its number. -/
lemma units?_control {c : Char} (control : c < ' ') (units : List Nat) (cs : List Char) :
    units? units ('\\' :: 'u' :: '0' :: '0' :: hexChar (c.toNat / 16) :: hexChar (c.toNat % 16) :: cs) =
      units? (c.toNat :: units) cs := by
  have bound : c.toNat < 32 := control
  have high := hexDigit?_hexChar (d := c.toNat / 16) (by omega)
  have low := hexDigit?_hexChar (d := c.toNat % 16) (by omega)
  have code : hexUnit? '0' '0' (hexChar (c.toNat / 16)) (hexChar (c.toNat % 16)) = some c.toNat := by
    have zero : hexDigit? '0' = some 0 := rfl
    simp only [hexUnit?, zero, high, low, bind, Option.bind_some, pure, Option.some_inj]
    omega
  rw [units?, code]

lemma units?_escapeChar (c : Char) (units : List Nat) (cs : List Char) :
    units? units (escapeChar c ++ cs) = units? (c.toNat :: units) cs := by
  unfold escapeChar
  split
  case h_8 noQuote noEscape _ _ _ _ _ =>
    split
    · next control => exact units?_control control units cs
    · next shown => exact units?_plain noQuote noEscape shown units cs
  all_goals rfl

lemma units?_escaped (text : List Char) (units : List Nat) (rest : List Char) :
    units? units (text.flatMap escapeChar ++ '"' :: rest) =
      some (units.reverse ++ text.map Char.toNat, rest) := by
  induction text generalizing units with
  | nil => simp only [List.flatMap_nil, List.nil_append, units?, List.map_nil, List.append_nil]
  | cons c text ih =>
    rw [List.flatMap_cons, List.append_assoc, units?_escapeChar, ih, List.reverse_cons, List.map_cons,
      List.append_assoc, List.singleton_append]

/-- The code of a character is half of no pair. -/
lemma toNat_whole (c : Char) : c.toNat < 0xD800 ∨ 0xDFFF < c.toNat :=
  c.valid.imp id And.left

lemma joinHalves_codes (done text : List Char) :
    joinHalves done (text.map Char.toNat) = some (done.reverse ++ text) := by
  induction text generalizing done with
  | nil => simp only [List.map_nil, joinHalves, List.append_nil]
  | cons c text ih =>
    have whole := toNat_whole c
    have noHigh : ¬(0xD800 ≤ c.toNat ∧ c.toNat < 0xDC00) := by omega
    have noLow : ¬(0xDC00 ≤ c.toNat ∧ c.toNat < 0xE000) := by omega
    rw [List.map_cons, joinHalves.eq_def]
    simp only [noHigh, noLow, if_false, Char.ofNat_toNat, ih, List.reverse_cons, List.append_assoc,
      List.singleton_append]

/-- The characters between the quotes of a text, and the closing one. -/
lemma toList_quoted (text : String) :
    (quoted text).toList = '"' :: (text.toList.flatMap escapeChar ++ ['"']) := by
  rw [quoted, String.toList_ofList, List.cons_append]

lemma text?_escaped (text : String) (rest : List Char) :
    text? (text.toList.flatMap escapeChar ++ '"' :: rest) = some (some text, rest) := by
  simp only [text?, units?_escaped, List.reverse_nil, List.nil_append, Option.map_some,
    joinHalves_codes, String.ofList_toList]

end BranchingStory.Json
