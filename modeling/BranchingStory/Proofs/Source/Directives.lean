import BranchingStory.Proofs.Source.Arguments
import BranchingStory.Proofs.Source.Runs
import BranchingStory.Proofs.Source.Slices

/-!
# Directive lines as they are written

Tags, guards, labels, block heads, loop variables, attributes and parameters are read back from the lines that
they are written in.
-/

namespace BranchingStory.Source

open Script Text

lemma unspaced_of_isWordChar {c : Char} (word : isWordChar c) : isBlank c = false := by
  refine Bool.eq_false_iff.mpr fun blank => ?_
  rw [isWordChar_of_isBlank blank] at word
  cases word

/-- White space around a name is trimmed off. -/
lemma trim_identifier {front name back : List Char} (blanks : ∀ c ∈ front, isBlank c) (identifier : isIdentifier name)
    (blanks' : ∀ c ∈ back, isBlank c) : trim (front ++ (name ++ back)) = name := by
  rw [trim_blanks blanks, trim_visible (ends_identifier identifier _), trimEnd_blanks blanks']
  refine trimEnd_of_last fun c found => ?_
  exact unspaced_of_isWordChar (isWordChar_of_isIdentifier identifier c (List.mem_of_getLast? found))

/-! ## Tags -/

/-- A tag as it is written, with the white space in front of its mark. -/
structure WrittenTag where
  gap : List Char
  name : List Char

namespace WrittenTag

def text (tag : WrittenTag) : List Char :=
  tag.gap ++ '^' :: tag.name

def Valid (tag : WrittenTag) : Prop :=
  tag.gap ≠ [] ∧ isBlankText tag.gap ∧ isTag tag.name

instance : DecidablePred Valid :=
  fun tag => inferInstanceAs (Decidable (tag.gap ≠ [] ∧ isBlankText tag.gap ∧ isTag tag.name))

end WrittenTag

/-- The characters behind the last white space of a text. -/
def lastWord (cs : List Char) : List Char :=
  (cs.reverse.takeWhile (!isBlank ·)).reverse

section Tags

variable {front : List Char} {tags : List WrittenTag}

lemma unspaced_of_isTag {name : List Char} (valid : isTag name) : ∀ c ∈ name, isBlank c = false := by
  have words {cs : List Char} (word : isTagWord cs) : ∀ c ∈ cs, isBlank c = false := fun c member =>
    unspaced_of_isWordChar (List.all_eq_true.mp (Bool.and_eq_true_iff.mp word).2 c member)
  unfold isTag at valid
  split at valid
  · next front param found =>
    simp only [Bool.and_eq_true] at valid
    rw [splitFirst?_split found]
    intro c member
    rcases List.mem_append.mp member with inFront | inParam
    · exact words valid.1.1 c inFront
    · rcases List.mem_cons.mp inParam with rfl | inParam
      · rfl
      · have char := List.all_eq_true.mp valid.2 c inParam
        rcases Bool.or_eq_true_iff.mp char with word | dash
        · exact unspaced_of_isWordChar word
        · rw [beq_iff_eq.mp dash]
          rfl
  · exact words valid

lemma last_tags (valid : ∀ tag ∈ tags, tag.Valid) (last : EndsVisible front) :
    EndsVisible (front ++ tags.flatMap WrittenTag.text) := by
  intro c found
  cases tags using List.reverseRecOn with
  | nil => exact last c (by simpa using found)
  | append_singleton tags tag =>
    have isTag := (valid tag (by simp)).2.2
    have ends : ('^' :: tag.name).getLast? = some c := by
      rw [List.flatMap_append, List.flatMap_singleton, WrittenTag.text, ← List.append_assoc, ← List.append_assoc,
        List.getLast?_append, List.getLast?_cons] at found
      rw [List.getLast?_cons]
      exact found
    rcases List.mem_cons.mp (List.mem_of_getLast? ends) with rfl | inName
    · rfl
    · exact unspaced_of_isTag isTag c inName

/-- Tags are taken off the end of a text, down to a word that is none. -/
lemma splitTagsBack_written (valid : ∀ tag ∈ tags, tag.Valid) (untagged : (lastWord front).head? ≠ some '^')
    (last : EndsVisible front) (names : List String) :
    splitTagsBack (front ++ tags.flatMap WrittenTag.text).reverse names =
      .ok (front.reverse, tags.map (String.ofList ·.name) ++ names) := by
  -- The scan runs backwards, so that the last tag is the first to be found.
  induction tags using List.reverseRecOn generalizing names with
  | nil =>
    rw [List.flatMap_nil, List.append_nil, splitTagsBack.eq_def]
    split
    · next tag found =>
      rw [lastWord, found] at untagged
      exact absurd rfl untagged
    · rfl
  | append_singleton tags tag ih =>
    have others : ∀ tag ∈ tags, tag.Valid := fun tag member => valid tag (List.mem_append_left _ member)
    obtain ⟨spaced, blanks, isTag⟩ := valid tag (by simp)
    have blank := List.all_eq_true.mp blanks
    have visible := unspaced_of_isTag isTag
    have back : (front ++ (tags ++ [tag]).flatMap WrittenTag.text).reverse =
        ('^' :: tag.name).reverse ++ (tag.gap.reverse ++ (front ++ tags.flatMap WrittenTag.text).reverse) := by
      simp [WrittenTag.text]
    have word : ∀ c ∈ ('^' :: tag.name).reverse, !isBlank c := by
      intro c member
      rw [Bool.not_eq_true']
      rcases List.mem_cons.mp (List.mem_reverse.mp member) with rfl | inName
      · rfl
      · exact visible c inName
    have ends : EndsRun (!isBlank ·) (tag.gap.reverse ++ (front ++ tags.flatMap WrittenTag.text).reverse) := by
      intro c head
      obtain ⟨first, more, same⟩ := List.exists_cons_of_ne_nil (List.reverse_ne_nil_iff.mpr spaced)
      rw [same] at head
      cases head
      exact (Bool.not_eq_false' _).mpr (blank c (List.mem_reverse.mp (by rw [same]; exact List.mem_cons_self)))
    have stops : EndsRun isBlank (front ++ tags.flatMap WrittenTag.text).reverse :=
      fun c head => last_tags others last c (by rwa [List.head?_reverse] at head)
    have before := ih others (String.ofList tag.name :: names)
    have spaces : ∀ c ∈ tag.gap.reverse, isBlank c := fun c member => blank c (List.mem_reverse.mp member)
    rw [back, splitTagsBack.eq_def]
    split
    · next name found =>
      rw [takeWhile_run word ends, List.reverse_reverse, List.cons.injEq] at found
      obtain ⟨_, rfl⟩ := found
      rw [if_pos isTag, dropWhile_run word ends, dropWhile_run spaces stops, before]
      simp
    · next other =>
      refine absurd ?_ (other tag.name)
      rw [takeWhile_run word ends, List.reverse_reverse]

lemma splitTags_written (valid : ∀ tag ∈ tags, tag.Valid) (untagged : (lastWord front).head? ≠ some '^')
    (last : EndsVisible front) {cs : List Char}
    (trimmed : trimEnd cs = front ++ tags.flatMap WrittenTag.text) :
    splitTags cs = .ok (front, tags.map (String.ofList ·.name)) := by
  rw [splitTags, trimmed, splitTagsBack_written valid untagged last, List.append_nil]
  simp only [Except.map, List.reverse_reverse]

lemma untagged_of_not_mem (absent : '^' ∉ front) : (lastWord front).head? ≠ some '^' := by
  intro marked
  have inside := List.mem_of_head? marked
  rw [lastWord, List.mem_reverse] at inside
  exact absent (List.mem_reverse.mp ((List.takeWhile_sublist _).subset inside))

end Tags

/-! ## Choices -/

/-- Whether all brackets are closed in characters behind `depth` open ones. Quotes count for nothing. -/
def closesFrom (depth : Nat) : List Char → Bool
  | [] => depth == 0
  | c :: cs =>
    if isOpening c then closesFrom (depth + 1) cs
    else if isClosing c then
      match depth with
      | 0 => false
      | depth + 1 => closesFrom depth cs
    else closesFrom depth cs

/-- A choice as it is written: a mark, perhaps a guard with white space behind it, a label, a call and tags. -/
structure WrittenChoice where
  once : Bool
  lead : List Char
  guard? : Option (List Char × List Char)
  label : List TextPiece
  beforeArrow : List Char
  afterArrow : List Char
  call : WrittenCall
  tags : List WrittenTag

namespace WrittenChoice

def labelText (c : WrittenChoice) : List Char :=
  c.label.flatMap TextPiece.written

/-- The characters from the label on, up to the tags. -/
def offerText (c : WrittenChoice) : List Char :=
  '[' :: c.labelText ++ ']' :: (c.beforeArrow ++ '-' :: '>' :: (c.afterArrow ++ c.call.text))

def guardText (c : WrittenChoice) : List Char :=
  match c.guard? with
  | none => []
  | some (code, gap) => '{' :: code ++ '}' :: gap

/-- The characters between the mark and the tags. -/
def front (c : WrittenChoice) : List Char :=
  c.lead ++ (c.guardText ++ c.offerText)

structure Valid (c : WrittenChoice) : Prop where
  lead : isBlankText c.lead
  guard : ∀ code gap, c.guard? = some (code, gap) → (Expr.read code).isOk ∧ isBlankText gap
  label : ∀ piece ∈ c.label, piece.Readable
  closed : closesFrom 0 c.labelText
  beforeArrow : isBlankText c.beforeArrow
  afterArrow : isBlankText c.afterArrow
  call : c.call.Valid
  tags : ∀ tag ∈ c.tags, tag.Valid

/-- The choice that is written, without its key. -/
def choice (c : WrittenChoice) (line : Nat) : Choice where
  key := ""
  text := mergeTexts (c.label.map TextPiece.item)
  target := String.ofList c.call.target
  args := c.call.args
  guard? := c.guard?.map fun (code, _) => String.ofList (trim code)
  oneShot := c.once
  tags := c.tags.map (String.ofList ·.name)
  line := line

end WrittenChoice

section Choices

variable {c : WrittenChoice}

/-- A label ends at the bracket that closes it, whatever quotes there are in it. -/
lemma closeFrom_label {depth : Nat} {cs : List Char} (closes : closesFrom depth cs) (before rest : List Char) :
    closeFrom false depth none before (cs ++ ']' :: rest) = some (before.reverse ++ cs, rest) := by
  fun_induction closesFrom depth cs generalizing before with
  | case1 depth =>
    obtain rfl := beq_iff_eq.mp closes
    rw [List.append_nil]
    rfl
  | case2 depth c cs opens ih =>
    rw [List.cons_append, closeFrom.eq_def]
    simp only [opens, Bool.false_eq_true, false_and, if_false, if_true]
    rw [ih closes]
    simp
  | case3 => cases closes
  | case4 c cs opens closing depth ih =>
    rw [List.cons_append, closeFrom.eq_def]
    simp only [opens, closing, Bool.false_eq_true, false_and, if_false, if_true]
    rw [ih closes]
    simp
  | case5 depth c cs opens closing ih =>
    rw [List.cons_append, closeFrom.eq_def]
    simp only [opens, closing, Bool.false_eq_true, false_and, if_false]
    rw [ih closes]
    simp

lemma last_call {call : WrittenCall} (valid : call.Valid) (front : List Char) : EndsVisible (front ++ call.text) := by
  intro c found
  obtain ⟨target, list?⟩ := call
  cases list? with
  | none =>
    obtain ⟨full, chars⟩ := Bool.and_eq_true_iff.mp valid.target
    have inTarget : c ∈ target := by
      obtain ⟨before, last, rfl⟩ := (List.eq_nil_or_concat target).resolve_left (by rintro rfl; cases full)
      have ends : (front ++ before.concat last).getLast? = some c := found
      rw [List.concat_eq_append, ← List.append_assoc, List.getLast?_concat] at ends
      cases ends
      simp
    exact unspaced_of_isPassageChar (List.all_eq_true.mp chars c inTarget)
  | some items =>
    rw [WrittenCall.text, ← List.append_assoc, List.getLast?_concat] at found
    cases found
    rfl

lemma readGuard_written (valid : c.Valid) :
    Draft.readGuard (trimStart c.front) =
      .ok (c.guard?.map fun (code, _) => String.ofList (trim code), c.offerText) := by
  have blanks := List.all_eq_true.mp valid.lead
  cases guarded : c.guard? with
  | none =>
    have ends : EndsRun isBlank c.offerText := by
      rintro _ ⟨⟩
      rfl
    rw [WrittenChoice.front, WrittenChoice.guardText, guarded, List.nil_append, trimStart,
      dropWhile_run blanks ends]
    rfl
  | some guard =>
    obtain ⟨code, gap⟩ := guard
    obtain ⟨read, spaces⟩ := valid.guard code gap guarded
    obtain ⟨e, same⟩ := exists_of_isOk read
    have ends : EndsRun isBlank ('{' :: (code ++ '}' :: (gap ++ c.offerText))) := by
      rintro _ ⟨⟩
      rfl
    have closed := enclosed?_balanced .braces (by decide) (Expr.balanced_of_read same) (gap ++ c.offerText)
    have behind : trimStart (gap ++ c.offerText) = c.offerText :=
      dropWhile_run (List.all_eq_true.mp spaces) (by rintro _ ⟨⟩; rfl)
    rw [List.cons_append] at closed
    rw [WrittenChoice.front, WrittenChoice.guardText, guarded, trimStart]
    simp only [List.cons_append, List.append_assoc]
    rw [dropWhile_run blanks ends, Draft.readGuard]
    simp only [closed, trim_isEmpty read, checkExpression_trim read, behind]
    rfl

lemma last_front (valid : c.Valid) : EndsVisible c.front := by
  have whole : c.front = c.lead ++ (c.guardText ++ ('[' :: c.labelText ++ ']' :: (c.beforeArrow ++
      '-' :: '>' :: c.afterArrow))) ++ c.call.text := by
    simp [WrittenChoice.front, WrittenChoice.offerText]
  rw [whole]
  exact last_call valid.call _

/-- A choice is read as it was written. -/
lemma readOffer_written (valid : c.Valid) (parted : Parted c.call.items)
    (untagged : (lastWord c.front).head? ≠ some '^') {cs : List Char}
    (uncommented : trimEnd (stripComment cs) = c.front ++ c.tags.flatMap WrittenTag.text) (line : Nat) :
    readOffer cs c.once line = .ok (c.choice line) := by
  have tags := splitTags_written valid.tags untagged (last_front valid) uncommented
  have label : enclosed? c.offerText =
      some (c.labelText, c.beforeArrow ++ '-' :: '>' :: (c.afterArrow ++ c.call.text)) := by
    have closed := closeFrom_label valid.closed [] (c.beforeArrow ++ '-' :: '>' :: (c.afterArrow ++ c.call.text))
    exact closed
  have text : readText c.labelText = .ok (mergeTexts (c.label.map TextPiece.item)) := by
    rw [readText, WrittenChoice.labelText, readTextFrom_written valid.label, List.reverse_nil, String.ofList_nil,
      mergeTexts_empty]
  have arrow : dropFront? ['-', '>'] (trimStart (c.beforeArrow ++ '-' :: '>' :: (c.afterArrow ++ c.call.text))) =
      some (c.afterArrow ++ c.call.text) := by
    rw [trimStart, dropWhile_run (List.all_eq_true.mp valid.beforeArrow) (by rintro _ ⟨⟩; rfl)]
    rfl
  have call := readCall_last valid.call parted (List.all_eq_true.mp valid.afterArrow)
  have opens : c.offerText =
      '[' :: (c.labelText ++ ']' :: (c.beforeArrow ++ '-' :: '>' :: (c.afterArrow ++ c.call.text))) := rfl
  rw [opens] at label
  simp only [readOffer, tags, bind, Except.bind, readGuard_written valid]
  rw [opens]
  simp only [label, text, arrow, call]
  rfl

end Choices

/-! ## Conditions and loops -/

section Conditions

variable {code : List Char}

lemma blockHead_written (directive : String) (full : (trim code).isEmpty = false) :
    blockHead directive (code ++ [':']) = .ok (trim code) := by
  have ends : trimEnd (code ++ [':']) = code ++ [':'] := by
    refine trimEnd_of_last fun c found => ?_
    rw [List.getLast?_concat] at found
    cases found
    rfl
  have head : dropBack? [':'] (code ++ [':']) = some code := by
    simp [dropBack?, dropFront?]
  simp only [blockHead, ends, head, full, Bool.false_eq_true, if_false]

lemma readCondition_written (directive : String) (read : (Expr.read code).isOk) :
    readCondition directive (code ++ [':']) = .ok (String.ofList (trim code)) := by
  simp only [readCondition, blockHead_written directive (trim_isEmpty read), checkExpression_trim read, bind,
    Except.bind]
  rfl

end Conditions

/-- A variable of a loop as it is written, with white space around it. -/
structure WrittenVar where
  front : List Char
  name : List Char
  back : List Char

namespace WrittenVar

def text (v : WrittenVar) : List Char :=
  v.front ++ (v.name ++ v.back)

/-- Whether a variable has the name of one, which the keyword behind the variables is not. -/
def Valid (v : WrittenVar) : Prop :=
  isBlankText v.front ∧ isIdentifier v.name ∧ v.name ≠ "in".toList ∧ isBlankText v.back

instance : DecidablePred Valid :=
  fun v => inferInstanceAs (Decidable
    (isBlankText v.front ∧ isIdentifier v.name ∧ v.name ≠ "in".toList ∧ isBlankText v.back))

end WrittenVar

section Loops

variable {v : WrittenVar} {vars : List WrittenVar} {before name gap rest code : List Char}

lemma cutAtFrom_skip {c : Char} {cs : List Char} (other : c ≠ ' ' ∨ dropFront? "in ".toList cs = none) :
    cutAtFrom " in ".toList before (c :: cs) = cutAtFrom " in ".toList (c :: before) cs := by
  have absent : dropFront? " in ".toList (c :: cs) = none := by
    change (if ' ' = c then dropFront? "in ".toList cs else none) = none
    rcases other with visible | behind
    · rw [if_neg (Ne.symm visible)]
    · rw [behind, ite_self]
  rw [cutAtFrom, absent]

lemma cutAtFrom_here {sep : List Char} (full : sep ≠ []) (rest : List Char) :
    cutAtFrom sep before (sep ++ rest) = some (before.reverse, rest) := by
  cases whole : sep ++ rest with
  | nil => exact absurd (List.append_eq_nil_iff.mp whole).1 full
  | cons c cs => rw [cutAtFrom, dropFront?_eq_some.mpr whole.symm]

/-- The keyword does not stand where a word begins that is another one. -/
lemma dropFront?_in (identifier : isIdentifier name) (other : name ≠ "in".toList)
    (ends : EndsRun isWordChar rest) : dropFront? "in ".toList (name ++ rest) = none := by
  refine Option.eq_none_iff_forall_ne_some.mpr fun behind found => other ?_
  have same := dropFront?_eq_some.mp found
  have word := takeWhile_run (isWordChar_of_isIdentifier identifier) ends
  rw [same] at word
  exact word.symm

lemma cutAtFrom_word (word : ∀ c ∈ name, isWordChar c) (rest : List Char) :
    cutAtFrom " in ".toList before (name ++ rest) = cutAtFrom " in ".toList (name.reverse ++ before) rest := by
  induction name generalizing before with
  | nil => rfl
  | cons c name ih =>
    obtain ⟨first, more⟩ := List.forall_mem_cons.mp word
    have visible : c ≠ ' ' := by
      rintro rfl
      cases first
    rw [List.cons_append, cutAtFrom_skip (.inl visible), ih more]
    simp

lemma cutAtFrom_blanks (blanks : ∀ c ∈ gap, isBlank c) (behind : dropFront? "in ".toList rest = none) :
    cutAtFrom " in ".toList before (gap ++ rest) = cutAtFrom " in ".toList (gap.reverse ++ before) rest := by
  induction gap generalizing before with
  | nil => rfl
  | cons c gap ih =>
    obtain ⟨first, more⟩ := List.forall_mem_cons.mp blanks
    have absent : dropFront? "in ".toList (gap ++ rest) = none := by
      cases gap with
      | nil => exact behind
      | cons d gap =>
        refine dropFront?_of_head ?_
        rintro rfl
        cases more _ List.mem_cons_self
    rw [List.cons_append, cutAtFrom_skip (.inr absent), ih more]
    simp

/-- The keyword is not found in a variable, for white space or a comma comes behind it. -/
lemma cutAtFrom_var (valid : v.Valid) (ends : EndsRun isWordChar rest)
    (behind : dropFront? "in ".toList rest = none) :
    cutAtFrom " in ".toList before (v.text ++ rest) = cutAtFrom " in ".toList (v.text.reverse ++ before) rest := by
  obtain ⟨front, name, back⟩ := v
  obtain ⟨blanks, identifier, other, blanks'⟩ := valid
  have spaces : ∀ c ∈ back, isBlank c := List.all_eq_true.mp blanks'
  have stops : EndsRun isWordChar (back ++ rest) := by
    intro c head
    cases back with
    | nil => exact ends c head
    | cons d back =>
      cases head
      exact isWordChar_of_isBlank (spaces c List.mem_cons_self)
  simp only [WrittenVar.text, List.append_assoc]
  rw [cutAtFrom_blanks (List.all_eq_true.mp blanks) (dropFront?_in identifier other stops),
    cutAtFrom_word (isWordChar_of_isIdentifier identifier), cutAtFrom_blanks spaces behind]
  simp

/-- The characters behind a loop variable: the other variables, the keyword and the rest. -/
def varsBehind (vars : List WrittenVar) (code : List Char) : List Char :=
  vars.flatMap (fun v => ',' :: v.text) ++ (" in ".toList ++ code)

lemma varsBehind_ends (vars : List WrittenVar) (code : List Char) :
    EndsRun isWordChar (varsBehind vars code) ∧ dropFront? "in ".toList (varsBehind vars code) = none := by
  cases vars with
  | nil =>
    refine ⟨?_, rfl⟩
    rintro _ ⟨⟩
    decide
  | cons v vars =>
    refine ⟨?_, rfl⟩
    rintro _ ⟨⟩
    decide

lemma cutAtFrom_varsBehind (valid : ∀ v ∈ vars, v.Valid) :
    cutAtFrom " in ".toList before (varsBehind vars code) =
      some (before.reverse ++ vars.flatMap fun v => ',' :: v.text, code) := by
  induction vars generalizing before with
  | nil =>
    rw [varsBehind, List.flatMap_nil, List.nil_append, cutAtFrom_here (by decide), List.append_nil]
  | cons v vars ih =>
    obtain ⟨isVar, others⟩ := List.forall_mem_cons.mp valid
    obtain ⟨ends, behind⟩ := varsBehind_ends vars code
    have whole : varsBehind (v :: vars) code = ',' :: (v.text ++ varsBehind vars code) := by
      simp [varsBehind]
    rw [whole, cutAtFrom_skip (.inl (by decide)), cutAtFrom_var isVar ends behind, ih others]
    simp

/-- The variables end where the keyword is found first. -/
lemma cutAt?_vars (valid : ∀ v ∈ vars, v.Valid) (full : vars ≠ []) (code : List Char) :
    cutAt? " in ".toList (joinWith [','] (vars.map WrittenVar.text) ++ (" in ".toList ++ code)) =
      some (joinWith [','] (vars.map WrittenVar.text), code) := by
  obtain ⟨first, others, rfl⟩ := List.exists_cons_of_ne_nil full
  obtain ⟨isVar, valid⟩ := List.forall_mem_cons.mp valid
  obtain ⟨ends, behind⟩ := varsBehind_ends others code
  rw [joinWith_map_cons, List.append_assoc, cutAt?]
  change cutAtFrom _ _ (first.text ++ varsBehind others code) = _
  rw [cutAtFrom_var isVar ends behind, cutAtFrom_varsBehind valid]
  simp

lemma splitByFrom_apart {p : Char → Bool} {text piece : List Char} (apart : ∀ c ∈ text, p c = false) :
    splitByFrom p piece (text ++ rest) = splitByFrom p (text.reverse ++ piece) rest := by
  induction text generalizing piece with
  | nil => rfl
  | cons c text ih =>
    obtain ⟨first, more⟩ := List.forall_mem_cons.mp apart
    rw [List.cons_append, splitByFrom, first]
    simp only [Bool.false_eq_true, if_false, ih more]
    simp

lemma trim_var (valid : v.Valid) : trim v.text = v.name := by
  obtain ⟨blanks, identifier, _, blanks'⟩ := valid
  exact trim_identifier (List.all_eq_true.mp blanks) identifier (List.all_eq_true.mp blanks')

lemma no_comma_var (valid : v.Valid) : ∀ c ∈ v.text, (c == ',') = false := by
  obtain ⟨blanks, identifier, _, blanks'⟩ := valid
  intro c member
  refine beq_eq_false_iff_ne.mpr ?_
  rintro rfl
  rw [WrittenVar.text, List.mem_append, List.mem_append] at member
  rcases member with inFront | inName | inBack
  · cases List.all_eq_true.mp blanks _ inFront
  · cases isWordChar_of_isIdentifier identifier _ inName
  · cases List.all_eq_true.mp blanks' _ inBack

lemma splitBy_vars (valid : ∀ v ∈ vars, v.Valid) (full : vars ≠ []) :
    (splitBy (· == ',') (joinWith [','] (vars.map WrittenVar.text))).map trim = vars.map (·.name) := by
  have texts : splitBy (· == ',') (joinWith [','] (vars.map WrittenVar.text)) = vars.map WrittenVar.text := by
    refine joined_of_passes (splitByFrom (· == ',')) (fun _ => rfl) (fun _ _ => rfl) (by simpa using full) ?_
    intro text member rest
    obtain ⟨v, isVar, rfl⟩ := List.mem_map.mp member
    rw [splitByFrom_apart (no_comma_var (valid v isVar)), List.append_nil]
  rw [texts, List.map_map]
  exact List.map_congr_left fun v member => trim_var (valid v member)

/-- The head of a loop is trimmed at its first variable and at its collection. -/
lemma trim_loop {first : WrittenVar} (valid : first.Valid) (others : List WrittenVar)
    (read : (Expr.read code).isOk) :
    trim (joinWith [','] ((first :: others).map WrittenVar.text) ++ (" in ".toList ++ code)) =
      joinWith [','] (({ first with front := [] } :: others).map WrittenVar.text) ++
        (" in ".toList ++ trimEnd code) := by
  obtain ⟨blanks, identifier, _⟩ := valid
  simp only [joinWith_map_cons, WrittenVar.text, List.append_assoc, List.nil_append]
  rw [trim_blanks (List.all_eq_true.mp blanks), trim_visible (ends_identifier identifier _)]
  simp only [← List.append_assoc]
  exact trimEnd_visible (visible_of_trim (trim_isEmpty read)) _

/-- The variables and the collection of a loop are read as they were written. -/
lemma readLoop_written (valid : ∀ v ∈ vars, v.Valid) (full : vars ≠ []) (read : (Expr.read code).isOk) :
    readLoop (joinWith [','] (vars.map WrittenVar.text) ++ (" in ".toList ++ code) ++ [':']) =
      .ok (vars.map (String.ofList ·.name), String.ofList (trim code)) := by
  obtain ⟨first, others, rfl⟩ := List.exists_cons_of_ne_nil full
  obtain ⟨isVar, isVars⟩ := List.forall_mem_cons.mp valid
  -- The white space in front of the first variable is trimmed off.
  have valid : ∀ v ∈ { first with front := [] } :: others, v.Valid :=
    List.forall_mem_cons.mpr ⟨⟨rfl, isVar.2⟩, isVars⟩
  have full : ({ first with front := [] } :: others : List WrittenVar) ≠ [] := List.cons_ne_nil _ _
  have head := trim_loop isVar others read
  have cut := cutAt?_vars valid full (trimEnd code)
  have names := splitBy_vars valid full
  have known : (({ first with front := [] } :: others).map (·.name)).any (!isIdentifier ·) = false := by
    refine List.any_eq_false.mpr fun name member => ?_
    obtain ⟨v, isVar, rfl⟩ := List.mem_map.mp member
    rw [(valid v isVar).2.1]
    exact Bool.false_ne_true
  have visible :
      (trim (joinWith [','] ((first :: others).map WrittenVar.text) ++ (" in ".toList ++ code))).isEmpty = false := by
    rw [head]
    simp
  simp only [readLoop, blockHead_written "@for" visible, bind, Except.bind]
  rw [head]
  simp only [cut, names, known, trim_trimEnd, checkExpression_trim read]
  rw [List.map_map]
  rfl

end Loops

/-! ## Renders -/

/-- A hint with its colon. -/
def hintText : Option (List Char) → List Char
  | none => []
  | some hint => ':' :: hint

section Renders

variable {hint? : Option (List Char)} {gap : List Char} {call : WrittenCall}

lemma readHint_written (hint : ∀ hint ∈ hint?, isIdentifier hint) (spaced : gap ≠ [])
    (blanks : ∀ c ∈ gap, isBlank c) (rest : List Char) :
    readHint (hintText hint? ++ (gap ++ rest)) = .ok (hint?.map String.ofList, gap ++ rest) := by
  obtain ⟨first, gap, rfl⟩ := List.exists_cons_of_ne_nil spaced
  have blank := blanks first List.mem_cons_self
  cases hint? with
  | none =>
    have other : first ≠ ':' := by
      rintro rfl
      cases blank
    change readHint (first :: (gap ++ rest)) = .ok (none, first :: (gap ++ rest))
    unfold readHint
    split
    · next nothing => cases nothing
    · next colon => exact absurd (List.cons.inj colon).1 other
    · next same =>
      cases same
      rw [if_pos blank]
  | some hint' =>
    have identifier := hint hint' rfl
    have word : ∀ c ∈ hint', !isBlank c := fun c member =>
      (Bool.not_eq_true' _).mpr (unspaced_of_isWordChar (isWordChar_of_isIdentifier identifier c member))
    have ends : EndsRun (!isBlank ·) (first :: gap ++ rest) := by
      rintro _ ⟨⟩
      exact (Bool.not_eq_false' _).mpr blank
    change readHint (':' :: (hint' ++ (first :: gap ++ rest))) = _
    unfold readHint
    simp only [takeWhile_run word ends, dropWhile_run word ends, identifier, if_true, Option.map_some]

/-- A render directive is read as it was written. -/
lemma readRender_written (hint : ∀ hint ∈ hint?, isIdentifier hint) (spaced : gap ≠ [])
    (blanks : ∀ c ∈ gap, isBlank c) (valid : call.Valid) (parted : Parted call.items) {back : List Char}
    (blanks' : ∀ c ∈ back, isBlank c) :
    readRender (hintText hint? ++ (gap ++ (call.text ++ back))) =
      .ok (.render (String.ofList call.target) call.args (hint?.map String.ofList)) := by
  obtain ⟨ends, full⟩ := valid.front
  have body : trim (gap ++ (call.text ++ back)) = call.text := by
    rw [trim_blanks blanks, ← trim_trimEnd, trimEnd_blanks blanks', trim_trimEnd, trim_visible ends]
    exact trimEnd_of_last (last_call valid [])
  have read : readCall call.text = .ok (String.ofList call.target, call.args, []) :=
    readCall_last valid parted (show ∀ c ∈ [], isBlank c from nofun)
  simp only [readRender, readHint_written hint spaced blanks, bind, Except.bind, body, full, read]
  rfl

end Renders

/-! ## Inputs -/

/-- An attribute of an input as it is written, with white space in front of it and around the equals sign. -/
structure WrittenAttr where
  front : List Char
  key : List Char
  before : List Char
  after : List Char
  quote : Char
  value : List Char

namespace WrittenAttr

def text (a : WrittenAttr) : List Char :=
  a.front ++ (a.key ++ a.before ++ '=' :: (a.after ++ a.quote :: (a.value ++ [a.quote])))

def keys : List (List Char) :=
  ["name".toList, "label".toList, "placeholder".toList]

/-- Whether the key is known, and the value does not hold the quote around it. -/
structure Valid (a : WrittenAttr) : Prop where
  front : isBlankText a.front
  key : a.key ∈ keys
  before : isBlankText a.before
  after : isBlankText a.after
  quote : isQuote a.quote
  value : a.quote ∉ a.value

/-- The value of an attribute, which is the last one that is given. -/
def value? (attrs : List WrittenAttr) (key : String) : Option (List Char) :=
  (attrs.reverse.find? (String.ofList ·.key = key)).map (·.value)

end WrittenAttr

section Inputs

variable {a : WrittenAttr} {attrs : List WrittenAttr}

lemma value?_cons (a : WrittenAttr) (attrs : List WrittenAttr) (key : String) :
    WrittenAttr.value? (a :: attrs) key =
      (WrittenAttr.value? attrs key).or (if String.ofList a.key = key then some a.value else none) := by
  rw [WrittenAttr.value?, List.reverse_cons, List.find?_append, Option.map_or, List.find?_singleton]
  split <;> simp_all [WrittenAttr.value?]

lemma readQuoted_written {quote : Char} {value : List Char} (quotes : isQuote quote) (absent : quote ∉ value)
    (key : String) (rest : List Char) :
    readQuoted key (quote :: (value ++ quote :: rest)) = .ok (value, rest) := by
  have cut := splitFirst?_append (fun c member => ne_of_mem_of_not_mem member absent) rest
  simp only [readQuoted, quotes, if_true, cut]

lemma unspaced_of_isQuote {c : Char} (quotes : isQuote c) : isBlank c = false := by
  simp only [isQuote, Bool.or_eq_true, beq_iff_eq] at quotes
  rcases quotes with rfl | rfl <;> rfl

namespace WrittenAttr

lemma Valid.identifier (valid : a.Valid) : isIdentifier a.key :=
  List.all_eq_true.mp (show keys.all isIdentifier by decide) a.key valid.key

/-- The text of an attribute without the white space in front of it. -/
lemma Valid.trimStart (valid : a.Valid) (rest : List Char) :
    Text.trimStart (a.text ++ rest) =
      a.key ++ a.before ++ '=' :: (a.after ++ a.quote :: (a.value ++ a.quote :: rest)) := by
  have whole : a.text ++ rest =
      a.front ++ (a.key ++ (a.before ++ '=' :: (a.after ++ a.quote :: (a.value ++ a.quote :: rest)))) := by
    simp [text]
  rw [whole, Text.trimStart, dropWhile_run (List.all_eq_true.mp valid.front) (ends_identifier valid.identifier _),
    List.append_assoc]

/-- Every attribute takes a character at least. -/
lemma length_attrs (valid : ∀ a ∈ attrs, a.Valid) :
    attrs.length ≤ (Text.trimStart (attrs.flatMap text)).length := by
  cases attrs with
  | nil => exact Nat.zero_le _
  | cons a attrs =>
    have more : attrs.length ≤ (attrs.flatMap text).length := by
      clear valid
      induction attrs with
      | nil => exact Nat.zero_le _
      | cons a attrs ih =>
        simp only [List.flatMap_cons, text, List.length_append, List.length_cons]
        omega
    rw [List.flatMap_cons, (valid a List.mem_cons_self).trimStart]
    simp only [List.length_append, List.length_cons]
    omega

end WrittenAttr

/-- One attribute is read, and the others behind it. -/
lemma readAttrs_step (valid : a.Valid) (known : InputAttrs) (rest : List Char) (fuel : Nat) :
    readAttrs known (trimStart (a.text ++ rest)) (fuel + 1) =
      (known.set a.key a.value).bind fun known => readAttrs known (trimStart rest) fuel := by
  have blanks : ∀ c ∈ a.before, isBlank c := List.all_eq_true.mp valid.before
  have word := isWordChar_of_isIdentifier valid.identifier
  have apart : ∀ c ∈ a.key ++ a.before, c ≠ '=' := by
    rintro _ member rfl
    rcases List.mem_append.mp member with inKey | inGap
    · cases word _ inKey
    · cases blanks _ inGap
  have key : trim (a.key ++ a.before) = a.key :=
    trim_identifier (show ∀ c ∈ [], isBlank c from nofun) valid.identifier blanks
  have value : trimStart (a.after ++ a.quote :: (a.value ++ a.quote :: rest)) =
      a.quote :: (a.value ++ a.quote :: rest) :=
    dropWhile_run (List.all_eq_true.mp valid.after) (by rintro _ ⟨⟩; exact unspaced_of_isQuote valid.quote)
  have full :
      (a.key ++ a.before ++ '=' :: (a.after ++ a.quote :: (a.value ++ a.quote :: rest))).isEmpty = false := by
    simp
  rw [valid.trimStart, readAttrs, full, splitFirst?_append apart]
  simp only [Bool.false_eq_true, if_false, key, value, readQuoted_written valid.quote valid.value]
  rfl

/-- Attributes are read one after the other, and the last value of a key stays. -/
lemma readAttrs_written (valid : ∀ a ∈ attrs, a.Valid) (known : InputAttrs) {fuel : Nat}
    (enough : attrs.length ≤ fuel) :
    readAttrs known (trimStart (attrs.flatMap WrittenAttr.text)) fuel =
      .ok ⟨(WrittenAttr.value? attrs "name").or known.name?, (WrittenAttr.value? attrs "label").or known.label?,
        (WrittenAttr.value? attrs "placeholder").or known.placeholder?⟩ := by
  induction attrs generalizing known fuel with
  | nil => cases fuel <;> rfl
  | cons a attrs ih =>
    obtain ⟨isAttr, others⟩ := List.forall_mem_cons.mp valid
    obtain ⟨fuel, rfl⟩ : ∃ more, fuel = more + 1 := ⟨fuel - 1, by rw [List.length_cons] at enough; omega⟩
    have later (known : InputAttrs) := ih others known (Nat.le_of_succ_le_succ enough)
    have key := isAttr.key
    simp only [WrittenAttr.keys, List.mem_cons, List.not_mem_nil, or_false] at key
    have set : known.set a.key a.value = .ok
        ⟨if String.ofList a.key = "name" then some a.value else known.name?,
          if String.ofList a.key = "label" then some a.value else known.label?,
          if String.ofList a.key = "placeholder" then some a.value else known.placeholder?⟩ := by
      rcases key with same | same | same <;> rw [same] <;> rfl
    rw [List.flatMap_cons, readAttrs_step isAttr, set]
    simp only [value?_cons, Except.bind, later, Option.or_assoc]
    rcases key with same | same | same <;> rw [same] <;> simp

/-- The text of attributes ends with a quote. -/
lemma last_attrs (valid : ∀ a ∈ attrs, a.Valid) : EndsVisible (attrs.flatMap WrittenAttr.text) := by
  intro c found
  cases attrs using List.reverseRecOn with
  | nil => cases found
  | append_singleton attrs a =>
    have ends : (attrs ++ [a]).flatMap WrittenAttr.text = (attrs.flatMap WrittenAttr.text ++
        a.front ++ a.key ++ a.before ++ '=' :: a.after ++ a.quote :: a.value).concat a.quote := by
      simp [WrittenAttr.text]
    rw [ends, List.concat_eq_append, List.getLast?_concat] at found
    cases found
    exact unspaced_of_isQuote (valid a (by simp)).quote

/-- An input is read as it was written. -/
lemma readInput_written {name : List Char} (valid : ∀ a ∈ attrs, a.Valid)
    (named : WrittenAttr.value? attrs "name" = some name) (identifier : isIdentifier name) :
    readInput (attrs.flatMap WrittenAttr.text) =
      .ok (.input (String.ofList name)
        (some (((WrittenAttr.value? attrs "label").map String.ofList).getD (defaultLabel name)))
        ((WrittenAttr.value? attrs "placeholder").map String.ofList)) := by
  have body : trim (attrs.flatMap WrittenAttr.text) = trimStart (attrs.flatMap WrittenAttr.text) :=
    trim_of_last (last_attrs valid)
  simp only [readInput, body, readAttrs_written valid _ (WrittenAttr.length_attrs valid), bind, Except.bind,
    Option.or_none, named, identifier]
  rfl

end Inputs

/-! ## Headers -/

/-- A header as it is written behind its mark: a name, perhaps a list of parameters with white space in front
of it, and tags. -/
structure WrittenHeader where
  lead : List Char
  name : List Char
  list? : Option (List Char × List Listed)
  tags : List WrittenTag

namespace WrittenHeader

def items (h : WrittenHeader) : List Listed :=
  (h.list?.map Prod.snd).getD []

def paramsText (h : WrittenHeader) : List Char :=
  match h.list? with
  | none => []
  | some (gap, items) => gap ++ '(' :: (listText items ++ [')'])

/-- The characters between the white space behind the mark and the tags. -/
def front (h : WrittenHeader) : List Char :=
  h.name ++ h.paramsText

structure Valid (h : WrittenHeader) : Prop where
  lead : isBlankText h.lead
  name : isPassageName h.name
  gap : ∀ gap items, h.list? = some (gap, items) → isBlankText gap
  params : ∀ item ∈ h.items, item.IsParam
  ordered : NamedLast h.items
  distinct : (h.items.map (·.param.name)).Nodup
  tags : ∀ tag ∈ h.tags, tag.Valid

/-- The passage that is opened. -/
def passage (h : WrittenHeader) : Passage :=
  newPassage (String.ofList h.name) (h.items.map Listed.param) (h.tags.map (String.ofList ·.name))

end WrittenHeader

section Headers

variable {h : WrittenHeader}

lemma last_header (valid : h.Valid) : EndsVisible h.front := by
  intro c found
  cases listed : h.list? with
  | none =>
    rw [WrittenHeader.front, WrittenHeader.paramsText, listed, List.append_nil] at found
    have call : (⟨h.name, none⟩ : WrittenCall).Valid := ⟨valid.name, nofun, .nil⟩
    exact last_call call [] c found
  | some list =>
    obtain ⟨gap, items⟩ := list
    have ends : h.front = (h.name ++ gap ++ '(' :: listText items).concat ')' := by
      simp [WrittenHeader.front, WrittenHeader.paramsText, listed]
    rw [ends, List.concat_eq_append, List.getLast?_concat] at found
    cases found
    rfl

lemma paramsText_ends (valid : h.Valid) : EndsRun isPassageChar h.paramsText := by
  intro c head
  cases listed : h.list? with
  | none =>
    rw [WrittenHeader.paramsText, listed] at head
    cases head
  | some list =>
    obtain ⟨gap, items⟩ := list
    rw [WrittenHeader.paramsText, listed] at head
    cases gap with
    | nil =>
      cases head
      decide
    | cons first gap =>
      cases head
      refine Bool.eq_false_iff.mpr fun char => ?_
      have blank := List.all_eq_true.mp (valid.gap _ _ listed) c List.mem_cons_self
      rw [unspaced_of_isPassageChar char] at blank
      cases blank

/-- A header is read as it was written. -/
lemma readHeader_written (valid : h.Valid) (parted : Parted h.items)
    (untagged : (lastWord h.front).head? ≠ some '^') {cs : List Char}
    (uncommented : trimEnd (stripComment cs) = h.lead ++ (h.front ++ h.tags.flatMap WrittenTag.text)) :
    readHeader cs = .ok h.passage := by
  obtain ⟨full, taken, left⟩ := isPassageName_run valid.name (paramsText_ends valid)
  have trimmed : trim (stripComment cs) = h.front ++ h.tags.flatMap WrittenTag.text := by
    have visible : EndsRun isBlank (h.front ++ h.tags.flatMap WrittenTag.text) := by
      rw [WrittenHeader.front, List.append_assoc]
      exact ends_isPassageName valid.name _
    rw [← trim_trimEnd, uncommented, trim_blanks (List.all_eq_true.mp valid.lead), trim_visible visible]
    exact trimEnd_of_last (last_tags valid.tags (last_header valid))
  have tags : splitTags (h.front ++ h.tags.flatMap WrittenTag.text) =
      .ok (h.front, h.tags.map (String.ofList ·.name)) :=
    splitTags_written valid.tags untagged (last_header valid)
      (trimEnd_of_last (last_tags valid.tags (last_header valid)))
  rw [WrittenHeader.front] at tags
  simp only [readHeader, trimmed, WrittenHeader.front, tags, bind, Except.bind, taken, left, full,
    Bool.false_eq_true, if_false]
  cases listed : h.list? with
  | none =>
    have items : h.items = [] := by rw [WrittenHeader.items, listed]; rfl
    simp only [WrittenHeader.paramsText, listed, WrittenHeader.passage, items]
    rfl
  | some list =>
    obtain ⟨gap, items⟩ := list
    have same : h.items = items := by rw [WrittenHeader.items, listed]; rfl
    have closed : Balanced false (listText items) :=
      balanced_listText fun item member => (valid.params item (by rwa [same])).undivided
    have enclosed := enclosed?_balanced .parens (by decide) closed []
    have opens : trimStart (gap ++ '(' :: (listText items ++ [')'])) = '(' :: (listText items ++ [')']) :=
      dropWhile_run (List.all_eq_true.mp (valid.gap gap items listed)) (by rintro _ ⟨⟩; rfl)
    have params : paramList (listText items) = .ok (items.map Listed.param) := by
      have list := paramList_written valid.params valid.ordered valid.distinct parted
      rwa [same] at list
    rw [List.cons_append] at enclosed
    simp only [WrittenHeader.paramsText, listed, opens, enclosed, params, WrittenHeader.passage, same]
    rfl

end Headers

end BranchingStory.Source
