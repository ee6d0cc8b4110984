import BranchingStory.Proofs.Source.Directives
import BranchingStory.Proofs.Source.Linked

/-!
# Expressions on the lines of directives

Jumps, choices, the heads of conditionals and loops, renders, inputs and headers are stored with the very
expressions that they are written with, unless one of the three scans that know less of string literals than
the parser does takes a piece of one for something else: two slashes in it for a comment, an escaped quote for
its end, or a caret behind white space for a tag.
-/

namespace BranchingStory.Source

open Script Text

/-- A line with expressions as it is written. -/
inductive WrittenLine where
  | jump (gap : List Char) (call : WrittenCall)
  | choice (c : WrittenChoice)
  | cond (code : List Char)
  | elif (code : List Char)
  | loop (vars : List WrittenVar) (code : List Char)
  | render (hint? : Option (List Char)) (gap : List Char) (call : WrittenCall)
  | input (attrs : List WrittenAttr)
  | header (h : WrittenHeader)

/-- The input that attributes stand for, if they hold a name. -/
def WrittenAttr.input? (attrs : List WrittenAttr) : Option ContentItem :=
  (value? attrs "name").map fun name =>
    .input (String.ofList name) (some (((value? attrs "label").map String.ofList).getD (defaultLabel name)))
      ((value? attrs "placeholder").map String.ofList)

namespace WrittenLine

def mark : WrittenLine → List Char
  | jump .. => "->".toList
  | choice c => [if c.once then '*' else '+']
  | cond _ => "@if".toList
  | elif _ => "@elif".toList
  | loop .. => "@for".toList
  | render .. => "@render".toList
  | input _ => "@input".toList
  | header _ => "::".toList

def behind : WrittenLine → List Char
  | jump gap call => gap ++ call.text
  | choice c => c.front ++ c.tags.flatMap WrittenTag.text
  | cond code | elif code => code ++ [':']
  | loop vars code => joinWith [','] (vars.map WrittenVar.text) ++ (" in ".toList ++ code) ++ [':']
  | render hint? gap call => hintText hint? ++ (gap ++ call.text)
  | input attrs => attrs.flatMap WrittenAttr.text
  | header h => h.lead ++ (h.front ++ h.tags.flatMap WrittenTag.text)

def text (w : WrittenLine) : List Char :=
  w.mark ++ w.behind

/-- The arguments or parameters on a line. -/
def items : WrittenLine → List Listed
  | jump _ call | render _ _ call => call.items
  | choice c => c.call.items
  | header h => h.items
  | cond _ | elif _ | loop .. | input _ => []

/-- The characters in front of the tags, where there can be any. -/
def front : WrittenLine → List Char
  | choice c => c.front
  | header h => h.front
  | _ => []

/-- Whether all parts of a line are what they should be, and no letter comes behind the word of a directive. -/
def Valid : WrittenLine → Prop
  | jump gap call => isBlankText gap ∧ call.Valid
  | choice c => c.Valid
  | cond code | elif code => (Expr.read code).isOk ∧ EndsRun isWordChar code
  | loop vars code =>
    vars ≠ [] ∧ (∀ v ∈ vars, v.Valid) ∧ (∀ v ∈ vars.head?, v.front ≠ []) ∧ (Expr.read code).isOk
  | render hint? gap call => (∀ hint ∈ hint?, isIdentifier hint) ∧ gap ≠ [] ∧ isBlankText gap ∧ call.Valid
  | input attrs =>
    (∀ a ∈ attrs, a.Valid) ∧ (∀ a ∈ attrs.head?, a.front ≠ []) ∧ (WrittenAttr.value? attrs "name").any isIdentifier
  | header h => h.Valid

/-- Whether the scans of a line see what is written: but for a comment and white space behind it, the text behind
the mark is that of the line, the commas are those between the items, and no tag begins in front of the tags. -/
structure Discerned (w : WrittenLine) (rest : List Char) : Prop where
  comment : trimEnd (stripComment rest) = w.behind
  commas : Parted w.items
  tags : (lastWord w.front).head? ≠ some '^'

/-- Whether a line has nothing that a scan could take for something else: no two slashes next to each other,
no string literal with its own quote behind a backslash, and no caret in front of the tags. -/
structure Plain (w : WrittenLine) : Prop where
  comment : ¬ ['/', '/'] <:+: w.behind
  commas : ∀ item ∈ w.items, escapesQuote none item.text = false
  tags : '^' ∉ w.front

/-- The draft behind a line of a passage. There is none if `@elif` stands in the wrong place. -/
def draft? (d : Draft) (line : Nat) : WrittenLine → Option Draft
  | jump _ call => some (d.addItems [.jump (String.ofList call.target) call.args line])
  | choice c => some (d.addChoice (numbered d.passage.id d.choiceCount (c.choice line)))
  | cond code => some (d.openBlock line (.cond [] (some (String.ofList (trim code))) false))
  | elif code => (d.addBranch (some (String.ofList (trim code))) .elifAfterElse .elifWithoutIf).toOption
  | loop vars code =>
    some (d.openBlock line (.loop (vars.map (String.ofList ·.name)) (String.ofList (trim code))))
  | render hint? _ call =>
    some (d.addItems [.render (String.ofList call.target) call.args (hint?.map String.ofList)])
  | input attrs => (WrittenAttr.input? attrs).map fun item => d.addItems [item]
  | header _ => none

/-- What has been read behind a line, if there is a place for it. -/
def reading? (r : Reading) (l : SourceLine) : WrittenLine → Option Reading
  | header h => some { r.close with current? := some (Draft.start h.passage l) }
  | w => r.current?.bind fun d => (w.draft? d l.line).map fun d => { r with current? := some d }

/-- The call that leads to another passage. -/
def link? : WrittenLine → Option WrittenCall
  | jump _ call => some call
  | choice c => some c.call
  | _ => none

end WrittenLine

section Scans

variable {cs : List Char} {depth : Nat} {quote : Option Char}

/-- Where no two slashes come together there is no comment. -/
lemma stripFrom_of_no_slashes (apart : ¬ ['/', '/'] <:+: cs) : stripFrom depth quote cs = cs := by
  have behind {c : Char} {cs : List Char} (apart : ¬ ['/', '/'] <:+: c :: cs) : ¬ ['/', '/'] <:+: cs :=
    fun inside => apart (inside.trans (List.suffix_cons c cs).isInfix)
  fun_induction stripFrom depth quote cs with
  | case1 => rfl
  | case6 _ rest => exact absurd ⟨['\\'], rest, rfl⟩ apart
  | case7 _ tail => exact absurd ⟨[], tail, rfl⟩ apart
  | case8 _ _ ih => rw [ih (behind (behind apart))]
  | case2 _ _ _ _ ih | case3 _ _ ih | case4 _ _ _ ih | case5 _ _ _ _ _ ih | case9 _ _ _ ih
  | case10 _ _ _ _ _ _ _ ih => rw [ih (behind apart)]

/-- A letter at the beginning of a line stays. -/
lemma stripComment_letter {c : Char} (word : isWordChar c) (cs : List Char) :
    stripComment (c :: cs) = c :: stripComment cs := by
  refine stripFrom_other ?_ ?_ ?_ <;> (rintro rfl; cases word)

/-- The first visible character of a line stays, or it was one of two slashes. -/
lemma head_of_stripComment {c : Char} (other : c ≠ '/') (head : (trimStart (stripComment cs)).head? = some c) :
    (trimStart cs).head? = some c := by
  induction cs with
  | nil => cases head
  | cons d cs ih =>
    cases blank : isBlank d with
    | true =>
      rw [stripComment_blank blank, trimStart, List.dropWhile_cons_of_pos blank] at head
      rw [trimStart, List.dropWhile_cons_of_pos blank]
      exact ih head
    | false =>
      have visible : ¬isBlank d := Bool.eq_false_iff.mp blank
      rw [trimStart, List.dropWhile_cons_of_neg visible]
      have kept {rest : List Char} (head : (trimStart (d :: rest)).head? = some c) : d = c := by
        rw [trimStart, List.dropWhile_cons_of_neg visible] at head
        exact Option.some.inj head
      rw [stripComment, stripFrom.eq_def] at head
      simp only at head
      split at head
      · exact absurd (Option.some.inj head).symm other
      · cases head
      · exact congrArg some (kept head)
      · exact congrArg some (kept head)
      · exact congrArg some (kept head)

end Scans

namespace WrittenLine

variable {w : WrittenLine} {l : SourceLine}

/-- No line that is written ends with white space. -/
lemma Valid.last (valid : w.Valid) : EndsVisible w.behind := by
  intro c found
  cases w with
  | jump gap call => exact last_call valid.2 gap c found
  | choice choice => exact last_tags valid.tags (last_front valid) c found
  | cond code | elif code | loop vars code =>
    rw [behind, List.getLast?_concat] at found
    cases found
    rfl
  | render hint? gap call =>
    rw [behind, ← List.append_assoc] at found
    exact last_call valid.2.2.2 _ c found
  | input attrs => exact last_attrs valid.1 c found
  | header h =>
    rw [behind, List.getLast?_append] at found
    cases ends : (h.front ++ h.tags.flatMap WrittenTag.text).getLast? with
    | none =>
      obtain ⟨nothing, _⟩ := List.append_eq_nil_iff.mp (List.getLast?_eq_none_iff.mp ends)
      obtain ⟨nothing, _⟩ := List.append_eq_nil_iff.mp nothing
      have name := valid.name
      rw [nothing] at name
      cases name
    | some d =>
      rw [ends] at found
      cases found
      exact last_tags valid.tags (last_header valid) c ends

/-- No letter comes behind the word of a directive. -/
lemma Valid.wordEnds (valid : w.Valid) (directive : w.mark.head? = some '@') : EndsRun isWordChar w.behind := by
  have gapEnds {gap : List Char} (spaced : gap ≠ []) (blanks : isBlankText gap) (rest : List Char) :
      EndsRun isWordChar (gap ++ rest) := by
    obtain ⟨first, gap, rfl⟩ := List.exists_cons_of_ne_nil spaced
    rintro _ ⟨⟩
    exact isWordChar_of_isBlank (List.all_eq_true.mp blanks first List.mem_cons_self)
  cases w with
  | jump | header => cases directive
  | choice c => obtain ⟨_ | _, _⟩ := c <;> cases directive
  | cond code | elif code =>
    obtain ⟨_, ends⟩ := valid
    cases code with
    | nil =>
      rintro _ ⟨⟩
      decide
    | cons first code => exact ends
  | loop vars code =>
    obtain ⟨full, isVars, spaced, _⟩ := valid
    obtain ⟨first, others, rfl⟩ := List.exists_cons_of_ne_nil full
    have gap := gapEnds (spaced first rfl) (isVars first List.mem_cons_self).1
    simp only [behind, joinWith_map_cons, WrittenVar.text, List.append_assoc]
    exact gap _
  | render hint? gap call =>
    obtain ⟨_, spaced, blanks, _⟩ := valid
    cases hint? with
    | none => exact gapEnds spaced blanks _
    | some hint =>
      rintro _ ⟨⟩
      decide
  | input attrs =>
    obtain ⟨isAttrs, spaced, _⟩ := valid
    cases attrs with
    | nil => rintro _ ⟨⟩
    | cons a attrs =>
      have gap := gapEnds (spaced a rfl) (isAttrs a List.mem_cons_self).front
      simp only [behind, List.flatMap_cons, WrittenAttr.text, List.append_assoc]
      exact gap _

lemma Plain.discerned (valid : w.Valid) (plain : w.Plain) : w.Discerned w.behind := by
  refine ⟨?_, parted_of_unescaped ?_ plain.commas, untagged_of_not_mem plain.tags⟩
  · rw [stripComment, stripFrom_of_no_slashes plain.comment]
    exact trimEnd_of_last valid.last
  · cases w with
    | jump gap call => exact fun item member => (valid.2.args item member).undivided
    | choice c => exact fun item member => (valid.call.args item member).undivided
    | render hint? gap call => exact fun item member => (valid.2.2.2.args item member).undivided
    | header h => exact fun item member => (valid.params item member).undivided
    | cond | elif | loop | input => exact nofun

/-- A line that is no header is part of the content of its passage. -/
lemma isApart_written (inside : ∀ h, w ≠ header h) {rest : List Char} (written : trim l.text = w.mark ++ rest) :
    l.isApart = false := by
  rw [SourceLine.isApart, written]
  cases w with
  | header h => exact absurd rfl (inside h)
  | choice c => obtain ⟨_ | _, _⟩ := c <;> rfl
  | jump | cond | elif | loop | render | input => rfl

/-- What a line is to the passage that it stands in; a header stands in none. -/
def role? (line : Nat) : WrittenLine → Option Role
  | jump _ call => some (.adds (.items [.jump (String.ofList call.target) call.args line]))
  | choice c => some (.adds (.choice (c.choice line)))
  | cond code => some (.cond (String.ofList (trim code)))
  | elif code => some (.elif (String.ofList (trim code)))
  | loop vars code => some (.loop (vars.map (String.ofList ·.name)) (String.ofList (trim code)))
  | render hint? _ call =>
    some (.adds (.items [.render (String.ofList call.target) call.args (hint?.map String.ofList)]))
  | input attrs => (WrittenAttr.input? attrs).map fun item => .adds (.items [item])
  | header _ => none

/-- A directive is told by its word, and read from what comes behind it. -/
lemma role_directive (name : List Char) {rest : List Char} (valid : w.Valid)
    (written : trim l.text = w.mark ++ rest) (mark : w.mark = '@' :: name) (word : name.all isWordChar)
    (comment : trimEnd (stripComment rest) = w.behind) :
    l.role? = directiveRole? ('@' :: (name ++ rest)) ∧
      Draft.directiveWord ('@' :: (name ++ rest)) = '@' :: name ∧
      ('@' :: (name ++ rest)).drop ('@' :: name).length = rest := by
  have inside (h : WrittenHeader) (same : w = header h) : False := by
    rw [same] at mark
    cases mark
  -- A letter behind the word is no comment, so it would be the first character that is left.
  have ends : EndsRun isWordChar rest := by
    intro c head
    refine Bool.eq_false_iff.mpr fun letter => ?_
    obtain ⟨cs, rfl⟩ := List.head?_eq_some_iff.mp head
    obtain ⟨gap, blanks, split⟩ := trimEnd_append (stripComment (c :: cs))
    have behindEnds := valid.wordEnds (by rw [mark]; rfl)
    rw [comment, stripComment_letter letter] at split
    cases whole : w.behind with
    | nil =>
      rw [whole, List.nil_append] at split
      have blank := blanks c (by rw [← split]; exact List.mem_cons_self)
      rw [isWordChar_of_isBlank blank] at letter
      cases letter
    | cons first more =>
      rw [whole, List.cons_append, List.cons.injEq] at split
      rw [behindEnds c (by rw [whole, split.1]; rfl)] at letter
      cases letter
  refine ⟨?_, ?_, ?_⟩
  · rw [SourceLine.role?, isApart_written inside written, written, mark]
    rfl
  · simp [Draft.directiveWord, takeWhile_run (List.all_eq_true.mp word) ends]
  · rw [← List.cons_append, List.drop_left]

/-- A choice is told by the bracket or brace behind its mark. -/
lemma choiceMark?_written {c : WrittenChoice} (valid : c.Valid) {rest : List Char}
    (comment : trimEnd (stripComment rest) = (choice c).behind) :
    Draft.choiceMark? ((if c.once then '*' else '+') :: rest) = some c.once := by
  have blanks := List.all_eq_true.mp valid.lead
  obtain ⟨gap, _, split⟩ := trimEnd_append (stripComment rest)
  rw [comment, behind, WrittenChoice.front, List.append_assoc, List.append_assoc] at split
  have opens : (trimStart rest).head? = some '[' ∨ (trimStart rest).head? = some '{' := by
    cases guarded : c.guard? with
    | none =>
      refine .inl (head_of_stripComment (by decide) ?_)
      rw [split, WrittenChoice.guardText, guarded, trimStart, dropWhile_run blanks (by rintro _ ⟨⟩; rfl)]
      rfl
    | some guard =>
      refine .inr (head_of_stripComment (by decide) ?_)
      rw [split, WrittenChoice.guardText, guarded, trimStart, dropWhile_run blanks (by rintro _ ⟨⟩; rfl)]
      rfl
  cases c.once <;> rcases opens with opens | opens <;> simp [Draft.choiceMark?, opens]

/-- A line has the role that it is written for. -/
lemma role?_written (valid : w.Valid) {rest : List Char} (discerned : w.Discerned rest)
    (written : trim l.text = w.mark ++ rest) {role : Role} (own : w.role? l.line = some role) :
    l.role? = some role := by
  have comment := discerned.comment
  obtain ⟨back, blanks', split⟩ := trimEnd_append (stripComment rest)
  rw [comment] at split
  cases w with
  | jump gap call =>
    cases own
    have read : readJump rest l.line = .ok (.jump (String.ofList call.target) call.args l.line) := by
      rw [readJump, split, behind, List.append_assoc,
        readCall_written valid.2 discerned.commas (List.all_eq_true.mp valid.1) blanks']
      simp only [bind, Except.bind, isBlankText, List.all_eq_true.mpr blanks']
      rfl
    rw [SourceLine.role?, isApart_written (by rintro _ ⟨⟩) written, written]
    change (readJump rest l.line).toOption.map _ = _
    rw [read]
    rfl
  | choice c =>
    cases own
    have read := readOffer_written valid discerned.commas discerned.tags comment l.line
    have marked := choiceMark?_written valid comment
    have text : trim l.text = (if c.once then '*' else '+') :: rest := written
    rw [SourceLine.role?, isApart_written (by rintro _ ⟨⟩) written, text, marked]
    cases once : c.once <;>
    · rw [once] at read
      change (readOffer rest _ l.line).toOption.map _ = _
      rw [read]
      rfl
  | cond code =>
    cases own
    obtain ⟨directive, word, dropped⟩ := role_directive "if".toList valid written rfl rfl comment
    rw [directive, directiveRole?]
    simp only [word, dropped, comment]
    change (readCondition "@if" (code ++ [':'])).toOption.map Role.cond = _
    rw [readCondition_written "@if" valid.1]
    rfl
  | elif code =>
    cases own
    obtain ⟨directive, word, dropped⟩ := role_directive "elif".toList valid written rfl rfl comment
    rw [directive, directiveRole?]
    simp only [word, dropped, comment]
    change (readCondition "@elif" (code ++ [':'])).toOption.map Role.elif = _
    rw [readCondition_written "@elif" valid.1]
    rfl
  | loop vars code =>
    cases own
    obtain ⟨directive, word, dropped⟩ := role_directive "for".toList valid written rfl rfl comment
    obtain ⟨full, isVars, _, read⟩ := valid
    rw [directive, directiveRole?]
    simp only [word, dropped, comment]
    change (readLoop (loop vars code).behind).toOption.map _ = _
    rw [behind, readLoop_written isVars full read]
    rfl
  | render hint? gap call =>
    cases own
    obtain ⟨directive, word, dropped⟩ := role_directive "render".toList valid written rfl rfl comment
    obtain ⟨hint, spaced, blanks, isCall⟩ := valid
    rw [directive, directiveRole?]
    simp only [word, dropped]
    change (readRender (stripComment rest)).toOption.map _ = _
    rw [split, behind, List.append_assoc, List.append_assoc,
      readRender_written hint spaced (List.all_eq_true.mp blanks) isCall discerned.commas blanks']
    rfl
  | input attrs =>
    obtain ⟨directive, word, dropped⟩ := role_directive "input".toList valid written rfl rfl comment
    obtain ⟨isAttrs, _, named⟩ := valid
    obtain ⟨name, found, identifier⟩ := (Option.any_eq_true _ _).mp named
    rw [directive, directiveRole?]
    simp only [word, dropped, comment]
    change (readInput (attrs.flatMap WrittenAttr.text)).toOption.map _ = _
    rw [readInput_written isAttrs found identifier, ← own, role?, WrittenAttr.input?, found]
    rfl
  | header h => cases own

/-- The draft behind a line is made by the role of the line. -/
lemma step_written {d d' : Draft} (kept : w.draft? d l.line = some d') :
    ∃ role, w.role? l.line = some role ∧ d.step l role = some (d', none) := by
  cases w with
  | header h => cases kept
  | elif code =>
    refine ⟨_, rfl, ?_⟩
    rw [Draft.step, toOption_eq_some.mp kept]
    rfl
  | input attrs =>
    obtain ⟨item, made, rfl⟩ := Option.map_eq_some_iff.mp kept
    exact ⟨.adds (.items [item]), by rw [role?, made]; rfl, rfl⟩
  | jump | choice | cond | loop | render =>
    cases kept
    exact ⟨_, rfl, rfl⟩

lemma readLines_header {h : WrittenHeader} (valid : h.Valid) {rest : List Char}
    (discerned : (header h).Discerned rest) (written : trim l.text = (header h).mark ++ rest) (r : Reading)
    (lines : List SourceLine) :
    readLines r (l :: lines) = readLines { r.close with current? := some (Draft.start h.passage l) } lines := by
  have opens : dropFront? [':', ':'] (trim l.text) = some rest := by
    rw [written]
    rfl
  rw [readLines]
  simp only [opens, Reading.openPassage, readHeader_written valid discerned.commas discerned.tags discerned.comment]

/-- A line is read as it was written, and reported nowhere. -/
lemma readLines_written (valid : w.Valid) {rest : List Char} (discerned : w.Discerned rest)
    (written : trim l.text = w.mark ++ rest) {r r' : Reading} (kept : w.reading? r l = some r')
    (lines : List SourceLine) : readLines r (l :: lines) = readLines r' lines := by
  by_cases header : ∃ h, w = .header h
  · obtain ⟨h, rfl⟩ := header
    cases kept
    exact readLines_header valid discerned written r lines
  · have inside : w.reading? r l =
        r.current?.bind fun d => (w.draft? d l.line).map fun d => { r with current? := some d } := by
      cases w with
      | header h => exact absurd ⟨h, rfl⟩ header
      | _ => rfl
    rw [inside] at kept
    obtain ⟨d, opened, kept⟩ := Option.bind_eq_some_iff.mp kept
    obtain ⟨d', drafted, rfl⟩ := Option.map_eq_some_iff.mp kept
    obtain ⟨role, own, step⟩ := step_written drafted
    rw [readLines_step lines opened (role?_written valid discerned written own), step]
    rfl

end WrittenLine

open WrittenLine in
/-- Every line with expressions is stored with these expressions, in their order and trimmed, wherever it stands,
if the scans of the line discern its parts. They do so unless a string literal holds two slashes, its own quote
behind a backslash, or a caret. A link is followed by its target and its arguments alone. -/
theorem readLines_verbatim {w : WrittenLine} (valid : w.Valid) {l : SourceLine} {rest : List Char}
    (written : trim l.text = w.mark ++ rest) :
    (rest = w.behind → w.Plain → w.Discerned rest) ∧
      (w.Discerned rest → ∀ r r' lines, w.reading? r l = some r' → readLines r (l :: lines) = readLines r' lines) ∧
      ∀ call ∈ w.link?, ∀ scope id,
        resolve (String.ofList call.target) scope.group? (Assoc.keys scope.params) = some id →
        LinkFits scope.params id call.args →
        link scope (String.ofList call.target) call.args l.line = (id, []) := by
  refine ⟨?_, fun discerned r r' lines kept => readLines_written valid discerned written kept lines, ?_⟩
  · rintro rfl plain
    exact plain.discerned valid
  · rintro call - scope id found ⟨expected, params, fits⟩
    simp only [link, found, params, Option.getD_some, fits]

/-- A passage without lines so far. -/
def stall : Draft :=
  Draft.start (newPassage "Stall" [] []) ⟨"main.bard", 1, ":: Stall".toList⟩

/-- A choice with brackets, commas and slashes in the string literals of its guard and its arguments. -/
def errand : WrittenChoice where
  once := true
  lead := [' ']
  guard? := some (" seen('a//b') ".toList, [' '])
  label := [.literal "Go, // ".toList, .interpolation "name".toList none]
  beforeArrow := [' ']
  afterArrow := [' ']
  call :=
    ⟨"Stall.Back".toList,
      some [.bare "[1, (2, '),')]".toList, .named [' '] "price".toList [] "\x7b'a//b': \"x,^y\"\x7d".toList]⟩
  tags := [⟨[' '], "quick".toList⟩]

def errandLine : SourceLine :=
  ⟨"main.bard", 7, ("* \x7b seen('a//b') \x7d [Go, \\// \x7bname\x7d] -> Stall.Back([1, (2, '),')], " ++
    "price=\x7b'a//b': \"x,^y\"\x7d) ^quick // one").toList⟩

/-- In `* { seen('a//b') } [Go, \// {name}] -> Stall.Back([1, (2, '),')], price={'a//b': "x,^y"}) ^quick // one`
all is found, and the comment is gone. -/
theorem errand_stored :
    (WrittenLine.choice errand).Valid ∧ (WrittenLine.choice errand).Discerned (errandLine.text.drop 1) ∧
      readLines { Reading.empty with current? := some stall } [errandLine] =
        readLines { Reading.empty with
          current? := some (stall.addChoice {
            key := "Stall#0"
            text := [.text "Go, // ", .expression "name" none]
            target := "Stall.Back"
            args := [⟨none, "[1, (2, '),')]"⟩, ⟨some "price", "\x7b'a//b': \"x,^y\"\x7d"⟩]
            guard? := some "seen('a//b')"
            oneShot := true
            tags := ["quick"]
            line := 7 }) } [] ∧
      link ⟨[("Stall.Back", [⟨"goods", none⟩, ⟨"price", none⟩])], none, "main.bard"⟩ "Stall.Back"
        [⟨none, "[1, (2, '),')]"⟩, ⟨some "price", "\x7b'a//b': \"x,^y\"\x7d"⟩] 7 = ("Stall.Back", []) := by
  have valid : (WrittenLine.choice errand).Valid :=
    { lead := by decide
      guard := by rintro _ _ ⟨⟩; decide +kernel
      label := by decide +kernel
      closed := by decide
      beforeArrow := by decide
      afterArrow := by decide
      call := ⟨by decide +kernel, by decide +kernel, by decide⟩
      tags := by decide +kernel }
  have written : trim errandLine.text = (WrittenLine.choice errand).mark ++ errandLine.text.drop 1 := by decide +kernel
  have discerned : (WrittenLine.choice errand).Discerned (errandLine.text.drop 1) :=
    ⟨by decide +kernel, by decide +kernel, by decide +kernel⟩
  obtain ⟨_, stored, linked⟩ := readLines_verbatim valid written
  refine ⟨valid, discerned, stored discerned _ _ [] ?_, linked errand.call ?_ _ _ ?_ ?_⟩
  · rfl
  · rfl
  · decide +kernel
  · exact ⟨_, rfl, rfl⟩

/-- Whether a line as it is written is reported in a passage without lines so far, though it has its place there. -/
def WrittenLine.Misread (w : WrittenLine) : Prop :=
  let line : SourceLine := ⟨"main.bard", 7, w.text⟩
  let r := { Reading.empty with current? := some stall }
  w.Valid ∧ (w.reading? r line).map (·.problems.length) = some 0 ∧
    (readLines r [line]).map (·.problems.length) = some 1

/-- A call with a single literal. -/
def visit (literal : String) : WrittenCall :=
  ⟨"Stall".toList, some [.bare literal.toList]⟩

/-- In `-> Stall("http://x")`, `-> Stall("a\", b")` and `+ [Go] -> Stall("a ^b")` a part of the string literal is
taken for a comment, a separator and a tag. -/
theorem literals_misread :
    (WrittenLine.jump [' '] (visit "\"http://x\"")).Misread ∧ (WrittenLine.jump [' '] (visit "\"a\\\", b\"")).Misread ∧
      (WrittenLine.choice
        ⟨false, [' '], none, [.literal "Go".toList], [' '], [' '], visit "\"a ^b\"", []⟩).Misread := by
  have call (literal : String) (read : (Expr.read literal.toList).isOk) : (visit literal).Valid :=
    ⟨show isPassageName "Stall".toList by decide, List.forall_mem_singleton.mpr read, List.pairwise_singleton _ _⟩
  refine ⟨⟨⟨by decide, call _ (by decide +kernel)⟩, by decide +kernel⟩,
    ⟨⟨by decide, call _ (by decide +kernel)⟩, by decide +kernel⟩, ?_, by decide +kernel⟩
  exact
    { lead := by decide
      guard := nofun
      label := by decide +kernel
      closed := by decide
      beforeArrow := by decide
      afterArrow := by decide
      call := call _ (by decide +kernel)
      tags := nofun }

end BranchingStory.Source
