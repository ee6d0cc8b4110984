import Mathlib.Data.List.DropRight
import BranchingStory.Proofs.Source.Balanced
import BranchingStory.Proofs.Source.Continued
import BranchingStory.Proofs.Source.Tracing

/-!
# The lines of a passage

What stands between two headers is a list of lines with a role each, in which all blocks are closed, if
nothing is wrong with it: a statement over several lines counts as one, and comments and declarations do not
count. Each passage of a compiled story is what these lines denote.
-/

namespace BranchingStory.Source

open Text Script

/-! ## Lines that change the open passage -/

/-- A statement as a line of its own. -/
def SourceLine.statement (l : SourceLine) (code : List Char) : SourceLine :=
  { l with text := '~' :: trim code }

/-- What lines are to the passage that is open in front of them, up to the next header: a statement over
several lines is one line, and so is each statement of a script. Comments, declarations and metadata are
no part of it. -/
def passageLines (lines : List SourceLine) : List SourceLine :=
  match lines with
  | [] => []
  | l :: lines =>
    let cs := trim l.text
    if (dropFront? [':', ':'] cs).isSome then []
    else if cs.head? = some '#' ∨ (directiveArg? "@start".toList cs).isSome then passageLines lines
    else if cs = "@metadata".toList then passageLines (readMetadata Metadata.empty lines).2
    else if (dropFront? "@script".toList cs).isSome then
      (scriptStatements (takeScript lines).1).map (fun (l, code) => l.statement code) ++
        passageLines (takeScript lines).2.2
    else
      match cs with
      | '~' :: first =>
        l.statement (joinOpen (trim first) lines).1 :: passageLines (joinOpen (trim first) lines).2
      | _ => l :: passageLines lines
termination_by lines.length
decreasing_by
  all_goals
    first
      | exact Nat.lt_succ_self _
      | exact Nat.lt_succ_of_le (length_readMetadata _ _)
      | exact Nat.lt_succ_of_le (length_takeScript _)
      | exact Nat.lt_succ_of_le (length_joinOpen _ _)

section Steps

variable {d d' : Draft} {l : SourceLine} {code : List Char}

lemma trimEnd_trimEnd (cs : List Char) : trimEnd (trimEnd cs) = trimEnd cs := by
  rw [trimEnd, trimEnd, dropEndWhile, dropEndWhile, List.reverse_reverse, List.dropWhile_idempotent]

lemma trim_trim (cs : List Char) : trim (trim cs) = trim cs := by
  rw [trim_of_suffix (List.nil_append (trim cs)).symm]
  obtain ⟨behind, split⟩ := trimEnd_front (cs.dropWhile isBlank)
  have first := List.head?_dropWhile_not isBlank (cs.dropWhile isBlank)
  have same : trimEnd (cs.dropWhile isBlank) = trim cs := rfl
  rw [List.dropWhile_idempotent, ← split, same] at first
  cases trimmed : trim cs with
  | nil => rfl
  | cons c rest =>
    rw [trimmed] at first
    exact List.dropWhile_cons_of_neg (by simpa using first)

lemma trim_tilde (code : List Char) : trim ('~' :: trim code) = '~' :: trim code := by
  have kept : ('~' :: trim code).dropWhile isBlank = '~' :: trim code := rfl
  have done : (trim code).reverse.dropWhile isBlank = (trim code).reverse := by
    have again := trimEnd_trimEnd (code.dropWhile isBlank)
    rw [trimEnd, dropEndWhile, List.reverse_eq_iff] at again
    exact again
  rw [trim, stripWhile, kept, dropEndWhile, List.reverse_cons, List.dropWhile_append, done]
  split
  · next empty =>
    rw [List.isEmpty_iff, List.reverse_eq_nil_iff] at empty
    rw [empty]
    rfl
  · rw [List.reverse_append, List.reverse_reverse]
    rfl

lemma readMetadata_rest (m m' : Metadata) (lines : List SourceLine) :
    (readMetadata m lines).2 = (readMetadata m' lines).2 := by
  induction lines generalizing m m' with
  | nil => rfl
  | cons l lines ih =>
    rw [readMetadata, readMetadata]
    split
    · exact ih _ _
    · split
      · split
        · rfl
        · exact ih _ _
      · rfl

lemma readCommand_trim (code : List Char) (line : Nat) :
    readCommand (trim code) line = readCommand code line := by
  rw [readCommand, trim_trim]
  rfl

/-- A statement that has a command is a line of its own. -/
lemma role?_statement {c : Command} (command : readCommand code l.line = .ok c) :
    (l.statement code).role? = some (.adds (.command c)) := by
  obtain ⟨tree, read, _⟩ := source_of_readCommand command
  obtain ⟨ts, lexes, _, closed⟩ := lexes_of_read read
  have shut : isOpen (trim code) = false := by
    rw [isOpen_lexes lexes.trim, closed.nesting]
    rfl
  have apart : (l.statement code).isApart = false := by
    unfold SourceLine.isApart SourceLine.statement
    rw [trim_tilde]
    rfl
  unfold SourceLine.role?
  rw [apart]
  simp only [SourceLine.statement, trim_tilde, trim_trim, shut, readCommand_trim, command]
  rfl

lemma settle_eq {step : Except Fault Draft} : d.settle step = (d', none) ↔ step = .ok d' := by
  cases step with
  | ok other => simp only [Draft.settle, Prod.mk.injEq, and_true, Except.ok.injEq]
  | error fault => simp only [Draft.settle, Prod.mk.injEq, reduceCtorEq, and_false]

lemma readStatement_ok (read : d.readStatement code l.line = (d', none)) :
    ∃ role, (l.statement code).role? = some role ∧ d.step (l.statement code) role = some (d', none) := by
  obtain ⟨c, command, rfl⟩ := map_eq_ok.mp (settle_eq.mp read)
  exact ⟨_, role?_statement command, rfl⟩

lemma closeBlock_bare {kind : BlockKind} {rest : List Char} (closes : d.closeBlock kind rest = .ok d') :
    rest.isEmpty := by
  cases bare : rest.isEmpty with
  | true => rfl
  | false =>
    unfold Draft.closeBlock at closes
    simp only [bare, Bool.not_false, if_true, check_eq_ok] at closes
    cases closes.2

/-- A directive that is obeyed has a role. -/
lemma directiveRole?_of_obey {cs : List Char} {line : Nat} (obeyed : d.obey cs line = .ok d') :
    ∃ role, directiveRole? cs = some role := by
  unfold Draft.obey at obeyed
  unfold directiveRole?
  simp only at obeyed ⊢
  split at obeyed
  · next word =>
    obtain ⟨condition, read, _⟩ := bind_eq_ok.mp obeyed
    exact ⟨.cond condition, by simp only [word, read]; rfl⟩
  · next word =>
    obtain ⟨condition, read, _⟩ := bind_eq_ok.mp obeyed
    exact ⟨.elif condition, by simp only [word, read]; rfl⟩
  · next word =>
    obtain ⟨colon, _⟩ := check_eq_ok.mp obeyed
    exact ⟨.otherwise, by simp only [word, not_ne_iff.mp colon]; rfl⟩
  · next word => exact ⟨.endCond, by simp only [word, closeBlock_bare obeyed]; rfl⟩
  · next word => exact ⟨.endLoop, by simp only [word, closeBlock_bare obeyed]; rfl⟩
  · next word =>
    obtain ⟨⟨vars, collection⟩, read, _⟩ := bind_eq_ok.mp obeyed
    exact ⟨.loop vars collection, by simp only [word, read]; rfl⟩
  · next word =>
    obtain ⟨item, read, _⟩ := bind_eq_ok.mp obeyed
    exact ⟨.adds (.items [item]), by simp only [word, read]; rfl⟩
  · next word =>
    obtain ⟨item, read, _⟩ := bind_eq_ok.mp obeyed
    exact ⟨.adds (.items [item]), by simp only [word, read]; rfl⟩
  · cases obeyed
  · cases obeyed

/-- A line that is read without a fault has a role, and does what its role says. -/
lemma readLine_ok (inside : l.isApart = false) (visible : trim l.text ≠ [])
    (noTilde : ∀ first, trim l.text ≠ '~' :: first) (read : d.readLine l = some (d', none)) :
    ∃ role, l.role? = some role ∧ d.step l role = some (d', none) := by
  unfold SourceLine.role?
  simp only [inside, Bool.false_eq_true, if_false]
  split
  · contradiction
  · next tilde => exact absurd tilde (noTilde _)
  · next directive =>
    unfold Draft.readLine at read
    simp only [directive] at read ⊢
    obtain ⟨role, found⟩ := directiveRole?_of_obey (settle_eq.mp (Option.some.inj read))
    exact ⟨role, found, (d.obey_eq_step found).symm.trans read⟩
  · next noMark =>
    unfold Draft.readLine at read
    simp only at read
    split at read
    · next mark => exact absurd mark (noMark _)
    · next rest jump _ =>
      have added := settle_eq.mp (Option.some.inj read)
      rw [d.addJump_eq] at added
      obtain ⟨item, ok, rfl⟩ := map_eq_ok.mp added
      exact ⟨.adds (.items [item]), by simp only [jump, ok]; rfl, rfl⟩
    · next oneShot noJump choice _ =>
      have added := settle_eq.mp (Option.some.inj read)
      rw [d.readChoice_eq] at added
      obtain ⟨c, ok, rfl⟩ := map_eq_ok.mp added
      exact ⟨.adds (.choice c), by simp only [noJump, choice, ok]; rfl, rfl⟩
    · next noJump noChoice _ =>
      obtain ⟨⟨text, between⟩, cut, added⟩ := Option.map_eq_some_iff.mp read
      have added := settle_eq.mp added
      rw [between.addText_eq] at added
      obtain ⟨items, ok, _⟩ := map_eq_ok.mp added
      have readable : ∃ items, readTextLine l.text = .ok items := by
        rcases Draft.dedent_eq_some cut with ⟨_, rfl, _⟩ | ⟨_, _, base, _, _, cut, _⟩
        · exact ⟨items, ok⟩
        · exact (readTextLine_outdent cut (Nat.min_le_left _ _)).mpr ⟨items, ok⟩
      obtain ⟨items, ok⟩ := readable
      exact ⟨.text, by simp only [noJump, noChoice, ok]; rfl, read⟩

end Steps

section Kept

variable {l : SourceLine} {rest : List SourceLine}

lemma passageLines_header (header : (dropFront? [':', ':'] (trim l.text)).isSome) :
    passageLines (l :: rest) = [] := by
  rw [passageLines]
  exact if_pos header

lemma passageLines_comment (comment : (trim l.text).head? = some '#') :
    passageLines (l :: rest) = passageLines rest := by
  obtain ⟨text, mark⟩ := List.head?_eq_some_iff.mp comment
  rw [passageLines, mark]
  rfl

lemma passageLines_declaration {arg : List Char}
    (found : directiveArg? "@start".toList (trim l.text) = some arg) :
    passageLines (l :: rest) = passageLines rest := by
  have begins : ∃ text, trim l.text = "@start".toList ++ text := by
    unfold directiveArg? at found
    cases word : dropFront? "@start".toList (trim l.text) with
    | none =>
      rw [word] at found
      cases found
    | some text => exact ⟨text, dropFront?_eq_some.mp word⟩
  obtain ⟨text, mark⟩ := begins
  have noHeader : (dropFront? [':', ':'] (trim l.text)).isSome = false := by
    rw [mark]
    rfl
  rw [passageLines]
  simp only [noHeader, found, Bool.false_eq_true, if_false, Option.isSome_some, or_true, if_true]

lemma passageLines_metadata (metadata : trim l.text = "@metadata".toList) (m : Metadata) :
    passageLines (l :: rest) = passageLines (readMetadata m rest).2 := by
  rw [passageLines, metadata, readMetadata_rest m Metadata.empty]
  rfl

lemma passageLines_script (script : (dropFront? "@script".toList (trim l.text)).isSome) :
    passageLines (l :: rest) =
      (scriptStatements (takeScript rest).1).map (fun (l, code) => l.statement code) ++
        passageLines (takeScript rest).2.2 := by
  obtain ⟨text, word⟩ := Option.isSome_iff_exists.mp script
  rw [passageLines, dropFront?_eq_some.mp word]
  rfl

lemma passageLines_tilde {first : List Char} (tilde : trim l.text = '~' :: first) :
    passageLines (l :: rest) =
      l.statement (joinOpen (trim first) rest).1 :: passageLines (joinOpen (trim first) rest).2 := by
  rw [passageLines, tilde]
  rfl

lemma passageLines_line (inside : l.isApart = false) (noTilde : ∀ first, trim l.text ≠ '~' :: first) :
    passageLines (l :: rest) = l :: passageLines rest := by
  simp only [SourceLine.isApart, Bool.or_eq_false_iff, decide_eq_false_iff_not] at inside
  obtain ⟨⟨⟨⟨noHeader, noComment⟩, noStart⟩, noMetadata⟩, noScript⟩ := inside
  rw [passageLines]
  simp only [noHeader, noComment, noStart, noMetadata, noScript, Bool.false_eq_true, or_false, if_false]

/-- Where all lines are read one by one, they are the lines of the passage. -/
lemma passageLines_plain {lines : List SourceLine}
    (plain : ∀ l ∈ lines, l.isApart = false ∧ (trim l.text).head? ≠ some '~') :
    passageLines lines = lines := by
  induction lines with
  | nil => rw [passageLines]
  | cons l lines ih =>
    obtain ⟨⟨inside, first⟩, more⟩ := List.forall_mem_cons.mp plain
    have noTilde (code : List Char) : trim l.text ≠ '~' :: code := by
      rintro tilde
      exact first (tilde ▸ rfl)
    rw [passageLines_line inside noTilde, ih more]

end Kept

section Steps

variable {r r' last : Reading} {d d' : Draft} {l : SourceLine} {rest rest' lines : List SourceLine}

/-- Nothing was reported while a line was read if there is no problem behind it. -/
lemma Reading.advance_clean {outcome : Draft × Option Fault} (clean : (r.advance l outcome).problems = []) :
    r.problems = [] ∧ outcome = (outcome.1, none) := by
  obtain ⟨d, fault?⟩ := outcome
  cases fault? with
  | none => exact ⟨clean, rfl⟩
  | some fault => exact absurd (List.append_eq_nil_iff.mp clean).2 (List.cons_ne_nil _ _)

lemma Reading.report_unclean (r : Reading) (l : SourceLine) (fault : Fault) :
    (r.report l fault).problems ≠ [] :=
  fun none => List.cons_ne_nil _ _ (List.append_eq_nil_iff.mp none).2

lemma Reading.scriptEnds_clean {closed : Bool} (clean : (r.scriptEnds l closed).problems = []) :
    r.scriptEnds l closed = r := by
  unfold Reading.scriptEnds at clean ⊢
  simp only at clean ⊢
  split at clean
  · next shut =>
    split at clean
    · next begun => rw [if_pos shut, if_pos begun]
    · exact absurd clean (r.report_unclean _ _)
  · exact absurd clean (Reading.report_unclean _ _ _)

lemma Reading.close_clean (clean : r.close.problems = []) :
    r.problems = [] ∧ ∀ d, r.current? = some d → d.stack = [] := by
  unfold Reading.close at clean
  split at clean
  · next closed =>
    refine ⟨clean, fun d opened => ?_⟩
    rw [closed] at opened
    cases opened
  · next d opened =>
    obtain ⟨before, none⟩ := List.append_eq_nil_iff.mp clean
    refine ⟨before, fun d' same => ?_⟩
    rw [opened] at same
    cases same
    exact List.map_eq_nil_iff.mp none

/-- The statements of a script do to the open passage what they do as lines of their own. -/
lemma Reading.script_clean {statements : List (SourceLine × List Char)} (opened : r.current? = some d)
    (clean : (r.script statements).problems = []) :
    r.problems = [] ∧ ∃ d', (r.script statements).current? = some d' ∧
      Runs d (statements.map fun (l, code) => l.statement code) d' [] := by
  unfold Reading.script at clean ⊢
  induction statements generalizing r d with
  | nil => exact ⟨clean, d, opened, .nil⟩
  | cons statement statements ih =>
    obtain ⟨l, code⟩ := statement
    simp only [List.foldl_cons, opened] at clean ⊢
    obtain ⟨clean, d', opened', run⟩ := ih (r.advance_current l _).1 clean
    obtain ⟨before, fits⟩ := Reading.advance_clean clean
    obtain ⟨role, valid, step⟩ := readStatement_ok fits
    exact ⟨before, d', opened', .fits valid step run⟩

/-- A step without a problem, which is not at a header, does to the open passage what its lines do. -/
lemma Advances.runs (advances : Advances r l rest r' rest') (clean : r'.problems = [])
    (noHeader : dropFront? [':', ':'] (trim l.text) = none) (opened : r.current? = some d) :
    ∃ d' front, r'.current? = some d' ∧ passageLines (l :: rest) = front ++ passageLines rest' ∧
      Runs d front d' [] := by
  cases advances with
  | header found =>
    rw [noHeader] at found
    cases found
  | comment comment => exact ⟨d, [], opened, passageLines_comment comment, .nil⟩
  | declaration found =>
    exact ⟨d, [], (r.declareStart_keeps l _).1.trans opened, passageLines_declaration found, .nil⟩
  | metadata metadata => exact ⟨d, [], opened, passageLines_metadata metadata _, .nil⟩
  | stray closed =>
    rw [closed] at opened
    cases opened
  | blank opened' empty =>
    cases opened'.symm.trans opened
    have role : l.role? = some (.adds (.items [.text "\n"])) := by
      unfold SourceLine.role? SourceLine.isApart
      rw [empty]
      rfl
    refine ⟨d.addBreak, [l], rfl, ?_, .fits role rfl .nil⟩
    rw [passageLines, empty]
    rfl
  | script _ script =>
    obtain ⟨kept, _⟩ := r.scriptEnds_keeps l (takeScript rest).2.1
    obtain ⟨_, d', opened', run⟩ := Reading.script_clean (kept.trans opened) clean
    exact ⟨d', _, opened', passageLines_script script, run⟩
  | statement opened' tilde =>
    cases opened'.symm.trans opened
    obtain ⟨_, fits⟩ := Reading.advance_clean clean
    obtain ⟨role, valid, step⟩ := readStatement_ok fits
    exact ⟨_, [_], (r.advance_current l _).1, passageLines_tilde tilde, .fits valid step .nil⟩
  | @line _ outcome opened' read inside visible noTilde =>
    cases opened'.symm.trans opened
    obtain ⟨_, fits⟩ := Reading.advance_clean clean
    rw [fits] at read
    obtain ⟨role, valid, step⟩ := readLine_ok inside visible noTilde read
    exact ⟨_, [l], (r.advance_current l _).1, passageLines_line inside noTilde, .fits valid step .nil⟩

/-- Closing finishes the open passage. -/
lemma Reading.close_done (r : Reading) : r.close.done = r.done ++ r.current?.toList := by
  unfold Reading.close
  cases r.current? with
  | none => exact (List.append_nil _).symm
  | some d => rfl

/-- What was reported before a step is reported behind it. -/
lemma Advances.clean (advances : Advances r l rest r' rest') (clean : r'.problems = []) :
    r.problems = [] := by
  cases advances with
  | @header header =>
    unfold Reading.openPassage at clean
    split at clean
    · exact (Reading.close_clean clean).1
    · exact absurd clean (Reading.report_unclean _ _ _)
  | comment | metadata | blank => exact clean
  | declaration =>
    unfold Reading.declareStart at clean
    simp only at clean
    split at clean
    · exact clean
    · exact absurd clean (r.report_unclean _ _)
  | stray => rwa [(r.stray_keeps l).2.2.2] at clean
  | script opened =>
    obtain ⟨kept, _⟩ := r.scriptEnds_keeps l (takeScript rest).2.1
    have before := (Reading.script_clean (kept.trans opened) clean).1
    rwa [Reading.scriptEnds_clean before] at before
  | statement | line => exact (Reading.advance_clean clean).1

end Steps

/-! ## Whole passages -/

/-- A place in a source that may be the beginning of a passage: a line, and all lines behind it. -/
structure Heading where
  header : SourceLine
  behind : List SourceLine

namespace Heading

def lines (h : Heading) : List SourceLine :=
  h.header :: h.behind

/-- Whether a passage begins here, as its header says. -/
def Opens (h : Heading) (p : Passage) : Prop :=
  ∃ text, dropFront? [':', ':'] (trim h.header.text) = some text ∧ readHeader text = .ok p

/-- Whether a passage is what the header and the lines behind it make, with all blocks closed. -/
def Makes (h : Heading) (d : Draft) : Prop :=
  ∃ p, h.Opens p ∧ Runs (Draft.start p h.header) (passageLines h.behind) d [] ∧ d.stack = []

/-- Whether a passage is what the header and the lines behind it denote, linked with the others of a story. -/
def Denotes (h : Heading) (params : List (String × List Param)) (p : Passage) : Prop :=
  ∃ p₀ ns, h.Opens p₀ ∧ Body (passageLines h.behind) ns ∧
    p = (linkPassage params h.header.file (ns.foldl takeNode (p₀, 0)).1).1

variable {h : Heading} {p p' : Passage} {d : Draft}

lemma opens_unique (opens : h.Opens p) (opens' : h.Opens p') : p = p' := by
  obtain ⟨text, found, read⟩ := opens
  obtain ⟨text', found', read'⟩ := opens'
  cases found.symm.trans found'
  exact Except.ok.inj (read.symm.trans read')

lemma Makes.id_eq (makes : h.Makes d) (opens : h.Opens p) : d.passage.id = p.id := by
  obtain ⟨p', opens', run, _⟩ := makes
  rw [opens_unique opens opens']
  exact run.continues.id

lemma Makes.denotes (makes : h.Makes d) (params : List (String × List Param)) :
    h.Denotes params (linkPassage params d.header.file d.passage).1 := by
  obtain ⟨p₀, opens, run, closed⟩ := makes
  obtain ⟨ns, body⟩ := run.body rfl (List.map_eq_nil_iff.mpr closed)
  refine ⟨p₀, ns, opens, body, ?_⟩
  obtain ⟨_, rfl⟩ := body.outside rfl run
  rfl

end Heading

section Headings

variable {r r' last : Reading} {l : SourceLine} {lines rest rest' : List SourceLine}

/-- Whether reading lines comes to a place, and does not take the line there for a part of something else. -/
def Reading.Reaches (r : Reading) (lines : List SourceLine) (h : Heading) : Prop :=
  ∃ r', Reads r lines r' h.lines

lemma Reading.Reaches.suffix {h : Heading} (reaches : r.Reaches lines h) : h.lines <:+ lines := by
  obtain ⟨_, reads⟩ := reaches
  exact reads.suffix

/-- Whether a passage is defined at a place, which reading comes to from the beginning of a source. -/
def Heading.Defines (h : Heading) (all : List SourceLine) (id : String) : Prop :=
  Reading.empty.Reaches all h ∧ ∃ p, h.Opens p ∧ p.id = id

/-- Whether a place is the last one where a passage with its id is defined. -/
structure Heading.DefinesLast (h : Heading) (all : List SourceLine) (id : String) : Prop where
  defines : h.Defines all id
  last : ∀ other : Heading, other.Defines all id → h.lines <:+ other.lines

/-- A place is reached at once or behind the next step. -/
lemma Reading.reaches_step {h : Heading} (next : r.next l rest = some (r', rest')) :
    r.Reaches (l :: rest) h ↔ h = ⟨l, rest⟩ ∨ r'.Reaches rest' h := by
  constructor
  · rintro ⟨last, reads⟩
    generalize target : h.lines = left at reads
    cases reads with
    | here =>
      cases target
      exact .inl rfl
    | step next' reads =>
      cases next.symm.trans next'
      cases target
      exact .inr ⟨last, reads⟩
  · rintro (rfl | ⟨last, reads⟩)
    · exact ⟨r, .here⟩
    · exact ⟨last, .step next reads⟩

/-- What lines make of a reading: the passage that is open in front of them is finished, and behind it come
the passages of the headers that are reached, in their order. -/
structure Reading.Finishes (r : Reading) (lines : List SourceLine) (finished? : Option Draft)
    (headings : List Heading) (made : List Draft) : Prop where
  opened : Option.Rel (fun d d' => Runs d (passageLines lines) d' [] ∧ d'.stack = []) r.current? finished?
  made : List.Forall₂ Heading.Makes headings made
  ordered : headings.Pairwise fun h later => later.lines <:+ h.behind
  mem_iff : ∀ h, h ∈ headings ↔ r.Reaches lines h ∧ ∃ p, h.Opens p

/-- Where no lines are left, the open passage is finished as it is. -/
lemma Reading.finishes_nil (clean : r.close.problems = []) : r.Finishes [] r.current? [] [] := by
  refine ⟨?opened, .nil, .nil, fun h => ?mem⟩
  case opened =>
    cases opened : r.current? with
    | none => exact .none
    | some d =>
      refine .some ⟨?_, (Reading.close_clean clean).2 d opened⟩
      rw [passageLines]
      exact .nil
  case mem =>
    refine ⟨nofun, fun ⟨⟨_, reads⟩, _⟩ => ?_⟩
    have none := reads.suffix
    exact absurd (List.suffix_nil.mp none) (List.cons_ne_nil _ _)

/-- A header ends the open passage, and is the first of those behind it. -/
lemma Reading.finishes_header {text : List Char} {p : Passage} {finished? : Option Draft}
    {headings : List Heading} {made : List Draft} (found : dropFront? [':', ':'] (trim l.text) = some text)
    (read : readHeader text = .ok p) (closes : r.close.problems = [])
    (finishes : Reading.Finishes { r.close with current? := some (Draft.start p l) } rest finished? headings made) :
    r.Finishes (l :: rest) r.current? (⟨l, rest⟩ :: headings) (finished?.toList ++ made) := by
  have next : r.next l rest = some ({ r.close with current? := some (Draft.start p l) }, rest) := by
    rw [r.next_header rest found]
    unfold Reading.openPassage
    rw [read]
  obtain ⟨⟨run, closed⟩, made, ordered, mem_iff⟩ := finishes
  refine ⟨?opened, .cons ⟨p, ⟨text, found, read⟩, run, closed⟩ made, .cons ?first ordered, fun h => ?mem⟩
  case opened =>
    cases opened : r.current? with
    | none => exact .none
    | some d =>
      refine .some ⟨?_, (Reading.close_clean closes).2 d opened⟩
      rw [passageLines_header (Option.isSome_of_eq_some found)]
      exact .nil
  case first =>
    intro h member
    exact ((mem_iff h).mp member).1.suffix
  case mem =>
    rw [List.mem_cons, mem_iff, Reading.reaches_step next]
    constructor
    · rintro (rfl | ⟨reaches, opens⟩)
      · exact ⟨.inl rfl, p, text, found, read⟩
      · exact ⟨.inr reaches, opens⟩
    · rintro ⟨rfl | reaches, opens⟩
      · exact .inl rfl
      · exact .inr ⟨reaches, opens⟩

/-- A step that is not at a header takes its lines into the open passage. -/
lemma Reading.finishes_step {finished? : Option Draft} {headings : List Heading} {made : List Draft}
    (noHeader : dropFront? [':', ':'] (trim l.text) = none) (next : r.next l rest = some (r', rest'))
    (clean : r'.problems = []) (finishes : r'.Finishes rest' finished? headings made) :
    r.Finishes (l :: rest) finished? headings made := by
  have advances := advances_of_next next
  refine ⟨?opened, finishes.made, finishes.ordered, fun h => ?mem⟩
  case opened =>
    have behind := finishes.opened
    cases before : r.current? with
    | none =>
      rw [(advances.stays noHeader).closed before] at behind
      cases behind
      exact .none
    | some d =>
      obtain ⟨between, front, opened, lines, first⟩ := advances.runs clean noHeader before
      rw [opened] at behind
      obtain ⟨run, closed⟩ := behind
      exact .some ⟨lines ▸ first.append run, closed⟩
  case mem =>
    rw [finishes.mem_iff, Reading.reaches_step next]
    constructor
    · rintro ⟨reaches, opens⟩
      exact ⟨.inr reaches, opens⟩
    · rintro ⟨rfl | reaches, p, text, found, read⟩
      · exact absurd (found.symm.trans noHeader) (Option.some_ne_none _)
      · exact ⟨reaches, p, text, found, read⟩

/-- All passages that lines make without a problem are made of the lines behind their headers. -/
theorem Reads.finishes (reads : Reads r lines last rest) (ends : rest = [])
    (clean : last.close.problems = []) :
    r.problems = [] ∧ ∃ finished? headings made,
      last.close.done = r.done ++ (finished?.toList ++ made) ∧ r.Finishes lines finished? headings made := by
  -- Along the steps from the last one on, since a line is taken into a passage that is finished only later.
  induction reads with
  | @here last =>
    cases ends
    refine ⟨(Reading.close_clean clean).1, last.current?, [], [], ?_, Reading.finishes_nil clean⟩
    rw [List.append_nil, last.close_done]
  | @step r l rest r' rest' last left next _ ih =>
    obtain ⟨before, finished?, headings, made, done, finishes⟩ := ih ends clean
    have first := (advances_of_next next).clean before
    refine ⟨first, ?_⟩
    cases header : dropFront? [':', ':'] (trim l.text) with
    | none =>
      rw [((advances_of_next next).stays header).done] at done
      exact ⟨finished?, headings, made, done, Reading.finishes_step header next before finishes⟩
    | some text =>
      rw [r.next_header rest header] at next
      cases next
      unfold Reading.openPassage at before done finishes
      cases read : readHeader text with
      | error fault =>
        rw [read] at before
        exact absurd before (Reading.report_unclean _ _ _)
      | ok p =>
        rw [read] at before done finishes
        refine ⟨r.current?, _, _, ?_, Reading.finishes_header header read before finishes⟩
        rw [done, r.close_done, List.append_assoc]

/-- The passages that lines make without a problem are those of the headers that are reached, one by one. -/
theorem headings_readLines {whole : Reading} (read : readLines .empty lines = some whole)
    (clean : whole.problems = []) :
    ∃ headings, List.Forall₂ Heading.Makes headings whole.done ∧
      (headings.Pairwise fun h later => later.lines <:+ h.behind) ∧
      ∀ h, h ∈ headings ↔ Reading.empty.Reaches lines h ∧ ∃ p, h.Opens p := by
  rcases reads_or_stuck .empty lines with ⟨last, reads, same⟩ | ⟨_, _, _, _, _, stuck⟩
  · rw [same] at read
    cases read
    obtain ⟨_, finished?, headings, made, done, ⟨opened, makes, ordered, mem_iff⟩⟩ :=
      reads.finishes rfl clean
    cases opened
    exact ⟨headings, done ▸ makes, ordered, mem_iff⟩
  · rw [stuck] at read
    cases read

lemma exists_of_forall₂ {α β : Type} {R : α → β → Prop} {xs : List α} {ys : List β}
    (related : List.Forall₂ R xs ys) {x : α} (member : x ∈ xs) : ∃ y ∈ ys, R x y := by
  induction related with
  | nil => cases member
  | cons first _ ih =>
    rcases List.mem_cons.mp member with rfl | later
    · exact ⟨_, List.mem_cons_self, first⟩
    · obtain ⟨y, among, holds⟩ := ih later
      exact ⟨y, List.mem_cons_of_mem _ among, holds⟩

/-- Of lines that make passages, the last with an id makes the last passage with it. -/
lemma Heading.definesLast {all : List SourceLine} {d : Draft} {headings : List Heading} {before after : List Draft}
    (makes : List.Forall₂ Heading.Makes headings (before ++ d :: after))
    (ordered : headings.Pairwise fun h later => later.lines <:+ h.behind)
    (mem_iff : ∀ h, h ∈ headings ↔ Reading.empty.Reaches all h ∧ ∃ p, h.Opens p)
    (last : ∀ later ∈ after, later.passage.id ≠ d.passage.id) :
    ∃ h : Heading, h.Makes d ∧ h.DefinesLast all d.passage.id := by
  have split := List.take_append_drop before.length headings
  have behind := List.forall₂_drop_append headings before (d :: after) makes
  obtain ⟨h, more, made, later, same⟩ := List.forall₂_cons_right_iff.mp behind
  rw [same] at split
  rw [← split] at ordered mem_iff
  obtain ⟨reaches, p, opens⟩ := (mem_iff h).mp (List.mem_append_right _ List.mem_cons_self)
  refine ⟨h, made, ⟨reaches, p, opens, (made.id_eq opens).symm⟩, ?_⟩
  rintro other ⟨reaches', p', opens', sameId⟩
  -- A place behind this one makes a later draft, which has another id.
  rcases List.mem_append.mp ((mem_iff other).mpr ⟨reaches', p', opens'⟩) with front | rest
  · have inside := (List.pairwise_append.mp ordered).2.2 other front h List.mem_cons_self
    exact inside.trans (List.suffix_cons _ _)
  · rcases List.mem_cons.mp rest with rfl | beyond
    · exact List.suffix_refl _
    · obtain ⟨d', inAfter, made'⟩ := exists_of_forall₂ later beyond
      exact absurd ((made'.id_eq opens').trans sameId) (last d' inAfter)

end Headings

/-- The lines of a passage that are no statements are lines of the source, in their order. -/
lemma passageLines_sublist {keep : SourceLine → Bool}
    (noStatement : ∀ (l : SourceLine) (code : List Char), ¬keep (l.statement code))
    (lines : List SourceLine) : ((passageLines lines).filter keep).Sublist lines := by
  have further {first : SourceLine} {lines rest front : List SourceLine} (suffix : rest <:+ lines)
      (within : front.Sublist rest) : front.Sublist (first :: lines) :=
    (within.trans suffix.sublist).cons first
  fun_induction passageLines lines with
  | case1 => exact .slnil
  | case2 => exact List.nil_sublist _
  | case3 first lines _ _ _ ih => exact further (List.suffix_refl _) ih
  | case4 first lines _ _ _ _ ih => exact further (readMetadata_suffix _ _) ih
  | case5 first lines _ _ _ _ _ ih =>
    have none : ((scriptStatements (takeScript lines).1).map
        fun (l, code) => l.statement code).filter keep = [] := by
      refine List.filter_eq_nil_iff.mpr fun l member => ?_
      obtain ⟨⟨l', code⟩, _, rfl⟩ := List.mem_map.mp member
      exact noStatement l' code
    rw [List.filter_append, none]
    exact further (takeScript_suffix _) ih
  | case6 first lines _ _ _ _ _ code _ ih =>
    rw [List.filter_cons, if_neg (noStatement _ _)]
    exact further (joinOpen_suffix _ _) ih
  | case7 first lines _ _ _ _ _ _ ih =>
    rw [List.filter_cons]
    split
    · exact ih.cons_cons _
    · exact ih.cons _

end BranchingStory.Source

namespace BranchingStory.Story.CompiledFrom

open Source Text

variable {e : Expansion} {story : Story}

/-- Each passage of a compiled story is made where its id is defined last. -/
theorem made (compiled : story.CompiledFrom e) {id : String} {p : Passage}
    (member : (id, p) ∈ story.passages) :
    ∃ (h : Heading) (d : Draft), h.Makes d ∧ h.DefinesLast e.lines id ∧
      p = (linkPassage story.params d.header.file d.passage).1 := by
  obtain ⟨r, before, d, after, read, clean, split, last, rfl, same, _⟩ := compiled.last_draft member
  obtain ⟨headings, makes, ordered, mem_iff⟩ := headings_readLines read clean
  rw [split] at makes
  obtain ⟨h, made, definesLast⟩ := Heading.definesLast makes ordered mem_iff last
  exact ⟨h, d, made, definesLast, same⟩

/-- Each passage of a compiled story is what the lines behind its header denote. -/
theorem denoted (compiled : story.CompiledFrom e) {id : String} {p : Passage}
    (member : (id, p) ∈ story.passages) :
    ∃ header lines text p₀, header :: lines <:+ e.lines ∧
      dropFront? [':', ':'] (trim header.text) = some text ∧ readHeader text = .ok p₀ ∧
      (∃ ns, Body (passageLines lines) ns) ∧
      ∀ ns, Body (passageLines lines) ns →
        p = (linkPassage story.params header.file (ns.foldl takeNode (p₀, 0)).1).1 := by
  obtain ⟨h, d, ⟨p₀, ⟨text, found, opened⟩, run, closed⟩, last, rfl⟩ := compiled.made member
  have within := last.defines.1.suffix
  refine ⟨h.header, h.behind, text, p₀, within, found, opened,
    run.body rfl (List.map_eq_nil_iff.mpr closed), ?_⟩
  intro ns body
  obtain ⟨_, rfl⟩ := body.outside rfl run
  rfl

end BranchingStory.Story.CompiledFrom
