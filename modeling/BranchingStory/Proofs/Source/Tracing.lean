import BranchingStory.Proofs.Source.Adding
import BranchingStory.Proofs.Source.Compiled

/-!
# Problems traced back to lines

Every problem of a reading was found at one of the lines: while the line was read, or later. An open block
is reported at the end of its passage, and a link when all passages are there; both keep the number of their
line, but of the file they keep only that of the header.
-/

namespace BranchingStory.Source

open Text

/-- What a step of reading does at a line. -/
inductive Advances (r : Reading) (l : SourceLine) (rest : List SourceLine) :
    Reading → List SourceLine → Prop where
  | header {header} :
    dropFront? [':', ':'] (trim l.text) = some header →
    Advances r l rest (r.openPassage l header) rest
  | comment :
    (trim l.text).head? = some '#' →
    Advances r l rest r rest
  | declaration {arg} :
    directiveArg? "@start".toList (trim l.text) = some arg →
    Advances r l rest (r.declareStart l arg) rest
  | metadata :
    trim l.text = "@metadata".toList →
    Advances r l rest { r with metadata := (readMetadata r.metadata rest).1 } (readMetadata r.metadata rest).2
  | stray :
    r.current? = none →
    Advances r l rest (r.stray l) rest
  | blank {d} :
    r.current? = some d →
    trim l.text = [] →
    Advances r l rest { r with current? := some d.addBreak } rest
  | script {d} :
    r.current? = some d →
    (dropFront? "@script".toList (trim l.text)).isSome →
    Advances r l rest ((r.scriptEnds l (takeScript rest).2.1).script (scriptStatements (takeScript rest).1))
      (takeScript rest).2.2
  | statement {d first} :
    r.current? = some d →
    trim l.text = '~' :: first →
    Advances r l rest (r.statement d l (joinOpen (trim first) rest).1) (joinOpen (trim first) rest).2
  | line {d outcome} :
    r.current? = some d →
    d.readLine l = some outcome →
    l.isApart = false →
    trim l.text ≠ [] →
    (∀ first, trim l.text ≠ '~' :: first) →
    Advances r l rest (r.advance l outcome) rest

lemma advances_of_next {r r' : Reading} {l : SourceLine} {rest rest' : List SourceLine}
    (next : r.next l rest = some (r', rest')) : Advances r l rest r' rest' := by
  unfold Reading.next at next
  simp only at next
  split at next
  · next found =>
    cases next
    exact .header found
  · next noHeader =>
    split at next
    · next comment =>
      cases next
      exact .comment comment
    · next noComment =>
      split at next
      · next found =>
        cases next
        exact .declaration found
      · next noStart =>
        split at next
        · next metadata =>
          cases next
          exact .metadata metadata
        · next noMetadata =>
          split at next
          · next none =>
            cases next
            exact .stray none
          · next d opened =>
            split at next
            · next empty =>
              cases next
              exact .blank opened (List.isEmpty_iff.mp empty)
            · next full =>
              split at next
              · next found =>
                cases next
                exact .script opened found
              · next noScript =>
                split at next
                · next tilde =>
                  cases next
                  exact .statement opened tilde
                · next noTilde =>
                  obtain ⟨outcome, read, same⟩ := Option.map_eq_some_iff.mp next
                  cases same
                  refine .line opened read ?_ (fun none => full (List.isEmpty_iff.mpr none)) noTilde
                  simp only [SourceLine.isApart, noHeader, noComment, noStart, noMetadata, noScript,
                    Option.isSome_none, decide_false, Bool.or_false]

/-- The parameters of all passages that were read, by id. -/
def Reading.params (r : Reading) : List (String × List Param) :=
  (byId [] r.done).1.map fun (id, d) => (id, d.passage.params)

/-- Whether reading lines comes to a line while a passage is open. -/
structure ComesTo (lines : List SourceLine) (r : Reading) (d : Draft) (l : SourceLine)
    (rest : List SourceLine) : Prop where
  reads : Reads .empty lines r (l :: rest)
  opened : r.current? = some d

/-- Whether more than a number of blocks are open. -/
def Reading.Above (n : Nat) (r : Reading) : Prop :=
  ∃ d, r.current? = some d ∧ n < d.stack.length

/-- Some steps of reading lines, with something being so all the way. -/
inductive ReadsWhile (P : Reading → Prop) :
    Reading → List SourceLine → Reading → List SourceLine → Prop where
  | here {r lines} :
    P r →
    ReadsWhile P r lines r lines
  | step {r lines r' l rest r'' rest'} :
    ReadsWhile P r lines r' (l :: rest) →
    r'.next l rest = some (r'', rest') →
    P r'' →
    ReadsWhile P r lines r'' rest'

/-- Whether a passage ends in front of lines. -/
def AtEnd : List SourceLine → Prop
  | [] => True
  | l :: _ => (dropFront? [':', ':'] (trim l.text)).isSome

/-- What is found at a line while lines are read, and reported there. -/
inductive FoundAt (lines : List SourceLine) : SourceLine → Fault → Prop where
  | header {r l rest header fault} :
    Reads .empty lines r (l :: rest) →
    dropFront? [':', ':'] (trim l.text) = some header →
    readHeader header = .error fault →
    FoundAt lines l fault
  | declaration {r l rest arg} :
    Reads .empty lines r (l :: rest) →
    directiveArg? "@start".toList (trim l.text) = some arg →
    ¬isPassageName (trim (stripComment arg)) →
    FoundAt lines l .badStart
  | line {r d l rest d' fault} :
    ComesTo lines r d l rest →
    d.readLine l = some (d', some fault) →
    FoundAt lines l fault
  | statement {r d l rest first fault} :
    ComesTo lines r d l rest →
    trim l.text = '~' :: first →
    readCommand (joinOpen (trim first) rest).1 l.line = .error fault →
    FoundAt lines l fault
  | scriptStatement {r d opener rest l code fault} :
    ComesTo lines r d opener rest →
    (dropFront? "@script".toList (trim opener.text)).isSome →
    (l, code) ∈ scriptStatements (takeScript rest).1 →
    readCommand code l.line = .error fault →
    FoundAt lines l fault
  | scriptBegin {r d l rest} :
    ComesTo lines r d l rest →
    (dropFront? "@script".toList (trim l.text)).isSome →
    trim l.text ≠ "@script:".toList →
    FoundAt lines l .scriptWithoutColon
  | scriptEnd {r d l rest} :
    ComesTo lines r d l rest →
    (dropFront? "@script".toList (trim l.text)).isSome →
    (takeScript rest).2.1 = false →
    FoundAt lines l .openScript
  | unknownStart {r l rest arg whole} :
    Reads .empty lines r (l :: rest) →
    directiveArg? "@start".toList (trim l.text) = some arg →
    readLines .empty lines = some whole →
    String.ofList (trim (stripComment arg)) ∉ Assoc.keys whole.params →
    FoundAt lines l (.unknownStart (String.ofList (trim (stripComment arg))))
  | noPassages {r l rest arg whole} :
    Reads .empty lines r (l :: rest) →
    directiveArg? "@start".toList (trim l.text) = some arg →
    readLines .empty lines = some whole →
    whole.params = [] →
    FoundAt lines l .noPassages

/-- What is found at a line behind the header of its passage, and reported later. -/
inductive FoundLater (lines : List SourceLine) : SourceLine → SourceLine → Fault → Prop where
  /-- From the line on that opens the block, more blocks are open than before it, up to the end of the
  passage. -/
  | unclosed {r d l rest r' end_ behind kind} :
    ComesTo lines r d l rest →
    l.Opens kind →
    r.next l rest = some (r', rest) →
    ReadsWhile (Reading.Above d.stack.length) r' rest end_ behind →
    AtEnd behind →
    FoundLater lines d.header l (.unclosed kind d.passage.id)
  /-- The link in the line is faulty among all passages. -/
  | link {r d l rest whole k p} :
    ComesTo lines r d l rest →
    l.Brings k →
    readLines .empty lines = some whole →
    p ∈ LinkScope.problems ⟨whole.params, d.passage.namespace?, d.header.file⟩ k →
    FoundLater lines d.header l p.fault

/-- Whether a problem was found at a line: it has the number of the line, and its file or that of the header
of its passage. -/
def Traced (lines : List SourceLine) (p : Problem) : Prop :=
  (∃ l, p = l.problem p.fault ∧ FoundAt lines l p.fault) ∨
    ∃ header l, p.file = header.file ∧ p.line = l.line ∧ FoundLater lines header l p.fault

section Runs

variable {r r' r'' : Reading} {lines rest rest' : List SourceLine} {l : SourceLine}

lemma Reads.trans (first : Reads r lines r' rest) (second : Reads r' rest r'' rest') :
    Reads r lines r'' rest' := by
  induction first with
  | here => exact second
  | step next _ ih => exact .step next (ih second)

lemma Reads.suffix (reads : Reads r lines r' rest) : rest <:+ lines := by
  induction reads with
  | here => exact List.suffix_refl _
  | step next _ ih => exact ih.trans ((Reading.next_suffix next).trans (List.suffix_cons _ _))

/-- Whether the links of a passage stand in lines of the passage. -/
def LinksTraced (lines : List SourceLine) (d : Draft) : Prop :=
  ∀ k ∈ d.links, ∃ r d' l rest, ComesTo lines r d' l rest ∧ d'.Continues d ∧ l.Brings k

/-- Whether a block is open since a line that opened it on top of a number of blocks. -/
def OpenSince (lines : List SourceLine) (r : Reading) (rest : List SourceLine) (d : Draft) (n : Nat)
    (mark : Nat × BlockKind) : Prop :=
  ∃ r₀ d₀ l behind r₁, ComesTo lines r₀ d₀ l behind ∧ d₀.Continues d ∧ d₀.stack.length = n ∧
    mark = (l.line, mark.2) ∧ l.Opens mark.2 ∧ r₀.next l behind = some (r₁, behind) ∧
    ReadsWhile (Reading.Above n) r₁ behind r rest

/-- What is so in the middle of reading lines. -/
structure Reading.Traces (lines : List SourceLine) (r : Reading) (rest : List SourceLine) : Prop where
  reads : Reads .empty lines r rest
  problems : ∀ p ∈ r.problems, Traced lines p
  start : ∀ s, r.start? = some s → ∃ r' rest' arg, Reads .empty lines r' (s.origin :: rest') ∧
    directiveArg? "@start".toList (trim s.origin.text) = some arg ∧
    s.target = String.ofList (trim (stripComment arg))
  links : r.All (LinksTraced lines)
  marks : ∀ d, r.current? = some d → ∀ n mark, d.marks.reverse[n]? = some mark →
    OpenSince lines r rest d n mark

/-- What an operation leaves alone that adds neither links nor blocks. -/
structure Draft.Steady (d d' : Draft) : Prop where
  continues : d.Continues d'
  links : ∀ k ∈ d'.links, k ∈ d.links
  marks : d'.marks = d.marks

namespace Draft

variable {d d' d'' : Draft}

lemma Steady.refl (d : Draft) : d.Steady d :=
  ⟨⟨rfl, rfl⟩, fun _ member => member, rfl⟩

lemma Steady.trans (first : d.Steady d') (second : d'.Steady d'') : d.Steady d'' :=
  ⟨first.continues.trans second.continues, fun k member => first.links k (second.links k member),
    second.marks.trans first.marks⟩

lemma Steady.grows (steady : d.Steady d') (l : SourceLine) : d.Grows l d' :=
  ⟨steady.continues, fun k member => .inl (steady.links k member), .inl steady.marks⟩

lemma steady_addBreak (d : Draft) : d.Steady d.addBreak :=
  ⟨d.continues_addItems _, fun _ => d.links_addBreak, d.marks_addItems _⟩

lemma steady_readStatement (d : Draft) (code : List Char) (line : Nat) :
    d.Steady (d.readStatement code line).1 := by
  unfold readStatement
  cases readCommand code line with
  | error fault => exact .refl d
  | ok c => exact ⟨d.continues_add (.command c), fun _ => d.links_addCommand c, d.marks_addCommand c⟩

end Draft

lemma Reading.advance_current (r : Reading) (l : SourceLine) (outcome : Draft × Option Fault) :
    (r.advance l outcome).current? = some outcome.1 ∧ (r.advance l outcome).done = r.done ∧
      (r.advance l outcome).start? = r.start? := by
  obtain ⟨d, fault?⟩ := outcome
  cases fault? <;> exact ⟨rfl, rfl, rfl⟩

lemma mem_problems_advance {outcome : Draft × Option Fault} {p : Problem}
    (member : p ∈ (r.advance l outcome).problems) :
    p ∈ r.problems ∨ ∃ fault, outcome.2 = some fault ∧ p = l.problem fault := by
  obtain ⟨d, fault?⟩ := outcome
  cases fault? with
  | none => exact .inl member
  | some fault =>
    rcases List.mem_append.mp member with old | new
    · exact .inl old
    · exact .inr ⟨fault, rfl, List.mem_singleton.mp new⟩

lemma readStatement_fault {d : Draft} {code : List Char} {line : Nat} {fault : Fault}
    (refused : (d.readStatement code line).2 = some fault) : readCommand code line = .error fault := by
  unfold Draft.readStatement at refused
  cases read : readCommand code line with
  | ok c =>
    rw [read] at refused
    cases refused
  | error other =>
    rw [read] at refused
    exact congrArg _ (Option.some.inj refused)

/-- A script goes into the passage that is open, and its faults are those of its statements. -/
lemma script_advances {d : Draft} (opened : r.current? = some d)
    (statements : List (SourceLine × List Char)) :
    (∃ d', (r.script statements).current? = some d' ∧ d.Steady d') ∧ (r.script statements).done = r.done ∧
      (r.script statements).start? = r.start? ∧
      ∀ p ∈ (r.script statements).problems, p ∈ r.problems ∨ ∃ l code fault, (l, code) ∈ statements ∧
        readCommand code l.line = .error fault ∧ p = l.problem fault := by
  unfold Reading.script
  induction statements generalizing r d with
  | nil => exact ⟨⟨d, opened, .refl d⟩, rfl, rfl, fun _ => .inl⟩
  | cons statement statements ih =>
    obtain ⟨l, code⟩ := statement
    simp only [List.foldl_cons, opened]
    obtain ⟨current, done, start⟩ := r.advance_current l (d.readStatement code l.line)
    obtain ⟨⟨d', opened', steady⟩, done', start', problems⟩ := ih current
    refine ⟨⟨d', opened', (d.steady_readStatement code l.line).trans steady⟩, done'.trans done,
      start'.trans start, ?_⟩
    intro p member
    rcases problems p member with old | ⟨l', code', fault, later, refused, same⟩
    · rcases mem_problems_advance old with old | ⟨fault, refused, same⟩
      · exact .inl old
      · exact .inr ⟨l, code, fault, List.mem_cons_self, readStatement_fault refused, same⟩
    · exact .inr ⟨l', code', fault, List.mem_cons_of_mem _ later, refused, same⟩

lemma Reading.scriptEnds_keeps (r : Reading) (l : SourceLine) (closed : Bool) :
    (r.scriptEnds l closed).current? = r.current? ∧ (r.scriptEnds l closed).done = r.done ∧
      (r.scriptEnds l closed).start? = r.start? := by
  unfold Reading.scriptEnds
  simp only
  split <;> split <;> exact ⟨rfl, rfl, rfl⟩

lemma mem_problems_scriptEnds {closed : Bool} {p : Problem} (member : p ∈ (r.scriptEnds l closed).problems) :
    p ∈ r.problems ∨ (trim l.text ≠ "@script:".toList ∧ p = l.problem .scriptWithoutColon) ∨
      (closed = false ∧ p = l.problem .openScript) := by
  have begin_ : p ∈ (if trim l.text = "@script:".toList then r else r.report l .scriptWithoutColon).problems →
      p ∈ r.problems ∨ (trim l.text ≠ "@script:".toList ∧ p = l.problem .scriptWithoutColon) := by
    split
    · exact .inl
    · next other =>
      intro member
      rcases List.mem_append.mp member with old | new
      · exact .inl old
      · exact .inr ⟨other, List.mem_singleton.mp new⟩
  unfold Reading.scriptEnds at member
  cases closed with
  | true => exact (begin_ member).imp_right .inl
  | false =>
    rcases List.mem_append.mp member with old | new
    · exact (begin_ old).imp_right .inl
    · exact .inr (.inr ⟨rfl, List.mem_singleton.mp new⟩)

lemma Reading.declareStart_keeps (r : Reading) (l : SourceLine) (arg : List Char) :
    (r.declareStart l arg).current? = r.current? ∧ (r.declareStart l arg).done = r.done := by
  unfold Reading.declareStart
  simp only
  split <;> exact ⟨rfl, rfl⟩

lemma Reading.stray_keeps (r : Reading) (l : SourceLine) :
    (r.stray l).current? = r.current? ∧ (r.stray l).done = r.done ∧ (r.stray l).start? = r.start? ∧
      (r.stray l).problems = r.problems := by
  unfold Reading.stray
  split <;> exact ⟨rfl, rfl, rfl, rfl⟩

/-- What a step does that stays in the passage which is open: only a line of its own adds links and blocks. -/
structure Stays (r : Reading) (l : SourceLine) (rest : List SourceLine) (r' : Reading)
    (rest' : List SourceLine) : Prop where
  done : r'.done = r.done
  closed : r.current? = none → r'.current? = none
  opened : ∀ d, r.current? = some d →
    ∃ d', r'.current? = some d' ∧ d.Grows l d' ∧ (d.Steady d' ∨ rest' = rest)

lemma Stays.of_grows {d d' : Draft} (done : r'.done = r.done) (opened : r.current? = some d)
    (opened' : r'.current? = some d') (grows : d.Grows l d') (ownLine : d.Steady d' ∨ rest' = rest) :
    Stays r l rest r' rest' := by
  refine ⟨done, ?_, ?_⟩
  · intro closed
    rw [opened] at closed
    cases closed
  · intro other same
    rw [opened] at same
    cases same
    exact ⟨d', opened', grows, ownLine⟩

lemma Stays.of_same (done : r'.done = r.done) (current : r'.current? = r.current?) :
    Stays r l rest r' rest' :=
  ⟨done, fun closed => current.trans closed,
    fun d opened => ⟨d, current.trans opened, .refl l d, .inl (.refl d)⟩⟩

/-- Every step that is not at a header stays in the passage. -/
lemma Advances.stays (advances : Advances r l rest r' rest')
    (noHeader : dropFront? [':', ':'] (trim l.text) = none) : Stays r l rest r' rest' := by
  cases advances with
  | header found =>
    rw [noHeader] at found
    cases found
  | comment => exact .of_same rfl rfl
  | declaration =>
    obtain ⟨current, done⟩ := r.declareStart_keeps l _
    exact .of_same done current
  | metadata => exact .of_same rfl rfl
  | stray none =>
    obtain ⟨current, done, _⟩ := r.stray_keeps l
    exact .of_same done current
  | @blank d opened => exact .of_grows rfl opened rfl (d.steady_addBreak.grows l) (.inl d.steady_addBreak)
  | @script d opened found =>
    obtain ⟨current, done, _⟩ := r.scriptEnds_keeps l (takeScript rest).2.1
    obtain ⟨⟨d', opened', steady⟩, done', _⟩ :=
      script_advances (current.trans opened) (scriptStatements (takeScript rest).1)
    exact .of_grows (done'.trans done) opened opened' (steady.grows l) (.inl steady)
  | @statement d first opened tilde =>
    obtain ⟨current, done, _⟩ := r.advance_current l (d.readStatement (joinOpen (trim first) rest).1 l.line)
    have steady := d.steady_readStatement (joinOpen (trim first) rest).1 l.line
    exact .of_grows done opened current (steady.grows l) (.inl steady)
  | @line d outcome opened read =>
    obtain ⟨current, done, _⟩ := r.advance_current l outcome
    exact .of_grows done opened current (Draft.effect_readLine read).grows (.inr rfl)

lemma OpenSince.step {d d' : Draft} {n : Nat} {mark : Nat × BlockKind}
    (since : OpenSince lines r (l :: rest) d n mark) (next : r.next l rest = some (r', rest'))
    (continues : d.Continues d') (opened : r'.current? = some d') (higher : n < d'.stack.length) :
    OpenSince lines r' rest' d' n mark := by
  obtain ⟨r₀, d₀, l₀, behind, r₁, comes, same, height, line, opens, first, while_⟩ := since
  exact ⟨r₀, d₀, l₀, behind, r₁, comes, same.trans continues, height, line, opens, first,
    .step while_ next ⟨d', opened, higher⟩⟩

/-- Behind a step, each open block has been open since the line that opened it. -/
lemma openSince_step {d d' : Draft} (comes : ComesTo lines r d l rest)
    (marks : ∀ n mark, d.marks.reverse[n]? = some mark → OpenSince lines r (l :: rest) d n mark)
    (next : r.next l rest = some (r', rest')) (opened : r'.current? = some d') (grows : d.Grows l d')
    (ownLine : d.Steady d' ∨ rest' = rest) {n : Nat} {mark : Nat × BlockKind}
    (found : d'.marks.reverse[n]? = some mark) : OpenSince lines r' rest' d' n mark := by
  have higher : n < d'.stack.length := by
    have inside := (List.getElem?_eq_some_iff.mp found).1
    rwa [List.length_reverse, Draft.marks, List.length_map] at inside
  have old (before : d.marks.reverse[n]? = some mark) : OpenSince lines r' rest' d' n mark :=
    (marks n mark before).step next grows.continues opened higher
  rcases grows.marks with same | ⟨kind, opens, same⟩ | ⟨top, same⟩
  · exact old (same ▸ found)
  · rw [same, List.reverse_cons] at found
    rcases Nat.lt_or_ge n d.marks.reverse.length with lower | top
    · rw [List.getElem?_append_left lower] at found
      exact old found
    · -- The block on top is the one that the line opened.
      have height : n = d.stack.length := by
        have inside := congrArg List.length same
        rw [Draft.marks, Draft.marks, List.length_map, List.length_cons, List.length_map] at inside
        rw [List.length_reverse, Draft.marks, List.length_map] at top
        omega
      rw [List.getElem?_append_right top] at found
      have only : mark = (l.line, kind) := by
        rw [List.getElem?_singleton] at found
        split at found
        · exact (Option.some.inj found).symm
        · cases found
      subst only height
      rcases ownLine with steady | rfl
      · have shorter := congrArg List.length (steady.marks.symm.trans same)
        rw [List.length_cons] at shorter
        omega
      · exact ⟨r, d, l, _, r', comes, grows.continues, rfl, rfl, opens, next, .here ⟨d', opened, higher⟩⟩
  · refine old ?_
    rw [same, List.reverse_cons]
    exact List.getElem?_append_left (List.getElem?_eq_some_iff.mp found).1 ▸ found

/-- The blocks that are open at the end of a passage are reported for the lines that opened them. -/
lemma traced_unclosed {d : Draft}
    (marks : ∀ n mark, d.marks.reverse[n]? = some mark → OpenSince lines r rest d n mark)
    (ends : AtEnd rest) {p : Problem} (member : p ∈ d.unclosed) : Traced lines p := by
  obtain ⟨block, inStack, rfl⟩ := List.mem_map.mp member
  have marked : (block.line, block.kind) ∈ d.marks.reverse :=
    List.mem_reverse.mpr (List.mem_map.mpr ⟨block, inStack, rfl⟩)
  obtain ⟨n, found⟩ := List.mem_iff_getElem?.mp marked
  obtain ⟨r₀, d₀, l, behind, r₁, comes, same, rfl, line, opens, next, while_⟩ := marks n _ found
  have later := FoundLater.unclosed comes opens next while_ ends
  rw [← same.id] at later
  exact .inr ⟨d₀.header, l, congrArg SourceLine.file same.header, congrArg Prod.fst line, later⟩

lemma traced_of_found {fault : Fault} (found : FoundAt lines l fault) : Traced lines (l.problem fault) :=
  .inl ⟨l, rfl, found⟩

/-- What is reported in a step inside a passage was found at its line, or at a statement of its script. -/
lemma Advances.traced (advances : Advances r l rest r' rest') (reads : Reads .empty lines r (l :: rest))
    (noHeader : dropFront? [':', ':'] (trim l.text) = none) (before : ∀ p ∈ r.problems, Traced lines p) :
    ∀ p ∈ r'.problems, Traced lines p := by
  cases advances with
  | header found =>
    rw [noHeader] at found
    cases found
  | comment | metadata | blank => exact before
  | @declaration arg found =>
    intro p member
    unfold Reading.declareStart at member
    simp only at member
    split at member
    · exact before p member
    · next noName =>
      rcases List.mem_append.mp member with old | new
      · exact before p old
      · rw [List.mem_singleton.mp new]
        exact traced_of_found (.declaration reads found noName)
  | stray =>
    rw [(r.stray_keeps l).2.2.2]
    exact before
  | @script d opened found =>
    intro p member
    have comes : ComesTo lines r d l rest := ⟨reads, opened⟩
    obtain ⟨current, _⟩ := r.scriptEnds_keeps l (takeScript rest).2.1
    obtain ⟨_, _, _, problems⟩ :=
      script_advances (current.trans opened) (scriptStatements (takeScript rest).1)
    rcases problems p member with ends | ⟨l', code, fault, inScript, refused, rfl⟩
    · rcases mem_problems_scriptEnds ends with old | ⟨noColon, rfl⟩ | ⟨noEnd, rfl⟩
      · exact before p old
      · exact traced_of_found (.scriptBegin comes found noColon)
      · exact traced_of_found (.scriptEnd comes found noEnd)
    · exact traced_of_found (.scriptStatement comes found inScript refused)
  | @statement d first opened tilde =>
    intro p member
    rcases mem_problems_advance member with old | ⟨fault, failed, rfl⟩
    · exact before p old
    · exact traced_of_found (.statement ⟨reads, opened⟩ tilde (readStatement_fault failed))
  | @line d outcome opened read =>
    intro p member
    rcases mem_problems_advance member with old | ⟨fault, failed, rfl⟩
    · exact before p old
    · obtain ⟨d', fault?⟩ := outcome
      cases failed
      exact traced_of_found (.line ⟨reads, opened⟩ read)

lemma mem_problems_close {p : Problem} (member : p ∈ r.close.problems) :
    p ∈ r.problems ∨ ∃ d, r.current? = some d ∧ p ∈ d.unclosed := by
  unfold Reading.close at member
  split at member
  · exact .inl member
  · next d opened =>
    rcases List.mem_append.mp member with old | new
    · exact .inl old
    · exact .inr ⟨d, opened, new⟩

lemma Reading.close_start (r : Reading) : r.close.start? = r.start? := by
  unfold Reading.close
  split <;> rfl

lemma Reading.close_current (r : Reading) : r.close.current? = none := by
  unfold Reading.close
  split
  · assumption
  · rfl

lemma Reading.Traces.close (traces : r.Traces lines rest) (ends : AtEnd rest) :
    ∀ p ∈ r.close.problems, Traced lines p := by
  intro p member
  rcases mem_problems_close member with old | ⟨d, opened, unclosed⟩
  · exact traces.problems p old
  · exact traced_unclosed (traces.marks d opened) ends unclosed

/-- A header opens a passage in which there is nothing yet. -/
lemma newPassage_of_readHeader {header : List Char} {p : Passage} (read : readHeader header = .ok p) :
    ∃ id params tags, p = newPassage id params tags := by
  unfold readHeader at read
  simp only [bind_eq_ok, check_eq_ok] at read
  obtain ⟨_, _, _, read⟩ := read
  split at read
  · cases read
    exact ⟨_, _, _, rfl⟩
  · split at read
    · cases read
    · simp only [bind_eq_ok, check_eq_ok, pure_eq_ok] at read
      obtain ⟨_, _, _, rfl⟩ := read
      exact ⟨_, _, _, rfl⟩
  · cases read

lemma links_readHeader {header : List Char} {p : Passage} (read : readHeader header = .ok p) :
    p.links = [] := by
  obtain ⟨id, params, tags, rfl⟩ := newPassage_of_readHeader read
  rfl

lemma Reading.Traces.openPassage (traces : r.Traces lines (l :: rest)) {header : List Char}
    (found : dropFront? [':', ':'] (trim l.text) = some header)
    (reads : Reads .empty lines (r.openPassage l header) rest) :
    (r.openPassage l header).Traces lines rest := by
  have ends : AtEnd (l :: rest) := by
    change (dropFront? [':', ':'] (trim l.text)).isSome
    rw [found]
    rfl
  have closed := traces.close ends
  have start := traces.start
  rw [← r.close_start] at start
  unfold Reading.openPassage at reads ⊢
  cases read : readHeader header with
  | error fault =>
    rw [read] at reads
    refine ⟨reads, ?_, start, traces.links.close.report l fault, ?_⟩
    · intro p member
      rcases List.mem_append.mp member with old | new
      · exact closed p old
      · rw [List.mem_singleton.mp new]
        exact traced_of_found (.header traces.reads found read)
    · intro d opened
      rw [show (r.close.report l fault).current? = r.close.current? from rfl, r.close_current] at opened
      cases opened
  | ok passage =>
    rw [read] at reads
    refine ⟨reads, closed, start, ⟨traces.links.close.done, ?_⟩, ?_⟩
    · intro d opened k member
      cases opened
      simp only [Draft.start, Draft.links, links_readHeader read, List.flatMap_nil, List.append_nil,
        List.not_mem_nil] at member
    · intro d opened n mark found
      cases opened
      cases found

lemma Advances.start (advances : Advances r l rest r' rest')
    (noHeader : dropFront? [':', ':'] (trim l.text) = none) :
    r'.start? = r.start? ∨ ∃ arg, directiveArg? "@start".toList (trim l.text) = some arg ∧
      r'.start? = some ⟨String.ofList (trim (stripComment arg)), l⟩ := by
  cases advances with
  | header found =>
    rw [noHeader] at found
    cases found
  | comment | metadata | blank => exact .inl rfl
  | @declaration arg found =>
    unfold Reading.declareStart
    simp only
    split
    · exact .inr ⟨arg, found, rfl⟩
    · exact .inl rfl
  | stray => exact .inl (r.stray_keeps l).2.2.1
  | @script d opened found =>
    obtain ⟨current, _, start⟩ := r.scriptEnds_keeps l (takeScript rest).2.1
    obtain ⟨_, _, start', _⟩ := script_advances (current.trans opened) (scriptStatements (takeScript rest).1)
    exact .inl (start'.trans start)
  | statement | line => exact .inl (r.advance_current l _).2.2

/-- A step leaves all problems, links and open blocks traced. -/
theorem Reading.Traces.step (traces : r.Traces lines (l :: rest)) (next : r.next l rest = some (r', rest')) :
    r'.Traces lines rest' := by
  have reads : Reads .empty lines r' rest' := traces.reads.trans (.step next .here)
  have advances := advances_of_next next
  cases header : dropFront? [':', ':'] (trim l.text) with
  | some text =>
    rw [r.next_header rest header] at next
    cases next
    exact traces.openPassage header reads
  | none =>
    have stays := advances.stays header
    refine ⟨reads, advances.traced traces.reads header traces.problems, ?_, ⟨?_, ?_⟩, ?_⟩
    · intro s declared
      rcases advances.start header with same | ⟨arg, found, here⟩
      · exact traces.start s (same ▸ declared)
      · rw [here] at declared
        cases declared
        exact ⟨r, rest, arg, traces.reads, found, rfl⟩
    · rw [stays.done]
      exact traces.links.done
    · intro d' opened' k member
      cases opened : r.current? with
      | none =>
        rw [stays.closed opened] at opened'
        cases opened'
      | some d =>
        obtain ⟨_, same, grows, _⟩ := stays.opened d opened
        rw [same] at opened'
        cases opened'
        rcases grows.links k member with old | brings
        · obtain ⟨r₀, d₀, l₀, rest₀, comes, continues, brings⟩ := traces.links.current d opened k old
          exact ⟨r₀, d₀, l₀, rest₀, comes, continues.trans grows.continues, brings⟩
        · exact ⟨r, d, l, rest, ⟨traces.reads, opened⟩, grows.continues, brings⟩
    · intro d' opened' n mark found
      cases opened : r.current? with
      | none =>
        rw [stays.closed opened] at opened'
        cases opened'
      | some d =>
        obtain ⟨_, same, grows, ownLine⟩ := stays.opened d opened
        rw [same] at opened'
        cases opened'
        exact openSince_step ⟨traces.reads, opened⟩ (traces.marks d opened) next same grows ownLine found

theorem Reading.Traces.run (traces : r.Traces lines rest) (reads : Reads r rest r' rest') :
    r'.Traces lines rest' := by
  induction reads with
  | here => exact traces
  | step next _ ih => exact ih (traces.step next)

lemma Reading.traces_empty (lines : List SourceLine) : Reading.empty.Traces lines lines :=
  ⟨.here, List.forall_mem_nil _, nofun, ⟨List.forall_mem_nil _, nofun⟩, nofun⟩

/-- When all lines are read, all problems, and all links of passages, are traced to lines. -/
theorem traced_readLines {whole : Reading} (read : readLines .empty lines = some whole) :
    (∀ p ∈ whole.problems, Traced lines p) ∧ (∀ d ∈ whole.done, LinksTraced lines d) ∧
      ∀ s, whole.start? = some s → ∃ r' rest' arg, Reads .empty lines r' (s.origin :: rest') ∧
        directiveArg? "@start".toList (trim s.origin.text) = some arg ∧
        s.target = String.ofList (trim (stripComment arg)) := by
  rcases reads_or_stuck .empty lines with ⟨r, reads, same⟩ | ⟨_, _, _, _, _, stuck⟩
  · rw [same] at read
    cases read
    have traces := (Reading.traces_empty lines).run reads
    refine ⟨traces.close trivial, traces.links.close.done, ?_⟩
    rw [r.close_start]
    exact traces.start
  · rw [stuck] at read
    cases read

end Runs

end BranchingStory.Source
