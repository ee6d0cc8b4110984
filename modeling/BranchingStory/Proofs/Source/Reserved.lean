import BranchingStory.Proofs.Script.Extents
import BranchingStory.Proofs.Source.Statements

/-!
# The reserved variable

An assignment is cut at the sign that the engine reads it at, so that the variable which the compiler
looks at is the one that the engine writes. Nothing that is compiled assigns to the submitted input
values, or to an item or attribute inside of them.
-/

namespace BranchingStory.Source

open Text Script

/-- Tokens with closed brackets are gone past without an assignment sign being found. -/
lemma assignment?_closed {inside : Bool} {ts : List Token} (closed : Closed inside ts) {depth : Int}
    (deep : 0 ≤ depth) (within : inside → 0 < depth) {found : List Located}
    (same : found.map (·.token) = ts) (rest : List Located) :
    assignment? depth (found ++ rest) = assignment? depth rest := by
  induction closed generalizing depth found rest with
  | nil =>
    rw [List.map_eq_nil_iff.mp same, List.nil_append]
  | @plain inside t ts plain _ ih =>
    obtain ⟨⟨t, column⟩, found, rfl, rfl, behind⟩ := List.map_eq_cons_iff.mp same
    rw [← ih deep within behind rest]
    cases t <;> first
      | rfl
      | cases plain
  | @separator t ts separates _ _ ih =>
    obtain ⟨⟨t, column⟩, found, rfl, rfl, behind⟩ := List.map_eq_cons_iff.mp same
    have inBrackets : depth ≠ 0 := Int.ne_of_gt (within rfl)
    rw [← ih deep within behind rest]
    cases t <;> first
      | rfl
      | exact if_neg inBrackets
      | cases separates
  | @group inside left right ts us encloses _ _ ofGroup ofRest =>
    obtain ⟨front, later, rfl, opened, closing⟩ := List.map_eq_append_iff.mp same
    obtain ⟨⟨left, column⟩, found, rfl, rfl, within_⟩ := List.map_eq_cons_iff.mp opened
    obtain ⟨⟨right, column'⟩, found', rfl, rfl, behind⟩ := List.map_eq_cons_iff.mp closing
    have deeper : 0 < depth + 1 := by omega
    have inGroup := ofGroup (Int.le_of_lt deeper) (fun _ => deeper) within_
      (⟨right, column'⟩ :: found' ++ rest)
    rw [← ofRest deep within behind rest]
    cases encloses <;>
      simpa only [assignment?, List.append_assoc, List.cons_append, Int.add_sub_cancel] using inGroup

/-- The sign of an assignment is the one that the engine reads it at. -/
lemma assignment?_of_spells {target : Expr} {front behind : List Located} {column : Nat}
    {op : AssignOp} (spells : Spells target (front.map (·.token))) :
    assignment? 0 (front ++ ⟨.assign op, column⟩ :: behind) = some (column, op) := by
  rw [assignment?_closed spells.closed (Int.le_refl 0) nofun rfl]
  rfl

/-- Whichever place a command assigns to, its variable is not the reserved one. -/
theorem root?_ne_inputs {code : List Char} {line : Nat} {c : Command}
    (command : readCommand code line = .ok c) {target : Expr} {op : AssignOp} {value : Expr}
    (executed : Stmt.read c.source.toList = .ok (.assign target op value)) :
    target.root? ≠ some inputsVariable := by
  obtain ⟨tree, written, kept⟩ := source_of_readCommand command
  cases kept.symm.trans executed
  unfold readCommand at command
  simp only [check_eq_ok, bind_eq_ok, mapError_eq_ok] at command
  obtain ⟨_, found, scanned, tree, read, command⟩ := command
  have lexed : Lexes (trim code) (found.map (·.token)) [] := tokens_iff_lexes.mp ⟨found, scanned, rfl⟩
  cases (read_of_lexes lexed lexed.of_trim read).symm.trans written
  obtain ⟨front, column, behind, again, spells⟩ := Stmt.spells_of_read read
  cases scanned.symm.trans again
  simp only [assignment?_of_spells spells, bind_eq_ok, mapError_eq_ok, check_eq_ok] at command
  obtain ⟨place, readable, free, _⟩ := command
  -- The engine and the compiler read the target from the same tokens.
  obtain ⟨left, _⟩ := cut_at_sign scanned
  obtain ⟨ofPlace, isPlace⟩ : Expr.read (trim ((trim code).take column)) = .ok place ∧ place.isPlace := by
    simp only [Expr.readPlace, bind_eq_ok] at readable
    obtain ⟨e, read, rest⟩ := readable
    split at rest
    · cases rest
      exact ⟨read, ‹_›⟩
    · cases rest
  obtain ⟨found', scanned', spells'⟩ := Expr.spells_of_read ofPlace
  have same := (tokens_iff_lexes.mp ⟨found', scanned', rfl⟩).unique left
  obtain ⟨word, root⟩ := Option.isSome_iff_exists.mp isPlace
  intro reserved
  have first := spells.root _ reserved
  have second := spells'.root _ root
  rw [same, first] at second
  cases second
  exact free root

end BranchingStory.Source
