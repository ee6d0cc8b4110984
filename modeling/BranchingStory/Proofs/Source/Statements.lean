import BranchingStory.Proofs.Script.Brackets
import BranchingStory.Proofs.Source.Compiled

/-!
# Statements and their commands

A command is kept in parts, an assignment without its sign. Put together again it is the statement that
was written.
-/

namespace BranchingStory.Source

open Text Script

variable {code : List Char} {line : Nat} {c : Command}

/-- The assignment sign that is found is one of the tokens. -/
lemma assignment?_mem {depth : Int} {found : List Located} {column : Nat} {op : AssignOp}
    (h : assignment? depth found = some (column, op)) :
    ∃ before after, found = before ++ ⟨.assign op, column⟩ :: after := by
  induction found generalizing depth with
  | nil => cases h
  | cons next rest ih =>
    obtain ⟨token, column'⟩ := next
    have later {depth : Int} (h : assignment? depth rest = some (column, op)) :
        ∃ before after, ⟨token, column'⟩ :: rest = before ++ ⟨.assign op, column⟩ :: after := by
      obtain ⟨before, after, rfl⟩ := ih h
      exact ⟨⟨token, column'⟩ :: before, after, rfl⟩
    cases token with
    | assign op' =>
      simp only [assignment?] at h
      split at h
      · cases h
        exact ⟨[], rest, rfl⟩
      · exact later h
    | _ => exact later h

/-- Texts with the same tokens are the same statement. -/
lemma read_of_lexes {cs ds : List Char} {ts : List Token} (left : Lexes cs ts [])
    (right : Lexes ds ts []) {tree : Stmt} (read : Stmt.read cs = .ok tree) :
    Stmt.read ds = .ok tree := by
  obtain ⟨found, scanned, rfl⟩ := tokens_iff_lexes.mpr left
  obtain ⟨found', scanned', same⟩ := tokens_iff_lexes.mpr right
  exact Stmt.read_blind scanned scanned' same.symm read

/-- A text that is cut at an assignment sign has the tokens of its two sides with the sign between them. -/
lemma cut_at_sign {before after : List Located} {column : Nat} {op : AssignOp}
    (scanned : tokens (trim code) = .ok (before ++ ⟨.assign op, column⟩ :: after)) :
    Lexes (trim ((trim code).take column)) (before.map (·.token)) [] ∧
      Lexes (trim ((trim code).drop (column + op.symbol.length))) (after.map (·.token)) [] := by
  obtain ⟨front, text, rest, split, at_, lexed, scans, behind⟩ :=
    scanTokens_at (Nat.lt_succ_self _) scanned
  rw [Nat.zero_add] at at_
  obtain rfl := scans.assign
  constructor
  · have cut : Lexes front (before.map (·.token)) [] := (split ▸ lexed).cut (stops_symbol op rest)
    rw [at_, split, List.take_left]
    exact cut.trim
  · have width : (front ++ op.symbol.toList).length = column + op.symbol.length := by
      rw [List.length_append, at_, String.length_toList]
    rw [← List.append_assoc] at split
    rw [split, ← width, List.drop_left, trim_of_suffix split]
    exact behind.skip

/-- The command of a statement stands for the same tree as the statement. -/
theorem source_of_readCommand (h : readCommand code line = .ok c) :
    ∃ tree, Stmt.read code = .ok tree ∧ Stmt.read c.source.toList = .ok tree := by
  unfold readCommand at h
  simp only [check_eq_ok, bind_eq_ok, mapError_eq_ok] at h
  obtain ⟨full, found, scanned, tree, read, h⟩ := h
  have lexed : Lexes (trim code) (found.map (·.token)) [] := tokens_iff_lexes.mp ⟨found, scanned, rfl⟩
  refine ⟨tree, read_of_lexes lexed lexed.of_trim read, ?_⟩
  split at h
  · cases h
    rwa [Command.source, String.toList_ofList]
  · next column op sign =>
    simp only [bind_eq_ok, mapError_eq_ok, check_eq_ok, pure_eq_ok] at h
    obtain ⟨place, readable, free, rfl⟩ := h
    obtain ⟨before, after, rfl⟩ := assignment?_mem sign
    obtain ⟨left, right⟩ := cut_at_sign scanned
    rw [List.map_append, List.map_cons] at lexed
    refine read_of_lexes lexed ?_ read
    have space : " ".toList = [' '] := rfl
    simpa only [Command.source, String.toList_append, String.toList_ofList, List.append_assoc, space,
      List.cons_append, List.nil_append] using left.glue op right

end BranchingStory.Source

namespace BranchingStory

open Source Script

/-- Whether the engine can read a piece. A statement is read as the tree that was written in the
source. -/
def Piece.Readable (e : Expansion) : Piece → Prop
  | .expression code => ∃ tree, Expr.read code.toList = .ok tree
  | .spec text => ∃ spec, FormatSpec.read text = .ok spec
  | .statement c => ∃ code line tree, Authored e.lines code line ∧ readCommand code line = .ok c ∧
      Stmt.read code = .ok tree ∧ Stmt.read c.source.toList = .ok tree
  | .link .. => True

/-- Nothing that the compiler accepts is refused by a reader of the engine. -/
theorem Story.CompiledFrom.readable {e : Expansion} {story : Story} (compiled : story.CompiledFrom e) :
    ∀ piece ∈ story.pieces, piece.Readable e := by
  intro piece member
  have known := compiled.known piece member
  cases piece with
  | expression code => exact known
  | spec text => exact known
  | statement c =>
    obtain ⟨code, line, authored, command⟩ := known
    obtain ⟨tree, written, kept⟩ := source_of_readCommand command
    exact ⟨code, line, tree, authored, command, written, kept⟩
  | link => trivial

/-- The lines of a story with assignments in different spacing. -/
def tillLines : Expansion :=
  ⟨[⟨inlineLabel, 1, ":: Start(price=2)".toList⟩, ⟨inlineLabel, 2, "~ coins= [3, price]".toList⟩,
    ⟨inlineLabel, 3, "~ coins[0]+=len(coins) * 2".toList⟩,
    ⟨inlineLabel, 4, "You have \x7bcoins[0]:.2f\x7d.".toList⟩], [], []⟩

def till : Story :=
  tillLines.story

/-- All pieces of this story can be read, and its assignments are kept with single spaces. -/
theorem readable_in_till :
    till.CompiledFrom tillLines ∧
      (till.passages.map fun (_, p) => p.execute.map (·.source)) =
        [["coins = [3, price]", "coins[0] += len(coins) * 2"]] ∧
      ∀ piece ∈ till.pieces, piece.Readable tillLines := by
  have compiled : till.CompiledFrom tillLines := tillLines.compiledFrom (by decide +kernel)
  exact ⟨compiled, by decide +kernel, Story.CompiledFrom.readable compiled⟩

end BranchingStory
