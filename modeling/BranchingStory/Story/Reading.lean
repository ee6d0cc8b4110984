import BranchingStory.Story.Basic
import BranchingStory.Json.Record

/-!
# Reading stories

The story that a JSON document stands for. Absent lists are empty, absent options are none, and every
other field must be there with its type.
-/

namespace BranchingStory

open Json

def readText? (slot : Option Written) : Option (Option String) :=
  orElse none (readOption readText) slot

def readItems? {α : Type} (read : Written → Option α) (slot : Option Written) : Option (List α) :=
  orElse [] (readList read) slot

def ImportName.ofJson? (j : Written) : Option ImportName := do
  match ← slots? ["name", "alias"] j with
  | [name, alias?] => return ⟨← required readText name, ← readText? alias?⟩
  | _ => none

def Import.ofJson? (j : Written) : Option Import := do
  match ← slots? ["module", "names", "line"] j with
  | [module, names, line] =>
    return ⟨← required readText module, ← readItems? ImportName.ofJson? names, ← required readNat line⟩
  | _ => none

def Param.ofJson? (j : Written) : Option Param := do
  match ← slots? ["name", "default"] j with
  | [name, default?] => return ⟨← required readText name, ← readText? default?⟩
  | _ => none

def Arg.ofJson? (j : Written) : Option Arg := do
  match ← slots? ["name", "expr"] j with
  | [name?, expr] => return ⟨← readText? name?, ← required readText expr⟩
  | _ => none

def Command.ofJson? (j : Written) : Option Command := do
  match ← tag? j with
  | ("assign", content) =>
    match ← slots? ["target", "op", "expression", "line"] content with
    | [target, op, expression, line] =>
      let op ← (op.bind (·.unitName?)).bind Script.AssignOp.ofName?
      return .assign (← required readText target) op (← required readText expression)
        (← required readNat line)
    | _ => none
  | ("eval", content) =>
    match ← slots? ["code", "line"] content with
    | [code, line] => return .eval (← required readText code) (← required readNat line)
    | _ => none
  | _ => none

mutual

/-- The item that a document stands for; items may stand in one another up to `fuel` times. -/
def ContentItem.ofJson? (fuel : Nat) (j : Written) : Option ContentItem :=
  match fuel with
  | 0 => none
  | fuel + 1 => do
    let (tag, content) ← tag? j
    match tag with
    | "text" => return .text (← readText content)
    | "expression" =>
      match ← slots? ["code", "format"] content with
      | [code, format?] => return .expression (← required readText code) (← readText? format?)
      | _ => none
    | "conditional" =>
      match ← slots? ["branches"] content with
      | [branches] => return .conditional (← required (readList (Branch.ofJson? fuel)) branches)
      | _ => none
    | "loop" =>
      match ← slots? ["vars", "collection", "body"] content with
      | [vars, collection, body] =>
        return .loop (← required (readList readText) vars) (← required readText collection)
          (← required (readList (ContentItem.ofJson? fuel)) body)
      | _ => none
    | "jump" =>
      match ← slots? ["target", "args", "line"] content with
      | [target, args, line] =>
        return .jump (← required readText target) (← readItems? Arg.ofJson? args)
          (← required readNat line)
      | _ => none
    | "render" =>
      match ← slots? ["name", "args", "hint"] content with
      | [name, args, hint?] =>
        return .render (← required readText name) (← readItems? Arg.ofJson? args) (← readText? hint?)
      | _ => none
    | "input" =>
      match ← slots? ["name", "label", "placeholder"] content with
      | [name, label?, placeholder?] =>
        return .input (← required readText name) (← readText? label?) (← readText? placeholder?)
      | _ => none
    | "command" => return .command (← Command.ofJson? content)
    | "choice" => return .choice (← Choice.ofJson? fuel content)
    | _ => none

def Branch.ofJson? (fuel : Nat) (j : Written) : Option Branch :=
  match fuel with
  | 0 => none
  | fuel + 1 => do
    match ← slots? ["condition", "content"] j with
    | [condition?, content] =>
      return ⟨← readText? condition?, ← required (readList (ContentItem.ofJson? fuel)) content⟩
    | _ => none

def Choice.ofJson? (fuel : Nat) (j : Written) : Option Choice :=
  match fuel with
  | 0 => none
  | fuel + 1 => do
    match ← slots? ["key", "text", "target", "args", "guard", "one_shot", "tags", "line"] j with
    | [key, text, target, args, guard?, oneShot, tags, line] =>
      return ⟨← required readText key, ← required (readList (ContentItem.ofJson? fuel)) text,
        ← required readText target, ← readItems? Arg.ofJson? args, ← readText? guard?,
        ← orElse false readBool oneShot, ← readItems? readText tags, ← required readNat line⟩
    | _ => none

end

def Passage.ofJson? (j : Written) : Option Passage := do
  match ← slots? ["id", "params", "content", "choices", "execute", "tags"] j with
  | [id, params, content, choices, execute, tags] =>
    return ⟨← required readText id, ← readItems? Param.ofJson? params,
      ← readItems? (ContentItem.ofJson? j.weight) content,
      ← readItems? (Choice.ofJson? j.weight) choices, ← readItems? Command.ofJson? execute,
      ← readItems? readText tags⟩
  | _ => none

def Metadata.ofJson? (j : Written) : Option Metadata := do
  match ← slots? ["title", "author", "version", "story_id", "custom"] j with
  | [title?, author?, version?, storyId?, custom] =>
    return ⟨← readText? title?, ← readText? author?, ← readText? version?, ← readText? storyId?,
      ← orElse [] (readTable readText) custom⟩
  | _ => none

def Story.ofJson? (j : Written) : Option Story := do
  match ← slots? ["version", "initial_passage", "metadata", "imports", "passages"] j with
  | [version, initial, metadata, imports, passages] =>
    return ⟨← required readText version, ← required readText initial,
      ← orElse Metadata.empty Metadata.ofJson? metadata, ← readItems? Import.ofJson? imports,
      ← required (readTable Passage.ofJson?) passages⟩
  | _ => none

end BranchingStory
