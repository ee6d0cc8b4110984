import BranchingStory.Story.Basic
import BranchingStory.Document.Basic

/-!
# Stories as documents

The document of a story, with every field in it, absent ones as well.
-/

namespace BranchingStory

def Import.toDoc (i : Import) : Doc :=
  .record [("module", .str i.module),
    ("names", .list (i.names.map fun n => .record [("name", .str n.name), ("alias", .text? n.alias?)])),
    ("line", .nat i.line)]

def Param.toDoc (p : Param) : Doc :=
  .record [("name", .str p.name), ("default", .text? p.default?)]

def Arg.toDoc (a : Arg) : Doc :=
  .record [("name", .text? a.name?), ("expr", .str a.expr)]

def Command.toDoc : Command → Doc
  | .assign target op expression line =>
    .taggedRecord "assign" [("target", .str target), ("op", .unit op.name),
      ("expression", .str expression), ("line", .nat line)]
  | .eval code line => .taggedRecord "eval" [("code", .str code), ("line", .nat line)]

def argsToDoc (args : List Arg) : Doc :=
  .list (args.map Arg.toDoc)

mutual

def ContentItem.toDoc : ContentItem → Doc
  | .text text => .tagged "text" (.str text)
  | .expression code format? =>
    .taggedRecord "expression" [("code", .str code), ("format", .text? format?)]
  | .conditional branches => .taggedRecord "conditional" [("branches", .list (branchesToDocs branches))]
  | .loop vars collection body =>
    .taggedRecord "loop" [("vars", .texts vars), ("collection", .str collection),
      ("body", .list (itemsToDocs body))]
  | .jump target args line =>
    .taggedRecord "jump" [("target", .str target), ("args", argsToDoc args), ("line", .nat line)]
  | .render name args hint? =>
    .taggedRecord "render" [("name", .str name), ("args", argsToDoc args), ("hint", .text? hint?)]
  | .input name label? placeholder? =>
    .taggedRecord "input" [("name", .str name), ("label", .text? label?),
      ("placeholder", .text? placeholder?)]
  | .command command => .tagged "command" command.toDoc
  | .choice choice => .tagged "choice" choice.toDoc

def Choice.toDoc : Choice → Doc
  | { key, text, target, args, guard?, oneShot, tags, line } =>
    .record [("key", .str key), ("text", .list (itemsToDocs text)), ("target", .str target),
      ("args", argsToDoc args), ("guard", .text? guard?), ("one_shot", .bool oneShot),
      ("tags", .texts tags), ("line", .nat line)]

def branchesToDocs : List Branch → List Doc
  | [] => []
  | { condition?, content } :: branches =>
    .record [("condition", .text? condition?), ("content", .list (itemsToDocs content))] ::
      branchesToDocs branches

def itemsToDocs : List ContentItem → List Doc
  | [] => []
  | item :: items => item.toDoc :: itemsToDocs items

end

def Passage.toDoc (p : Passage) : Doc :=
  .record [("id", .str p.id), ("params", .list (p.params.map Param.toDoc)),
    ("content", .list (itemsToDocs p.content)), ("choices", .list (p.choices.map Choice.toDoc)),
    ("execute", .list (p.execute.map Command.toDoc)), ("tags", .texts p.tags)]

def Metadata.toDoc (m : Metadata) : Doc :=
  .record [("title", .text? m.title?), ("author", .text? m.author?), ("version", .text? m.version?),
    ("story_id", .text? m.storyId?), ("custom", .table (m.custom.map fun (key, s) => (key, .str s)))]

def Story.toDoc (s : Story) : Doc :=
  .record [("version", .str s.version), ("initial_passage", .str s.initial),
    ("metadata", s.metadata.toDoc), ("imports", .list (s.imports.map Import.toDoc)),
    ("passages", .table (s.passages.map fun (id, p) => (id, p.toDoc)))]

end BranchingStory
