import BranchingStory.Save.Encode

/-!
# What the player sees

The output of a step of the story: text, choices, and requests to whatever presents them.
-/

namespace BranchingStory

/-- A choice that is open to the player, with its arguments evaluated. -/
structure OfferedChoice (Obj : Type) where
  key : String
  text : String
  target : String
  args : CallArgs Obj
  oneShot : Bool
  tags : List String

/-- A request to present something; what its name means is up to whoever presents the story. -/
structure Directive (Obj : Type) where
  name : String
  args : CallArgs Obj
  hint? : Option String

/-- A request for a text from the player. -/
structure InputRequest where
  field : String
  label? : Option String
  placeholder? : Option String
  deriving DecidableEq, Repr

/-- A fragment that failed while its passage was rendered, and why. -/
structure RenderWarning where
  passage : String
  expression : String
  message : String
  deriving DecidableEq, Repr

/-- The output of a step. -/
structure Output (Obj : Type) where
  /-- The passage where the step ended. -/
  passage : String
  /-- All passages of the step in their order. -/
  visited : List String
  content : String
  choices : List (OfferedChoice Obj)
  directives : List (Directive Obj)
  inputs : List InputRequest
  warnings : List RenderWarning

def fieldUnlessEmpty {α : Type} (name : String) (write : List α → Json) (items : List α) :
    List (String × Json) :=
  if items.isEmpty then [] else [(name, write items)]

section Documents

variable {Obj : Type} [HostObject Obj]

def CallArgs.toJson (args : CallArgs Obj) : Json :=
  .obj (("positional", .arr (Save.plainItems args.positional)) ::
    fieldUnlessEmpty "named" (fun named => .obj (Save.plainFields named)) args.named)

def OfferedChoice.toJson (c : OfferedChoice Obj) : Json :=
  .obj ([("key", .str c.key), ("text", .str c.text), ("target", .str c.target),
    ("args", c.args.toJson), ("one_shot", .bool c.oneShot)] ++
      fieldUnlessEmpty "tags" Json.ofTexts c.tags)

/-- The document of a request to present something. -/
def Directive.toJson (d : Directive Obj) : Json :=
  .obj ([("name", .str d.name), ("arguments", d.args.toJson)] ++
    fieldUnlessEmpty "presentationHint" (fun hints => .str (String.join hints)) d.hint?.toList)

def InputRequest.toJson (i : InputRequest) : Json :=
  .obj [("fieldName", .str i.field), ("label", Json.ofText? i.label?),
    ("placeholder", Json.ofText? i.placeholder?)]

def RenderWarning.toJson (w : RenderWarning) : Json :=
  .obj [("passage_id", .str w.passage), ("expression", .str w.expression),
    ("message", .str w.message)]

def Output.toJson (o : Output Obj) : Json :=
  .obj ([("passage_id", .str o.passage), ("visited", Json.ofTexts o.visited),
    ("content", .str o.content), ("choices", .arr (o.choices.map OfferedChoice.toJson)),
    ("directives", .arr (o.directives.map Directive.toJson)),
    ("inputs", .arr (o.inputs.map InputRequest.toJson))] ++
      fieldUnlessEmpty "warnings" (fun warnings => .arr (warnings.map RenderWarning.toJson))
        o.warnings)

end Documents

end BranchingStory
