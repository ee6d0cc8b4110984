import BranchingStory.Json.Basic

/-!
# Documents

Structured data before it is written in a notation: records with named fields, tables with texts as
keys, and tagged choices. JSON writes records, tables and tagged choices all as objects; RON tells them
apart.
-/

namespace BranchingStory

/-- Structured data. -/
inductive Doc where
  | none
  | some (content : Doc)
  | bool (b : Bool)
  | nat (n : Nat)
  | str (s : String)
  | list (items : List Doc)
  | table (entries : List (String × Doc))
  | record (fields : List (String × Doc))
  /-- A choice without content. -/
  | unit (tag : String)
  | tagged (tag : String) (content : Doc)
  /-- A choice whose content is fields. -/
  | taggedRecord (tag : String) (fields : List (String × Doc))

instance : Inhabited Doc := ⟨.none⟩

namespace Doc

def text? : Option String → Doc
  | Option.none => .none
  | Option.some text => .some (.str text)

def texts (texts : List String) : Doc :=
  .list (texts.map .str)

mutual

def toJson : Doc → Json
  | .none => .null
  | .some content => content.toJson
  | .bool b => .bool b
  | .nat n => .int n
  | .str s => .str s
  | .list items => .arr (itemsToJson items)
  | .table entries => .obj (fieldsToJson entries)
  | .record fields => .obj (fieldsToJson fields)
  | .unit tag => .str tag
  | .tagged tag content => .obj [(tag, content.toJson)]
  | .taggedRecord tag fields => .obj [(tag, .obj (fieldsToJson fields))]

def itemsToJson : List Doc → List Json
  | [] => []
  | item :: items => item.toJson :: itemsToJson items

def fieldsToJson : List (String × Doc) → List (String × Json)
  | [] => []
  | (name, value) :: fields => (name, value.toJson) :: fieldsToJson fields

end

mutual

/-- How deep values stand in one another: brackets are a level and so is each part inside them; a tag
takes `tags` levels, and its name as many. -/
def depth (tags : Nat) : Doc → Nat
  | .some content => content.depth tags + 1
  | .list items => itemsDepth tags items + 1
  | .table entries => fieldsDepth tags entries + 1
  | .record fields => fieldsDepth tags fields + 1
  | .unit _ => tags + tags
  | .tagged _ content => tags + (content.depth tags + 1)
  | .taggedRecord _ fields => tags + (fieldsDepth tags fields + 1)
  | _ => 0

def itemsDepth (tags : Nat) : List Doc → Nat
  | [] => 0
  | item :: items => max (item.depth tags + 1) (itemsDepth tags items)

def fieldsDepth (tags : Nat) : List (String × Doc) → Nat
  | [] => 0
  | (_, value) :: fields => max (value.depth tags + 1) (fieldsDepth tags fields)

end

end Doc

end BranchingStory
