import BranchingStory.Host.Registry
import BranchingStory.Value.View

/-!
# The toybox

A host with one kind of object for each way of saving: cards and purses that export themselves, decks
and bags that show their fields, and runes, scrolls and ghosts that leave only their text.
-/

namespace BranchingStory.Toybox

/-- An object of the toybox. -/
inductive Thing where
  | card (name : String) (number : Int64)
  | deck (cards : List String)
  | bag (fields : List (String × Value Thing))
  | purse (gold : Int64)
  | rune (text : String)
  | scroll (text : String)
  | ghost (text : String)

namespace Thing

def typeName : Thing → String
  | card .. => "Card"
  | deck _ => "Deck"
  | bag _ => "Bag"
  | purse _ => "Purse"
  | rune _ => "Rune"
  | scroll _ => "Scroll"
  | ghost _ => "Ghost"

def origin : Thing → String
  | card .. | deck _ => "tarot"
  | _ => "host"

def display : Thing → String
  | card name number => name ++ " (" ++ toString number.toInt ++ ")"
  | rune text | scroll text | ghost text => text
  | thing => "<" ++ thing.typeName ++ " object>"

/-- The value of an attribute; the length of a bag is the number of its fields. -/
def attr? : Thing → String → Option (Value Thing)
  | card name _, "name" => some (.str name)
  | card _ number, "number" => some (.int number)
  | deck cards, "cards" => some (.list (cards.map .str))
  | bag fields, attr =>
    if attr = "__len__" then some (.int (Int64.ofNat fields.length)) else Assoc.get? fields attr
  | purse gold, "gold" => some (.int gold)
  | rune text, "text" | scroll text, "text" | ghost text, "text" => some (.str text)
  | _, _ => none

def lacks (thing : Thing) (attr : String) : EvalError :=
  .noAttribute thing.typeName attr

/-- Whether two objects are equal: purses by their gold, all others by type and text. -/
def same : Thing → Thing → Bool
  | purse a, purse b => a == b
  | a, b => a.typeName == b.typeName && a.display == b.display

def capability : Thing → Capability Thing
  | card name number => .exported (.dict [("name", .str name), ("number", .int number)])
  | deck cards => .reflected [("cards", .list (cards.map .str))]
  | bag fields => .reflected fields
  | purse gold => .exported (.int gold)
  | rune _ | scroll _ | ghost _ => .displayed

mutual

/-- The size of an object, which leaves room for what the object gives away. -/
def weight : Thing → Nat
  | bag fields => fieldsWeight fields + 1
  | deck cards => 2 * cards.length + 3
  | _ => 7

def valueWeight : Value Thing → Nat
  | .list items => itemsWeight items + 1
  | .dict fields => fieldsWeight fields + 1
  | .object thing => thing.weight
  | _ => 1

def itemsWeight : List (Value Thing) → Nat
  | [] => 0
  | item :: items => valueWeight item + itemsWeight items + 1

def fieldsWeight : List (String × Value Thing) → Nat
  | [] => 0
  | (_, value) :: fields => valueWeight value + fieldsWeight fields + 1

end

mutual

/-- The size of a value is the same whichever way it is counted. -/
theorem weight_value : ∀ value : Value Thing, value.weight weight = valueWeight value
  | .list items => by rw [Value.weight, valueWeight, weight_items items]
  | .dict fields => by rw [Value.weight, valueWeight, weight_fields fields]
  | .object _ => by rw [Value.weight, valueWeight]
  | .none | .bool _ | .int _ | .float _ | .str _ => by rw [Value.weight, valueWeight] <;> simp

theorem weight_items : ∀ items : List (Value Thing), Value.weightItems weight items = itemsWeight items
  | [] => rfl
  | item :: items => by rw [Value.weightItems, itemsWeight, weight_value item, weight_items items]

theorem weight_fields : ∀ fields : List (String × Value Thing),
    Value.weightFields weight fields = fieldsWeight fields
  | [] => rfl
  | (_, value) :: fields => by
    rw [Value.weightFields, fieldsWeight, weight_value value, weight_fields fields]

end

theorem weight_texts (texts : List String) :
    Value.weightItems weight (texts.map .str) = 2 * texts.length := by
  induction texts with
  | nil => rfl
  | cons text texts ih => simp only [List.map_cons, Value.weightItems, Value.weight, ih]; grind

/-- What an object gives away is smaller than the object. -/
theorem weight_capability (thing : Thing) : (capability thing).weight weight < weight thing := by
  cases thing with
  | bag fields => simp [capability, Capability.weight, weight, weight_fields]
  | deck cards =>
    simp [capability, Capability.weight, Value.weightFields, Value.weight, weight, weight_texts]
  | _ => simp [capability, Capability.weight, Value.weightFields, Value.weight, weight]

/-- Puts a value into a bag and counts the fields. -/
def put (fields : List (String × Value Thing)) (args : CallArgs Thing) :
    Except EvalError (Value Thing) × Thing :=
  let key := ((args.get? 0 "key").bind (·.asText?)).getD "item"
  let fields := Assoc.insert fields key ((args.get? 1 "value").getD .none)
  (.ok (.int (Int64.ofNat fields.length)), .bag fields)

/-- The answer of a method and the object afterwards: a deck gives its first card away, a bag takes a
field in or bursts. -/
def callMethod (thing : Thing) (method : String) (args : CallArgs Thing) :
    Except EvalError (Value Thing) × Thing :=
  match thing, method with
  | deck [], "draw" => (.error (.host "the deck is empty"), thing)
  | deck (first :: cards), "draw" => (.ok (.str first), .deck cards)
  | bag fields, "put" => put fields args
  | bag fields, "boom" => (.error (.host "the bag burst"), .bag (Assoc.insert fields "boomed" (.bool true)))
  | thing, method => (.error (thing.lacks method), thing)

instance : HostText Thing := ⟨typeName, display⟩

/-- The object after an attribute was written: the cards of a deck are the texts of the items, and the
fields of a bag whose names begin with `ro_` are written once. -/
def setAttr (thing : Thing) (attr : String) (value : Value Thing) : Except EvalError Thing :=
  match thing, attr, value with
  | deck _, "cards", .list items => .ok (deck (items.map (·.display)))
  | bag fields, attr, value =>
    if attr.startsWith "ro_" && Assoc.contains fields attr then .error (thing.lacks attr)
    else .ok (bag (Assoc.insert fields attr value))
  | thing, attr, _ => .error (thing.lacks attr)

instance : HostObject Thing where
  origin := origin
  attr? := attr?
  setAttr := setAttr
  callMethod := callMethod
  same := same
  capability := capability
  weight := weight
  weight_capability := weight_capability

end Thing

open Thing

def cardOf (name number : Option (Value Thing)) : Except EvalError Thing :=
  match name.bind (·.asText?), number.bind (·.asInt?) with
  | some name, some number => .ok (.card name number)
  | _, _ => .error (.typeMismatch "Card(name, number)")

def textOr (default : String) (args : CallArgs Thing) : String :=
  ((args.get? 0 "text").bind (·.asText?)).getD default

def cardType : HostType Thing where
  name := "Card"
  origin := "tarot"
  construct? := some fun args => cardOf (args.get? 0 "name") (args.get? 1 "number")
  importer? := some fun value =>
    match value with
    | .dict fields => cardOf (Assoc.get? fields "name") (Assoc.get? fields "number")
    | _ => .error (.typeMismatch "card export must be a dict")
  blank? := none

def deckType : HostType Thing where
  name := "Deck"
  origin := "tarot"
  construct? := some fun args =>
    match args.get? 0 "cards" with
    | some cards => (Thing.deck []).setAttr "cards" cards
    | none => .ok (.deck [])
  importer? := none
  blank? := some (.deck [])

def bagType : HostType Thing where
  name := "Bag"
  origin := "host"
  construct? := some fun args => .ok (.bag args.named)
  importer? := none
  blank? := some (.bag [])

def purseType : HostType Thing where
  name := "Purse"
  origin := "host"
  construct? := some fun args => .ok (.purse (((args.get? 0 "gold").bind (·.asInt?)).getD 0))
  importer? := some fun value =>
    match value with
    | .int gold =>
      if 0 ≤ gold then .ok (.purse gold)
      else .error (.typeMismatch "purse needs a non-negative amount")
    | _ => .error (.typeMismatch "purse needs a non-negative amount")
  blank? := none

def runeType : HostType Thing where
  name := "Rune"
  origin := "host"
  construct? := some fun args => .ok (.rune (textOr "ᚠ" args))
  importer? := none
  blank? := none

def scrollType : HostType Thing where
  name := "Scroll"
  origin := "host"
  construct? := some fun args => .ok (.scroll (textOr "blank" args))
  importer? := some fun value =>
    match value with
    | .str text => .ok (.scroll text)
    | value => .error (.typeMismatch ("scroll from " ++ value.typeName))
  blank? := none

def sealedType : HostType Thing where
  name := "Sealed"
  origin := "host"
  construct? := none
  importer? := none
  blank? := none

def registry : Registry Thing :=
  Registry.empty
    |>.addType cardType
    |>.addType deckType
    |>.addType bagType
    |>.addType purseType
    |>.addType runeType
    |>.addType scrollType
    |>.addType sealedType
    |>.addFunction "dice" "roll" (fun args => .ok ((args.get? 0 "sides").getD (.int 6)))
    |>.addValue "dice" "SIDES" (.int 20)
    |>.addFunction "host" "fail" (fun args => .error (.host (textOr "host failure" args)))
    |>.addFunction "host" "echo" (fun args => .ok (.list [.list args.positional, .dict args.named]))
    |>.addFunction "host" "summon" (fun args => .ok (.object (.ghost (textOr "boo" args))))

end BranchingStory.Toybox
