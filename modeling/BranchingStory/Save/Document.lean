import BranchingStory.Json.Parser
import BranchingStory.Json.Printer
import BranchingStory.Json.Record

/-!
# Documents of saved games

A saved game: which story it belongs to, the passage with its arguments, the session variables and the
one-shot choices that were taken. Values are kept in their saved forms.
-/

namespace BranchingStory

/-- A saved game. -/
structure SavedGame where
  /-- The version of the layout of the document. -/
  formatVersion : Nat
  storyVersion? : Option String
  storyId : String
  /-- Seconds since 1970. -/
  timestamp : Nat
  passage : String
  args : Json
  state : Json
  consumed : List String

namespace SavedGame

open Json Number

/-- The layout that can be loaded. -/
def currentFormat : Nat := 1

def toJson (g : SavedGame) : Json :=
  .obj [("formatVersion", .int g.formatVersion), ("storyVersion", ofText? g.storyVersion?),
    ("storyId", .str g.storyId), ("timestamp", .int g.timestamp), ("currentPassageId", .str g.passage),
    ("currentArgs", g.args), ("state", g.state), ("consumedOneShotChoices", ofTexts g.consumed)]

/-- A value of any form; its objects hold each key once. -/
def readAny (value : Written) : Option Json :=
  value.value?.map settle

def ofJson? (document : Written) : Option SavedGame := do
  match ← slots? ["formatVersion", "storyVersion", "storyId", "timestamp", "currentPassageId",
    "currentArgs", "state", "consumedOneShotChoices"] document with
  | [formatVersion, storyVersion?, storyId, timestamp, passage, args, state, consumed] =>
    return {
      formatVersion := ← required (readBelow (twoTo 32)) formatVersion
      storyVersion? := ← orElse none (readOption readText) storyVersion?
      storyId := ← required readText storyId
      timestamp := ← required readNat timestamp
      passage := ← required readText passage
      args := ← orElse .null readAny args
      state := ← required readAny state
      consumed := ← orElse [] (readList readText) consumed }
  | _ => none

def write (g : SavedGame) : String :=
  g.toJson.pretty

def read? (text : String) : Option SavedGame :=
  (Json.read? text).bind ofJson?

end SavedGame

end BranchingStory
