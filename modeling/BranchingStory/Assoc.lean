/-!
# Tables in order of insertion

A table is a list of keys and values in the order in which the keys first came. Writing under a present
key keeps its place; a new key goes to the end; taking a key out keeps the order of the others.
-/

namespace BranchingStory.Assoc

variable {α β : Type}

def get? (table : List (String × α)) (key : String) : Option α :=
  table.lookup key

def contains (table : List (String × α)) (key : String) : Bool :=
  (get? table key).isSome

def insert (table : List (String × α)) (key : String) (value : α) : List (String × α) :=
  match table with
  | [] => [(key, value)]
  | (k, v) :: rest => if k = key then (key, value) :: rest else (k, v) :: insert rest key value

def erase (table : List (String × α)) (key : String) : List (String × α) :=
  table.filter fun (k, _) => k ≠ key

def keys (table : List (String × α)) : List String :=
  table.map (·.1)

def values (table : List (String × α)) : List α :=
  table.map (·.2)

/-- Writes the entries of a second table into a first one, in order. -/
def merge (table more : List (String × α)) : List (String × α) :=
  more.foldl (fun table (k, v) => insert table k v) table

/-- The table with the given entries, a later entry written over an earlier one with its key. -/
def ofEntries (entries : List (String × α)) : List (String × α) :=
  merge [] entries

end BranchingStory.Assoc
