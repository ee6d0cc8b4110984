import BranchingStory.Number.Binary64

/-!
# Seeded random numbers

A stream of 64-bit words that a seed fixes once and for all: the ChaCha block function with twelve
rounds. A generator is its key and the number of words drawn so far, so that a copy of it goes on
exactly as the first one does.
-/

namespace BranchingStory

/-- A position in the stream of words that belongs to a key. -/
structure Generator where
  key : Vector UInt32 8
  drawn : Nat
  deriving DecidableEq

namespace Generator

open Number (twoTo)

/-- One step of the recurrence that spreads a seed over the words of a key. -/
def nextKeyState (state : UInt64) : UInt64 :=
  state * 6364136223846793005 + 11634580027462260723

/-- The key word that a state of the recurrence gives: high bits, rotated by the highest five. -/
def keyWord (state : UInt64) : UInt32 :=
  let word := (((state >>> 18) ^^^ state) >>> 27).toUInt32
  let turn := (state >>> 59).toUInt32
  (word >>> turn) ||| (word <<< ((32 - turn) % 32))

/-- The states of the recurrence that follow a seed. -/
def keyStates (seed : UInt64) : Nat → List UInt64
  | 0 => []
  | n + 1 => let state := nextKeyState seed; state :: keyStates state n

/-- The generator that a seed fixes, before its first word. -/
def ofSeed (seed : UInt64) : Generator :=
  let words := ((keyStates seed 8).map keyWord).toArray
  ⟨Vector.ofFn fun i : Fin 8 => words.getD i 0, 0⟩

def rotate (x : UInt32) (n : UInt32) : UInt32 :=
  (x <<< n) ||| (x >>> (32 - n))

def quarter (a b c d : Fin 16) (s : Vector UInt32 16) : Vector UInt32 16 :=
  let s := s.set a (s[a] + s[b])
  let s := s.set d (rotate (s[d] ^^^ s[a]) 16)
  let s := s.set c (s[c] + s[d])
  let s := s.set b (rotate (s[b] ^^^ s[c]) 12)
  let s := s.set a (s[a] + s[b])
  let s := s.set d (rotate (s[d] ^^^ s[a]) 8)
  let s := s.set c (s[c] + s[d])
  s.set b (rotate (s[b] ^^^ s[c]) 7)

/-- Two rounds: the four columns of a block, then its four diagonals. -/
def doubleRound (s : Vector UInt32 16) : Vector UInt32 16 :=
  let s := quarter 0 4 8 12 s |> quarter 1 5 9 13 |> quarter 2 6 10 14 |> quarter 3 7 11 15
  quarter 0 5 10 15 s |> quarter 1 6 11 12 |> quarter 2 7 8 13 |> quarter 3 4 9 14

def block (key : Vector UInt32 8) (index : UInt64) : Vector UInt32 16 :=
  let constants : Vector UInt32 4 := #v[0x61707865, 0x3320646e, 0x79622d32, 0x6b206574]
  let counter : Vector UInt32 4 := #v[index.toUInt32, (index >>> 32).toUInt32, 0, 0]
  let start : Vector UInt32 16 := constants ++ key ++ counter
  let mixed := Nat.repeat doubleRound 6 start
  mixed.zipWith (· + ·) start

/-- The next 64-bit word: two neighbouring words of a block, the low one first. -/
def next (g : Generator) : UInt64 × Generator :=
  let words := block g.key (UInt64.ofNat (g.drawn / 8))
  let low := words.get ⟨2 * (g.drawn % 8), by omega⟩
  let high := words.get ⟨2 * (g.drawn % 8) + 1, by omega⟩
  (low.toUInt64 ||| (high.toUInt64 <<< 32), { g with drawn := g.drawn + 1 })

/-- Draws words until one falls into the zone that makes all results of a range equally likely. Half of
all words do, so that the last of `fuel` words is taken as it comes. -/
def drawBelow (range zone : Nat) : Nat → Generator → Nat × Generator
  | 0, g => (0, g)
  | fuel + 1, g =>
    let (word, g) := g.next
    let product := word.toNat * range
    if product % twoTo 64 ≤ zone ∨ fuel = 0 then (product / twoTo 64, g)
    else drawBelow range zone fuel g

/-- A number below `range`, for a range of one to `2 ^ 64 - 1` numbers. -/
def below (range : Nat) (g : Generator) : Nat × Generator :=
  let zone := range * twoTo (63 - range.log2) % twoTo 64 - 1
  drawBelow range zone 512 g

/-- An integer from `low` to `high`, both ends included. -/
def between (low high : Int64) (g : Generator) : Int64 × Generator :=
  let range := (high.toInt - low.toInt + 1).toNat
  if range = twoTo 64 then
    let (word, g) := g.next
    (word.toInt64, g)
  else
    let (offset, g) := g.below range
    (Int64.ofInt (low.toInt + offset), g)

/-- A float from zero up to but not including one, with 53 random bits. -/
def unit (g : Generator) : Float × Generator :=
  let (word, g) := g.next
  (Number.floatOf false (word >>> 11).toNat (-53), g)

end Generator

end BranchingStory
