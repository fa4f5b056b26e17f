import Constituency.Regex.Error
import Constituency.Regex.Node
import Std.Data.TreeMap

/-!
# The size of a pattern

A pattern is refused when a machine for it would be too large. Two machines count: both read the
bytes of a text in UTF-8, one forwards and one backwards, and counted repetitions are written out
in them. A set of characters becomes a machine over sequences of byte ranges, in which equal states
are shared as far as a small table remembers them, so the exact size depends on the order in which
states are made, and this module makes them in that order. States have numbers, and counting them
is all that has to be done here; the machines themselves are never needed.
-/
namespace Constituency.Regex

/-! ## Byte sequences -/

abbrev ByteRange := UInt8 × UInt8

/--
Cuts a range of code points so that all code points of a piece differ in their last bytes only, and
there in all ways. `blocks` holds how many code points share all but their last byte, all but their
last two, and so on.
-/
def cut : List Nat → Nat → Nat → List (Nat × Nat)
  | [], first, last => [(first, last)]
  | block :: blocks, first, last =>
    if first / block = last / block then [(first, last)]
    else
      let start := (first + block - 1) / block * block
      let head := if start = first then [] else [(first, start - 1)]
      if start / block = last / block then head ++ [(start, last)]
      else
        let stop := (last + 1) / block * block
        let tail := if stop = last + 1 then [] else [(stop, last)]
        head ++ cut blocks start (stop - 1) ++ tail

/-- The code points that are written with one, two, three and four bytes, without surrogates. -/
def encodingLengths : List (Nat × Nat × List Nat) :=
  let blocks := [0x40, 0x1000, 0x40000]
  [(0, 0x7F, []), (0x80, 0x7FF, blocks), (0x800, 0xD7FF, blocks), (0xE000, 0xFFFF, blocks),
    (0x10000, 0x10FFFF, blocks)]

/-- The byte ranges of a piece, one for each byte of an encoding. -/
def byteRanges (first last : Nat) : List ByteRange :=
  (String.utf8EncodeChar (Char.ofNat first)).zip (String.utf8EncodeChar (Char.ofNat last))

/-- The byte sequences of the code points of a range, in increasing order. -/
def byteSequences (first last : Nat) : List (List ByteRange) :=
  encodingLengths.flatMap fun (low, high, blocks) =>
    let first := max first low
    let last := min last high
    if first ≤ last then (cut blocks first last).map fun (first, last) => byteRanges first last
    else []

/-- The byte sequences of a set. -/
def setSequences (s : CharSet) : List (List ByteRange) :=
  s.ranges.flatMap fun (first, last) => byteSequences (codeAtPlace first) (codeAtPlace last)

example : setSequences (.range '가' '힣') =
    [[(0xEA, 0xEA), (0xB0, 0xBF), (0x80, 0xBF)], [(0xEB, 0xEC), (0x80, 0xBF), (0x80, 0xBF)],
      [(0xED, 0xED), (0x80, 0x9D), (0x80, 0xBF)], [(0xED, 0xED), (0x9E, 0x9E), (0x80, 0xA3)]] := by
  decide +kernel

/-! ## Counting states -/

/-- What has been used up so far. -/
structure Room where
  /-- The number of states, which is the number of the next one. -/
  states : Nat := 0
  /-- The bytes that states take beyond their fixed size. -/
  extra : Nat := 0
deriving DecidableEq, Repr

namespace Room

def stateBytes : Nat := 32

/-- The bytes of one transition of a state with many of them. -/
def transitionBytes : Nat := 8

/-- The bytes of one choice of a state that makes choices. -/
def choiceBytes : Nat := 4

def bytes (room : Room) : Nat := stateBytes * room.states + room.extra

def isOver (room : Room) : Bool := sizeLimit < room.bytes

def add (room : Room) (states : Nat) (extra : Nat := 0) : Room :=
  ⟨room.states + states, room.extra + extra⟩

/-- Repeats a step, up to the limit. -/
def iterate (step : Room → Room) : Nat → Room → Room
  | 0, room => room
  | count + 1, room => if room.isOver then room else iterate step count (step room)

end Room

/-- One step of the hash that chooses the slot of a state. -/
def mixHash (hash : UInt64) (n : Nat) : UInt64 := (hash ^^^ n.toUInt64) * 1099511628211

def firstHash : UInt64 := 14695981039346656037

/-! ## Forward machines of sets -/

structure Transition where
  bytes : ByteRange
  target : Nat
deriving DecidableEq, Repr

def Transition.mix (hash : UInt64) (transition : Transition) : UInt64 :=
  mixHash (mixHash (mixHash hash transition.bytes.1.toNat) transition.bytes.2.toNat)
    transition.target

/-- The states made so far, and those that are remembered. -/
structure Shared where
  room : Room
  known : Std.TreeMap Nat (List Transition × Nat) := ∅

/-- The number of a state with some transitions, which is made if it is not remembered. -/
def Shared.state (shared : Shared) (transitions : List Transition) : Nat × Shared :=
  let slot := (transitions.foldl Transition.mix firstHash).toNat % 10000
  let fresh : Nat × Shared :=
    (shared.room.states,
      { room := shared.room.add 1 (Room.transitionBytes * transitions.length)
        known := shared.known.insert slot (transitions, shared.room.states) })
  match shared.known[slot]? with
  | some (known, number) => if known = transitions then (number, shared) else fresh
  | none => fresh

/-- A state that may still get transitions: the last one, whose target is not made yet, is apart. -/
structure OpenState where
  transitions : List Transition
  last : Option ByteRange

/-- Makes the states of a path, the last one first, and gives the number of the first one. -/
def closePath (target : Nat) : List OpenState → Shared → Nat × Shared
  | [], shared => (target, shared)
  | node :: path, shared =>
    let (next, shared) := closePath target path shared
    shared.state (node.transitions ++ node.last.toList.map (⟨·, next⟩))

/-- Goes along a path as far as the sequence agrees with it, and closes the rest. -/
def extendPath (target : Nat) :
    List ByteRange → List OpenState → Shared → List OpenState × Shared
  | bytes :: sequence, node :: path, shared =>
    if node.last = some bytes then
      let (path, shared) := extendPath target sequence path shared
      (node :: path, shared)
    else
      let (next, shared) := closePath target path shared
      let closed := node.transitions ++ node.last.toList.map (⟨·, next⟩)
      (⟨closed, some bytes⟩ :: sequence.map (⟨[], some ·⟩), shared)
  | _, path, shared => (path, shared)

/-- Adds the machine of a set that reads forwards. -/
def addForward (s : CharSet) (room : Room) : Room :=
  let target := room.states
  let (path, shared) := (setSequences s).foldl
    (fun (path, shared) sequence => extendPath target sequence path shared)
    ([⟨[], none⟩], ({ room := room.add 1 } : Shared))
  (closePath target path shared).2.room

/-! ## Backward machines of sets -/

/-- The states made so far, and those that are remembered by their target and byte range. -/
structure SharedBack where
  room : Room
  known : Std.TreeMap Nat ((Nat × ByteRange) × Nat) := ∅

/-- The number of a state with one transition, which is made if it is not remembered. -/
def SharedBack.state (shared : SharedBack) (target : Nat) (bytes : ByteRange) :
    Nat × SharedBack :=
  let key := (target, bytes)
  let slot := (mixHash (mixHash (mixHash firstHash target) bytes.1.toNat) bytes.2.toNat).toNat %
    1000
  let fresh : Nat × SharedBack :=
    (shared.room.states,
      { room := shared.room.add 1
        known := shared.known.insert slot (key, shared.room.states) })
  match shared.known[slot]? with
  | some (known, number) => if known = key then (number, shared) else fresh
  | none => fresh

/-- Adds the machine of a set that reads backwards: one chain for each byte sequence. -/
def addBackward (s : CharSet) (room : Room) : Room :=
  let stop := room.states + 1
  ((setSequences s).foldl (fun (shared : SharedBack) sequence =>
    let (_, shared) := sequence.foldl
      (fun (target, (shared : SharedBack)) bytes => shared.state target bytes) (stop, shared)
    { shared with room := shared.room.add 0 Room.choiceBytes }) { room := room.add 2 }).room

/-! ## Words -/

/-- The bytes of a text. -/
def textBytes (text : List Char) : List UInt8 := text.flatMap String.utf8EncodeChar

/-- The characters of a node that stands for one text. -/
def Node.text? (node : Node) : Option (List Char) :=
  match node with
  | .empty => none
  | node => node.items.mapM Node.only?

/-- The stretches of words between the empty ones. -/
def stretches (words : List (List UInt8)) : List (List (List UInt8)) :=
  words.foldr (fun word found =>
    match word, found with
    | [], found => [] :: found
    | word, first :: others => (word :: first) :: others
    | word, [] => [[word]]) [[]]

/--
Adds the tree of some words, in which words share their beginnings as long as no shorter word ends
between them. `fuel` is at least the length of the longest word.
-/
def addWords (fuel : Nat) (words : List (List UInt8)) (room : Room) : Room :=
  match fuel with
  | 0 => room
  | fuel + 1 =>
    let parts := stretches words
    let full := (parts.filter (!·.isEmpty)).length
    let room := parts.foldl (fun room part =>
      let starts := (part.filterMap List.head?).eraseDups
      let room := starts.foldl (fun room start =>
        let rests := (part.filter (·.head? == some start)).map List.tail
        if rests.all List.isEmpty then room else addWords fuel rests room) room
      if starts.isEmpty then room
      else room.add 1 (if starts.length = 1 then 0 else Room.transitionBytes * starts.length)) room
    room.add 1 (Room.choiceBytes * (full + (parts.length - 1)))
termination_by structural fuel

/-! ## Machines of patterns -/

/-- Adds the machine of a set. -/
def addSet (backward : Bool) (s : CharSet) (room : Room) : Room :=
  match s.only? with
  | some c => room.add c.utf8Size
  | none =>
    if s.isAscii then room.add 2 (Room.transitionBytes * s.ranges.length)
    else if backward then addBackward s room
    else addForward s room

/-- Adds the state in which a machine chooses between two ways on. -/
def addFork (room : Room) : Room := room.add 1 (2 * Room.choiceBytes)

/-- Where a node stands among alternatives; the choice between them is made behind the second. -/
inductive Rank where
  | first
  | second
  | later
deriving DecidableEq, Repr

/-- Completes an alternative: its place in the choice, and the choice itself behind the second. -/
def Rank.close (rank : Rank) (room : Room) : Room :=
  match rank with
  | .first => room
  | .second => room.add 2 (2 * Room.choiceBytes)
  | .later => room.add 0 Room.choiceBytes

/-- Adds the machine of a node to the states made so far. -/
def addNode (backward : Bool) : Node → Rank → Room → Room
  | .alt first second, rank, room =>
    if room.isOver then room
    else
      -- Alternatives that are all words become a tree.
      match rank, (Node.alt first second).branches.mapM Node.text? with
      | .first, some words =>
        let words := words.map fun word =>
          if backward then (textBytes word).reverse else textBytes word
        addWords (words.foldl (max · ·.length) 0 + 1) words (room.add 1)
      | rank, _ =>
        let room := rank.close (addNode backward first .first room)
        addNode backward second (if rank = .first then .second else .later) room
  | node, rank, room =>
    if room.isOver then room
    else rank.close <| match node with
      | .empty => room.add 1
      | .set s => addSet backward s room
      | .look _ => room.add 1
      | .seq first second =>
        if backward then addNode backward first .first (addNode backward second .first room)
        else addNode backward second .first (addNode backward first .first room)
      | .alt _ _ => room
      | .rep _ 0 none body =>
        if body.isProductive then addNode backward body .first (addFork room)
        else (addFork (addFork (addNode backward body .first room))).add 1
      | .rep _ low none body => addFork (room.iterate (addNode backward body .first) low)
      | .rep _ 0 (some 1) body => (addNode backward body .first (addFork room)).add 1
      | .rep _ low (some high) body =>
        let room :=
          if low = 0 then room.add 1 else Room.iterate (addNode backward body .first) low room
        if low = high then room
        else Room.iterate (fun room => addNode backward body .first (addFork room)) (high - low)
          (room.add 1)
      | .group _ body =>
        if backward then addNode backward body .first room
        else (addNode backward body .first (room.add 1)).add 1

/-- Whether a match of a node begins with a condition. -/
def Node.beginsWith (condition : Look) : Node → Bool
  | .empty => false
  | .set _ => false
  | .look held => held = condition
  | .seq first second =>
    first.beginsWith condition || first.isWidthless && second.beginsWith condition
  | .alt first second => first.beginsWith condition && second.beginsWith condition
  | .rep _ low _ body => 0 < low && body.beginsWith condition
  | .group _ body => body.beginsWith condition

/-- Whether a match of a node ends with a condition. -/
def Node.endsWith (condition : Look) : Node → Bool
  | .empty => false
  | .set _ => false
  | .look held => held = condition
  | .seq first second =>
    second.endsWith condition || second.isWidthless && first.endsWith condition
  | .alt first second => first.endsWith condition && second.endsWith condition
  | .rep _ low _ body => 0 < low && body.endsWith condition
  | .group _ body => body.endsWith condition

/-- A machine that may start anywhere in a text skips bytes first. -/
def skipBytes (anchored : Bool) : Room :=
  if anchored then Room.add {} 1 else (addFork {}).add 2 Room.transitionBytes

/-- The room of the machine that reads forwards, which also saves the ends of groups. -/
def forwardRoom (node : Node) : Room :=
  (addNode false (.group 0 node) .first (skipBytes (node.beginsWith .textStart))).add 1

def backwardRoom (node : Node) : Room :=
  (addNode true node .first (skipBytes (node.endsWith .textEnd))).add 1

/--
A bound for the room of both machines that is quickly found. A range of characters has at most
twenty-one byte sequences, of at most four states with one transition each.
-/
def Node.sizeBound : Node → Nat
  | .empty => Room.stateBytes
  | .set s => 21 * 4 * (Room.stateBytes + Room.transitionBytes) * s.ranges.length + 512
  | .look _ => Room.stateBytes
  | .seq first second => first.sizeBound + second.sizeBound
  | .alt first second => first.sizeBound + second.sizeBound + 4 * Room.stateBytes
  | .rep _ low high body =>
    max low (high.getD (low + 1)) * (body.sizeBound + 2 * Room.stateBytes) + 4 * Room.stateBytes
  | .group _ body => body.sizeBound + 2 * Room.stateBytes

/-- Whether one of the two machines of a pattern is too large. -/
def Node.isTooLarge (node : Node) : Bool :=
  sizeLimit < node.sizeBound + 8 * Room.stateBytes &&
    ((forwardRoom node).isOver || (backwardRoom node).isOver)

end Constituency.Regex
