import LogLens.Pattern.Utf8Sequence
import Std.Data.HashMap
/-!
# The room that automata take

An automaton is counted in states of 32 bytes each and the bytes of the links that some states hold
in a list: eight for a link that is labelled with a range of bytes, four for a bare one. States are
numbered in the order in which they are laid.

The states of a class of characters share what they have in common, as far as a memory of limited
size knows it. The slot of a state is found by a hash of its description, and a newer state drives
out an older one of the same slot. Going forward, the sequences of byte ranges come in ascending
order, and a state is laid once nothing can be added to it. Going backward, one state leads on from
a byte range to what comes next.

Branches that are all texts share their beginnings in a tree (`Room.addTexts`).
-/

namespace LogLens.Pattern

/-- States, and the bytes of the lists of links. -/
structure Room where
  states : Nat
  linkBytes : Nat
  deriving DecidableEq, Repr

namespace Room

/-- The number of bytes in all. -/
def size (r : Room) : Nat := 32 * r.states + r.linkBytes

/-- Adds states and bytes of links. -/
def add (r : Room) (states linkBytes : Nat) : Room :=
  ⟨r.states + states, r.linkBytes + linkBytes⟩

end Room

/-! ## A memory of limited size -/

/-- The numbers of states, by descriptions of them. -/
structure Memory where
  capacity : Nat
  slots : Std.HashMap Nat (List Nat × Nat)

namespace Memory

/-- A memory with a number of slots, all of them empty. -/
def ofCapacity (capacity : Nat) : Memory := ⟨capacity, {}⟩

/-- The slot of a description: its FNV-1a hash, modulo the number of slots. -/
def slot (m : Memory) (key : List Nat) : Nat :=
  let mix (h : UInt64) (n : Nat) : UInt64 := (h ^^^ n.toUInt64) * 1099511628211
  (key.foldl mix 14695981039346656037).toNat % m.capacity

/-- The state of a description, when it is known. -/
def known? (m : Memory) (key : List Nat) : Option Nat :=
  m.slots[m.slot key]?.bind fun (kept, state) => if kept = key then some state else none

/-- Keeps the state of a description. -/
def keep (m : Memory) (key : List Nat) (state : Nat) : Memory :=
  { m with slots := m.slots.insert (m.slot key) (key, state) }

end Memory

/-! ## Classes, forward -/

/-- A link over a range of bytes to a state. -/
structure Link where
  range : Range
  target : Nat
  deriving DecidableEq, Repr

/-- A state that is not laid yet: its links, the last one first, and the range of one more link the
target of which is not laid. -/
structure OpenState where
  links : List Link
  pending : Option Range

/-- The room so far, with the memory of the class in work. -/
structure Workshop where
  room : Room
  memory : Memory

namespace Workshop

/-- Lays a state with these links, or takes a known one; with its number. -/
def state (w : Workshop) (links : List Link) : Nat × Workshop :=
  let key := links.flatMap fun l => [l.range.low, l.range.high, l.target]
  match w.memory.known? key with
  | some n => (n, w)
  | none =>
    let n := w.room.states
    (n, ⟨w.room.add 1 (8 * links.length), w.memory.keep key n⟩)

/-- Lays the state of a byte range that leads to a state, or takes a known one. -/
def stepTo (w : Workshop) (target : Nat) (r : Range) : Nat × Workshop :=
  let key := [target, r.low, r.high]
  match w.memory.known? key with
  | some n => (n, w)
  | none =>
    let n := w.room.states
    (n, ⟨w.room.add 1 0, w.memory.keep key n⟩)

end Workshop

/-- Links the pending range to a state. -/
def OpenState.settle (s : OpenState) (target : Nat) : OpenState :=
  match s.pending with
  | some r => ⟨⟨r, target⟩ :: s.links, none⟩
  | none => s

/-- Lays the innermost open states until `depth + 1` are left; the innermost of these is linked to
what was laid last. -/
def layDownTo (depth : Nat) : List OpenState → (target : Nat) → Workshop →
    List OpenState × Workshop
  | [], _, w => ([], w)
  | s :: outer, target, w =>
    let s := s.settle target
    if depth < outer.length then
      let (n, w) := w.state s.links.reverse
      layDownTo depth outer n w
    else (s :: outer, w)

/-- How many ranges a sequence shares with the pending ones, from the outermost on. -/
def sharedLength (sequence : List Range) (pending : List (Option Range)) : Nat :=
  ((sequence.zip pending).takeWhile fun (r, p) => p == some r).length

/-- Opens the states for the rest of a sequence, the first range of which is pending in the
innermost open state. -/
def openFor (sequence : List Range) (stack : List OpenState) : List OpenState :=
  match sequence, stack with
  | r :: rest, s :: outer =>
    rest.foldl (fun stack r => ⟨[], some r⟩ :: stack) ({ s with pending := some r } :: outer)
  | _, _ => stack

/-- Adds a sequence to the open states of a class that leads to `target`. -/
def addSequence (target : Nat) (work : List OpenState × Workshop) (sequence : List Range) :
    List OpenState × Workshop :=
  let shared := sharedLength sequence (work.1.reverse.map OpenState.pending)
  let (stack, w) := layDownTo shared work.1 target work.2
  (openFor (sequence.drop shared) stack, w)

/-- Lays the states of a class, going forward. -/
def Room.addForward (room : Room) (sequences : List (List Range)) : Room :=
  let target := room.states
  let start := ([⟨[], none⟩], ⟨room.add 1 0, .ofCapacity 10000⟩)
  let (stack, w) := sequences.foldl (addSequence target) start
  let (stack, w) := layDownTo 0 stack target w
  match stack with
  | s :: _ => (w.state s.links.reverse).2.room
  | [] => w.room

/-! ## Classes, backward -/

/-- Lays the states of a sequence that leads to `target`. -/
def laySequence : (target : Nat) → List Range → Workshop → Workshop
  | _, [], w => { w with room := w.room.add 0 4 }
  | target, r :: rest, w =>
    let (n, w) := w.stepTo target r
    laySequence n rest w

/-- Lays the states of a class, going backward: a fork over the sequences and their common end. -/
def Room.addBackward (room : Room) (sequences : List (List Range)) : Room :=
  let target := room.states + 1
  (sequences.foldl (fun w s => laySequence target s w)
    (⟨room.add 2 0, .ofCapacity 1000⟩ : Workshop)).room

/-! ## Texts as branches -/

/-- The non-empty members of a list between the empty ones. -/
def betweenEmpty : List (List Nat) → List (List (List Nat))
  | [] => [[]]
  | s :: rest =>
    match s, betweenEmpty rest with
    | [], parts => [] :: parts
    | s, part :: parts => (s :: part) :: parts
    | s, [] => [[s]]

/-- Puts a rest to those that follow the same byte. -/
def addTail (b : Nat) (tail : List Nat) :
    List (Nat × List (List Nat)) → List (Nat × List (List Nat))
  | [] => [(b, [tail])]
  | (b', tails) :: rest =>
    if b = b' then (b', tail :: tails) :: rest else (b', tails) :: addTail b tail rest

/-- What follows each first byte. -/
def tailsByByte : List (List Nat) → List (Nat × List (List Nat))
  | [] => []
  | [] :: rest => tailsByByte rest
  | (b :: tail) :: rest => addTail b tail (tailsByByte rest)

/-- How often the texts of a node end there; only one end counts before anything goes on. -/
def endCount (texts : List (List Nat)) : Nat :=
  let later := texts.dropWhile List.isEmpty
  (if later.length < texts.length then 1 else 0) + later.countP List.isEmpty

/-- The bytes of the links of a state with `n` links; a single link needs no list. -/
def partBytes (n : Nat) : Nat := if n = 1 then 0 else 8 * n

/-- Lays the node of a tree from which some texts go on. A node has a state for each part between
two ends of texts, which tells the next bytes apart, and a fork over these states and ends. `fuel`
is more than the longest of the texts. -/
def Room.addNode : (fuel : Nat) → List (List Nat) → Room → Room
  | 0, _, room => room
  | fuel + 1, texts, room =>
    if texts.all List.isEmpty then room
    else
      let parts := ((betweenEmpty texts).map tailsByByte).filter (!·.isEmpty)
      let fork := 4 * (parts.length + endCount texts)
      let linkBytes := parts.foldl (fun n part => n + partBytes part.length) fork
      let room := room.add (parts.length + 1) linkBytes
      parts.flatten.foldl (fun room (_, tails) => addNode fuel tails room) room

/-- Lays the tree of some texts, and its end. -/
def Room.addTexts (room : Room) (texts : List (List Nat)) : Room :=
  let longest := texts.foldl (fun n t => max n t.length) 0
  addNode (longest + 1) texts (room.add 1 0)

end LogLens.Pattern
