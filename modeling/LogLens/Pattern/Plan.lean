import LogLens.Pattern.Expr
import LogLens.Pattern.Room
/-!
# How large the automata of an expression are

An expression is run by two automata: one reads a text forward and keeps what groups match, the
other one reads it backward and does not. A pattern is accepted when neither of them takes more than
ten mebibytes.

A plan says of which parts an automaton is made. Most parts take a fixed room; the states of a class
of characters depend on the numbers of the states before them. The parts of a plan are laid one
after the other. A part ends in a fork when a link to what comes next takes room in a list of links.

A repeated part is laid as often as it must and may be repeated. Laying stops as soon as the
automaton is too large, so large counts take no longer than that.
-/

namespace LogLens.Pattern

/-- The direction in which an automaton reads a text. -/
inductive Direction where
  | forward
  | backward
  deriving DecidableEq, Repr

/-- The parts of an automaton. -/
inductive Plan where
  | fixed (states linkBytes : Nat)
  | characters (sequences : List (List Range))
  | texts (bytes : List (List Nat))
  | row (ps : List Plan)
  | choice (ps : List Plan)
  | repetition (p : Plan) (least : Nat) (most : Option Nat) (canBeEmpty : Bool)
  deriving Repr

/-- How many bytes an automaton may take. -/
def maxRoom : Nat := 10485760

/-- The room up to the end of a part, and whether the part ends in a fork. -/
structure Laid where
  room : Room
  isFork : Bool
  deriving DecidableEq, Repr

namespace Laid

/-- The bytes of a link from the end of a part to what comes next. -/
def linkBytes (l : Laid) : Nat := if l.isFork then 4 else 0

/-- A part as the continuation of another one. -/
def after (next previous : Laid) : Laid :=
  { next with room := next.room.add 0 previous.linkBytes }

end Laid

/-- A part that ends here, unless the automaton is too large. -/
def laid? (room : Room) (isFork : Bool) : Option Laid :=
  if room.size ≤ maxRoom then some ⟨room, isFork⟩ else none

/-! ## Repetitions

A part is given by the way it is laid. -/

/-- Lays a part `n` times after another one. -/
def copies (part : Room → Option Laid) : (n : Nat) → Laid → Option Laid
  | 0, l => some l
  | n + 1, l =>
    match part l.room with
    | some next => copies part n (next.after l)
    | none => none

/-- Lays a part `n` times. -/
def exactly (part : Room → Option Laid) (n : Nat) (room : Room) : Option Laid :=
  match n with
  | 0 => laid? (room.add 1 0) false
  | n + 1 => (part room).bind (copies part n)

/-- Lays a part as often as one likes, which may be never. A part that can match nothing needs a way
around it. -/
def anyTimes (part : Room → Option Laid) (canBeEmpty : Bool) (room : Room) : Option Laid :=
  if canBeEmpty then
    (part room).bind fun l => laid? (l.room.add 3 (16 + l.linkBytes)) false
  else (part (room.add 1 0)).bind fun l => laid? (l.room.add 0 (4 + l.linkBytes)) true

/-- Lays a part `n` times, and again as often as one likes. -/
def atLeast (part : Room → Option Laid) (n : Nat) (room : Room) : Option Laid :=
  (exactly part n room).bind fun l => laid? (l.room.add 1 (4 + l.linkBytes)) true

/-- Lays a part that may be left out. -/
def optional (part : Room → Option Laid) (room : Room) : Option Laid :=
  (part (room.add 1 0)).bind fun l => laid? (l.room.add 1 (8 + l.linkBytes)) false

/-- Lays a part up to `n` further times after another one, each time with a way to the end. -/
def further (part : Room → Option Laid) : (n : Nat) → Laid → Option Laid
  | 0, l => laid? (l.room.add 0 l.linkBytes) false
  | n + 1, l =>
    match part (l.room.add 1 (8 + l.linkBytes)) with
    | some next => further part n next
    | none => none

/-- Lays a repetition. -/
def layRepetition (part : Room → Option Laid) (least : Nat) (most : Option Nat) (canBeEmpty : Bool)
    (room : Room) : Option Laid :=
  match least, most with
  | 0, some 1 => optional part room
  | 0, none => anyTimes part canBeEmpty room
  | n, none => atLeast part n room
  | n, some m =>
    if n = m then exactly part n room
    else (exactly part n room).bind fun l => further part (m - n) { l with room := l.room.add 1 0 }

/-! ## Plans -/

namespace Plan

mutual

/-- Lays the parts of a plan. -/
def lay (d : Direction) : Plan → Room → Option Laid
  | fixed states linkBytes, room => laid? (room.add states linkBytes) false
  | characters sequences, room =>
    match d with
    | .forward => laid? (room.addForward sequences) false
    | .backward => laid? (room.addBackward sequences) false
  | texts bytes, room => laid? (room.addTexts bytes) false
  | row [], room => laid? (room.add 1 0) false
  | row (p :: ps), room => (lay d p room).bind (layRow d ps)
  | choice [], room => laid? (room.add 1 0) false
  | choice [p], room => lay d p room
  | choice (p :: q :: ps), room =>
    (lay d p room).bind fun a =>
      (lay d q a.room).bind fun b =>
        layBranches d ps (b.room.add 2 (8 + a.linkBytes + b.linkBytes))
  | repetition p least most canBeEmpty, room => layRepetition (lay d p) least most canBeEmpty room

/-- Lays plans one after the other. -/
def layRow (d : Direction) : List Plan → Laid → Option Laid
  | [], l => some l
  | p :: ps, l => (lay d p l.room).bind fun next => layRow d ps (next.after l)

/-- Lays further branches. -/
def layBranches (d : Direction) : List Plan → Room → Option Laid
  | [], room => laid? room false
  | p :: ps, room =>
    (lay d p room).bind fun l => layBranches d ps (l.room.add 0 (4 + l.linkBytes))

end

end Plan

namespace Expr

/-- The bytes of the texts that some expressions are, when all of them are texts. -/
def textBytes? (es : List Expr) : Option (List (List Nat)) :=
  es.mapM fun e =>
    match e with
    | text cs => some (cs.flatMap fun c => codeBytes c.toNat)
    | _ => none

/-- The plan of a class. -/
def classPlan (cls : CharClass) : Plan :=
  if cls.isAscii then .fixed 2 (8 * cls.ranges.length) else .characters cls.sequences

mutual

/-- The plan of an expression. -/
def plan (d : Direction) : Expr → Plan
  | empty => .fixed 1 0
  | text cs => .fixed (Text.byteCount cs) 0
  | oneOf cls => classPlan cls
  | place _ => .fixed 1 0
  | repetition e least most _ =>
    .repetition (plan d e) least most (decide (e.minLength?.getD 0 = 0))
  | capture _ e =>
    match d with
    | .forward => .row [.fixed 1 0, plan d e, .fixed 1 0]
    | .backward => plan d e
  | row es =>
    match d with
    | .forward => .row (plans d es)
    | .backward => .row (plans d es).reverse
  | choice es =>
    match textBytes? es with
    | some bytes =>
      match d with
      | .forward => .texts bytes
      | .backward => .texts (bytes.map List.reverse)
    | none => .choice (plans d es)

/-- The plans of some expressions. -/
def plans (d : Direction) : List Expr → List Plan
  | [] => []
  | e :: es => plan d e :: plans d es

end

/-- The plan of the start: an automaton that need not begin at an end of the text first skips bytes.
-/
def skipPlan (anchored : Bool) : Plan := if anchored then .fixed 1 0 else .fixed 3 16

/-- The plan of the whole automaton of an expression. -/
def automaton (e : Expr) : Direction → Plan
  | .forward => .row [skipPlan e.fromStart, .fixed 1 0, plan .forward e, .fixed 1 0, .fixed 1 0]
  | .backward => .row [skipPlan e.toEnd, plan .backward e, .fixed 1 0]

/-- Whether both automata of an expression are small enough. -/
def isSmall (e : Expr) : Bool :=
  ((e.automaton .forward).lay .forward ⟨0, 0⟩).isSome &&
    ((e.automaton .backward).lay .backward ⟨0, 0⟩).isSome

end Expr

end LogLens.Pattern
