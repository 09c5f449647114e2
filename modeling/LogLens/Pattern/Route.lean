import LogLens.Pattern.Expr
/-!
# Matching by sets of places

A text of `n` characters has `n + 1` places between them. A route leads from places to places: from
a place where a match may begin to the places where it may then end. A set of places is a natural
number, one bit for each place, and `Route.advance` computes the set that a route leads to from a
whole set at once. There is no backtracking, and the time is bounded by the sizes of the route and
the text.

`Expr.route` is the route of an expression through a text: a class of characters becomes the set of
the places that a character of the class follows, an anchor the set of the places where it holds.
What remains are shifts, intersections and unions of numbers.

An expression matches somewhere in a text when its route leads from the set of all places to any
place at all.
-/

namespace LogLens.Pattern

/-- A way through a text, with a set of places at every leaf. -/
inductive Route where
  | stay
  | character (mask : Nat)
  | anchor (mask : Nat)
  | andThen (first second : Route)
  | either (left right : Route)
  | again (r : Route) (least : Nat) (most : Option Nat)
  deriving Repr, Inhabited

namespace Route

/-- Applies a step a number of times. -/
def times (step : Nat → Nat) : Nat → Nat → Nat
  | 0, places => places
  | n + 1, places => if places = 0 then 0 else times step n (step places)

/-- Adds the places that up to `n` further steps lead to; `fresh` are those not yet stepped from. -/
def spread (step : Nat → Nat) : (n : Nat) → (reached fresh : Nat) → Nat
  | 0, reached, _ => reached
  | n + 1, reached, fresh =>
    let next := (reached ||| step fresh) ^^^ reached
    if next = 0 then reached else spread step n (reached ||| next) next

/-- The places that a route leads to from a set of places of a text of `size` places. -/
def advance (size : Nat) : Route → Nat → Nat
  | stay, places => places
  | character mask, places => (places &&& mask) <<< 1
  | anchor mask, places => places &&& mask
  | andThen first second, places => advance size second (advance size first places)
  | either left right, places => advance size left places ||| advance size right places
  | again r least most, places =>
    let start := times (advance size r) least places
    match most with
    | none => spread (advance size r) size start start
    | some m => spread (advance size r) (m - least) start start

end Route

/-- The set with the places for which `test` holds, given the characters on both sides. -/
def placesWhere (test : Option Char → Option Char → Bool) (before : Option Char) :
    List Char → Nat
  | [] => (test before none).toNat
  | c :: cs => 2 * placesWhere test (some c) cs + (test before (some c)).toNat

/-- The set with the places that a character follows for which `test` holds. -/
def placesBefore (test : Char → Bool) (text : List Char) : Nat :=
  placesWhere (fun _ after => after.any test) none text

namespace Expr

mutual

/-- The route of an expression through a text. -/
def route (text : List Char) : Expr → Route
  | empty => .stay
  | .text cs => cs.foldr (fun c r => .andThen (.character (placesBefore (· == c) text)) r) .stay
  | oneOf cls => .character (placesBefore cls.has text)
  | place p => .anchor (placesWhere p.holds none text)
  | repetition e least most _ => .again (route text e) least most
  | capture _ e => route text e
  | row es => rowRoute text es
  | choice es => choiceRoute text es

/-- The route of expressions in a row. -/
def rowRoute (text : List Char) : List Expr → Route
  | [] => .stay
  | e :: es => .andThen (route text e) (rowRoute text es)

/-- The route of some branches; from none of them no way leads on. -/
def choiceRoute (text : List Char) : List Expr → Route
  | [] => .anchor 0
  | e :: es => .either (route text e) (choiceRoute text es)

end

/-- Whether an expression matches somewhere in a text. -/
def matchesIn (e : Expr) (text : List Char) : Bool :=
  (e.route text).advance (text.length + 1) (Nat.pow 2 (text.length + 1) - 1) != 0

end Expr

end LogLens.Pattern
