import LogLens.Pattern.Place
import LogLens.Pattern.Utf8Sequence
import LogLens.Text.Utf8
/-!
# Regular expressions

An expression is what a regular expression means once the flags are applied: texts, classes of
characters, places, repetitions, groups that keep what they match, and rows and branches of
expressions.

Expressions are put together in a simple form. `ofClass` turns a class of one character into a text.
`repeated` leaves out what repeats nothing and repeats an expression that matches no characters at
most once. `ofRow` joins neighbouring texts and the parts of rows within it. `ofChoice` joins
branches that are all characters or all classes to a single class, and takes out the parts that all
branches begin with. How large an expression is depends on this form, so it is part of what a
pattern means.

The lengths of an expression are the least and the greatest number of bytes that it matches.
-/

namespace LogLens.Pattern

/-- A regular expression. -/
inductive Expr where
  | empty
  | text (cs : List Char)
  | oneOf (cls : CharClass)
  | place (p : Place)
  | repetition (e : Expr) (least : Nat) (most : Option Nat) (greedy : Bool)
  | capture (number : Nat) (e : Expr)
  | row (es : List Expr)
  | choice (es : List Expr)
  deriving Repr

namespace Expr

mutual

/-- Whether two expressions are the same. -/
def same : Expr → Expr → Bool
  | empty, empty => true
  | text a, text b => a == b
  | oneOf a, oneOf b => a == b
  | place a, place b => a == b
  | repetition e l m g, repetition e' l' m' g' => same e e' && l == l' && m == m' && g == g'
  | capture n e, capture n' e' => n == n' && same e e'
  | row es, row es' => sameAll es es'
  | choice es, choice es' => sameAll es es'
  | _, _ => false

/-- Whether two lists of expressions are the same. -/
def sameAll : List Expr → List Expr → Bool
  | [], [] => true
  | e :: es, e' :: es' => same e e' && sameAll es es'
  | _, _ => false

end

/-! ## Lengths -/

/-- Adds lengths, where there are such. -/
def plus (a b : Option Nat) : Option Nat := a.bind fun x => b.map fun y => x + y

mutual

/-- The least number of bytes that an expression matches; none when it matches nothing. -/
def minLength? : Expr → Option Nat
  | empty => some 0
  | text cs => some (Text.byteCount cs)
  | oneOf cls => cls.ranges.head?.map fun r => codeWidth r.low
  | place _ => some 0
  | repetition e least _ _ => (minLength? e).map (· * least)
  | capture _ e => minLength? e
  | row es => minOfRow es
  | choice es => minOfChoice es

/-- The least length of a row. -/
def minOfRow : List Expr → Option Nat
  | [] => some 0
  | e :: es => plus (minLength? e) (minOfRow es)

/-- The least of the least lengths of some branches; none when one has no least length. -/
def minOfChoice : List Expr → Option Nat
  | [] => none
  | [e] => minLength? e
  | e :: es => (minLength? e).bind fun n => (minOfChoice es).map fun m => min n m

end

mutual

/-- The greatest number of bytes that an expression matches; none when there is no such number. -/
def maxLength? : Expr → Option Nat
  | empty => some 0
  | text cs => some (Text.byteCount cs)
  | oneOf cls => cls.ranges.getLast?.map fun r => codeWidth r.high
  | place _ => some 0
  | repetition e _ most _ => most.bind fun m => (maxLength? e).map (· * m)
  | capture _ e => maxLength? e
  | row es => maxOfRow es
  | choice es => maxOfChoice es

/-- The greatest length of a row. -/
def maxOfRow : List Expr → Option Nat
  | [] => some 0
  | e :: es => plus (maxLength? e) (maxOfRow es)

/-- The greatest of the greatest lengths of some branches; none when one has no such length. -/
def maxOfChoice : List Expr → Option Nat
  | [] => none
  | [e] => maxLength? e
  | e :: es => (maxLength? e).bind fun n => (maxOfChoice es).map fun m => max n m

end

/-- Whether an expression matches no characters, only places. -/
def isPlaceOnly (e : Expr) : Bool := e.maxLength? == some 0

/-! ## Simple forms -/

/-- The expression that matches nothing. -/
def never : Expr := oneOf (.none .bytes)

/-- The expression of a class. -/
def ofClass (cls : CharClass) : Expr :=
  if cls.ranges.isEmpty then never
  else
    match cls.only? with
    | some c => text [c]
    | none => oneOf cls

/-- The repetition of an expression. -/
def repeated (e : Expr) (least : Nat) (most : Option Nat) (greedy : Bool) : Expr :=
  let (least, most) :=
    if e.isPlaceOnly then (min least 1, some (min (most.getD 1) 1)) else (least, most)
  if least = 0 ∧ most = some 0 then empty
  else if least = 1 ∧ most = some 1 then e
  else repetition e least most greedy

/-- The parts of an expression in a row. -/
def parts : Expr → List Expr
  | empty => []
  | row es => es
  | e => [e]

/-- Joins neighbouring texts. -/
def joinTexts : List Expr → List Expr
  | [] => []
  | e :: es =>
    match e, joinTexts es with
    | text a, text b :: rest => text (a ++ b) :: rest
    | e, rest => e :: rest

/-- Expressions in a row. -/
def ofRow (es : List Expr) : Expr :=
  match joinTexts (es.flatMap parts) with
  | [] => empty
  | [e] => e
  | es => row es

/-- The branches of an expression. -/
def alternatives : Expr → List Expr
  | choice es => es
  | e => [e]

/-- The class of a text of one character. -/
def characterClass? : Expr → Option CharClass
  | text [c] => some ⟨.characters, [.single c.toNat]⟩
  | _ => none

/-- The characters of a class. -/
def class? : Expr → Option CharClass
  | oneOf cls => some ⟨.characters, cls.ranges⟩
  | _ => none

/-- The class that some branches are together, when all of them are characters or all classes. -/
def joinedClass? (es : List Expr) : Option CharClass :=
  ((es.mapM characterClass?).or (es.mapM class?)).map fun classes => .unions .characters classes

/-- Branches, joined to a class where that is possible. -/
def ofBranches (es : List Expr) : Expr :=
  match es with
  | [] => never
  | [e] => e
  | es =>
    match joinedClass? es with
    | some cls => ofClass cls
    | none => choice es

/-- What two lists of expressions both begin with. -/
def commonStart : List Expr → List Expr → List Expr
  | e :: es, e' :: es' => if same e e' then e :: commonStart es es' else []
  | _, _ => []

/-- The rows that some branches are, when each of them is one. -/
def rows? (es : List Expr) : Option (List (List Expr)) :=
  es.mapM fun e =>
    match e with
    | row parts => some parts
    | _ => none

/-- What all branches begin with, when they are rows. -/
def sharedStart (es : List Expr) : List Expr :=
  match rows? es with
  | some (first :: others) => others.foldl commonStart first
  | _ => []

/-- A choice between expressions. -/
def ofChoice (es : List Expr) : Expr :=
  let es := es.flatMap alternatives
  match ofBranches es with
  | choice es =>
    match sharedStart es with
    | [] => choice es
    | shared =>
      let tails := es.map fun e => ofRow (e.parts.drop shared.length)
      ofRow (shared ++ [ofBranches (tails.flatMap alternatives)])
  | e => e

/-! ## Anchored expressions -/

mutual

/-- Whether every match begins at the beginning of the text, as far as the form shows. -/
def fromStart : Expr → Bool
  | place p => p == .textStart
  | repetition e least _ _ => decide (0 < least) && fromStart e
  | capture _ e => fromStart e
  | row es => rowFromStart es
  | choice es => allFromStart es
  | _ => false

/-- Whether the parts of a row up to the first one that can match a character begin so. -/
def rowFromStart : List Expr → Bool
  | [] => false
  | e :: es => fromStart e || (e.isPlaceOnly && rowFromStart es)

/-- Whether all branches begin so. -/
def allFromStart : List Expr → Bool
  | [] => true
  | e :: es => fromStart e && allFromStart es

end

mutual

/-- Whether every match ends at the end of the text, as far as the form shows. -/
def toEnd : Expr → Bool
  | place p => p == .textEnd
  | repetition e least _ _ => decide (0 < least) && toEnd e
  | capture _ e => toEnd e
  | row es => (rowToEnd es).1
  | choice es => allToEnd es
  | _ => false

/-- Whether the parts of a row from the last one that can match a character on end so, and whether
no part of it can. -/
def rowToEnd : List Expr → Bool × Bool
  | [] => (false, true)
  | e :: es =>
    let (found, passable) := rowToEnd es
    (found || (passable && toEnd e), passable && e.isPlaceOnly)

/-- Whether all branches end so. -/
def allToEnd : List Expr → Bool
  | [] => true
  | e :: es => toEnd e && allToEnd es

end

end Expr

end LogLens.Pattern
