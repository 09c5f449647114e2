import LogLens.Decimal.Text
import LogLens.Text.Dictionary
/-!
# JSON values

A JSON number is either *whole*, an integer that fits a signed or an unsigned 64-bit word, or
*real*, a binary64 number. The two are different numbers also where they are equal in value: `2`
and `2.0` are kept and written apart. The range of whole numbers is part of their type.

The members of an object are a list of keys and values. A text can name a key twice and in any
order; `Json.canonical` brings the members of every object, at every depth, into dictionary form:
ascending keys, of two members with one key the later one. Values are compared, looked up and
written in that form.
-/

namespace LogLens

/-- An integer that fits a signed or an unsigned 64-bit word. -/
structure Whole where
  value : Int
  lower : -9223372036854775808 ≤ value
  upper : value < 18446744073709551616
  deriving DecidableEq, Repr

/-- The integer as a whole number, when it is in range. -/
def Whole.ofInt? (i : Int) : Option Whole :=
  if h : -9223372036854775808 ≤ i ∧ i < 18446744073709551616 then some ⟨i, h.1, h.2⟩ else none

theorem Whole.ofInt?_value (n : Whole) : ofInt? n.value = some n := dif_pos ⟨n.lower, n.upper⟩

theorem Whole.natAbs_lt (n : Whole) : n.value.natAbs < 18446744073709551616 := by
  have hlower := n.lower
  have hupper := n.upper
  omega

/-- A signed word as a whole number. -/
def Whole.ofInt64 (i : Int64) : Whole where
  value := i.toInt
  lower := i.le_toInt
  upper := Int.lt_of_lt_of_le i.toInt_lt (by decide)

instance : Inhabited Whole := ⟨⟨0, by decide, by decide⟩⟩

/-- A JSON number. -/
inductive Number where
  | whole (n : Whole)
  | real (x : Binary64)
  deriving DecidableEq, Repr, Inhabited

namespace Number

/-- The number as binary64. -/
def toBinary64 : Number → Binary64
  | whole n => Binary64.ofInt n.value
  | real x => x

/-- The number as it is shown to a reader; `none` when it is not finite. -/
def shown? : Number → Option String
  | whole n => some (Decimal.intText n.value)
  | real x => if x.isFinite then some x.shown else none

/-- The number in JSON text. -/
def text : Number → String
  | whole n => Decimal.intText n.value
  | real x => if x.isFinite then NumberStyle.json.text x else "null"

/-- The number as it is shown, or its JSON text when it is not finite. -/
def shownOrText (n : Number) : String := n.shown?.getD n.text

end Number

/-- A JSON value. -/
inductive Json where
  | null
  | bool (b : Bool)
  | number (n : Number)
  | string (s : String)
  | list (items : List Json)
  | object (members : List (String × Json))
  deriving Repr, Inhabited

namespace Json

mutual

/-- The value with the members of all objects in it in dictionary form. -/
def canonical : Json → Json
  | null => null
  | bool b => bool b
  | number n => number n
  | string s => string s
  | list items => list (canonicalItems items)
  | object members => object (Dictionary.ofEntries (canonicalMembers members))

/-- `canonical` on each item. -/
def canonicalItems : List Json → List Json
  | [] => []
  | v :: rest => canonical v :: canonicalItems rest

/-- `canonical` on the value of each member. -/
def canonicalMembers : List (String × Json) → List (String × Json)
  | [] => []
  | (k, v) :: rest => (k, canonical v) :: canonicalMembers rest

end

/-- Whether a value has parts: only lists and objects do. -/
def isComposite : Json → Bool
  | list _ => true
  | object _ => true
  | _ => false

end Json

end LogLens
