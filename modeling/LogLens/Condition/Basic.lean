import LogLens.Condition.Operand
import LogLens.Filter.Error
/-!
# Conditions

A condition is a boolean expression over comparisons. Two operands are compared for equality of
their texts, or the text of one is searched for a pattern.

In text the operators are tried in the order `&&`, `||`, `==`, `=~`: the first one that occurs at
all splits the text at its first occurrence, whatever stands around it. So `&&` binds looser than
`||`, and an operator inside of a quoted text splits it too. Before that, blank characters at the
ends are dropped, parentheses around the whole text are taken off, and `!` at the beginning negates
all that follows.

## Main results

* `unwrapped?_length` — taking parentheses off makes a text shorter, so the reader ends.
-/

namespace LogLens

/-- A boolean expression over the fields of a record. -/
inductive Condition where
  | both (left right : Condition)
  | either (left right : Condition)
  | negation (inner : Condition)
  | equals (left right : Operand)
  | matched (left : Operand) (pattern : Pattern)

namespace Condition

/-- Whether a condition holds for a record. -/
def holds (r : Record) : Condition → Bool
  | both left right => holds r left && holds r right
  | either left right => holds r left || holds r right
  | negation inner => !holds r inner
  | equals left right => left.value r == right.value r
  | matched left pattern => pattern.matchesIn (left.value r)

/-- Whether every closing parenthesis has an open one before it, `depth` of which are given. -/
def staysInside (depth : Nat) : List Char → Bool
  | [] => true
  | c :: cs =>
    if c = '(' then staysInside (depth + 1) cs
    else if c = ')' then
      match depth with
      | 0 => false
      | depth + 1 => staysInside depth cs
    else staysInside depth cs

/-- The inside of a text whose first parenthesis is closed by its last one. -/
def unwrapped? : List Char → Option (List Char)
  | [] => none
  | c :: cs =>
    if c = '(' then
      (Text.dropEnd? ')' cs).bind fun inner => if staysInside 0 inner then some inner else none
    else none

theorem unwrapped?_eq_some {text inner : List Char} (h : unwrapped? text = some inner) :
    text = '(' :: inner ++ [')'] := by
  cases text with
  | nil => simp [unwrapped?] at h
  | cons c cs =>
    simp only [unwrapped?] at h
    split at h
    · next hc =>
      obtain ⟨inner', hd, hi⟩ := Option.bind_eq_some_iff.1 h
      split at hi
      · cases hi
        rw [hc, Text.dropEnd?_eq_some hd]
        rfl
      · cases hi
    · cases h

/-- Taking parentheses off makes a text shorter. -/
theorem unwrapped?_length {text inner : List Char} (h : unwrapped? text = some inner) :
    inner.length < text.length := by
  rw [unwrapped?_eq_some h]
  simp only [List.cons_append, List.length_cons, List.length_append]
  omega

/-- A comparison, from a text without `&&` and `||`. -/
def comparison (text : List Char) : Except FilterError Condition :=
  match Text.cutAt? ['=', '='] text with
  | some (left, right) =>
    .ok (.equals (Operand.read (Text.trim left)) (Operand.read (Text.trim right)))
  | none =>
    match Text.cutAt? ['=', '~'] text with
    | some (left, right) =>
      match Operand.read (Text.trim right) with
      | .pattern p => .ok (.matched (Operand.read (Text.trim left)) p)
      | other => .error (.patternExpected other.display)
    | none => .error (.malformed (String.ofList text))

/-- What a trimmed text without parentheses around it is made of. -/
inductive Shape where
  | negated (rest : List Char)
  | both (left right : List Char)
  | either (left right : List Char)
  | single

/-- The shape of a trimmed text without parentheses around it. -/
def shape (text : List Char) : Shape :=
  match Text.dropStart? ['!'] text, Text.cutAt? ['&', '&'] text, Text.cutAt? ['|', '|'] text with
  | some rest, _, _ => .negated rest
  | none, some (left, right), _ => .both left right
  | none, none, some (left, right) => .either left right
  | none, none, none => .single

theorem shape_negated {text rest : List Char} (h : shape text = .negated rest) :
    rest.length < text.length := by
  unfold shape at h
  split at h <;> cases h
  next hd =>
    have := Text.dropStart?_length hd
    simp only [List.length_cons, List.length_nil] at this
    omega

theorem shape_both {text left right : List Char} (h : shape text = .both left right) :
    left.length < text.length ∧ right.length < text.length := by
  unfold shape at h
  split at h <;> cases h
  next hc =>
    have := Text.cutAt?_length hc
    simp only [List.length_cons, List.length_nil] at this
    omega

theorem shape_either {text left right : List Char} (h : shape text = .either left right) :
    left.length < text.length ∧ right.length < text.length := by
  unfold shape at h
  split at h <;> cases h
  next hc =>
    have := Text.cutAt?_length hc
    simp only [List.length_cons, List.length_nil] at this
    omega

/-- Reads a condition. -/
def read (text : List Char) : Except FilterError Condition :=
  match _hu : unwrapped? (Text.trim text) with
  | some inner => read inner
  | none =>
    match _hs : shape (Text.trim text) with
    | .negated rest => (read rest).map .negation
    | .both left right => do
      let l ← read left
      let r ← read right
      .ok (.both l r)
    | .either left right => do
      let l ← read left
      let r ← read right
      .ok (.either l r)
    | .single => comparison (Text.trim text)
termination_by text.length
decreasing_by
  · exact Nat.lt_of_lt_of_le (unwrapped?_length _hu) (Text.trim_length_le text)
  · exact Nat.lt_of_lt_of_le (shape_negated _hs) (Text.trim_length_le text)
  · exact Nat.lt_of_lt_of_le (shape_both _hs).1 (Text.trim_length_le text)
  · exact Nat.lt_of_lt_of_le (shape_both _hs).2 (Text.trim_length_le text)
  · exact Nat.lt_of_lt_of_le (shape_either _hs).1 (Text.trim_length_le text)
  · exact Nat.lt_of_lt_of_le (shape_either _hs).2 (Text.trim_length_le text)

/-- Reads a condition from a text. -/
def ofText (text : String) : Except FilterError Condition := read text.toList

end Condition

end LogLens
