import LogLens.Json.Writer
/-!
# Values in a layout

A value is shown to a reader in one of two ways.

As a *block* it looks like indented JSON text, but nothing is escaped, a null is `<null>` and
numbers are written as they are shown. A list of fewer than twenty values without parts of their own
is kept on one line; any other list has one item a line. The first line of a block starts where the
cursor is; every further line is indented at least as far as the block.

As a *field value* it is kept on one line: texts are bare and lists are in brackets. An object has
no such form; it is written as JSON text behind a marker.
-/

namespace LogLens.Layout

open Json (newLine)

/-- Lists with fewer items than this may stand on one line. -/
def inlineLimit : Nat := 20

/-- Stands before a value that has no form of its own. -/
def marker : List Char := ['!', '!', '!']

/-- A number as it is shown, or its JSON text behind the marker. -/
def numberText (n : Number) : List Char :=
  match n.shown? with
  | some s => s.toList
  | none => marker ++ n.text.toList

/-- Whether a list stands on one line. -/
def isInline (items : List Json) : Bool :=
  decide (items.length < inlineLimit) && items.all fun v => !v.isComposite

/-- A key and what follows it. -/
def label (key : String) : List Char := '"' :: key.toList ++ ['"', ':', ' ']

mutual

/-- A value as a block at column `indent`. -/
def block (indent : Nat) : Json → List Char
  | .null => "<null>".toList
  | .bool true => "true".toList
  | .bool false => "false".toList
  | .number n => numberText n
  | .string s => '"' :: s.toList ++ ['"']
  | .list [] => ['[', ']']
  | .list (v :: rest) =>
    if isInline (v :: rest) then '[' :: block indent v ++ inlineItems indent rest
    else '[' :: newLine (indent + 2) ++ block (indent + 2) v ++ blockItems indent rest
  | .object [] => ['{', '}']
  | .object ((k, v) :: rest) =>
    '{' :: newLine (indent + 2) ++ label k ++ block (indent + 2) v ++ blockMembers indent rest

/-- The items after the first of a list on one line, and the closing bracket. -/
def inlineItems (indent : Nat) : List Json → List Char
  | [] => [']']
  | v :: rest => ',' :: ' ' :: block indent v ++ inlineItems indent rest

/-- The items after the first of a list with an item a line, and the closing bracket. -/
def blockItems (indent : Nat) : List Json → List Char
  | [] => newLine indent ++ [']']
  | v :: rest => ',' :: newLine (indent + 2) ++ block (indent + 2) v ++ blockItems indent rest

/-- The members after the first of an object, and the closing bracket. -/
def blockMembers (indent : Nat) : List (String × Json) → List Char
  | [] => newLine indent ++ ['}']
  | (k, v) :: rest =>
    ',' :: newLine (indent + 2) ++ label k ++ block (indent + 2) v ++ blockMembers indent rest

end

mutual

/-- A value on one line, with texts bare. -/
def fieldValue : Json → List Char
  | .string s => s.toList
  | .list [] => ['[', ']']
  | .list (v :: rest) => '[' :: fieldValue v ++ fieldItems rest
  | .object members => marker ++ Json.compact (.object members)
  | .null => block 0 .null
  | .bool b => block 0 (.bool b)
  | .number n => block 0 (.number n)

/-- The items after the first, and the closing bracket. -/
def fieldItems : List Json → List Char
  | [] => [']']
  | v :: rest => ',' :: ' ' :: fieldValue v ++ fieldItems rest

end

end LogLens.Layout
