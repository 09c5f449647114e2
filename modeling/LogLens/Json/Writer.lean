import LogLens.Json.Basic
/-!
# Writing JSON text

Two layouts of the same value. The compact one has no space at all. The indented one puts every item
and member on a line of its own, two columns deeper than the bracket around it, and a space after
each colon; empty lists and objects stay closed on one line.

In a text, a quote, a backslash and the control characters below the space are escaped, by a letter
where there is one and by four hexadecimal digits otherwise. Every other character stands for
itself, so neither layout writes a line break inside of a text, and the compact one writes none at
all.
-/

namespace LogLens.Json

/-- A hexadecimal digit in lower case. -/
def hexChar (n : Nat) : Char := (Nat.digitChar n)

/-- A character inside of a quoted text. -/
def escaped (c : Char) : List Char :=
  match c with
  | '"' => ['\\', '"']
  | '\\' => ['\\', '\\']
  | '\x08' => ['\\', 'b']
  | '\x0c' => ['\\', 'f']
  | '\n' => ['\\', 'n']
  | '\r' => ['\\', 'r']
  | '\t' => ['\\', 't']
  | _ =>
    if c.toNat < 0x20 then
      ['\\', 'u', '0', '0', hexChar (c.toNat / 16), hexChar (c.toNat % 16)]
    else [c]

/-- The characters of a quoted text, without the quotes. -/
def escapedText : List Char → List Char
  | [] => []
  | c :: cs => escaped c ++ escapedText cs

/-- A quoted text. -/
def quote (s : String) : List Char := '"' :: escapedText s.toList ++ ['"']

mutual

/-- The value without any space. -/
def compact : Json → List Char
  | null => "null".toList
  | bool true => "true".toList
  | bool false => "false".toList
  | number n => n.text.toList
  | string s => quote s
  | list [] => "[]".toList
  | list (v :: rest) => '[' :: compact v ++ compactItems rest
  | object [] => ['{', '}']
  | object ((k, v) :: rest) => '{' :: quote k ++ ':' :: compact v ++ compactMembers rest

/-- The items after the first, each with a comma before it, and the closing bracket. -/
def compactItems : List Json → List Char
  | [] => [']']
  | v :: rest => ',' :: compact v ++ compactItems rest

/-- The members after the first, each with a comma before it, and the closing bracket. -/
def compactMembers : List (String × Json) → List Char
  | [] => ['}']
  | (k, v) :: rest => ',' :: quote k ++ ':' :: compact v ++ compactMembers rest

end

/-- A line break and the blanks of a new line. -/
def newLine (indent : Nat) : List Char := '\n' :: List.replicate indent ' '

mutual

/-- The value with each part on a line of its own, inside brackets at column `indent`. -/
def indented (indent : Nat) : Json → List Char
  | null => "null".toList
  | bool true => "true".toList
  | bool false => "false".toList
  | number n => n.text.toList
  | string s => quote s
  | list [] => "[]".toList
  | list (v :: rest) =>
    '[' :: newLine (indent + 2) ++ indented (indent + 2) v ++ indentedItems indent rest
  | object [] => ['{', '}']
  | object ((k, v) :: rest) =>
    '{' :: newLine (indent + 2) ++ quote k ++ ':' :: ' ' :: indented (indent + 2) v ++
      indentedMembers indent rest

/-- The items after the first, each on a new line after a comma, and the closing bracket. -/
def indentedItems (indent : Nat) : List Json → List Char
  | [] => newLine indent ++ [']']
  | v :: rest =>
    ',' :: newLine (indent + 2) ++ indented (indent + 2) v ++ indentedItems indent rest

/-- The members after the first, each on a new line after a comma, and the closing bracket. -/
def indentedMembers (indent : Nat) : List (String × Json) → List Char
  | [] => newLine indent ++ ['}']
  | (k, v) :: rest =>
    ',' :: newLine (indent + 2) ++ quote k ++ ':' :: ' ' :: indented (indent + 2) v ++
      indentedMembers indent rest

end

/-- The value on one line. -/
def compactText (v : Json) : String := String.ofList (compact v)

/-- The value on several lines. -/
def indentedText (v : Json) : String := String.ofList (indented 0 v)

end LogLens.Json
