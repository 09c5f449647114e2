/-!
# Blank characters and trimming

A character is *blank* when it has the Unicode property `White_Space`. The set is fixed by the
standard's stability policy to the twenty-five code points below, so it is written out as ranges
and not looked up in a table.

Trimming removes the blank characters at both ends of a text. It is defined on lists of
characters, where both ends are a structural recursion, and lifted to `String`. `trimEnd` looks at
the rest of the text before it decides on a character, so one pass removes the whole blank tail.

## Main results

* `trimEnd_length_le`, `trim_length_le` — trimming never makes a text longer, which is what lets a
  reader recurse on a trimmed text.
* `trimStart_not_blank`, `trimEnd_append_blank` — what is left starts with no blank character, and
  a blank character added at the end changes nothing.
-/

namespace LogLens.Text

/-- The characters with the Unicode property `White_Space`. -/
def isBlank (c : Char) : Bool :=
  let n := c.toNat
  (9 ≤ n && n ≤ 13) || n == 0x20 || n == 0x85 || n == 0xA0 || n == 0x1680 ||
    (0x2000 ≤ n && n ≤ 0x200A) || n == 0x2028 || n == 0x2029 || n == 0x202F ||
    n == 0x205F || n == 0x3000

/-- Drops the blank characters at the beginning. -/
def trimStart : List Char → List Char
  | [] => []
  | c :: cs => if isBlank c then trimStart cs else c :: cs

/-- Drops the blank characters at the end: a blank character goes when nothing is left after it. -/
def trimEnd : List Char → List Char
  | [] => []
  | c :: cs =>
    match trimEnd cs with
    | [] => if isBlank c then [] else [c]
    | d :: ds => c :: d :: ds

/-- Drops the blank characters at both ends. -/
def trim (cs : List Char) : List Char := trimEnd (trimStart cs)

/-- A text is blank when trimming leaves nothing of it. -/
def isBlankText (cs : List Char) : Bool := (trim cs).isEmpty

theorem trimStart_length_le (cs : List Char) : (trimStart cs).length ≤ cs.length := by
  induction cs with
  | nil => simp [trimStart]
  | cons c cs ih =>
    unfold trimStart
    split
    · simp only [List.length_cons]; omega
    · exact Nat.le_refl _

theorem trimEnd_length_le (cs : List Char) : (trimEnd cs).length ≤ cs.length := by
  induction cs with
  | nil => simp [trimEnd]
  | cons c cs ih =>
    unfold trimEnd
    split
    · split <;> simp
    · next d ds h => rw [h] at ih; simp only [List.length_cons] at ih ⊢; omega

/-- Trimming never makes a text longer. -/
theorem trim_length_le (cs : List Char) : (trim cs).length ≤ cs.length :=
  Nat.le_trans (trimEnd_length_le _) (trimStart_length_le _)

/-- What is left after `trimStart` does not begin with a blank character. -/
theorem trimStart_not_blank {cs rest : List Char} {c : Char} (h : trimStart cs = c :: rest) :
    isBlank c = false := by
  induction cs with
  | nil => simp [trimStart] at h
  | cons d ds ih =>
    unfold trimStart at h
    split at h
    · exact ih h
    · next hb => cases h; simpa using hb

/-- A blank character at the end does not survive `trimEnd`. -/
theorem trimEnd_append_blank (cs : List Char) {c : Char} (h : isBlank c = true) :
    trimEnd (cs ++ [c]) = trimEnd cs := by
  induction cs with
  | nil => simp [trimEnd, h]
  | cons d ds ih => simp only [List.cons_append, trimEnd, ih]

end LogLens.Text

namespace LogLens

/-- The text without the blank characters at both ends. -/
def Text.trimmed (s : String) : String := String.ofList (Text.trim s.toList)

end LogLens
