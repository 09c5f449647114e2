/-!
# Cutting a text at marks

Three ways to take a text apart that the small languages of this library share: at the *first*
occurrence of a mark (`cutAt?`), at *every* occurrence of one character (`pieces`), and by taking a
known beginning or ending away (`dropStart?`, `dropEnd?`).

All of them are structural recursions on the characters. A cut loses the mark and nothing else:
`cutAt?_eq_some` gives the text back from its two sides.

## Main results

* `cutAt?_eq_some` — the two sides of a cut, with the mark between them, are the text.
* `dropStart?_eq_some_iff` — a beginning is taken away exactly when the text has it.
-/

namespace LogLens.Text

/-- What follows the beginning `mark`, when the text has that beginning. -/
def dropStart? : (mark text : List Char) → Option (List Char)
  | [], text => some text
  | _ :: _, [] => none
  | m :: ms, c :: cs => if m = c then dropStart? ms cs else none

/-- What comes before the last character, when that character is `mark`. -/
def dropEnd? (mark : Char) : List Char → Option (List Char)
  | [] => none
  | [c] => if c = mark then some [] else none
  | c :: d :: cs => (dropEnd? mark (d :: cs)).map (c :: ·)

/-- The two sides of the first occurrence of `mark`. -/
def cutAt? (mark : List Char) : List Char → Option (List Char × List Char)
  | [] => if mark.isEmpty then some ([], []) else none
  | c :: cs =>
    match dropStart? mark (c :: cs) with
    | some rest => some ([], rest)
    | none => (cutAt? mark cs).map fun sides => (c :: sides.1, sides.2)

/-- The texts between the occurrences of `mark`; a text without it is one piece. -/
def pieces (mark : Char) : List Char → List (List Char)
  | [] => [[]]
  | c :: cs =>
    if c = mark then [] :: pieces mark cs
    else
      match pieces mark cs with
      | [] => [[c]]
      | p :: ps => (c :: p) :: ps

/-- The texts of a list, one after the other, with `separator` between two neighbours. -/
def joined (separator : String) : List String → String
  | [] => ""
  | [s] => s
  | s :: t :: rest => s ++ separator ++ joined separator (t :: rest)

theorem dropStart?_eq_some_iff {mark text rest : List Char} :
    dropStart? mark text = some rest ↔ text = mark ++ rest := by
  induction mark generalizing text with
  | nil => simp [dropStart?, eq_comm]
  | cons m ms ih =>
    cases text with
    | nil => simp [dropStart?]
    | cons c cs =>
      by_cases h : m = c
      · simp [dropStart?, h, ih]
      · simp [dropStart?, h, Ne.symm h]

/-- A cut loses the mark and nothing else. -/
theorem cutAt?_eq_some {mark text left right : List Char}
    (h : cutAt? mark text = some (left, right)) : text = left ++ mark ++ right := by
  induction text generalizing left right with
  | nil =>
    unfold cutAt? at h
    split at h
    · next hm => cases h; simp [List.isEmpty_iff.1 hm]
    · cases h
  | cons c cs ih =>
    unfold cutAt? at h
    split at h
    · next rest hr => cases h; simpa using dropStart?_eq_some_iff.1 hr
    · obtain ⟨⟨l, r⟩, hlr, heq⟩ := Option.map_eq_some_iff.1 h
      cases heq
      simp [ih hlr]

/-- Both sides of a cut together are shorter than the text by the length of the mark. -/
theorem cutAt?_length {mark text left right : List Char}
    (h : cutAt? mark text = some (left, right)) :
    left.length + mark.length + right.length = text.length := by
  rw [cutAt?_eq_some h]; simp [Nat.add_assoc]

theorem dropStart?_length {mark text rest : List Char} (h : dropStart? mark text = some rest) :
    mark.length + rest.length = text.length := by
  rw [dropStart?_eq_some_iff.1 h]; simp

theorem dropEnd?_eq_some {mark : Char} {text rest : List Char}
    (h : dropEnd? mark text = some rest) : text = rest ++ [mark] := by
  induction text generalizing rest with
  | nil => cases h
  | cons c cs ih =>
    cases cs with
    | nil =>
      unfold dropEnd? at h
      split at h
      · next hc => cases h; simp [hc]
      · cases h
    | cons d ds =>
      obtain ⟨r, hr, rfl⟩ := Option.map_eq_some_iff.1 h
      simp [ih hr]

end LogLens.Text
