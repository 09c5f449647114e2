import LogLens.Condition.Basic
import LogLens.Proofs.Text.Cut

/-!
# One step of reading a condition

What the reader does with a text is decided by the first of these that is the case: parentheses
enclose the trimmed text, it begins with `!`, `&&` occurs in it, `||` occurs in it. The equations
below say what is read in each case. They speak of cuts of the text as it stands: the blank
characters at its ends are dropped again when the two sides of a cut are read.

## Main results

* `read_trim` — blank characters at the ends play no part.
* `read_unwrapped`, `read_negated`, `read_both`, `read_either`, `read_single` — the five cases.
* `readInduction` — there is no other case, and each one goes on with shorter texts.
-/

namespace LogLens.Condition

open Text (cutAt? trim)

/-- Two results one after the other: the error of the first, then that of the second, or both linked
together. -/
def linked (link : Condition → Condition → Condition) (left right : Except FilterError Condition) :
    Except FilterError Condition := do
  let l ← left
  let r ← right
  .ok (link l r)

theorem linked_ok (link : Condition → Condition → Condition) (left right : Condition) :
    linked link (.ok left) (.ok right) = .ok (link left right) := rfl

theorem linked_error_left (link : Condition → Condition → Condition) (e : FilterError)
    (right : Except FilterError Condition) : linked link (.error e) right = .error e := rfl

theorem linked_error_right (link : Condition → Condition → Condition) (left : Condition)
    (e : FilterError) : linked link (.ok left) (.error e) = .error e := rfl

theorem linked_eq_ok {link : Condition → Condition → Condition}
    {left right : Except FilterError Condition} {c : Condition}
    (h : linked link left right = .ok c) :
    ∃ l r, left = .ok l ∧ right = .ok r ∧ c = link l r := by
  cases left with
  | error e => cases h
  | ok l =>
      cases right with
      | error e => cases h
      | ok r => exact ⟨l, r, rfl, rfl, (Except.ok.inj h).symm⟩

theorem linked_eq_error {link : Condition → Condition → Condition}
    {left right : Except FilterError Condition} {e : FilterError}
    (h : linked link left right = .error e) : left = .error e ∨ right = .error e := by
  cases left with
  | error e' => exact .inl h
  | ok l =>
      cases right with
      | error e' => exact .inr h
      | ok r => cases h

theorem negation_eq_ok {inner : Except FilterError Condition} {c : Condition}
    (h : inner.map .negation = .ok c) : ∃ i, inner = .ok i ∧ c = .negation i := by
  cases inner with
  | error e => cases h
  | ok i => exact ⟨i, rfl, (Except.ok.inj h).symm⟩

/-! ## The step -/

/-- The one unfolding of the reader. -/
theorem read_step (text : List Char) :
    read text =
      match unwrapped? (trim text) with
      | some inner => read inner
      | none =>
        match shape (trim text) with
        | .negated rest => (read rest).map .negation
        | .both left right => linked .both (read left) (read right)
        | .either left right => linked .either (read left) (read right)
        | .single => comparison (trim text) := by
  rw [read]
  split
  · next inner h => simp only [h]
  · next h =>
      simp only [h]
      split <;> simp only [*] <;> rfl

/-- Blank characters at the ends play no part. -/
theorem read_trim (text : List Char) : read (trim text) = read text := by
  rw [read_step, Text.trim_trim, ← read_step]

theorem read_trimStart (text : List Char) : read (Text.trimStart text) = read text := by
  rw [← read_trim, Text.trim_trimStart, read_trim]

theorem read_trimEnd (text : List Char) : read (Text.trimEnd text) = read text := by
  rw [← read_trim, Text.trim_trimEnd, read_trim]

/-- Parentheses around the text are taken off. -/
theorem read_unwrapped {text inner : List Char} (h : unwrapped? (trim text) = some inner) :
    read text = read inner := by
  rw [read_step, h]

/-! ## Operators -/

theorem dropStart?_singleton {c : Char} {text : List Char} (h : text.head? ≠ some c) :
    Text.dropStart? [c] text = none := by
  cases text with
  | nil => rfl
  | cons d ds => simpa [Text.dropStart?, eq_comm] using h

/-- `!` negates all that follows. -/
theorem read_negated {text rest : List Char} (h : trim text = '!' :: rest) :
    read text = (read rest).map .negation := by
  rw [read_step, h]
  rfl

/-- A text without parentheses around it and without `!` at its beginning. -/
structure Open (text : List Char) : Prop where
  unwrapped : unwrapped? (trim text) = none
  not_negated : (trim text).head? ≠ some '!'

section Operators

variable {text left right : List Char}

theorem cutAt?_and_trim (text : List Char) :
    cutAt? ['&', '&'] (trim text) =
      (cutAt? ['&', '&'] text).map fun s => (Text.trimStart s.1, Text.trimEnd s.2) :=
  Text.cutAt?_trim (by decide) (by decide) text

theorem cutAt?_or_trim (text : List Char) :
    cutAt? ['|', '|'] (trim text) =
      (cutAt? ['|', '|'] text).map fun s => (Text.trimStart s.1, Text.trimEnd s.2) :=
  Text.cutAt?_trim (by decide) (by decide) text

/-- The first `&&` links what is read on its two sides. -/
theorem read_both (h : Open text) (hand : cutAt? ['&', '&'] text = some (left, right)) :
    read text = linked .both (read left) (read right) := by
  have hshape : shape (trim text) = .both (Text.trimStart left) (Text.trimEnd right) := by
    rw [shape, dropStart?_singleton h.not_negated, cutAt?_and_trim, hand]
    rfl
  rw [read_step, h.unwrapped]
  simp only [hshape, read_trimStart, read_trimEnd]

/-- Without `&&` the first `||` links what is read on its two sides. -/
theorem read_either (h : Open text) (hand : cutAt? ['&', '&'] text = none)
    (hor : cutAt? ['|', '|'] text = some (left, right)) :
    read text = linked .either (read left) (read right) := by
  have hshape : shape (trim text) = .either (Text.trimStart left) (Text.trimEnd right) := by
    rw [shape, dropStart?_singleton h.not_negated, cutAt?_and_trim, hand, cutAt?_or_trim, hor]
    rfl
  rw [read_step, h.unwrapped]
  simp only [hshape, read_trimStart, read_trimEnd]

/-- Without both the text is a comparison. -/
theorem read_single (h : Open text) (hand : cutAt? ['&', '&'] text = none)
    (hor : cutAt? ['|', '|'] text = none) : read text = comparison (trim text) := by
  have hshape : shape (trim text) = .single := by
    rw [shape, dropStart?_singleton h.not_negated, cutAt?_and_trim, hand, cutAt?_or_trim, hor]
    rfl
  rw [read_step, h.unwrapped]
  simp only [hshape]

end Operators

/-- What holds of a text when it holds of the texts that the reader goes on with, holds of every
text. -/
@[elab_as_elim]
theorem readInduction {P : List Char → Prop}
    (unwrapped : ∀ text inner, unwrapped? (trim text) = some inner → P inner → P text)
    (negated : ∀ text rest, trim text = '!' :: rest → P rest → P text)
    (both : ∀ text left right, Open text → cutAt? ['&', '&'] text = some (left, right) →
      P left → P right → P text)
    (either : ∀ text left right, Open text → cutAt? ['&', '&'] text = none →
      cutAt? ['|', '|'] text = some (left, right) → P left → P right → P text)
    (single : ∀ text, Open text → cutAt? ['&', '&'] text = none → cutAt? ['|', '|'] text = none →
      P text)
    (text : List Char) : P text := by
  induction hlength : text.length using Nat.strongRecOn generalizing text with
  | ind k ih =>
      have htrim := Text.trim_length_le text
      cases hwrapped : unwrapped? (trim text) with
      | some inner =>
          have hinner := unwrapped?_length hwrapped
          exact unwrapped text inner hwrapped (ih inner.length (by omega) inner rfl)
      | none =>
          by_cases hnot : (trim text).head? = some '!'
          · obtain ⟨rest, hrest⟩ := List.head?_eq_some_iff.1 hnot
            rw [hrest, List.length_cons] at htrim
            exact negated text rest hrest (ih rest.length (by omega) rest rfl)
          · have hopen : Open text := ⟨hwrapped, hnot⟩
            cases hand : cutAt? ['&', '&'] text with
            | some sides =>
                have hsides := Text.cutAt?_length hand
                simp only [List.length_cons, List.length_nil] at hsides
                exact both text sides.1 sides.2 hopen hand (ih _ (by omega) _ rfl)
                  (ih _ (by omega) _ rfl)
            | none =>
                cases hor : cutAt? ['|', '|'] text with
                | some sides =>
                    have hsides := Text.cutAt?_length hor
                    simp only [List.length_cons, List.length_nil] at hsides
                    exact either text sides.1 sides.2 hopen hand hor (ih _ (by omega) _ rfl)
                      (ih _ (by omega) _ rfl)
                | none => exact single text hopen hand hor

end LogLens.Condition
