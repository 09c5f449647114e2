import LogLens.Surroundings.Failure
/-!
# The lines of an input

An input is a sequence of bytes, and it may fail after its last one. It is read line by line. A line
ends with a line feed, which does not belong to it; what follows the last line feed is a line too
when it is not empty, but it is lost when the input fails. A single carriage return at the end of a
line does not count either.

## Main results

* `firstLine?_eq_some_iff` — the first line is what stands before the first line feed.
* `readLine_length` — a reading that finds a line takes at least one byte, so reading ends.
-/

namespace LogLens.Stream

/-- The byte that ends a line. -/
def lineFeed : UInt8 := 10

/-- The byte that may stand before the end of a line. -/
def carriageReturn : UInt8 := 13

/-- The line without a carriage return at its end. -/
def withoutReturn : List UInt8 → List UInt8
  | [] => []
  | [b] => if b = carriageReturn then [] else [b]
  | b :: c :: bs => b :: withoutReturn (c :: bs)

/-- The bytes before the first line feed and those after it, when there is one. -/
def firstLine? : List UInt8 → Option (List UInt8 × List UInt8)
  | [] => none
  | b :: bs =>
    if b = lineFeed then some ([], bs)
    else
      match firstLine? bs with
      | some (line, rest) => some (b :: line, rest)
      | none => none

/-- What one reading of an input comes to. -/
inductive Reading where
  | line (bytes rest : List UInt8)
  | ended
  | failed (failure : IoFailure)
  deriving DecidableEq, Repr

/-- Reads the next line of an input that fails so after its last byte. -/
def readLine (failure : Option IoFailure) (bytes : List UInt8) : Reading :=
  match firstLine? bytes, failure with
  | some (line, rest), _ => .line line rest
  | none, some failure => .failed failure
  | none, none => if bytes.isEmpty then .ended else .line bytes []

theorem firstLine?_append {line : List UInt8} (hline : lineFeed ∉ line) (rest : List UInt8) :
    firstLine? (line ++ lineFeed :: rest) = some (line, rest) := by
  induction line with
  | nil => simp [firstLine?]
  | cons b bs ih =>
      simp only [List.mem_cons, not_or] at hline
      simp [firstLine?, Ne.symm hline.1, ih hline.2]

theorem firstLine?_eq_none {bytes : List UInt8} (h : lineFeed ∉ bytes) :
    firstLine? bytes = none := by
  induction bytes with
  | nil => rfl
  | cons b bs ih =>
      simp only [List.mem_cons, not_or] at h
      simp [firstLine?, Ne.symm h.1, ih h.2]

/-- The first line is what stands before the first line feed. -/
theorem firstLine?_eq_some_iff {bytes line rest : List UInt8} :
    firstLine? bytes = some (line, rest) ↔ bytes = line ++ lineFeed :: rest ∧ lineFeed ∉ line := by
  constructor
  · intro h
    by_cases hmem : lineFeed ∈ bytes
    · obtain ⟨before, after, rfl, hbefore⟩ := List.eq_append_cons_of_mem hmem
      rw [firstLine?_append hbefore] at h
      cases h
      exact ⟨rfl, hbefore⟩
    · rw [firstLine?_eq_none hmem] at h
      cases h
  · rintro ⟨rfl, hline⟩
    exact firstLine?_append hline rest

/-- A reading that finds a line takes at least one byte. -/
theorem readLine_length {failure : Option IoFailure} {bytes line rest : List UInt8}
    (h : readLine failure bytes = .line line rest) : rest.length < bytes.length := by
  unfold readLine at h
  split at h
  · next l r _ hfirst =>
    obtain ⟨rfl, -⟩ := firstLine?_eq_some_iff.1 hfirst
    simp only [Reading.line.injEq] at h
    obtain ⟨rfl, rfl⟩ := h
    simp only [List.length_append, List.length_cons]
    omega
  · simp at h
  · split at h
    · simp at h
    · next hne =>
      simp only [Reading.line.injEq] at h
      obtain ⟨rfl, rfl⟩ := h
      simpa [List.length_pos_iff] using hne

end LogLens.Stream
