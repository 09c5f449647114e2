import LogLens.Proofs.Condition.FieldEquals

/-!
# Operands as they are written

An operand is written in one way, whatever token it was read from: a constant between quotes, an
integer without a plus sign and without zeros in front, a pattern between slashes. What is written is
a token again, and the kind of a token is found by tests in a fixed order. So no written form may be
caught by a test that comes before the one for its own kind. Its first character sees to that: the
tests look for a point, a quote and a slash there, and of these each kind is written with its own or
with none.

What is between two delimiters plays no part in this. Only the first and the last character of a token
are looked at, so quotes in a text and slashes in a pattern come back as they were. A token between
slashes that is no pattern is a constant with the slashes in it, and gets quotes around them.

Real numbers are left out. A number is written by its value, and a real number that is an integer is
then read as one.

## Main results

* `Legible.read_display` — what is written for a legible operand is read as that operand.
* `legible_read` — a token that is no real number stands for a legible operand.
* `read_display_read` — both together.
-/

namespace LogLens.Operand

/-- The operands that can be written so that they are read again: all but the real numbers, and
patterns only with the expression that their source has. -/
inductive Legible : Operand → Prop where
  | field (name : String) : Legible (.field name)
  | constant (text : String) : Legible (.constant text)
  | whole (n : Whole) : Legible (.number (.whole n))
  | boolean (b : Bool) : Legible (.boolean b)
  | pattern (p : Pattern) (compiles : Pattern.compile? p.source = some p) : Legible (.pattern p)

/-! ## Reading what was written -/

/-- Between slashes a pattern is found before anything else that the token could be. -/
theorem read_slashed {source : List Char} {p : Pattern}
    (h : Pattern.compile? (String.ofList source) = some p) :
    read ('/' :: source ++ ['/']) = .pattern p := by
  have hinside : enclosed? '/' ('/' :: (source ++ ['/'])) = some source := by
    rw [enclosed?, if_pos rfl, Text.dropEnd?_append_singleton]
  have hpattern : pattern? ('/' :: (source ++ ['/'])) = some p := by
    rw [pattern?, hinside]
    exact h
  show read ('/' :: (source ++ ['/'])) = .pattern p
  rw [read_of_ne (by decide) (by decide), bare, hpattern]

/-- What is written for a legible operand is read as that operand. -/
theorem Legible.read_display {o : Operand} (h : Legible o) : read o.display.toList = o := by
  cases h with
  | field name =>
      have htext : (Operand.field name).display.toList = '.' :: name.toList := by
        simp [display]
      rw [htext]
      show Operand.field (String.ofList name.toList) = .field name
      rw [String.ofList_toList]
  | constant text =>
      have htext : (Operand.constant text).display.toList = '"' :: text.toList ++ ['"'] := by
        simp [display]
      rw [htext, read_quoted, String.ofList_toList]
  | whole n =>
      show read (Decimal.intText n.value).toList = .number (.whole n)
      exact read_integer (Decimal.integer?_intText n.value)
  | boolean b =>
      cases b with
      | true => rfl
      | false => rfl
  | pattern p compiles =>
      have htext : (Operand.pattern p).display.toList = '/' :: p.source.toList ++ ['/'] := by
        simp [display]
      rw [htext]
      apply read_slashed
      rw [String.ofList_toList]
      exact compiles

/-! ## What tokens stand for -/

/-- A pattern that a token stands for is that of its own source. -/
theorem compiles_of_pattern? {token : List Char} {p : Pattern} (h : pattern? token = some p) :
    Pattern.compile? p.source = some p := by
  obtain ⟨source, -, hcompile⟩ := Option.bind_eq_some_iff.1 h
  rw [Pattern.source_of_compile? hcompile]
  exact hcompile

theorem legible_bare {token : List Char} (h : ∀ x, bare token ≠ .number (.real x)) :
    Legible (bare token) := by
  unfold bare at h ⊢
  split
  · next p hp => exact .pattern p (compiles_of_pattern? hp)
  · next b hp hb => exact .boolean b
  · next n hp hb hn =>
      cases n with
      | whole i => exact .whole i
      | real x =>
          simp only [hp, hb, hn] at h
          exact absurd rfl (h x)
  · exact .constant (String.ofList token)

/-- A token that is no real number stands for a legible operand. -/
theorem legible_read {token : List Char} (h : ∀ x, read token ≠ .number (.real x)) :
    Legible (read token) := by
  unfold read at h ⊢
  split
  · next name => exact .field (String.ofList name)
  · next hname =>
      cases hquoted : enclosed? '"' token with
      | some text => exact .constant (String.ofList text)
      | none =>
          simp only [hquoted] at h
          exact legible_bare h

/-- **What is written for an operand is read as the same operand.** For every token that is not read
as a real number, the text that is written for its operand is a token of that very operand: the same
field, constant, integer, truth value or pattern. -/
theorem read_display_read (token : List Char) (h : ∀ x, read token ≠ .number (.real x)) :
    read (read token).display.toList = read token :=
  (legible_read h).read_display

/-- The greatest unsigned word with a sign and zeros before it, a token between slashes that is no
pattern, and a pattern with a slash in it. -/
theorem read_display_read_broken_pattern :
    let integer := "+0018446744073709551615".toList
    let broken := "/[/".toList
    let slashed := "/a/+/".toList
    ((read integer).display = "18446744073709551615" ∧
        read (read integer).display.toList = read integer) ∧
      (read broken = .constant "/[/" ∧ (read broken).display = "\"/[/\"" ∧
        read (read broken).display.toList = read broken) ∧
      (∃ p, read slashed = .pattern p ∧ p.source = "a/+") ∧
        read (read slashed).display.toList = read slashed := by
  intro integer broken slashed
  have hinteger : ∀ x, read integer ≠ .number (.real x) := by
    intro x h
    cases h
  have hbroken : ∀ x, read broken ≠ .number (.real x) := by
    intro x h
    cases h
  have hslashed : ∀ x, read slashed ≠ .number (.real x) := by
    intro x h
    cases h
  refine ⟨⟨rfl, ?_⟩, ⟨rfl, rfl, ?_⟩, ⟨_, rfl, rfl⟩, ?_⟩
  · exact read_display_read integer hinteger
  · exact read_display_read broken hbroken
  · exact read_display_read slashed hslashed

/-- A real number that is written like an integer. -/
example : (read "504.0".toList).display = "504" := by decide +kernel

end LogLens.Operand
