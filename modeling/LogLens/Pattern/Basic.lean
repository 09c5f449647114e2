import LogLens.Pattern.FewTexts
import LogLens.Pattern.Meaning
import LogLens.Pattern.Plan
import LogLens.Pattern.Reader
import LogLens.Pattern.Route
/-!
# Patterns

A pattern is a regular expression that was understood: its source text together with the expression
it means. `Pattern.compile` gives the pattern of a text, or says why the text has none: it is no
regular expression, or it needs automata that would take too much room. `Pattern.matchesIn` says
whether a pattern matches somewhere in another text.

## Main results

* `source_of_compile?` — a pattern keeps the text it was made from.
-/

namespace LogLens

namespace Pattern

/-- Why a text has no pattern. -/
inductive PatternError where
  | mistake (m : Mistake)
  | tooLarge
  deriving DecidableEq, Repr

/-- What is said about an error in a pattern. -/
def PatternError.message (source : String) : PatternError → String
  | mistake m => m.message source
  | tooLarge => "Compiled regex exceeds size limit of " ++ toString maxRoom ++ " bytes."

/-- The expression of a text. -/
def Expr.ofText (source : String) : Except Mistake Expr := do
  let tree ← Tree.read source.toList
  let (expr, _) ← meaning {} tree
  .ok expr

end Pattern

/-- A regular expression with its source. -/
structure Pattern where
  source : String
  expr : Pattern.Expr

namespace Pattern

/-- The pattern of a text. -/
def compile (source : String) : Except PatternError Pattern :=
  match Expr.ofText source with
  | .error m => .error (.mistake m)
  | .ok expr => if expr.isSmall || expr.isFewTexts then .ok ⟨source, expr⟩ else .error .tooLarge

/-- The pattern of a text, when there is one. -/
def compile? (source : String) : Option Pattern := (compile source).toOption

/-- Whether a pattern matches somewhere in a text. -/
def matchesIn (p : Pattern) (text : String) : Bool := p.expr.matchesIn text.toList

/-- A pattern keeps the text it was made from. -/
theorem source_of_compile? {source : String} {p : Pattern} (h : compile? source = some p) :
    p.source = source := by
  unfold compile? compile at h
  split at h
  · simp [Except.toOption] at h
  · split at h
    · simp only [Except.toOption, Option.some.injEq] at h
      rw [← h]
    · simp [Except.toOption] at h

end Pattern

end LogLens
