import LogLens.Proofs.Condition.NormalForm
import LogLens.Proofs.Except

/-!
# The piece that makes a condition malformed

When a condition is malformed, the error names a piece of its text. That is a piece which the reader
has come down to and cannot take apart: nothing is left to trim, no parentheses come off, it does not
begin with `!`, and no operator is in it. So a text without an equality and without a match has no
condition, whatever else is in it.

A condition that is read has come from its text cut by cut. Each link of two conditions takes one
occurrence of its operator out of the text, and the two sides of a cut share no others, so there are
at most as many links of a kind as occurrences of its operator that do not overlap.

## Main results

* `blamed_of_read` — the piece that the error names.
* `accounted_of_read` — the operators of a condition that is read.
* `ofText_blamed` — both together.
-/

namespace LogLens.Condition

open Text (trim occurrences)

/-! ## The piece of an error -/

/-- A piece of a text that the reader cannot take apart and that compares nothing. -/
structure Blamed (text piece : List Char) : Prop where
  within : piece <:+: text
  trimmed : trim piece = piece
  no_and : ¬['&', '&'] <:+: piece
  no_or : ¬['|', '|'] <:+: piece
  no_equals : ¬['=', '='] <:+: piece
  no_match : ¬['=', '~'] <:+: piece
  not_negated : piece.head? ≠ some '!'
  unwrapped : unwrapped? piece = none

variable {text piece : List Char}

/-- What is blamed for a piece of a text is blamed for the text. -/
theorem Blamed.mono {other : List Char} (h : Blamed other piece) (hother : other <:+: text) :
    Blamed text piece :=
  { h with within := h.within.trans hother }

/-- The inside of parentheses is a piece of the text around them. -/
theorem infix_of_unwrapped? {inner : List Char} (h : unwrapped? (trim text) = some inner) :
    inner <:+: text := by
  refine List.IsInfix.trans ?_ (Text.infix_trim text)
  rw [unwrapped?_eq_some h]
  exact ⟨['('], [')'], rfl⟩

/-- What follows a negation is a piece of the text. -/
theorem infix_of_negated {rest : List Char} (h : trim text = '!' :: rest) : rest <:+: text := by
  refine List.IsInfix.trans ?_ (Text.infix_trim text)
  rw [h]
  exact (List.suffix_cons '!' rest).isInfix

/-- The two sides of a cut are pieces of the text. -/
theorem infix_of_cutAt? {mark left right : List Char}
    (h : Text.cutAt? mark text = some (left, right)) : left <:+: text ∧ right <:+: text := by
  rw [Text.cutAt?_eq_some h]
  exact ⟨⟨[], mark ++ right, by simp⟩, ⟨left ++ mark, [], by simp⟩⟩

/-- A comparison that is malformed is blamed as a whole. -/
theorem blamed_of_comparison {s : String} (hopen : Open text)
    (hand : Text.cutAt? ['&', '&'] text = none) (hor : Text.cutAt? ['|', '|'] text = none)
    (h : comparison (trim text) = .error (.malformed s)) : Blamed text s.toList := by
  have hnone : ∀ mark, Text.cutAt? mark text = none → ¬mark <:+: trim text := by
    intro mark hmark
    exact Text.cutAt?_eq_none_iff.1 (Text.cutAt?_eq_none_of_infix (Text.infix_trim text) hmark)
  rcases comparison_cases (trim text) with ⟨c, hc, -⟩ | ⟨e, he, hfails⟩
  · rw [hc] at h
    cases h
  · rw [he] at h
    obtain rfl := Except.error.inj h
    cases hfails with
    | malformed hequals hmatches =>
        rw [String.toList_ofList]
        exact ⟨Text.infix_trim text, Text.trim_trim text, hnone _ hand, hnone _ hor, hequals,
          hmatches, hopen.not_negated, hopen.unwrapped⟩

/-- The piece that the error names. -/
theorem blamed_of_read {s : String} (h : read text = .error (.malformed s)) :
    Blamed text s.toList := by
  induction text using readInduction with
  | unwrapped text inner hinner ih =>
      rw [read_unwrapped hinner] at h
      exact (ih h).mono (infix_of_unwrapped? hinner)
  | negated text rest hrest ih =>
      rw [read_negated hrest, map_eq_error] at h
      exact (ih h).mono (infix_of_negated hrest)
  | both text left right hopen hand ihleft ihright =>
      obtain ⟨hleft, hright⟩ := infix_of_cutAt? hand
      rw [read_both hopen hand] at h
      rcases linked_eq_error h with herror | herror
      · exact (ihleft herror).mono hleft
      · exact (ihright herror).mono hright
  | either text left right hopen hand hor ihleft ihright =>
      obtain ⟨hleft, hright⟩ := infix_of_cutAt? hor
      rw [read_either hopen hand hor] at h
      rcases linked_eq_error h with herror | herror
      · exact (ihleft herror).mono hleft
      · exact (ihright herror).mono hright
  | single text hopen hand hor =>
      rw [read_single hopen hand hor] at h
      exact blamed_of_comparison hopen hand hor h

/-! ## The links of a condition -/

/-- The number of conditions that are linked by `&&` with what follows them. -/
def conjunctions : Condition → Nat
  | both left right => left.conjunctions + right.conjunctions + 1
  | either left right => left.conjunctions + right.conjunctions
  | negation inner => inner.conjunctions
  | equals _ _ => 0
  | matched _ _ => 0

/-- The number of conditions that are linked by `||` with what follows them. -/
def disjunctions : Condition → Nat
  | both left right => left.disjunctions + right.disjunctions
  | either left right => left.disjunctions + right.disjunctions + 1
  | negation inner => inner.disjunctions
  | equals _ _ => 0
  | matched _ _ => 0

/-- A condition that is read from a text has its operators in the text: one of the two that compare,
and those of a link at least as often as there are links of the kind. -/
structure Accounted (text : List Char) (t : Condition) : Prop where
  compares : ['=', '='] <:+: text ∨ ['=', '~'] <:+: text
  conjunctions_le : t.conjunctions ≤ occurrences '&' '&' text
  disjunctions_le : t.disjunctions ≤ occurrences '|' '|' text

/-- What a piece of a text accounts for, the text does. -/
theorem Accounted.mono {t : Condition} (h : Accounted piece t) (hpiece : piece <:+: text) :
    Accounted text t where
  compares := h.compares.imp (fun hequals => hequals.trans hpiece) fun hmatch => hmatch.trans hpiece
  conjunctions_le := Nat.le_trans h.conjunctions_le (Text.occurrences_le_of_infix hpiece)
  disjunctions_le := Nat.le_trans h.disjunctions_le (Text.occurrences_le_of_infix hpiece)

theorem Accounted.negation {t : Condition} (h : Accounted text t) : Accounted text (.negation t) :=
  ⟨h.compares, h.conjunctions_le, h.disjunctions_le⟩

theorem accounted_of_comparison {t : Condition} (h : comparison text = .ok t) :
    Accounted text t := by
  rcases comparison_cases text with ⟨c, hc, hcompares⟩ | ⟨e, he, -⟩
  · rw [hc] at h
    obtain rfl := Except.ok.inj h
    cases hcompares with
    | equals hfirst => exact ⟨.inl ⟨_, _, hfirst.text_eq.symm⟩, Nat.zero_le _, Nat.zero_le _⟩
    | matched _ hfirst _ => exact ⟨.inr ⟨_, _, hfirst.text_eq.symm⟩, Nat.zero_le _, Nat.zero_le _⟩
  · rw [he] at h
    cases h

/-- The occurrence between the two sides of a cut is that of the link. -/
theorem Accounted.linked {left right mark : List Char} {l r t : Condition}
    (hl : Accounted left l) (hr : Accounted right r)
    (hcut : Text.cutAt? mark text = some (left, right))
    (hands : t.conjunctions = l.conjunctions + r.conjunctions + occurrences '&' '&' mark)
    (hors : t.disjunctions = l.disjunctions + r.disjunctions + occurrences '|' '|' mark) :
    Accounted text t := by
  have hleft := hl.mono (infix_of_cutAt? hcut).1
  refine ⟨hleft.compares, ?_, ?_⟩
  · have hcount := Nat.add_le_add hl.conjunctions_le hr.conjunctions_le
    have htext := Text.occurrences_of_cutAt? (m := '&') (n := '&') hcut
    omega
  · have hcount := Nat.add_le_add hl.disjunctions_le hr.disjunctions_le
    have htext := Text.occurrences_of_cutAt? (m := '|') (n := '|') hcut
    omega

/-- The text of a condition accounts for what is in it. -/
theorem accounted_of_read {t : Condition} (h : read text = .ok t) : Accounted text t := by
  induction text using readInduction generalizing t with
  | unwrapped text inner hinner ih =>
      rw [read_unwrapped hinner] at h
      exact (ih h).mono (infix_of_unwrapped? hinner)
  | negated text rest hrest ih =>
      rw [read_negated hrest] at h
      obtain ⟨i, hi, rfl⟩ := negation_eq_ok h
      exact (ih hi).negation.mono (infix_of_negated hrest)
  | both text left right hopen hand ihleft ihright =>
      rw [read_both hopen hand] at h
      obtain ⟨l, r, hl, hr, rfl⟩ := linked_eq_ok h
      exact (ihleft hl).linked (ihright hr) hand rfl rfl
  | either text left right hopen hand hor ihleft ihright =>
      rw [read_either hopen hand hor] at h
      obtain ⟨l, r, hl, hr, rfl⟩ := linked_eq_ok h
      exact (ihleft hl).linked (ihright hr) hor rfl rfl
  | single text hopen hand hor =>
      rw [read_single hopen hand hor] at h
      exact (accounted_of_comparison h).mono (Text.infix_trim text)

/-- **A malformed condition names the piece at fault.** The piece is a part of the text, without
blank characters at its ends; it has none of `&&`, `||`, `==` and `=~` in it, does not begin with
`!`, and has no parentheses around it that come off. The text of a condition that is read has `==` or
`=~` in it, and at least as many occurrences of `&&` and of `||`, counted without overlap, as the
condition has links of the one and of the other kind. -/
theorem ofText_blamed (text : String) :
    (∀ piece, ofText text = .error (.malformed piece) → Blamed text.toList piece.toList) ∧
      ∀ t, ofText text = .ok t →
        (['=', '='] <:+: text.toList ∨ ['=', '~'] <:+: text.toList) ∧
          t.conjunctions ≤ occurrences '&' '&' text.toList ∧
          t.disjunctions ≤ occurrences '|' '|' text.toList := by
  refine ⟨fun piece h => blamed_of_read h, fun t h => ?_⟩
  have haccounted := accounted_of_read h
  exact ⟨haccounted.compares, haccounted.conjunctions_le, haccounted.disjunctions_le⟩

/-- A piece in parentheses behind a negation; and three ampersands, of which two are the one
occurrence. -/
theorem ofText_blamed_behind_negation :
    let failed := "\"a\" == \"b\" && !(oops)"
    let read := "\"a\" == \"b\" &&& == \"c\""
    let t := both (equals (.constant "a") (.constant "b")) (equals (.constant "&") (.constant "c"))
    ofText failed = .error (.malformed "oops") ∧ Blamed failed.toList "oops".toList ∧
      ofText read = .ok t ∧ ['=', '='] <:+: read.toList ∧ t.conjunctions = 1 ∧
      t.conjunctions ≤ occurrences '&' '&' read.toList ∧
      t.disjunctions ≤ occurrences '|' '|' read.toList := by
  intro failed read t
  have hfirst : Condition.read "\"a\" == \"b\" ".toList =
      .ok (equals (.constant "a") (.constant "b")) := by
    rw [Condition.read]
    rfl
  have hinner : Condition.read "(oops)".toList = .error (.malformed "oops") := by
    have hinside : unwrapped? (trim "(oops)".toList) = some "oops".toList := by decide +kernel
    rw [read_unwrapped hinside, Condition.read]
    rfl
  have hfailed : ofText failed = .error (.malformed "oops") := by
    have hopen : Open failed.toList := ⟨by decide +kernel, by decide +kernel⟩
    have hcut : Text.cutAt? ['&', '&'] failed.toList =
        some ("\"a\" == \"b\" ".toList, " !(oops)".toList) := by decide +kernel
    have hnegated : trim " !(oops)".toList = '!' :: "(oops)".toList := by decide +kernel
    rw [ofText, read_both hopen hcut, hfirst, read_negated hnegated, hinner]
    rfl
  have hread : ofText read = .ok t := by
    have hopen : Open read.toList := ⟨by decide +kernel, by decide +kernel⟩
    have hcut : Text.cutAt? ['&', '&'] read.toList =
        some ("\"a\" == \"b\" ".toList, "& == \"c\"".toList) := by decide +kernel
    have hsecond : Condition.read "& == \"c\"".toList =
        .ok (equals (.constant "&") (.constant "c")) := by
      rw [Condition.read]
      rfl
    rw [ofText, read_both hopen hcut, hfirst, hsecond, linked_ok]
  have hequals : ['=', '='] <:+: read.toList := by decide +kernel
  obtain ⟨hblamed, -⟩ := ofText_blamed failed
  obtain ⟨-, haccounted⟩ := ofText_blamed read
  obtain ⟨-, hands, hors⟩ := haccounted t hread
  exact ⟨hfailed, hblamed "oops" hfailed, hread, hequals, rfl, hands, hors⟩

end LogLens.Condition
