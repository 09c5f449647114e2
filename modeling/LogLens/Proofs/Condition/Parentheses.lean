import LogLens.Proofs.Condition.Step

/-!
# Parentheses around operands

Parentheses are taken off a text when the first one is closed by the last one. They are counted over
all characters, so what decides is whether some beginning of the inside closes more of them than it
opens. In a balanced text none does, and parentheses around it are taken off again.

The search for operators does not look at parentheses at all. So two balanced operands in
parentheses keep to themselves as long as no operator in them is found before the one between them:
for `&&` the first operand may not contain it, and for `||` neither operand may contain `&&` and the
first not `||`. The second operand is read as it stands, whatever is in it.

## Main results

* `staysInside_iff` — what the counter of open parentheses finds out.
* `read_enclosed` — parentheses around a text that stays inside of them change nothing.
* `ofText_grouped` — operands in parentheses under `&&`, `||` and `!`.
-/

namespace LogLens.Condition

open Text (cutAt? trim)

/-- No beginning of a text closes more parentheses than it opens. -/
def Closed (text : List Char) : Prop :=
  ∀ start, start <+: text → start.count ')' ≤ start.count '('

/-- No beginning of a text closes more parentheses than it opens, and the text closes all. -/
structure Balanced (text : List Char) : Prop where
  closed : Closed text
  count_eq : text.count '(' = text.count ')'

/-- A statement about the beginnings of a text, from its first character on. -/
theorem forall_prefix_cons {c : Char} {cs : List Char} {P : List Char → Prop} :
    (∀ start, start <+: c :: cs → P start) ↔ P [] ∧ ∀ start, start <+: cs → P (c :: start) := by
  constructor
  · exact fun h => ⟨h [] List.nil_prefix, fun start hstart =>
      h _ (List.cons_prefix_cons.2 ⟨rfl, hstart⟩)⟩
  · rintro ⟨hnil, hcons⟩ start hstart
    rcases List.prefix_cons_iff.1 hstart with rfl | ⟨rest, rfl, hrest⟩
    · exact hnil
    · exact hcons rest hrest

/-- With `depth` open parentheses before it no beginning of a text closes more than are open. -/
theorem staysInside_iff {depth : Nat} {text : List Char} :
    staysInside depth text = true ↔
      ∀ start, start <+: text → start.count ')' ≤ start.count '(' + depth := by
  fun_induction staysInside depth text with
  | case1 depth => simp
  | case2 depth cs ih =>
      rw [ih, forall_prefix_cons]
      simp only [List.count_nil, Nat.zero_le, true_and]
      refine forall₂_congr fun start _ => ?_
      rw [List.count_cons_self, List.count_cons_of_ne (by decide)]
      omega
  | case3 cs =>
      rw [forall_prefix_cons]
      simp only [Bool.false_eq_true, false_iff, not_and]
      intro _ h
      exact absurd (h [] List.nil_prefix) (by decide)
  | case4 cs hclose depth ih =>
      rw [ih, forall_prefix_cons]
      simp only [List.count_nil, Nat.zero_le, true_and]
      refine forall₂_congr fun start _ => ?_
      rw [List.count_cons_self, List.count_cons_of_ne (by decide)]
      omega
  | case5 depth c cs hopen hclose ih =>
      rw [ih, forall_prefix_cons]
      simp only [List.count_nil, Nat.zero_le, true_and]
      refine forall₂_congr fun start _ => ?_
      rw [List.count_cons_of_ne hopen, List.count_cons_of_ne hclose]

theorem closed_iff {text : List Char} : Closed text ↔ staysInside 0 text = true := by
  rw [staysInside_iff]
  rfl

instance (text : List Char) : Decidable (Closed text) := decidable_of_iff _ closed_iff.symm

/-! ## Taking parentheses off -/

/-- The text with parentheses around it. -/
def enclosed (text : List Char) : List Char := '(' :: text ++ [')']

theorem trim_enclosed (text : List Char) : trim (enclosed text) = enclosed text :=
  Text.trim_of_not_blank (by decide) (by decide) text

/-- Parentheses come off when no beginning of the inside closes more of them than it opens. -/
theorem unwrapped?_enclosed (text : List Char) :
    unwrapped? (enclosed text) = if Closed text then some text else none := by
  rw [enclosed, List.cons_append, unwrapped?, if_pos rfl, Text.dropEnd?_append_singleton]
  by_cases h : Closed text
  · simp [h, closed_iff.1 h]
  · simp [h, mt closed_iff.2 h]

/-- Parentheses around such a text change nothing. -/
theorem read_enclosed {text : List Char} (h : Closed text) : read (enclosed text) = read text :=
  read_unwrapped (by rw [trim_enclosed, unwrapped?_enclosed, if_pos h])

/-- Parentheses around any other text stay. -/
theorem isOpen_enclosed {text : List Char} (h : ¬Closed text) : Open (enclosed text) := by
  refine ⟨?_, ?_⟩
  · rw [trim_enclosed, unwrapped?_enclosed, if_neg h]
  · rw [trim_enclosed]
    exact fun h => absurd (Option.some.inj h) (by decide)

/-! ## Operands in parentheses -/

/-- Two operands in parentheses with an operator between them. -/
def grouped (a mark b : List Char) : List Char :=
  enclosed a ++ ' ' :: mark ++ ' ' :: enclosed b

/-- The first parenthesis of two operands in parentheses is not closed by the last one. -/
theorem isOpen_grouped {a : List Char} (ha : Balanced a) (mark b : List Char) :
    Open (grouped a mark b) := by
  have hinside : grouped a mark b =
      enclosed (a ++ ')' :: ' ' :: mark ++ [' ', '('] ++ b) := by
    simp [grouped, enclosed]
  rw [hinside]
  refine isOpen_enclosed fun hclosed => ?_
  have hstart := hclosed (a ++ [')']) ⟨' ' :: mark ++ [' ', '('] ++ b, by simp⟩
  have hclose : [')'].count '(' = 0 := rfl
  rw [List.count_append, List.count_append, List.count_singleton_self, hclose, ha.count_eq] at hstart
  omega

/-- The text of an operator has no parenthesis and no blank in it. -/
structure Operator (mark : List Char) : Prop where
  ne_nil : mark ≠ []
  opening : '(' ∉ mark
  closing : ')' ∉ mark
  blank : ' ' ∉ mark

theorem operator_and : Operator ['&', '&'] := ⟨by decide, by decide, by decide, by decide⟩

theorem operator_or : Operator ['|', '|'] := ⟨by decide, by decide, by decide, by decide⟩

theorem operator_equals : Operator ['=', '='] := ⟨by decide, by decide, by decide, by decide⟩

theorem operator_matches : Operator ['=', '~'] := ⟨by decide, by decide, by decide, by decide⟩

namespace Operator

variable {mark : List Char} (h : Operator mark)
include h

/-- Parentheses are no part of an operator: a cut is that of the text inside of them. -/
theorem cutAt?_enclosed (text : List Char) :
    cutAt? mark (enclosed text) =
      (cutAt? mark text).map fun s => ('(' :: s.1, s.2 ++ [')']) := by
  rw [enclosed, List.cons_append, Text.cutAt?_cons h.ne_nil h.opening,
    Text.cutAt?_append_singleton h.ne_nil h.closing, Option.map_map]
  rfl

theorem cutAt?_enclosed_eq_none {text : List Char} (htext : ¬mark <:+: text) :
    cutAt? mark (enclosed text) = none := by
  rw [h.cutAt?_enclosed, Text.cutAt?_eq_none_iff.2 htext, Option.map_none]

/-- An operator that is not in the first operand is looked for after that operand. -/
theorem cutAt?_enclosed_append {a : List Char} (ha : ¬mark <:+: a) (rest : List Char) :
    cutAt? mark (enclosed a ++ ' ' :: rest) =
      (cutAt? mark rest).map fun s => (enclosed a ++ ' ' :: s.1, s.2) := by
  rw [Text.cutAt?_append_cons h.ne_nil h.blank, h.cutAt?_enclosed_eq_none ha]
  rfl

/-- An operator that is not in the first operand is found where it stands. -/
theorem cutAt?_grouped {a : List Char} (ha : ¬mark <:+: a) (b : List Char) :
    cutAt? mark (grouped a mark b) = some (enclosed a ++ [' '], ' ' :: enclosed b) := by
  have hfound : cutAt? mark (mark ++ ' ' :: enclosed b) = some ([], ' ' :: enclosed b) :=
    Text.cutAt?_of_dropStart? (Text.dropStart?_eq_some_iff.2 rfl)
  rw [grouped, List.append_assoc, List.cons_append, h.cutAt?_enclosed_append ha, hfound]
  rfl

/-- An operator that is in no operand and not between them is not found. -/
theorem cutAt?_grouped_eq_none {a b other : List Char} (ha : ¬mark <:+: a) (hb : ¬mark <:+: b)
    (hother : ¬mark <:+: other) : cutAt? mark (grouped a other b) = none := by
  rw [grouped, List.append_assoc, List.cons_append, h.cutAt?_enclosed_append ha,
    Text.cutAt?_append_cons h.ne_nil h.blank, Text.cutAt?_eq_none_iff.2 hother,
    h.cutAt?_enclosed_eq_none hb]
  rfl

end Operator

/-- Blanks around an operand in parentheses play no part. -/
theorem read_enclosed_blank {text : List Char} (h : Closed text) :
    read (enclosed text ++ [' ']) = read text ∧ read (' ' :: enclosed text) = read text := by
  constructor
  · rw [← read_trim, Text.trim_append_blank (by decide), read_trim, read_enclosed h]
  · rw [← read_trim, Text.trim_cons_of_blank (by decide), read_trim, read_enclosed h]

section Operands

variable {a b : List Char} (ha : Balanced a) (hb : Balanced b) (hand : ¬['&', '&'] <:+: a)
include ha hb hand

theorem read_grouped_both : read (grouped a ['&', '&'] b) = linked .both (read a) (read b) := by
  rw [read_both (isOpen_grouped ha _ b) (operator_and.cutAt?_grouped hand b),
    (read_enclosed_blank ha.closed).1, (read_enclosed_blank hb.closed).2]

theorem read_grouped_either (hand' : ¬['&', '&'] <:+: b) (hor : ¬['|', '|'] <:+: a) :
    read (grouped a ['|', '|'] b) = linked .either (read a) (read b) := by
  rw [read_either (isOpen_grouped ha _ b)
      (operator_and.cutAt?_grouped_eq_none hand hand' (by decide))
      (operator_or.cutAt?_grouped hor b),
    (read_enclosed_blank ha.closed).1, (read_enclosed_blank hb.closed).2]

end Operands

theorem read_negated_enclosed {a : List Char} (ha : Closed a) :
    read ('!' :: enclosed a) = (read a).map .negation := by
  have htrim : trim ('!' :: enclosed a) = '!' :: enclosed a :=
    Text.trim_of_not_blank (by decide) (by decide) ('(' :: a)
  rw [read_negated htrim, read_enclosed ha]

/-- **Operands in parentheses keep to themselves.** A balanced operand in parentheses is read as the
operand is: under `!`, and on the two sides of `&&` or `||` when that operator, or one that is tried
before it, is not found inside of an operand first. Of two errors that of the first operand is
given. -/
theorem ofText_grouped (a : String) (ha : Balanced a.toList) :
    ofText ("!(" ++ a ++ ")") = (ofText a).map .negation ∧
    ∀ b : String, Balanced b.toList →
      (¬['&', '&'] <:+: a.toList →
        ofText ("(" ++ a ++ ") && (" ++ b ++ ")") = linked .both (ofText a) (ofText b)) ∧
      (¬['&', '&'] <:+: a.toList → ¬['&', '&'] <:+: b.toList → ¬['|', '|'] <:+: a.toList →
        ofText ("(" ++ a ++ ") || (" ++ b ++ ")") = linked .either (ofText a) (ofText b)) := by
  refine ⟨?_, fun b hb => ⟨fun hand => ?_, fun hand hand' hor => ?_⟩⟩
  · have htext : ("!(" ++ a ++ ")").toList = '!' :: enclosed a.toList := by
      simp [enclosed]
    rw [ofText, htext]
    exact read_negated_enclosed ha.closed
  · have htext : ("(" ++ a ++ ") && (" ++ b ++ ")").toList =
        grouped a.toList ['&', '&'] b.toList := by
      simp [grouped, enclosed]
    rw [ofText, htext]
    exact read_grouped_both ha hb hand
  · have htext : ("(" ++ a ++ ") || (" ++ b ++ ")").toList =
        grouped a.toList ['|', '|'] b.toList := by
      simp [grouped, enclosed]
    rw [ofText, htext]
    exact read_grouped_either ha hb hand hand' hor

/-- Operands with parentheses and operators in them, and the conditions that are read. -/
theorem ofText_grouped_nested :
    let a := "(x == 1)"
    let b := "(y == 2) || !(z == 3)"
    let one := equals (.constant "x") (.number (.whole ⟨1, by decide, by decide⟩))
    let two := equals (.constant "y") (.number (.whole ⟨2, by decide, by decide⟩))
    let three := equals (.constant "z") (.number (.whole ⟨3, by decide, by decide⟩))
    Balanced a.toList ∧ Balanced b.toList ∧
      ofText a = .ok one ∧ ofText b = .ok (either two (negation three)) ∧
      ofText "!((x == 1))" = .ok (negation one) ∧
      ofText "((x == 1)) && ((y == 2) || !(z == 3))" =
        .ok (both one (either two (negation three))) ∧
      ofText "((x == 1)) || ((y == 2) || !(z == 3))" =
        .ok (either one (either two (negation three))) := by
  intro a b one two three
  have ha : Balanced a.toList := ⟨by decide +kernel, by decide +kernel⟩
  have hb : Balanced b.toList := ⟨by decide +kernel, by decide +kernel⟩
  have hone : ofText a = .ok one := by
    have hinside : unwrapped? (trim a.toList) = some "x == 1".toList := by decide +kernel
    rw [ofText, read_unwrapped hinside, read]
    rfl
  have htwo : read "(y == 2) ".toList = .ok two := by
    have hinside : unwrapped? (trim "(y == 2) ".toList) = some "y == 2".toList := by decide +kernel
    rw [read_unwrapped hinside, read]
    rfl
  have hthree : read " !(z == 3)".toList = .ok (negation three) := by
    have hnegated : trim " !(z == 3)".toList = '!' :: "(z == 3)".toList := by decide +kernel
    have hinside : unwrapped? (trim "(z == 3)".toList) = some "z == 3".toList := by decide +kernel
    rw [read_negated hnegated, read_unwrapped hinside, read]
    rfl
  have hand : ¬['&', '&'] <:+: a.toList := by decide +kernel
  have hand' : ¬['&', '&'] <:+: b.toList := by decide +kernel
  have hor : ¬['|', '|'] <:+: a.toList := by decide +kernel
  have heither : ofText b = .ok (either two (negation three)) := by
    have hopen : Open b.toList := ⟨by decide +kernel, by decide +kernel⟩
    have hcut : cutAt? ['|', '|'] b.toList = some ("(y == 2) ".toList, " !(z == 3)".toList) := by
      decide +kernel
    rw [ofText, read_either hopen (Text.cutAt?_eq_none_iff.2 hand') hcut, htwo, hthree, linked_ok]
  obtain ⟨hnegation, hgrouped⟩ := ofText_grouped a ha
  obtain ⟨hboth, hdisjoined⟩ := hgrouped b hb
  rw [hone] at hnegation
  rw [hone, heither] at hboth hdisjoined
  exact ⟨ha, hb, hone, heither, hnegation, hboth hand, hdisjoined hand hand' hor⟩

end LogLens.Condition
