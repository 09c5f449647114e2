import LogLens.Layout.Line

/-!
# Colors add escape sequences only

To strip a text is to remove each escape sequence from it: the escape character, a bracket, at least
one digit and the letter `m`. A record with colors and the same record without them are the same
when they are stripped. The texts of the record may have escape sequences of their own, whole or cut
off anywhere, so two texts next to each other could make up a sequence that is in neither of them.
They cannot where the second one *breaks* sequences, which is to say that it begins with no
character from the inside of one: a sequence that the first text begins and does not end is not
ended by the second. Behind what is painted in a record there is its end, a blank, a colon or a
slash.

That a text goes on with another one and that a color is opened again inside of a text are the same
to the recognition of sequences: both keep the characters behind an escape in their place.

## Main results

* `stripped_append` — the second of two texts is stripped on its own when it breaks sequences.
* `stripped_reopened` — opening a color again leaves nothing behind.
* `stripped_render` — records with and without colors are the same when stripped.
* `stripped_render_of_not_mem` — without escapes of its own a record is stripped to its plain form.
-/

namespace LogLens.Layout

/-! ## Stripped texts -/

/-- What follows digits and the letter after them. -/
def afterDigits? : List Char → Option (List Char)
  | [] => none
  | c :: cs => if c.isDigit then afterDigits? cs else if c = 'm' then some cs else none

/-- What follows at least one digit and the letter after it. -/
def afterNumber? : List Char → Option (List Char)
  | [] => none
  | c :: cs => if c.isDigit then afterDigits? cs else none

/-- What follows an escape sequence, from after its escape character. -/
def afterSequence? : List Char → Option (List Char)
  | [] => none
  | c :: cs => if c = '[' then afterNumber? cs else none

theorem length_afterDigits? {text rest : List Char} (h : afterDigits? text = some rest) :
    rest.length < text.length := by
  induction text with
  | nil => cases h
  | cons c cs ih =>
      rw [afterDigits?] at h
      split at h
      · exact Nat.lt_succ_of_lt (ih h)
      · split at h
        · exact Option.some.inj h ▸ Nat.lt_succ_self _
        · cases h

theorem length_afterNumber? {text rest : List Char} (h : afterNumber? text = some rest) :
    rest.length < text.length := by
  cases text with
  | nil => cases h
  | cons c cs =>
      rw [afterNumber?] at h
      split at h
      · exact Nat.lt_succ_of_lt (length_afterDigits? h)
      · cases h

theorem length_afterSequence? {text rest : List Char} (h : afterSequence? text = some rest) :
    rest.length < text.length := by
  cases text with
  | nil => cases h
  | cons c cs =>
      rw [afterSequence?] at h
      split at h
      · exact Nat.lt_succ_of_lt (length_afterNumber? h)
      · cases h

/-- A text without its escape sequences. -/
def stripped : List Char → List Char
  | [] => []
  | '\x1b' :: cs =>
    match _h : afterSequence? cs with
    | some rest => stripped rest
    | none => '\x1b' :: stripped cs
  | c :: cs => c :: stripped cs
  termination_by text => text.length
  decreasing_by
    · exact Nat.lt_succ_of_lt (length_afterSequence? _h)
    · exact Nat.lt_succ_self _
    · exact Nat.lt_succ_self _

theorem stripped_nil : stripped [] = [] := by rw [stripped]

theorem stripped_sequence {cs rest : List Char} (h : afterSequence? cs = some rest) :
    stripped ('\x1b' :: cs) = stripped rest := by
  rw [stripped]
  split
  · next rest' h' => rw [Option.some.inj (h.symm.trans h')]
  · next h' => cases h.symm.trans h'

theorem stripped_cons {c : Char} {cs : List Char} (h : c = '\x1b' → afterSequence? cs = none) :
    stripped (c :: cs) = c :: stripped cs := by
  by_cases hc : c = '\x1b'
  · subst hc
    rw [stripped]
    split
    · next rest h' => cases (h rfl).symm.trans h'
    · rfl
  · rw [stripped]
    exact hc

/-- What holds of stripped texts is shown where a sequence is in front, and where none is. -/
@[elab_as_elim]
theorem strippedInduction {P : List Char → Prop} (nil : P [])
    (sequence : ∀ cs rest, afterSequence? cs = some rest → P rest → P ('\x1b' :: cs))
    (cons : ∀ c cs, (c = '\x1b' → afterSequence? cs = none) → P cs → P (c :: cs))
    (text : List Char) : P text := by
  fun_induction stripped text with
  | case1 => exact nil
  | case2 cs rest h ih => exact sequence cs rest h ih
  | case3 cs h ih => exact cons _ cs (fun _ => h) ih
  | case4 c cs hc ih => exact cons c cs (fun h => absurd h hc) ih

/-- Without an escape character there is nothing to remove. -/
theorem stripped_of_not_mem {text : List Char} (h : '\x1b' ∉ text) : stripped text = text := by
  induction text with
  | nil => exact stripped_nil
  | cons c cs ih =>
      rw [List.mem_cons, not_or] at h
      rw [stripped_cons fun hc => absurd hc.symm h.1, ih h.2]

/-! ## Breaks -/

/-- The characters that may stand in an escape sequence behind its escape character. -/
def isInner (c : Char) : Bool := c == '[' || c.isDigit || c == 'm'

theorem isInner_eq_false_iff {c : Char} :
    isInner c = false ↔ c ≠ '[' ∧ c.isDigit = false ∧ c ≠ 'm' := by
  simp [isInner, and_assoc]

/-- A text does not go on with a sequence that is begun before it. -/
def Breaks (text : List Char) : Prop := ∀ c, text.head? = some c → isInner c = false

theorem breaks_of_head? {text : List Char} {c : Char} (h : text.head? = some c)
    (hinner : isInner c = false) : Breaks text := by
  intro d hd
  obtain rfl := Option.some.inj (h.symm.trans hd)
  exact hinner

theorem breaks_of_escape {text : List Char} (h : text.head? = some '\x1b') : Breaks text :=
  breaks_of_head? h (by decide)

/-- A change of texts that keeps what an escape sequence consists of behind an escape character. -/
structure KeepsSequences (change : List Char → List Char) : Prop where
  nil : Breaks (change [])
  escape : ∀ cs, Breaks (change ('\x1b' :: cs))
  cons : ∀ {c}, c ≠ '\x1b' → ∀ cs, change (c :: cs) = c :: change cs

theorem breaks_nil : Breaks [] := fun _ h => by cases h

theorem afterDigits?_of_breaks {text : List Char} (h : Breaks text) : afterDigits? text = none := by
  cases text with
  | nil => rfl
  | cons c cs =>
      obtain ⟨-, hdigit, hletter⟩ := isInner_eq_false_iff.1 (h c rfl)
      rw [afterDigits?, hdigit, if_neg Bool.false_ne_true, if_neg hletter]

theorem afterNumber?_of_breaks {text : List Char} (h : Breaks text) : afterNumber? text = none := by
  cases text with
  | nil => rfl
  | cons c cs =>
      obtain ⟨-, hdigit, -⟩ := isInner_eq_false_iff.1 (h c rfl)
      rw [afterNumber?, hdigit, if_neg Bool.false_ne_true]

theorem afterSequence?_of_breaks {text : List Char} (h : Breaks text) :
    afterSequence? text = none := by
  cases text with
  | nil => rfl
  | cons c cs =>
      obtain ⟨hbracket, -, -⟩ := isInner_eq_false_iff.1 (h c rfl)
      rw [afterSequence?, if_neg hbracket]

namespace KeepsSequences

variable {change : List Char → List Char} (hchange : KeepsSequences change)
include hchange

/-- A recognizer that begins with a character from the inside of a sequence fares alike before and
after the change when it does so behind each other character. -/
theorem recognized {after? : List Char → Option (List Char)}
    (hbreaks : ∀ {text}, Breaks text → after? text = none) {text : List Char}
    (hcons : ∀ c cs, text = c :: cs →
      after? (c :: change cs) = (after? (c :: cs)).map change) :
    after? (change text) = (after? text).map change := by
  cases text with
  | nil => rw [hbreaks hchange.nil, hbreaks breaks_nil, Option.map_none]
  | cons c cs =>
      by_cases hc : c = '\x1b'
      · subst hc
        rw [hbreaks (hchange.escape cs), hbreaks (breaks_of_escape rfl), Option.map_none]
      · rw [hchange.cons hc cs]
        exact hcons c cs rfl

theorem digits_map (text : List Char) :
    afterDigits? (change text) = (afterDigits? text).map change := by
  induction text with
  | nil => exact hchange.recognized afterDigits?_of_breaks fun _ _ h => by cases h
  | cons d ds ih =>
      refine hchange.recognized afterDigits?_of_breaks fun c cs h => ?_
      obtain ⟨rfl, rfl⟩ := List.cons.inj h
      rw [afterDigits?, afterDigits?]
      split
      · exact ih
      · split <;> rfl

theorem number_map (text : List Char) :
    afterNumber? (change text) = (afterNumber? text).map change := by
  refine hchange.recognized afterNumber?_of_breaks fun c cs _ => ?_
  rw [afterNumber?, afterNumber?]
  split
  · exact hchange.digits_map cs
  · rfl

theorem sequence_map (text : List Char) :
    afterSequence? (change text) = (afterSequence? text).map change := by
  refine hchange.recognized afterSequence?_of_breaks fun c cs _ => ?_
  rw [afterSequence?, afterSequence?]
  split
  · exact hchange.number_map cs
  · rfl

end KeepsSequences

/-! ## Two texts one after the other -/

section Append

variable {text after : List Char}

theorem keepsSequences_append (h : Breaks after) : KeepsSequences (· ++ after) where
  nil := h
  escape _ := breaks_of_escape rfl
  cons _ _ := rfl

/-- The second of two texts is stripped on its own when it breaks sequences. -/
theorem stripped_append (h : Breaks after) :
    stripped (text ++ after) = stripped text ++ stripped after := by
  induction text using strippedInduction with
  | nil => rw [stripped_nil, List.nil_append, List.nil_append]
  | sequence cs rest hrest ih =>
      have hmore : afterSequence? (cs ++ after) = some (rest ++ after) := by
        rw [(keepsSequences_append h).sequence_map, hrest, Option.map_some]
      rw [List.cons_append, stripped_sequence hmore, ih, stripped_sequence hrest]
  | cons c cs hnone ih =>
      have hmore : c = '\x1b' → afterSequence? (cs ++ after) = none := fun hc => by
        rw [(keepsSequences_append h).sequence_map, hnone hc, Option.map_none]
      rw [List.cons_append, stripped_cons hmore, ih, stripped_cons hnone, List.cons_append]

/-- A sequence that is cut off before another one stays. -/
example : stripped ['a', '\x1b', '[', '0', '\x1b', '[', '3', '1', 'm', 'm'] =
    ['a', '\x1b', '[', '0', 'm'] := by decide +kernel

end Append

/-! ## Painted texts -/

theorem afterDigits?_digits {digits : List Char} (h : digits.all Char.isDigit = true)
    (text : List Char) : afterDigits? (digits ++ 'm' :: text) = some text := by
  induction digits with
  | nil => rfl
  | cons c cs ih =>
      rw [List.all_cons, Bool.and_eq_true] at h
      rw [List.cons_append, afterDigits?, if_pos h.1]
      exact ih h.2

/-- An escape sequence leaves nothing behind. -/
theorem stripped_escapeSequence {number : List Char} (hsome : number ≠ [])
    (hdigits : number.all Char.isDigit = true) (text : List Char) :
    stripped (escapeSequence number ++ text) = stripped text := by
  obtain ⟨c, cs, rfl⟩ := List.exists_cons_of_ne_nil hsome
  rw [List.all_cons, Bool.and_eq_true] at hdigits
  have hsequence : afterSequence? ('[' :: (c :: cs ++ 'm' :: text)) = some text := by
    rw [afterSequence?, if_pos rfl, List.cons_append, afterNumber?, if_pos hdigits.1]
    exact afterDigits?_digits hdigits.2 text
  have htext : escapeSequence (c :: cs) ++ text = '\x1b' :: '[' :: (c :: cs ++ 'm' :: text) := by
    simp [escapeSequence]
  rw [htext, stripped_sequence hsequence]

theorem stripped_ink (ink : Ink) (text : List Char) :
    stripped (escapeSequence (inkNumber ink) ++ text) = stripped text := by
  cases ink <;> exact stripped_escapeSequence (by simp [inkNumber]) rfl text

theorem stripped_reset (text : List Char) : stripped (resetSequence ++ text) = stripped text :=
  stripped_escapeSequence (by simp) rfl text

section Reopened

variable {opening : List Char}

theorem reopened_cons {c : Char} {cs : List Char} (h : c = '\x1b' → afterSequence? cs = none) :
    reopened opening (c :: cs) = c :: reopened opening cs := by
  rw [reopened]
  rintro rest hc rfl
  cases h hc

theorem head?_reopened (text : List Char) : (reopened opening text).head? = text.head? := by
  rw [reopened.eq_def]
  split <;> rfl

theorem keepsSequences_reopened : KeepsSequences (reopened opening) where
  nil := breaks_nil
  escape cs := breaks_of_escape (head?_reopened ('\x1b' :: cs))
  cons hc _ := reopened_cons fun h => absurd h hc

/-- Opening a color again leaves nothing behind. -/
theorem stripped_reopened (hopening : ∀ text, stripped (opening ++ text) = stripped text)
    (text : List Char) : stripped (reopened opening text) = stripped text := by
  induction text using strippedInduction with
  | nil => rfl
  | sequence cs rest hrest ih =>
      have hmore : afterSequence? (reopened opening cs) = some (reopened opening rest) := by
        rw [keepsSequences_reopened.sequence_map, hrest, Option.map_some]
      rw [reopened.eq_def]
      -- The color is opened again behind a sequence of number 0 only; any other one stays in front.
      split
      · next after hafter =>
          obtain ⟨-, rfl⟩ := List.cons.inj hafter
          obtain rfl : after = rest := Option.some.inj hrest
          rw [List.append_assoc, stripped_reset, hopening, ih, stripped_sequence hrest]
      · next c ds _ hcons =>
          obtain ⟨rfl, rfl⟩ := List.cons.inj hcons
          rw [stripped_sequence hmore, ih, stripped_sequence hrest]
      · next hnil => cases hnil
  | cons c cs hnone ih =>
      have hmore : c = '\x1b' → afterSequence? (reopened opening cs) = none := fun hc => by
        rw [keepsSequences_reopened.sequence_map, hnone hc, Option.map_none]
      rw [reopened_cons hnone, stripped_cons hmore, ih, stripped_cons hnone]

end Reopened

/-- A painted text is stripped like the text itself. -/
theorem stripped_painted (ink : Ink) (text : List Char) :
    stripped (painted ink text) = stripped text := by
  have hreset : Breaks resetSequence := breaks_of_escape rfl
  have hnothing : stripped resetSequence = [] := by
    rw [← List.append_nil resetSequence, stripped_reset, stripped_nil]
  simp only [painted]
  rw [List.append_assoc, stripped_ink, stripped_append hreset, stripped_reopened (stripped_ink ink),
    hnothing, List.append_nil]

/-! ## Records -/

/-- Two texts are the same when stripped. -/
def Alike (text other : List Char) : Prop := stripped text = stripped other

namespace Alike

theorem refl (text : List Char) : Alike text text := rfl

variable {text other after after' : List Char}

/-- Texts that are alike may be followed by others that are, when these break sequences. -/
theorem append (h : Alike text other) (hafter : Alike after after') (hbreaks : Breaks after)
    (hbreaks' : Breaks after') : Alike (text ++ after) (other ++ after') := by
  rw [Alike, stripped_append hbreaks, stripped_append hbreaks', h, hafter]

theorem cons {c : Char} (hc : c ≠ '\x1b') (h : Alike text other) :
    Alike (c :: text) (c :: other) := by
  rw [Alike, stripped_cons fun e => absurd e hc, stripped_cons fun e => absurd e hc, h]

/-- Texts that are alike may be followed by a character that breaks sequences and by others that are
alike. -/
theorem separated (h : Alike text other) (hafter : Alike after after') {c : Char}
    (hc : c ≠ '\x1b') (hinner : isInner c = false) :
    Alike (text ++ c :: after) (other ++ c :: after') :=
  h.append (.cons hc hafter) (breaks_of_head? rfl hinner) (breaks_of_head? rfl hinner)

end Alike

theorem alike_paint (ink : Ink) (text : String) :
    Alike (paint true ink text) (paint false ink text) :=
  stripped_painted ink text.toList

section Record

variable (mode : Mode) (zone : DisplayZone) (r : Record) {after after' : List Char}

theorem alike_timePart (h : Alike after after') :
    Alike (timePart ⟨mode, zone, true⟩ r ++ after) (timePart ⟨mode, zone, false⟩ r ++ after') := by
  unfold timePart
  cases r.time with
  | none => exact h
  | some t =>
      rw [List.append_assoc, List.append_assoc]
      exact (Alike.refl (timeText ⟨mode, zone, false⟩ t)).separated h (by decide) (by decide)

/-- Behind the level stands a blank or a colon, whoever wrote the record. -/
theorem breaks_origin (view : View) (after : List Char) :
    Breaks (origin view r ++ ':' :: after) := by
  have hlong : ∀ rest, Breaks (':' :: rest) := fun rest => breaks_of_head? rfl (by decide)
  unfold origin
  split
  · split
    · exact hlong after
    · exact breaks_of_head? rfl (by decide)
  · exact hlong _

theorem alike_origin {text other : List Char} (htext : Alike text other) (h : Alike after after') :
    Alike (text ++ (origin ⟨mode, zone, true⟩ r ++ ':' :: after))
      (other ++ (origin ⟨mode, zone, false⟩ r ++ ':' :: after')) := by
  have horigin : Alike (origin ⟨mode, zone, true⟩ r ++ ':' :: after)
      (origin ⟨mode, zone, false⟩ r ++ ':' :: after') :=
    (Alike.refl (origin ⟨mode, zone, false⟩ r)).separated h (by decide) (by decide)
  exact htext.append horigin (breaks_origin r _ after) (breaks_origin r _ after')

theorem alike_topicPart (h : Alike after after') :
    Alike (topicPart ⟨mode, zone, true⟩ r ++ after)
      (topicPart ⟨mode, zone, false⟩ r ++ after') := by
  unfold topicPart
  split
  · exact h
  · have htopic := alike_paint .green r.topic
    split
    · simp only [List.append_assoc, List.nil_append, List.cons_append]
      exact htopic.separated h (by decide) (by decide)
    · simp only [List.append_assoc, List.nil_append, List.cons_append]
      have hscope := (alike_paint .yellow r.scope).separated h (by decide : ' ' ≠ '\x1b') rfl
      exact htopic.separated hscope (by decide) (by decide)

theorem alike_full : Alike (full ⟨mode, zone, true⟩ r) (full ⟨mode, zone, false⟩ r) := by
  have hfields : Breaks (fieldPart r ++ blobPart r.blobs) := breaks_of_head? rfl (by decide)
  have hmessage := (alike_paint .cyan r.message).append (.refl _) hfields hfields
  have hbody := (alike_topicPart mode zone r hmessage).cons (by decide : ' ' ≠ '\x1b')
  have hlevel := alike_origin mode zone r (alike_paint r.level.ink r.level.label) hbody
  have htime := alike_timePart mode zone r hlevel
  simp only [full, header, levelText, messageText, List.append_assoc, List.cons_append]
  exact htime

theorem alike_simple : Alike (simple ⟨mode, zone, true⟩ r) (simple ⟨mode, zone, false⟩ r) := by
  have hlevel := alike_paint r.level.ink r.level.label
  have hmessage := (alike_paint .cyan r.message).cons (by decide : ' ' ≠ '\x1b')
  simp only [simple, levelText, messageText, List.append_assoc]
  exact hlevel.separated (hmessage.cons (by decide)) (by decide) (by decide)

theorem alike_render : Alike (render ⟨mode, zone, true⟩ r) (render ⟨mode, zone, false⟩ r) := by
  cases mode with
  | long => exact alike_full .long zone r
  | short => exact alike_full .short zone r
  | simple => exact alike_simple .simple zone r
  | json => exact .refl _
  | bunyan => exact .refl _

/-- Where no text of a record has an escape character, a record with colors is stripped to the one
without. -/
theorem stripped_render_of_not_mem (h : '\x1b' ∉ render ⟨mode, zone, false⟩ r) :
    stripped (render ⟨mode, zone, true⟩ r) = render ⟨mode, zone, false⟩ r := by
  have halike : Alike (render ⟨mode, zone, true⟩ r) (render ⟨mode, zone, false⟩ r) :=
    alike_render mode zone r
  exact halike.trans (stripped_of_not_mem h)

/-- A record with colors and one without are the same when stripped, whatever escape sequences its
texts have of their own. Records as JSON have no colors. -/
theorem stripped_render :
    stripped (render ⟨mode, zone, true⟩ r) = stripped (render ⟨mode, zone, false⟩ r) ∧
      render ⟨.json, zone, true⟩ r = render ⟨.json, zone, false⟩ r ∧
        render ⟨.bunyan, zone, true⟩ r = render ⟨.bunyan, zone, false⟩ r :=
  ⟨alike_render mode zone r, rfl, rfl⟩

end Record

end LogLens.Layout
