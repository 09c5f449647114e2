import LogLens.Proofs.Condition.Parentheses
import LogLens.Proofs.Decimal.Reading

/-!
# Parentheses around a whole condition

Parentheses around a condition keep its meaning when they come off again, which they do when no
beginning of the condition closes more of them than it opens. Quotes and slashes play no part in
this: a parenthesis in a quoted text or in a pattern counts like any other. When parentheses do not
come off they become part of the first and of the last operand, and what is read is another
condition.

That it is never the same by accident is shown by counting. The operands of a condition keep all
parentheses of its text but for pairs that were taken off, so their number has the parity of the
number in the text (`parentheses_of_read`). With one more parenthesis in front of it, the text
before the first operator cannot be read as the same condition.

## Main results

* `parentheses_of_read` — the parity of the number of parentheses.
* `read_enclosed_ne` — parentheses that stay change the condition.
* `ofText_enclosed` — when parentheses around a condition change nothing.
* `ofText_enclosed_quoted` — a quoted parenthesis with which they do.
-/

namespace LogLens

/-! ## Counting parentheses -/

/-- The number of parentheses in a text. -/
def Text.parentheses (cs : List Char) : Nat := cs.count '(' + cs.count ')'

namespace Text

@[simp] theorem parentheses_append (cs ds : List Char) :
    parentheses (cs ++ ds) = parentheses cs + parentheses ds := by
  simp only [parentheses, List.count_append]
  omega

theorem parentheses_cons (c : Char) (cs : List Char) :
    parentheses (c :: cs) = parentheses [c] + parentheses cs :=
  parentheses_append [c] cs

theorem parentheses_eq_zero {cs : List Char} (hopen : '(' ∉ cs) (hclose : ')' ∉ cs) :
    parentheses cs = 0 := by
  rw [parentheses, List.count_eq_zero.2 hopen, List.count_eq_zero.2 hclose]

/-- A character without parentheses in front adds nothing. -/
theorem parentheses_cons_other {c : Char} (h : parentheses [c] = 0) (cs : List Char) :
    parentheses (c :: cs) = parentheses cs := by
  rw [parentheses_cons, h, Nat.zero_add]

theorem ne_parenthesis_of_blank {c : Char} (h : isBlank c = true) : c ≠ '(' ∧ c ≠ ')' := by
  constructor
  all_goals
    rintro rfl
    exact absurd h (by decide)

theorem parentheses_of_blank {c : Char} (h : isBlank c = true) : parentheses [c] = 0 := by
  obtain ⟨hopen, hclose⟩ := ne_parenthesis_of_blank h
  exact parentheses_eq_zero (by simpa using hopen.symm) (by simpa using hclose.symm)

/-- Trimming takes no parenthesis. -/
@[simp] theorem parentheses_trim (cs : List Char) : parentheses (trim cs) = parentheses cs := by
  refine apply_trim (fun c cs hc => ?_) (fun c cs hc => ?_) cs
  · rw [parentheses_cons_other (parentheses_of_blank hc)]
  · rw [parentheses_append, parentheses_of_blank hc, Nat.add_zero]

end Text

namespace Operand

/-- The number of parentheses in the text of an operand. -/
def parentheses : Operand → Nat
  | field name => Text.parentheses name.toList
  | constant text => Text.parentheses text.toList
  | pattern p => Text.parentheses p.source.toList
  | number _ => 0
  | boolean _ => 0

theorem parentheses_of_number? {token : List Char} {n : Number} (h : number? token = some n) :
    Text.parentheses token = 0 := by
  have hnumeric : ∀ c ∈ token, Decimal.isNumeric c = true := by
    unfold number? at h
    split at h
    · next i hi =>
        obtain ⟨j, hj, -⟩ := Option.bind_eq_some_iff.1 hi
        exact Decimal.numeric_of_integer? hj
    · split at h
      · next x hx => exact Decimal.numeric_of_real? hx
      · cases h
  exact Text.parentheses_eq_zero (fun hmem => absurd (hnumeric _ hmem) (by decide))
    (fun hmem => absurd (hnumeric _ hmem) (by decide))

theorem parentheses_of_enclosed? {delimiter : Char} {token text : List Char}
    (hdelimiter : Text.parentheses [delimiter] = 0) (h : enclosed? delimiter token = some text) :
    Text.parentheses token = Text.parentheses text := by
  cases token with
  | nil => cases h
  | cons c cs =>
      simp only [enclosed?] at h
      split at h
      · next hc =>
          rw [hc, Text.dropEnd?_eq_some h, Text.parentheses_cons_other hdelimiter,
            Text.parentheses_append, hdelimiter, Nat.add_zero]
      · cases h

theorem parentheses_bare (token : List Char) :
    (bare token).parentheses = Text.parentheses token := by
  unfold bare
  split
  · next p hp =>
      obtain ⟨source, hsource, hcompile⟩ := Option.bind_eq_some_iff.1 hp
      rw [parentheses, Pattern.source_of_compile? hcompile, String.toList_ofList,
        parentheses_of_enclosed? (by decide) hsource]
  · next hb =>
      unfold boolean? at hb
      split at hb
      · next htrue => rw [htrue, parentheses]; decide
      · split at hb
        · next hfalse => rw [hfalse, parentheses]; decide
        · cases hb
  · next hn => rw [parentheses, parentheses_of_number? hn]
  · rw [parentheses, String.toList_ofList]

/-- An operand keeps all parentheses of its token. -/
theorem parentheses_read (token : List Char) :
    (read token).parentheses = Text.parentheses token := by
  unfold read
  split
  · rw [parentheses, String.toList_ofList, Text.parentheses_cons_other (by decide)]
  · split
    · next text htext =>
        rw [parentheses, String.toList_ofList, parentheses_of_enclosed? (by decide) htext]
    · exact parentheses_bare token

end Operand

namespace Condition

open Text (cutAt? trim)

/-- The number of parentheses in the operands of a condition. -/
def parentheses : Condition → Nat
  | both left right => left.parentheses + right.parentheses
  | either left right => left.parentheses + right.parentheses
  | negation inner => inner.parentheses
  | equals left right => left.parentheses + right.parentheses
  | matched left pattern => left.parentheses + (Operand.pattern pattern).parentheses

/-- What a comparison is, from the cuts of the text as it stands. -/
theorem comparison_eq_ok {text : List Char} {t : Condition} (h : comparison (trim text) = .ok t) :
    (∃ left right, cutAt? ['=', '='] text = some (left, right) ∧
      t = .equals (Operand.read (trim left)) (Operand.read (trim right))) ∨
    ∃ left right p, cutAt? ['=', '='] text = none ∧ cutAt? ['=', '~'] text = some (left, right) ∧
      Operand.read (trim right) = .pattern p ∧ t = .matched (Operand.read (trim left)) p := by
  have hequals : cutAt? ['=', '='] (trim text) = _ := Text.cutAt?_trim (by decide) (by decide) text
  have hmatches : cutAt? ['=', '~'] (trim text) = _ :=
    Text.cutAt?_trim (by decide) (by decide) text
  rw [comparison, hequals, hmatches] at h
  cases hcut : cutAt? ['=', '='] text with
  | some sides =>
      simp only [hcut, Option.map_some, Text.trim_trimStart, Text.trim_trimEnd] at h
      exact .inl ⟨sides.1, sides.2, rfl, (Except.ok.inj h).symm⟩
  | none =>
      cases hcut' : cutAt? ['=', '~'] text with
      | none => simp [hcut, hcut'] at h
      | some sides =>
          simp only [hcut, hcut', Option.map_none, Option.map_some, Text.trim_trimStart,
            Text.trim_trimEnd] at h
          split at h
          · next p hp =>
              exact .inr ⟨sides.1, sides.2, p, rfl, rfl, hp, (Except.ok.inj h).symm⟩
          · cases h

/-- A cut by a mark without parentheses keeps all of them. -/
theorem parentheses_of_cutAt? {mark text left right : List Char}
    (hmark : Text.parentheses mark = 0) (h : cutAt? mark text = some (left, right)) :
    Text.parentheses text = Text.parentheses left + Text.parentheses right := by
  rw [Text.cutAt?_eq_some h, Text.parentheses_append, Text.parentheses_append, hmark,
    Nat.add_zero]

theorem parentheses_of_comparison {text : List Char} {t : Condition}
    (h : comparison (trim text) = .ok t) : t.parentheses = Text.parentheses text := by
  rcases comparison_eq_ok h with ⟨left, right, hcut, rfl⟩ | ⟨left, right, p, -, hcut, hp, rfl⟩
  · rw [parentheses, Operand.parentheses_read, Operand.parentheses_read, Text.parentheses_trim,
      Text.parentheses_trim, parentheses_of_cutAt? (by decide) hcut]
  · rw [parentheses, ← hp, Operand.parentheses_read, Operand.parentheses_read,
      Text.parentheses_trim, Text.parentheses_trim, parentheses_of_cutAt? (by decide) hcut]

/-- Parentheses come off in pairs. -/
theorem parentheses_of_read {text : List Char} {t : Condition} (h : read text = .ok t) :
    t.parentheses % 2 = Text.parentheses text % 2 := by
  induction text using readInduction generalizing t with
  | unwrapped text inner hinner ih =>
      rw [read_unwrapped hinner] at h
      rw [ih h, ← Text.parentheses_trim text, unwrapped?_eq_some hinner]
      have hpair : Text.parentheses ('(' :: inner ++ [')']) = Text.parentheses inner + 2 := by
        rw [List.cons_append, Text.parentheses_cons, Text.parentheses_append,
          show Text.parentheses ['('] = 1 from rfl, show Text.parentheses [')'] = 1 from rfl]
        omega
      omega
  | negated text rest hrest ih =>
      rw [read_negated hrest] at h
      obtain ⟨u, hu, rfl⟩ := negation_eq_ok h
      rw [parentheses, ih hu, ← Text.parentheses_trim text, hrest,
        Text.parentheses_cons_other (by decide)]
  | both text left right hopen hand ihleft ihright =>
      rw [read_both hopen hand] at h
      obtain ⟨l, r, hl, hr, rfl⟩ := linked_eq_ok h
      have hleft := ihleft hl
      have hright := ihright hr
      rw [parentheses, parentheses_of_cutAt? (by decide) hand]
      omega
  | either text left right hopen hand hor ihleft ihright =>
      rw [read_either hopen hand hor] at h
      obtain ⟨l, r, hl, hr, rfl⟩ := linked_eq_ok h
      have hleft := ihleft hl
      have hright := ihright hr
      rw [parentheses, parentheses_of_cutAt? (by decide) hor]
      omega
  | single text hopen hand hor =>
      rw [read_single hopen hand hor] at h
      rw [parentheses_of_comparison h]

/-! ## Texts whose parentheses come off -/

/-- A character that is no parenthesis plays no part at the beginning. -/
theorem closed_cons_iff {c : Char} (hopen : c ≠ '(') (hclose : c ≠ ')') {cs : List Char} :
    Closed (c :: cs) ↔ Closed cs := by
  rw [Closed, forall_prefix_cons]
  simp only [List.count_cons_of_ne hopen, List.count_cons_of_ne hclose, List.count_nil,
    Nat.zero_le, true_and]
  rfl

/-- A character that is no parenthesis plays no part at the end. -/
theorem closed_append_iff {c : Char} (hopen : c ≠ '(') (hclose : c ≠ ')') {cs : List Char} :
    Closed (cs ++ [c]) ↔ Closed cs := by
  constructor
  · exact fun h start hstart => h start (hstart.trans (List.prefix_append cs [c]))
  · intro h start hstart
    rcases List.prefix_concat_iff.1 hstart with rfl | hstart
    · have hall := h cs List.prefix_rfl
      simpa [List.count_append, List.count_singleton, hopen, hclose] using hall
    · exact h start hstart

theorem closed_trim_iff {text : List Char} : Closed (trim text) ↔ Closed text := by
  refine iff_of_eq (Text.apply_trim (fun c cs hc => ?_) (fun c cs hc => ?_) text)
  all_goals obtain ⟨hopen, hclose⟩ := Text.ne_parenthesis_of_blank hc
  · exact propext (closed_cons_iff hopen hclose)
  · exact propext (closed_append_iff hopen hclose)

theorem closed_enclosed {text : List Char} (h : Closed text) : Closed (enclosed text) := by
  rw [enclosed, List.cons_append, Closed, forall_prefix_cons]
  refine ⟨by decide, fun start hstart => ?_⟩
  rw [List.count_cons_self, List.count_cons_of_ne (by decide)]
  rcases List.prefix_concat_iff.1 hstart with rfl | hstart
  · have hall := h text List.prefix_rfl
    have hclose : [')'].count '(' = 0 := rfl
    rw [List.count_append, List.count_append, List.count_singleton_self, hclose]
    omega
  · have hinside := h start hstart
    omega

/-- A text whose parentheses come off closes no more of them than it opens. -/
theorem closed_of_unwrapped? {text inner : List Char} (h : unwrapped? (trim text) = some inner) :
    Closed text := by
  have htrim : trim text = enclosed inner := unwrapped?_eq_some h
  rw [htrim, unwrapped?_enclosed] at h
  split at h
  · next hinner =>
      rw [← closed_trim_iff, htrim]
      exact closed_enclosed hinner
  · cases h

/-! ## Parentheses that stay -/

/-- With one more parenthesis another condition is read. -/
theorem read_cons_ne {text : List Char} {t : Condition} (h : read text = .ok t) :
    read ('(' :: text) ≠ .ok t := by
  intro hcons
  have hparity := parentheses_of_read h
  have hparity' := parentheses_of_read hcons
  rw [Text.parentheses_cons, show Text.parentheses ['('] = 1 from rfl] at hparity'
  omega

/-- With one more parenthesis another operand is read. -/
theorem operand_read_cons_ne (text : List Char) :
    Operand.read (trim ('(' :: text)) ≠ Operand.read (trim text) := by
  intro heq
  have hcount := congrArg Operand.parentheses heq
  rw [Operand.parentheses_read, Operand.parentheses_read, Text.parentheses_trim,
    Text.parentheses_trim, Text.parentheses_cons] at hcount
  have hone : Text.parentheses ['('] = 1 := rfl
  omega

/-- A text without `!` at its beginning is no negation, unless parentheses come off. -/
theorem read_ne_negation {text : List Char} (h : Open text) (u : Condition) :
    read text ≠ .ok (.negation u) := by
  intro hread
  cases hand : cutAt? ['&', '&'] text with
  | some sides =>
      rw [read_both h hand] at hread
      obtain ⟨l, r, -, -, heq⟩ := linked_eq_ok hread
      cases heq
  | none =>
      cases hor : cutAt? ['|', '|'] text with
      | some sides =>
          rw [read_either h hand hor] at hread
          obtain ⟨l, r, -, -, heq⟩ := linked_eq_ok hread
          cases heq
      | none =>
          rw [read_single h hand hor] at hread
          rcases comparison_eq_ok hread with ⟨_, _, _, heq⟩ | ⟨_, _, _, _, _, _, heq⟩ <;> cases heq

/-- The first operand of a comparison keeps the parenthesis before it. -/
theorem comparison_enclosed_ne {text : List Char} {t : Condition}
    (h : comparison (trim text) = .ok t) : comparison (trim (enclosed text)) ≠ .ok t := by
  intro henclosed
  have hequals := operator_equals.cutAt?_enclosed text
  have hmatches := operator_matches.cutAt?_enclosed text
  rcases comparison_eq_ok h with ⟨left, right, hcut, rfl⟩ | ⟨left, right, p, hnone, hcut, -, rfl⟩
  · rw [hcut] at hequals
    rcases comparison_eq_ok henclosed with
      ⟨left', right', hcut', heq⟩ | ⟨left', right', p, hnone', -, -, heq⟩
    · rw [hequals] at hcut'
      cases hcut'
      exact operand_read_cons_ne left (Condition.equals.inj heq).1.symm
    · cases heq
  · rw [hnone] at hequals
    rw [hcut] at hmatches
    rcases comparison_eq_ok henclosed with
      ⟨left', right', hcut', heq⟩ | ⟨left', right', p', -, hcut', -, heq⟩
    · cases heq
    · rw [hmatches] at hcut'
      cases hcut'
      exact operand_read_cons_ne left (Condition.matched.inj heq).1.symm

/-- When parentheses around a text stay, another condition is read. -/
theorem read_enclosed_ne {text : List Char} {t : Condition} (hclosed : ¬Closed text)
    (h : read text = .ok t) : read (enclosed text) ≠ .ok t := by
  intro henclosed
  have hopen := isOpen_enclosed hclosed
  cases text using readInduction with
  | unwrapped text inner hinner _ => exact hclosed (closed_of_unwrapped? hinner)
  | negated text rest hrest _ =>
      rw [read_negated hrest] at h
      obtain ⟨u, -, rfl⟩ := negation_eq_ok h
      exact read_ne_negation hopen u henclosed
  | both text left right htext hand _ _ =>
      rw [read_both htext hand] at h
      obtain ⟨l, r, hl, -, rfl⟩ := linked_eq_ok h
      have hcut : cutAt? ['&', '&'] (enclosed text) = some ('(' :: left, right ++ [')']) := by
        rw [operator_and.cutAt?_enclosed, hand]
        rfl
      rw [read_both hopen hcut] at henclosed
      obtain ⟨l', r', hl', -, heq⟩ := linked_eq_ok henclosed
      obtain ⟨rfl, -⟩ := Condition.both.inj heq
      exact read_cons_ne hl hl'
  | either text left right htext hand hor _ _ =>
      rw [read_either htext hand hor] at h
      obtain ⟨l, r, hl, -, rfl⟩ := linked_eq_ok h
      have hnone : cutAt? ['&', '&'] (enclosed text) = none := by
        rw [operator_and.cutAt?_enclosed, hand]
        rfl
      have hcut : cutAt? ['|', '|'] (enclosed text) = some ('(' :: left, right ++ [')']) := by
        rw [operator_or.cutAt?_enclosed, hor]
        rfl
      rw [read_either hopen hnone hcut] at henclosed
      obtain ⟨l', r', hl', -, heq⟩ := linked_eq_ok henclosed
      obtain ⟨rfl, -⟩ := Condition.either.inj heq
      exact read_cons_ne hl hl'
  | single text htext hand hor =>
      rw [read_single htext hand hor] at h
      rw [read_single hopen (by rw [operator_and.cutAt?_enclosed, hand]; rfl)
        (by rw [operator_or.cutAt?_enclosed, hor]; rfl)] at henclosed
      exact comparison_enclosed_ne h henclosed

/-- **Parentheses around a whole condition.** They change neither the condition nor the error when
no beginning of the text closes more parentheses than it opens, counted over all characters. Around
any other text that can be read they change the condition, or there is none any more. -/
theorem ofText_enclosed (s : String) :
    (Closed s.toList → ofText ("(" ++ s ++ ")") = ofText s) ∧
    ∀ t, ofText s = .ok t → (ofText ("(" ++ s ++ ")") = .ok t ↔ Closed s.toList) := by
  have htext : ("(" ++ s ++ ")").toList = enclosed s.toList := by
    simp [enclosed]
  rw [ofText, ofText, htext]
  refine ⟨read_enclosed, fun t ht => ⟨fun h => ?_, fun hclosed => (read_enclosed hclosed).trans ht⟩⟩
  by_contra hclosed
  exact read_enclosed_ne hclosed ht h

/-- A quoted pair of parentheses. -/
theorem ofText_enclosed_pair :
    let s := ".msg == \"f(x)\""
    let t := equals (.field "msg") (.constant "f(x)")
    Closed s.toList ∧ ofText s = .ok t ∧ ofText ("(" ++ s ++ ")") = .ok t := by
  intro s t
  have hclosed : Closed s.toList := by decide +kernel
  have hread : ofText ".msg == \"f(x)\"" = .ok t := by
    rw [ofText, read_single ⟨by decide +kernel, by decide +kernel⟩ (by decide +kernel)
      (by decide +kernel)]
    rfl
  obtain ⟨-, hiff⟩ := ofText_enclosed s
  exact ⟨hclosed, hread, (hiff t hread).2 hclosed⟩

/-- A quoted closing parenthesis. Parentheses around the comparison become part of its operands, and
what was the value of a field is a text. -/
theorem ofText_enclosed_quoted :
    let s := ".msg == \")\""
    ofText s = .ok (.equals (.field "msg") (.constant ")")) ∧
      ofText ("(" ++ s ++ ")") = .ok (.equals (.constant "(.msg") (.constant "\")\")")) ∧
      ofText ("(" ++ s ++ ")") ≠ ofText s := by
  intro s
  have hbare : ofText ".msg == \")\"" = .ok (.equals (.field "msg") (.constant ")")) := by
    rw [ofText, read_single ⟨by decide +kernel, by decide +kernel⟩ (by decide +kernel)
      (by decide +kernel)]
    rfl
  have henclosed :
      ofText "(.msg == \")\")" = .ok (.equals (.constant "(.msg") (.constant "\")\")")) := by
    rw [ofText, read_single ⟨by decide +kernel, by decide +kernel⟩ (by decide +kernel)
      (by decide +kernel)]
    rfl
  have htext : "(" ++ s ++ ")" = "(.msg == \")\")" := by decide +kernel
  rw [htext]
  refine ⟨hbare, henclosed, fun h => ?_⟩
  rw [hbare, henclosed] at h
  cases h

end Condition

end LogLens
