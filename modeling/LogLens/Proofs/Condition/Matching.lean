import LogLens.Proofs.Condition.Parentheses

/-!
# When outer parentheses match each other

The parenthesis at the beginning of a text is closed at the first position where as many parentheses
were closed as opened. When that position is the last one, the two outer parentheses match each
other, and they come off.

They come off in one more case. The reader counts from the inside and refuses a closing parenthesis
that has no open one before it, but it does not ask whether any are still open at the end. So the
last parenthesis also comes off when it closes another one than the first, and the first is never
closed: of `((a)` the reader goes on with `(a`. With as many closing as opening parentheses this
cannot happen.

Between two positions the count changes by at most one. This is why it cannot pass zero without being
zero at some position, and why it is above zero for as long as the first parenthesis is open.

## Main results

* `depth_pos` — the count is above zero until the first parenthesis is closed.
* `closed_iff_depth_ne_zero` — what the reader counts on the inside, said of the whole text.
* `unwrapped_iff_matching` — when parentheses come off.
* `unwrapped_left_open` — parentheses that do not match each other and come off.
-/

namespace LogLens.Condition

open Text (trim)

/-- The parentheses that are open after the first `k` characters of a text: those that were opened
less those that were closed. -/
def depth (text : List Char) (k : Nat) : Int :=
  ((text.take k).count '(' : Int) - (text.take k).count ')'

/-- The first position in a text up to which as many parentheses are closed as opened. In a text that
begins with a parenthesis this is where that one is closed. -/
def closing? (text : List Char) : Option Nat :=
  (List.range text.length).find? fun i => depth text (i + 1) = 0

/-- A text that begins with a parenthesis which its last character closes. -/
structure Matching (text : List Char) : Prop where
  opens : text.head? = some '('
  closes : closing? text = some (text.length - 1)

/-- A text between two parentheses of which the first is never closed. -/
structure LeftOpen (text : List Char) : Prop where
  opens : text.head? = some '('
  ends : text.getLast? = some ')'
  stays : closing? text = none

/-! ## The count of open parentheses -/

theorem depth_length (text : List Char) :
    depth text text.length = (text.count '(' : Int) - text.count ')' := by
  rw [depth, List.take_length]

/-- One more character opens a parenthesis, closes one or does neither. -/
theorem depth_succ {text : List Char} {k : Nat} {c : Char} (h : text[k]? = some c) :
    depth text (k + 1) = depth text k + if c = '(' then 1 else if c = ')' then -1 else 0 := by
  unfold depth
  rw [List.take_add_one, h, Option.toList_some, List.count_append, List.count_append]
  by_cases hopen : c = '('
  · subst hopen
    have hone : ['('].count '(' = 1 := rfl
    have hnone : ['('].count ')' = 0 := rfl
    rw [hone, hnone, if_pos rfl]
    omega
  · have hopened : [c].count '(' = 0 := List.count_eq_zero.2 (by simpa using Ne.symm hopen)
    rw [hopened, if_neg hopen]
    by_cases hclose : c = ')'
    · subst hclose
      have hone : [')'].count ')' = 1 := rfl
      rw [hone, if_pos rfl]
      omega
    · have hclosed : [c].count ')' = 0 := List.count_eq_zero.2 (by simpa using Ne.symm hclose)
      rw [hclosed, if_neg hclose]
      omega

/-- Behind the end of a text nothing changes. -/
theorem depth_succ_of_length_le {text : List Char} {k : Nat} (h : text.length ≤ k) :
    depth text (k + 1) = depth text k := by
  rw [depth, depth, List.take_of_length_le h, List.take_of_length_le (by omega)]

/-- A character closes one parenthesis at most. -/
theorem depth_le_succ (text : List Char) (k : Nat) : depth text k ≤ depth text (k + 1) + 1 := by
  by_cases hk : k < text.length
  · rw [depth_succ (List.getElem?_eq_getElem hk)]
    split
    · omega
    · split <;> omega
  · rw [depth_succ_of_length_le (by omega)]
    omega

/-- After a parenthesis at the beginning one is open. -/
theorem depth_one {text : List Char} (hopen : text.head? = some '(') : depth text 1 = 1 := by
  rw [List.head?_eq_getElem?] at hopen
  rw [depth_succ hopen, if_pos rfl]
  rfl

/-- The count is above zero until it is zero for the first time. -/
theorem depth_pos {text : List Char} {n : Nat} (hopen : text.head? = some '(')
    (hne : ∀ j < n, depth text (j + 1) ≠ 0) : ∀ j < n, 0 < depth text (j + 1) := by
  intro j
  induction j with
  | zero =>
      intro _
      rw [depth_one hopen]
      decide
  | succ j ih =>
      intro hj
      have hbefore : 0 < depth text (j + 1) := ih (by omega)
      have hstep := depth_le_succ text (j + 1)
      have hzero := hne (j + 1) hj
      omega

/-! ## The position that closes the first parenthesis -/

theorem closing?_eq_some_iff {text : List Char} {i : Nat} :
    closing? text = some i ↔
      i < text.length ∧ depth text (i + 1) = 0 ∧ ∀ j < i, depth text (j + 1) ≠ 0 := by
  rw [closing?, List.find?_range_eq_some]
  simp only [decide_eq_true_eq, List.mem_range, Bool.not_eq_true', decide_eq_false_iff_not]
  constructor
  · rintro ⟨hzero, hlt, hbefore⟩
    exact ⟨hlt, hzero, hbefore⟩
  · rintro ⟨hlt, hzero, hbefore⟩
    exact ⟨hzero, hlt, hbefore⟩

theorem closing?_eq_none_iff {text : List Char} :
    closing? text = none ↔ ∀ j < text.length, depth text (j + 1) ≠ 0 := by
  rw [closing?, List.find?_range_eq_none]
  simp only [Bool.not_eq_true', decide_eq_false_iff_not]

/-- The first parenthesis is open before the last character when it is closed there or never. -/
theorem depth_ne_zero_iff {text : List Char} :
    (∀ j < text.length - 1, depth text (j + 1) ≠ 0) ↔
      closing? text = some (text.length - 1) ∨ closing? text = none := by
  constructor
  · intro h
    cases hclosing : closing? text with
    | none => exact .inr rfl
    | some i =>
        obtain ⟨hlt, hzero, -⟩ := closing?_eq_some_iff.1 hclosing
        have hlast : i = text.length - 1 := by
          by_contra hne
          exact h i (by omega) hzero
        exact .inl (by rw [hlast])
  · rintro (hlast | hnone) j hj
    · obtain ⟨-, -, hbefore⟩ := closing?_eq_some_iff.1 hlast
      exact hbefore j hj
    · exact closing?_eq_none_iff.1 hnone j (by omega)

/-! ## The inside of the parentheses -/

/-- On the inside of two parentheses one more is open. -/
theorem depth_enclosed {inner : List Char} {k : Nat} (hk : k ≤ inner.length) :
    depth (enclosed inner) (k + 1) = depth inner k + 1 := by
  have htake : (enclosed inner).take (k + 1) = '(' :: inner.take k := by
    show '(' :: (inner ++ [')']).take k = '(' :: inner.take k
    rw [List.take_append_of_le_length hk]
  have hclose : ('(' :: inner.take k).count ')' = (inner.take k).count ')' :=
    List.count_cons_of_ne (by decide)
  rw [depth, htake, hclose, List.count_cons_self, depth]
  omega

/-- No beginning closes more parentheses than it opens when the count is never below zero. -/
theorem closed_iff_depth {text : List Char} :
    Closed text ↔ ∀ k ≤ text.length, 0 ≤ depth text k := by
  constructor
  · intro h k _
    have hcount := h (text.take k) (List.take_prefix k text)
    show 0 ≤ ((text.take k).count '(' : Int) - (text.take k).count ')'
    omega
  · intro h start hstart
    have hdepth := h start.length hstart.length_le
    rw [depth, ← List.prefix_iff_eq_take.1 hstart] at hdepth
    omega

/-- What is counted on the inside, from zero, and in the whole text, from the first parenthesis. -/
theorem closed_iff_depth_ne_zero {inner : List Char} :
    Closed inner ↔
      ∀ j < (enclosed inner).length - 1, depth (enclosed inner) (j + 1) ≠ 0 := by
  have hlength : (enclosed inner).length - 1 = inner.length + 1 := by
    simp [enclosed]
  rw [hlength, closed_iff_depth]
  constructor
  · intro h j hj
    have hinside := h j (by omega)
    rw [depth_enclosed (by omega)]
    omega
  · intro h k hk
    -- the first parenthesis is still open after the first k + 1 characters
    have hpos := depth_pos rfl h k (by omega)
    rw [depth_enclosed hk] at hpos
    omega

/-- Outer parentheses come off when the first one is closed by the last one or by none. -/
theorem unwrapped?_enclosed_iff {inner : List Char} :
    unwrapped? (enclosed inner) = some inner ↔
      closing? (enclosed inner) = some ((enclosed inner).length - 1) ∨
        closing? (enclosed inner) = none := by
  rw [← depth_ne_zero_iff, ← closed_iff_depth_ne_zero, unwrapped?_enclosed]
  by_cases h : Closed inner
  · simp [h]
  · simp [h]

/-! ## Matching parentheses -/

/-- A character after which the count is lower closes a parenthesis. -/
theorem eq_close_of_depth_lt {text : List Char} {k : Nat} (h : depth text (k + 1) < depth text k) :
    text[k]? = some ')' := by
  by_cases hk : k < text.length
  · have hc : text[k]? = some text[k] := List.getElem?_eq_getElem hk
    rw [depth_succ hc] at h
    rw [hc]
    by_cases hclose : text[k] = ')'
    · rw [hclose]
    · rw [if_neg hclose] at h
      split at h <;> omega
  · rw [depth_succ_of_length_le (by omega)] at h
    omega

/-- The parenthesis that closes the first one is a closing one. -/
theorem Matching.ends {text : List Char} (h : Matching text) : text.getLast? = some ')' := by
  obtain ⟨hlt, hzero, hbefore⟩ := closing?_eq_some_iff.1 h.closes
  rw [List.getLast?_eq_getElem?]
  apply eq_close_of_depth_lt
  rw [hzero]
  cases hlast : text.length - 1 with
  | zero =>
      -- the only character is the parenthesis that opens
      rw [hlast, depth_one h.opens] at hzero
      cases hzero
  | succ m => exact depth_pos h.opens hbefore m (by omega)

/-- A text that begins and ends with a parenthesis has its inside between them. -/
theorem exists_inside {text : List Char} (hopen : text.head? = some '(')
    (hend : text.getLast? = some ')') : ∃ inner, text = enclosed inner := by
  obtain ⟨cs, rfl⟩ := List.head?_eq_some_iff.1 hopen
  cases cs using List.reverseRecOn with
  | nil => cases hend
  | append_singleton ds d =>
      rw [← List.cons_append, List.getLast?_concat] at hend
      obtain rfl := Option.some.inj hend
      exact ⟨ds, rfl⟩

theorem inside_enclosed (inner : List Char) : (enclosed inner).tail.dropLast = inner := by
  show (inner ++ [')']).dropLast = inner
  exact List.dropLast_concat

/-- What comes off is the one of the two kinds of parentheses or the other. -/
theorem unwrapped?_eq_some_iff {text inner : List Char} :
    unwrapped? text = some inner ↔
      (Matching text ∨ LeftOpen text) ∧ inner = text.tail.dropLast := by
  constructor
  · intro h
    obtain rfl : text = enclosed inner := unwrapped?_eq_some h
    have hopen : (enclosed inner).head? = some '(' := rfl
    have hend : (enclosed inner).getLast? = some ')' := List.getLast?_concat
    refine ⟨?_, (inside_enclosed inner).symm⟩
    cases unwrapped?_enclosed_iff.1 h with
    | inl hlast => exact .inl ⟨hopen, hlast⟩
    | inr hnone => exact .inr ⟨hopen, hend, hnone⟩
  · rintro ⟨hkind, rfl⟩
    have hopen : text.head? = some '(' := hkind.elim Matching.opens LeftOpen.opens
    have hend : text.getLast? = some ')' := hkind.elim Matching.ends LeftOpen.ends
    have hclosing : closing? text = some (text.length - 1) ∨ closing? text = none :=
      hkind.imp Matching.closes LeftOpen.stays
    obtain ⟨inner, rfl⟩ := exists_inside hopen hend
    rw [inside_enclosed]
    exact unwrapped?_enclosed_iff.2 hclosing

/-- Parentheses that match each other leave none open. -/
theorem Matching.count_eq {text : List Char} (h : Matching text) :
    text.count '(' = text.count ')' := by
  obtain ⟨hlt, hzero, -⟩ := closing?_eq_some_iff.1 h.closes
  rw [Nat.sub_add_cancel (by omega), depth_length] at hzero
  omega

/-- Where the first parenthesis is never closed, more are opened than closed. -/
theorem LeftOpen.count_ne {text : List Char} (h : LeftOpen text) :
    text.count '(' ≠ text.count ')' := by
  intro hcount
  obtain ⟨cs, rfl⟩ := List.head?_eq_some_iff.1 h.opens
  have hlast := closing?_eq_none_iff.1 h.stays cs.length (by simp)
  apply hlast
  show depth ('(' :: cs) ('(' :: cs).length = 0
  rw [depth_length]
  omega

/-- **Outer parentheses come off when they match each other, or when the first is never closed.**
The inside of a text is taken exactly when the text begins with a parenthesis and the one that closes
it is the last character, or when the text is between two parentheses and nothing closes the first.
The two cases are told apart by the numbers of parentheses: those that come off match each other
exactly when the text closes as many as it opens. -/
theorem unwrapped_iff_matching (text : List Char) :
    (∀ inner, unwrapped? text = some inner ↔
      (Matching text ∨ LeftOpen text) ∧ inner = text.tail.dropLast) ∧
    (Matching text ↔ (unwrapped? text).isSome ∧ text.count '(' = text.count ')') := by
  refine ⟨fun inner => unwrapped?_eq_some_iff, ?_⟩
  constructor
  · intro hmatching
    have hunwrapped : unwrapped? text = some text.tail.dropLast :=
      unwrapped?_eq_some_iff.2 ⟨.inl hmatching, rfl⟩
    exact ⟨Option.isSome_of_eq_some hunwrapped, hmatching.count_eq⟩
  · rintro ⟨hsome, hcount⟩
    obtain ⟨inner, hunwrapped⟩ := Option.isSome_iff_exists.1 hsome
    obtain ⟨hmatching | hopen, -⟩ := unwrapped?_eq_some_iff.1 hunwrapped
    · exact hmatching
    · exact absurd hcount hopen.count_ne

/-- One parenthesis too many at the beginning. The last one closes the second, and the first and the
last come off all the same. -/
theorem unwrapped_left_open :
    let text := "((a == b)"
    ¬Matching text.toList ∧ unwrapped? text.toList = some "(a == b".toList ∧
      ofText text = .ok (.equals (.constant "(a") (.constant "b")) := by
  intro text
  have hnever : closing? text.toList = none := by decide +kernel
  have hunwrapped : unwrapped? text.toList = some "(a == b".toList := by decide +kernel
  refine ⟨?_, hunwrapped, ?_⟩
  · intro hmatching
    rw [hmatching.closes] at hnever
    cases hnever
  · have htrim : trim text.toList = text.toList := by decide +kernel
    have hinside : unwrapped? (trim text.toList) = some "(a == b".toList := by
      rw [htrim, hunwrapped]
    rw [ofText, read_unwrapped hinside, read_single ⟨by decide +kernel, by decide +kernel⟩
      (by decide +kernel) (by decide +kernel)]
    rfl

end LogLens.Condition
