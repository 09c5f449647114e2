import LogLens.Text.Blank
import Mathlib.Data.List.Induction

/-!
# Trimming

Trimming at the two ends is independent: it makes no difference which end is trimmed first, nor
whether an end is trimmed again. What is left begins with the first character of the text that is
not blank, and a text whose ends are not blank is left as it is.

## Main results

* `trim_trimStart`, `trim_trimEnd`, `trim_trim` — trimming once is enough.
* `head?_trim`, `infix_trim` — the first character that is left, and all that is left.
* `trim_eq_self_iff`, `trim_padded` — texts that are trimmed already, and blanks around a text.
* `apply_trim` — what blank characters at the ends do not change, trimming does not.
-/

namespace LogLens.Text

variable {c : Char} {cs : List Char}

theorem trimStart_cons_of_blank (h : isBlank c = true) (cs : List Char) :
    trimStart (c :: cs) = trimStart cs := by
  rw [trimStart, if_pos h]

theorem trimStart_cons_of_not_blank (h : isBlank c = false) (cs : List Char) :
    trimStart (c :: cs) = c :: cs := by
  simp [trimStart, h]

theorem trimEnd_cons_of_not_blank (h : isBlank c = false) (cs : List Char) :
    trimEnd (c :: cs) = c :: trimEnd cs := by
  rw [trimEnd]
  split
  · next hrest => simp [h, hrest]
  · next hrest => rw [hrest]

/-- A character at the end that is not blank stops the trimming. -/
theorem trimEnd_append_of_not_blank (h : isBlank c = false) (cs : List Char) :
    trimEnd (cs ++ [c]) = cs ++ [c] := by
  induction cs with
  | nil => simp [trimEnd, h]
  | cons d ds ih =>
      rw [List.cons_append, trimEnd, ih]
      cases ds <;> rfl

/-! ## Trimming again -/

theorem trimStart_trimStart (cs : List Char) : trimStart (trimStart cs) = trimStart cs := by
  cases h : trimStart cs with
  | nil => rfl
  | cons c rest => exact trimStart_cons_of_not_blank (trimStart_not_blank h) rest

theorem trimEnd_trimEnd (cs : List Char) : trimEnd (trimEnd cs) = trimEnd cs := by
  induction cs with
  | nil => rfl
  | cons c cs ih =>
      cases h : trimEnd cs with
      | nil =>
          rw [trimEnd, h]
          cases hc : isBlank c <;> simp [trimEnd, hc]
      | cons d ds =>
          rw [h] at ih
          rw [trimEnd, h]
          simp only
          rw [trimEnd, ih]

/-- The two ends are trimmed in either order. -/
theorem trimStart_trimEnd (cs : List Char) : trimStart (trimEnd cs) = trimEnd (trimStart cs) := by
  induction cs with
  | nil => rfl
  | cons c cs ih =>
      cases hc : isBlank c with
      | false =>
          rw [trimEnd_cons_of_not_blank hc, trimStart_cons_of_not_blank hc,
            trimStart_cons_of_not_blank hc, trimEnd_cons_of_not_blank hc]
      | true =>
          rw [trimStart_cons_of_blank hc, ← ih, trimEnd]
          cases h : trimEnd cs with
          | nil => simp [hc, trimStart]
          | cons d ds => exact trimStart_cons_of_blank hc (d :: ds)

@[simp] theorem trim_trimStart (cs : List Char) : trim (trimStart cs) = trim cs := by
  rw [trim, trim, trimStart_trimStart]

@[simp] theorem trim_trimEnd (cs : List Char) : trim (trimEnd cs) = trim cs := by
  rw [trim, trimStart_trimEnd, trimEnd_trimEnd, trim]

@[simp] theorem trim_trim (cs : List Char) : trim (trim cs) = trim cs := by
  rw [trim.eq_1 cs, trim_trimEnd, trim_trimStart, trim]

/-! ## What is left -/

theorem trim_cons_of_blank (h : isBlank c = true) (cs : List Char) : trim (c :: cs) = trim cs := by
  rw [trim, trimStart_cons_of_blank h, trim]

theorem trim_append_blank (h : isBlank c = true) (cs : List Char) : trim (cs ++ [c]) = trim cs := by
  rw [trim, ← trimStart_trimEnd, trimEnd_append_blank cs h, trimStart_trimEnd, trim]

/-- A text between two characters that are not blank has nothing to trim. -/
theorem trim_of_not_blank {d : Char} (hc : isBlank c = false) (hd : isBlank d = false)
    (cs : List Char) : trim (c :: cs ++ [d]) = c :: cs ++ [d] := by
  rw [trim, List.cons_append, trimStart_cons_of_not_blank hc, ← List.cons_append,
    trimEnd_append_of_not_blank hd]

/-- What is left begins with the first character that is not blank. -/
theorem head?_trim (cs : List Char) : (trim cs).head? = cs.find? fun c => !isBlank c := by
  induction cs with
  | nil => rfl
  | cons c cs ih =>
      cases hc : isBlank c with
      | true => rw [trim_cons_of_blank hc, ih, List.find?_cons_of_neg (by simp [hc])]
      | false =>
          rw [trim, trimStart_cons_of_not_blank hc, trimEnd_cons_of_not_blank hc, List.head?_cons,
            List.find?_cons_of_pos (by simp [hc])]

/-! ## Texts without blank ends -/

/-- Nothing is left of a text exactly when all of its characters are blank. -/
theorem trim_eq_nil_iff : trim cs = [] ↔ ∀ c ∈ cs, isBlank c = true := by
  rw [← List.head?_eq_none_iff, head?_trim, List.find?_eq_none]
  simp

theorem trimStart_eq_self_iff : trimStart cs = cs ↔ ∀ c, cs.head? = some c → isBlank c = false := by
  cases cs with
  | nil => simp [trimStart]
  | cons c cs =>
      rw [List.head?_cons]
      constructor
      · rintro h _ ⟨⟩
        exact trimStart_not_blank h
      · intro h
        exact trimStart_cons_of_not_blank (h c rfl) cs

theorem trimEnd_eq_self_iff : trimEnd cs = cs ↔ ∀ c, cs.getLast? = some c → isBlank c = false := by
  induction cs using List.reverseRecOn with
  | nil => simp [trimEnd]
  | append_singleton cs c ih =>
      rw [List.getLast?_concat]
      cases hc : isBlank c with
      | false => simp [trimEnd_append_of_not_blank hc, hc]
      | true =>
          have hlength := trimEnd_length_le cs
          have hne : trimEnd cs ≠ cs ++ [c] := by
            intro h
            rw [h, List.length_append, List.length_singleton] at hlength
            omega
          simp [trimEnd_append_blank cs hc, hne, hc]

/-- A text is trimmed already when its first and its last character are not blank. -/
theorem trim_eq_self_iff :
    trim cs = cs ↔
      (∀ c, cs.head? = some c → isBlank c = false) ∧
        ∀ c, cs.getLast? = some c → isBlank c = false := by
  rw [← trimStart_eq_self_iff, ← trimEnd_eq_self_iff]
  constructor
  · intro h
    constructor
    · rw [← h, trim, ← trimStart_trimEnd, trimStart_trimStart]
    · rw [← h, trim, trimEnd_trimEnd]
  · rintro ⟨hstart, hend⟩
    rw [trim, hstart, hend]

theorem suffix_trimStart (cs : List Char) : trimStart cs <:+ cs := by
  fun_induction trimStart cs with
  | case1 => exact List.suffix_rfl
  | case2 c cs h ih => exact ih.trans (List.suffix_cons c cs)
  | case3 c cs h => exact List.suffix_rfl

theorem prefix_trimEnd (cs : List Char) : trimEnd cs <+: cs := by
  induction cs using List.reverseRecOn with
  | nil => exact List.prefix_rfl
  | append_singleton cs c ih =>
      cases hc : isBlank c with
      | true =>
          rw [trimEnd_append_blank cs hc]
          exact ih.trans (List.prefix_append cs [c])
      | false =>
          have hwhole : trimEnd (cs ++ [c]) = cs ++ [c] := trimEnd_append_of_not_blank hc cs
          exact ⟨[], by rw [hwhole, List.append_nil]⟩

/-- What is left is a piece of the text. -/
theorem infix_trim (cs : List Char) : trim cs <:+: cs :=
  (prefix_trimEnd (trimStart cs)).isInfix.trans (suffix_trimStart cs).isInfix

/-- What stands between two trimmed texts is not trimmed. -/
theorem trim_between {first last : List Char} (hfirst : trim first = first) (hne : first ≠ [])
    (hlast : trim last = last) (hne' : last ≠ []) (cs : List Char) :
    trim (first ++ cs ++ last) = first ++ cs ++ last := by
  refine trim_eq_self_iff.2 ⟨fun c hc => ?_, fun c hc => ?_⟩
  · refine (trim_eq_self_iff.1 hfirst).1 c ?_
    rw [List.append_assoc, List.head?_append, List.head?_eq_some_head hne, Option.some_or] at hc
    rw [List.head?_eq_some_head hne, hc]
  · refine (trim_eq_self_iff.1 hlast).2 c ?_
    rw [List.getLast?_append, List.getLast?_eq_some_getLast hne', Option.some_or] at hc
    rw [List.getLast?_eq_some_getLast hne', hc]

/-- Blank characters around a text are trimmed away. -/
theorem trim_padded {before after : List Char} (hbefore : ∀ c ∈ before, isBlank c = true)
    (hafter : ∀ c ∈ after, isBlank c = true) (cs : List Char) :
    trim (before ++ cs ++ after) = trim cs := by
  have hend : ∀ text, trim (text ++ after) = trim text := by
    intro text
    induction after using List.reverseRecOn with
    | nil => rw [List.append_nil]
    | append_singleton after c ih =>
        rw [List.forall_mem_append, List.forall_mem_singleton] at hafter
        rw [← List.append_assoc, trim_append_blank hafter.2, ih hafter.1]
  rw [hend]
  induction before with
  | nil => rfl
  | cons c before ih =>
      rw [List.forall_mem_cons] at hbefore
      rw [List.cons_append, trim_cons_of_blank hbefore.1, ih hbefore.2]

theorem not_blank_of_isAlpha (h : c.isAlpha = true) : isBlank c = false := by
  have hrange : 65 ≤ c.toNat ∧ c.toNat ≤ 122 := by
    rcases Bool.or_eq_true_iff.1 h with hupper | hlower
    · obtain ⟨hge, hle⟩ := of_decide_eq_true hupper
      exact ⟨UInt32.le_iff_toNat_le.1 hge, Nat.le_trans (UInt32.le_iff_toNat_le.1 hle) (by decide)⟩
    · obtain ⟨hge, hle⟩ := Bool.and_eq_true_iff.1 hlower
      exact ⟨Nat.le_trans (by decide) (UInt32.le_iff_toNat_le.1 (of_decide_eq_true hge)),
        UInt32.le_iff_toNat_le.1 (of_decide_eq_true hle)⟩
  by_contra hblank
  rw [Bool.not_eq_false] at hblank
  simp [isBlank] at hblank
  omega

section Apply

variable {α : Type} {f : List Char → α}

theorem apply_trimStart (hstart : ∀ c cs, isBlank c = true → f (c :: cs) = f cs)
    (cs : List Char) : f (trimStart cs) = f cs := by
  fun_induction trimStart cs with
  | case1 => rfl
  | case2 c cs h ih => rw [ih, hstart c cs h]
  | case3 c cs h => rfl

theorem apply_trimEnd (hend : ∀ c cs, isBlank c = true → f (cs ++ [c]) = f cs)
    (cs : List Char) : f (trimEnd cs) = f cs := by
  induction cs using List.reverseRecOn with
  | nil => rfl
  | append_singleton cs c ih =>
      cases hc : isBlank c with
      | true => rw [trimEnd_append_blank cs hc, ih, hend c cs hc]
      | false => rw [trimEnd_append_of_not_blank hc]

/-- What blank characters at the two ends do not change, trimming does not change. -/
theorem apply_trim (hstart : ∀ c cs, isBlank c = true → f (c :: cs) = f cs)
    (hend : ∀ c cs, isBlank c = true → f (cs ++ [c]) = f cs) (cs : List Char) :
    f (trim cs) = f cs := by
  rw [trim, apply_trimEnd hend, apply_trimStart hstart]

/-- Trimming takes no character away that is not blank. -/
theorem mem_trim_iff (h : isBlank c = false) : c ∈ trim cs ↔ c ∈ cs := by
  have hother : ∀ d, isBlank d = true → c ≠ d := by
    rintro d hd rfl
    rw [h] at hd
    cases hd
  have hend : ∀ d cs, isBlank d = true → (c ∈ cs ++ [d]) = (c ∈ cs) := by
    intro d cs hd
    simp [hother d hd]
  have hstart : ∀ d cs, isBlank d = true → (c ∈ d :: cs) = (c ∈ cs) := by
    intro d cs hd
    simp [hother d hd]
  exact Eq.to_iff (apply_trim hstart hend cs)

end Apply

end LogLens.Text
