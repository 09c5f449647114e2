import LogLens.Proofs.Text.Blank
import LogLens.Text.Cut

/-!
# First occurrences and all occurrences

`cutAt?` cuts a text at the first occurrence of a mark. A character that is not part of the mark
keeps occurrences on its two sides apart, so such a character can be added anywhere and the cut is
found side by side; in particular trimming a text trims the two sides of its cut.

`parts` takes a text apart at all occurrences of a mark of two characters, from left to right and
without overlap, in one pass. Cutting at the first occurrence again and again gives the same parts.

## Main results

* `cutAt?_eq_none_iff`, `cutAt?_eq_some_iff` — a cut is made at the first place of the mark.
* `cutAt?_append_cons`, `cutAt?_trim` — characters outside of the mark.
* `cutAt?_singleton_eq_some_iff`, `append_cons_inj`, `pieces_eq_splitOn` — marks of one character.
* `parts_of_cutAt?_eq_none`, `parts_of_cutAt?_eq_some` — the parts from the first cut.
* `occurrences_append_le`, `occurrences_of_cutAt?` — how often a mark of two characters occurs.
-/

namespace LogLens.Text

variable {mark text left right : List Char}

/-! ## First occurrences -/

theorem dropStart?_eq_none_iff : dropStart? mark text = none ↔ ¬mark <+: text := by
  rw [Option.eq_none_iff_forall_ne_some]
  constructor
  · rintro h ⟨rest, rfl⟩
    exact h rest (dropStart?_eq_some_iff.2 rfl)
  · intro h rest hrest
    exact h ⟨rest, (dropStart?_eq_some_iff.1 hrest).symm⟩

theorem dropEnd?_append_singleton (c : Char) (text : List Char) :
    dropEnd? c (text ++ [c]) = some text := by
  induction text with
  | nil => simp [dropEnd?]
  | cons d ds ih =>
      rw [List.cons_append]
      cases hrest : ds ++ [c] with
      | nil => simp at hrest
      | cons e es => rw [dropEnd?, ← hrest, ih, Option.map_some]

/-- There is no cut when the mark does not occur. -/
theorem cutAt?_eq_none_iff : cutAt? mark text = none ↔ ¬mark <:+: text := by
  induction text with
  | nil => cases mark <;> simp [cutAt?]
  | cons c cs ih =>
      rw [cutAt?, List.infix_cons_iff, not_or, ← ih, ← dropStart?_eq_none_iff]
      cases dropStart? mark (c :: cs) <;> simp

theorem cutAt?_nil (hmark : mark ≠ []) : cutAt? mark [] = none :=
  cutAt?_eq_none_iff.2 (by simpa using hmark)

/-- There is no cut in a part of a text that has none. -/
theorem cutAt?_eq_none_of_infix {piece : List Char} (hpiece : piece <:+: text)
    (h : cutAt? mark text = none) : cutAt? mark piece = none :=
  cutAt?_eq_none_iff.2 fun hmark => cutAt?_eq_none_iff.1 h (hmark.trans hpiece)

/-- `left` and `right` are the two sides of the first occurrence of `mark` in `text`. -/
structure FirstAt (mark text left right : List Char) : Prop where
  text_eq : text = left ++ mark ++ right
  first : ∀ l r, text = l ++ mark ++ r → left.length ≤ l.length

theorem firstAt_of_cutAt? (h : cutAt? mark text = some (left, right)) :
    FirstAt mark text left right := by
  refine ⟨cutAt?_eq_some h, ?_⟩
  induction text generalizing left with
  | nil =>
      intro l r _
      have hlength := cutAt?_length h
      rw [List.length_nil] at hlength
      omega
  | cons c cs ih =>
      intro l r htext
      rw [cutAt?] at h
      split at h
      · cases h
        exact Nat.zero_le _
      · next hstart =>
          obtain ⟨⟨l', r'⟩, hcut, heq⟩ := Option.map_eq_some_iff.1 h
          cases heq
          cases l with
          | nil => exact absurd ⟨r, htext.symm⟩ (dropStart?_eq_none_iff.1 hstart)
          | cons d ds =>
              rw [List.cons_append, List.cons_append, List.cons.injEq] at htext
              exact Nat.succ_le_succ (ih hcut ds r htext.2)

/-- The cut is at the first occurrence. -/
theorem cutAt?_eq_some_iff :
    cutAt? mark text = some (left, right) ↔ FirstAt mark text left right := by
  refine ⟨firstAt_of_cutAt?, fun h => ?_⟩
  cases hcut : cutAt? mark text with
  | none => exact absurd ⟨left, right, h.text_eq.symm⟩ (cutAt?_eq_none_iff.1 hcut)
  | some sides =>
      obtain ⟨l, r⟩ := sides
      have hfirst := firstAt_of_cutAt? hcut
      have hlength : l.length = left.length :=
        Nat.le_antisymm (hfirst.first _ _ h.text_eq) (h.first _ _ hfirst.text_eq)
      have htext : l ++ mark ++ r = left ++ mark ++ right :=
        hfirst.text_eq.symm.trans h.text_eq
      obtain ⟨hmark, rfl⟩ := List.append_inj htext (by simp [hlength])
      obtain ⟨rfl, -⟩ := List.append_inj hmark hlength
      rfl

theorem cutAt?_of_dropStart? (h : dropStart? mark text = some right) :
    cutAt? mark text = some ([], right) := by
  cases text with
  | nil =>
      cases mark with
      | nil => exact congrArg (fun rest => some ([], rest)) (Option.some.inj h)
      | cons m ms => cases h
  | cons c cs => rw [cutAt?, h]

/-! ## Characters outside of the mark -/

section Outside

variable {c : Char}

theorem dropStart?_append_cons (hc : c ∉ mark) (before after : List Char) :
    dropStart? mark (before ++ c :: after) =
      (dropStart? mark before).map fun rest => rest ++ c :: after := by
  induction mark generalizing before with
  | nil => simp [dropStart?]
  | cons m ms ih =>
      have hm : m ≠ c := fun h => hc (h ▸ List.mem_cons_self)
      have hms : c ∉ ms := fun h => hc (List.mem_cons_of_mem m h)
      cases before with
      | nil => simp [dropStart?, hm]
      | cons d ds =>
          rw [List.cons_append, dropStart?, dropStart?, ih hms]
          split <;> rfl

/-- A character outside of the mark keeps what is before it and what is after it apart. -/
theorem cutAt?_append_cons (hmark : mark ≠ []) (hc : c ∉ mark) (before after : List Char) :
    cutAt? mark (before ++ c :: after) =
      ((cutAt? mark before).map fun s => (s.1, s.2 ++ c :: after)).or
        ((cutAt? mark after).map fun s => (before ++ c :: s.1, s.2)) := by
  induction before with
  | nil =>
      have hstart : dropStart? mark (c :: after) = none := by
        rw [← List.nil_append (c :: after), dropStart?_append_cons hc]
        cases mark with
        | nil => exact absurd rfl hmark
        | cons m ms => rfl
      rw [cutAt?_nil hmark, List.nil_append, cutAt?, hstart]
      rfl
  | cons d ds ih =>
      have hstart := dropStart?_append_cons hc (d :: ds) after
      rw [List.cons_append] at hstart ⊢
      rw [cutAt?, cutAt?, hstart, ih]
      cases dropStart? mark (d :: ds) with
      | some rest => rfl
      | none =>
          cases cutAt? mark ds with
          | some sides => rfl
          | none => cases cutAt? mark after <;> rfl

theorem cutAt?_cons (hmark : mark ≠ []) (hc : c ∉ mark) (after : List Char) :
    cutAt? mark (c :: after) = (cutAt? mark after).map fun s => (c :: s.1, s.2) := by
  have h := cutAt?_append_cons hmark hc [] after
  rwa [cutAt?_nil hmark] at h

theorem cutAt?_append_singleton (hmark : mark ≠ []) (hc : c ∉ mark) (before : List Char) :
    cutAt? mark (before ++ [c]) = (cutAt? mark before).map fun s => (s.1, s.2 ++ [c]) := by
  rw [cutAt?_append_cons hmark hc, cutAt?_nil hmark, Option.map_none, Option.or_none]

end Outside

section Trimming

theorem not_mem_of_blank {c : Char} (hblank : mark.any isBlank = false)
    (h : isBlank c = true) : c ∉ mark :=
  fun hmem => List.any_eq_false.1 hblank c hmem h

variable (hmark : mark ≠ []) (hblank : mark.any isBlank = false)
include hmark hblank

theorem cutAt?_trimStart (text : List Char) :
    cutAt? mark (trimStart text) = (cutAt? mark text).map fun s => (trimStart s.1, s.2) := by
  induction text with
  | nil => cases mark <;> simp [trimStart, cutAt?]
  | cons c cs ih =>
      cases hc : isBlank c with
      | true =>
          rw [trimStart_cons_of_blank hc, ih,
            cutAt?_cons hmark (not_mem_of_blank hblank hc)]
          cases cutAt? mark cs with
          | none => rfl
          | some sides => simp [trimStart_cons_of_blank hc]
      | false =>
          rw [trimStart_cons_of_not_blank hc]
          -- What comes before the cut is empty or begins with the same character.
          cases hcut : cutAt? mark (c :: cs) with
          | none => rfl
          | some sides =>
              obtain ⟨l, r⟩ := sides
              cases l with
              | nil => rfl
              | cons d ds =>
                  have htext := cutAt?_eq_some hcut
                  rw [List.cons_append, List.cons_append, List.cons.injEq] at htext
                  rw [← htext.1]
                  simp [trimStart_cons_of_not_blank hc]

theorem cutAt?_trimEnd (text : List Char) :
    cutAt? mark (trimEnd text) = (cutAt? mark text).map fun s => (s.1, trimEnd s.2) := by
  induction text using List.reverseRecOn with
  | nil => cases mark <;> simp [trimEnd, cutAt?]
  | append_singleton cs c ih =>
      cases hc : isBlank c with
      | true =>
          rw [trimEnd_append_blank cs hc, ih,
            cutAt?_append_singleton hmark (not_mem_of_blank hblank hc)]
          cases cutAt? mark cs with
          | none => rfl
          | some sides => simp [trimEnd_append_blank _ hc]
      | false =>
          rw [trimEnd_append_of_not_blank hc]
          -- What comes after the cut is empty or ends with the same character.
          cases hcut : cutAt? mark (cs ++ [c]) with
          | none => rfl
          | some sides =>
              obtain ⟨l, r⟩ := sides
              cases r using List.reverseRecOn with
              | nil => rfl
              | append_singleton ds d =>
                  have hlast := congrArg List.getLast? (cutAt?_eq_some hcut)
                  rw [← List.append_assoc, List.getLast?_concat, List.getLast?_concat,
                    Option.some.injEq] at hlast
                  rw [← hlast, Option.map_some, trimEnd_append_of_not_blank hc]

/-- Trimming a text trims the two sides of its cut. -/
theorem cutAt?_trim (text : List Char) :
    cutAt? mark (trim text) = (cutAt? mark text).map fun s => (trimStart s.1, trimEnd s.2) := by
  rw [trim, cutAt?_trimEnd hmark hblank, cutAt?_trimStart hmark hblank, Option.map_map]
  rfl

end Trimming

/-! ## Marks of one character -/

section Single

variable {mark : Char} {text left right : List Char}

theorem cutAt?_singleton_eq_none_iff : cutAt? [mark] text = none ↔ mark ∉ text := by
  rw [cutAt?_eq_none_iff, List.mem_iff_append]
  simp [List.IsInfix, eq_comm]

theorem cutAt?_singleton_append (h : mark ∉ left) (right : List Char) :
    cutAt? [mark] (left ++ mark :: right) = some (left, right) := by
  induction left with
  | nil => simp [cutAt?, dropStart?]
  | cons c left ih =>
      rw [List.mem_cons, not_or] at h
      simp [cutAt?, dropStart?, h.1, ih h.2]

/-- There is one way to read a text as what comes before the first place of a mark and what comes
after it. -/
theorem append_cons_inj {left' right' : List Char} (h : mark ∉ left) (h' : mark ∉ left')
    (heq : left ++ mark :: right = left' ++ mark :: right') : left = left' ∧ right = right' := by
  have hcut := cutAt?_singleton_append h right
  rw [heq, cutAt?_singleton_append h' right'] at hcut
  cases hcut
  exact ⟨rfl, rfl⟩

/-- A mark of one character is not in what comes before its first occurrence. -/
theorem cutAt?_singleton_eq_some_iff :
    cutAt? [mark] text = some (left, right) ↔ text = left ++ mark :: right ∧ mark ∉ left := by
  constructor
  · intro h
    have hmem : mark ∈ text := by
      by_contra hmem
      rw [cutAt?_singleton_eq_none_iff.2 hmem] at h
      cases h
    obtain ⟨before, after, rfl, hbefore⟩ := List.eq_append_cons_of_mem hmem
    rw [cutAt?_singleton_append hbefore] at h
    cases h
    exact ⟨rfl, hbefore⟩
  · rintro ⟨rfl, hleft⟩
    exact cutAt?_singleton_append hleft right

/-- All pieces between the occurrences of a character. -/
theorem pieces_eq_splitOn (mark : Char) (text : List Char) :
    pieces mark text = text.splitOn mark := by
  induction text with
  | nil => rfl
  | cons c cs ih =>
      rw [pieces, ih, List.splitOn_cons_eq_if_modifyHead]
      by_cases h : c = mark
      · simp [h]
      · obtain ⟨p, ps, hsplit⟩ := List.exists_cons_of_ne_nil (List.splitOn_ne_nil mark cs)
        simp [h, hsplit]

end Single

/-! ## All occurrences -/

/-- The parts of a text between the occurrences of the mark `m`, `n`, from left to right and without
overlap. -/
def parts (m n : Char) : List Char → List (List Char)
  | [] => [[]]
  | [c] => [[c]]
  | c :: d :: cs =>
    if c = m ∧ d = n then [] :: parts m n cs else (parts m n (d :: cs)).modifyHead (c :: ·)

/-- Only the first two of three ampersands are a mark. -/
example : parts '&' '&' ['a', '&', '&', '&', '&', '&', 'b'] = [['a'], [], ['&', 'b']] := by decide

section Parts

variable {m n : Char}

/-- The parts of a text are the whole of it, or what comes before its first cut and the parts of
what comes after. -/
theorem parts_eq (m n : Char) (text : List Char) :
    parts m n text =
      match cutAt? [m, n] text with
      | none => [text]
      | some (left, right) => left :: parts m n right := by
  fun_induction parts m n text with
  | case1 => rfl
  | case2 c => by_cases h : m = c <;> simp [cutAt?, dropStart?, h]
  | case3 c d cs h =>
      obtain ⟨rfl, rfl⟩ := h
      simp [cutAt?, dropStart?]
  | case4 c d cs h ih =>
      have hstart : dropStart? [m, n] (c :: d :: cs) = none := by
        simp only [dropStart?]
        grind
      rw [cutAt?, hstart, ih]
      cases cutAt? [m, n] (d :: cs) <;> rfl

theorem parts_of_cutAt?_eq_none (h : cutAt? [m, n] text = none) : parts m n text = [text] := by
  rw [parts_eq, h]

theorem parts_of_cutAt?_eq_some (h : cutAt? [m, n] text = some (left, right)) :
    parts m n text = left :: parts m n right := by
  rw [parts_eq, h]

/-- What holds of the texts without the mark, and of a text when it holds of what comes after its
first cut, holds of every text. -/
theorem cutInduction {P : List Char → Prop} (m n : Char)
    (whole : ∀ text, cutAt? [m, n] text = none → P text)
    (cut : ∀ text left right, cutAt? [m, n] text = some (left, right) → P right → P text)
    (text : List Char) : P text := by
  induction hlength : text.length using Nat.strongRecOn generalizing text with
  | ind k ih =>
      cases hcut : cutAt? [m, n] text with
      | none => exact whole text hcut
      | some sides =>
          obtain ⟨left, right⟩ := sides
          have hsides := cutAt?_length hcut
          simp only [List.length_cons, List.length_nil] at hsides
          exact cut text left right hcut (ih right.length (by omega) right rfl)

/-- The mark does not occur before its first occurrence. -/
theorem cutAt?_left (h : cutAt? [m, n] text = some (left, right)) :
    cutAt? [m, n] left = none := by
  have hfirst := cutAt?_eq_some_iff.1 h
  refine cutAt?_eq_none_iff.2 ?_
  rintro ⟨l, r, hleft⟩
  have hle := hfirst.first l (r ++ [m, n] ++ right) (by rw [hfirst.text_eq, ← hleft]; simp)
  have hlength := congrArg List.length hleft
  simp only [List.length_append, List.length_cons] at hlength
  omega

/-- The mark occurs in no part. -/
theorem cutAt?_of_mem_parts {piece : List Char} (h : piece ∈ parts m n text) :
    cutAt? [m, n] piece = none := by
  induction text using cutInduction m n with
  | whole text hnone =>
      rw [parts_of_cutAt?_eq_none hnone, List.mem_singleton] at h
      rwa [h]
  | cut text left right hcut ih =>
      rw [parts_of_cutAt?_eq_some hcut, List.mem_cons] at h
      rcases h with rfl | h
      · exact cutAt?_left hcut
      · exact ih h

/-- A part is a piece of the text. -/
theorem infix_of_mem_parts {piece : List Char} (h : piece ∈ parts m n text) : piece <:+: text := by
  induction text using cutInduction m n with
  | whole text hnone =>
      rw [parts_of_cutAt?_eq_none hnone, List.mem_singleton] at h
      exact h ▸ List.infix_rfl
  | cut text left right hcut ih =>
      rw [parts_of_cutAt?_eq_some hcut, List.mem_cons] at h
      rw [cutAt?_eq_some hcut]
      rcases h with rfl | h
      · exact ⟨[], [m, n] ++ right, by simp⟩
      · exact (ih h).trans (List.suffix_append _ _).isInfix

/-- The number of occurrences of the mark `m`, `n` in a text, from left to right and without
overlap. -/
def occurrences (m n : Char) : List Char → Nat
  | [] => 0
  | [_] => 0
  | c :: d :: cs => if c = m ∧ d = n then occurrences m n cs + 1 else occurrences m n (d :: cs)

/-- A character in front adds one occurrence or none. -/
theorem occurrences_cons (c : Char) (cs : List Char) :
    occurrences m n cs ≤ occurrences m n (c :: cs) ∧
      occurrences m n (c :: cs) ≤ occurrences m n cs + 1 := by
  induction cs generalizing c with
  | nil => simp [occurrences]
  | cons d cs ih =>
      rw [occurrences]
      split
      · -- The mark takes `d` away from what follows, which loses one occurrence at the most.
        have hd := ih d
        omega
      · omega

/-- Two texts one after the other have the occurrences of both, and there may be one where they
meet. -/
theorem occurrences_append_le (before after : List Char) :
    occurrences m n before + occurrences m n after ≤ occurrences m n (before ++ after) := by
  fun_induction occurrences m n before with
  | case1 => simp
  | case2 c =>
      have hc := occurrences_cons (m := m) (n := n) c after
      rw [List.singleton_append]
      omega
  | case3 c d cs h ih =>
      rw [List.cons_append, List.cons_append, occurrences, if_pos h]
      omega
  | case4 c d cs h ih =>
      rw [List.cons_append, List.cons_append, occurrences, if_neg h]
      exact ih

/-- A piece of a text has no more occurrences than the text. -/
theorem occurrences_le_of_infix {piece : List Char} (h : piece <:+: text) :
    occurrences m n piece ≤ occurrences m n text := by
  obtain ⟨before, after, rfl⟩ := h
  have hbefore := occurrences_append_le (m := m) (n := n) before piece
  have hafter := occurrences_append_le (m := m) (n := n) (before ++ piece) after
  omega

/-- The two sides of a cut have the occurrences of the text but for those in the mark. -/
theorem occurrences_of_cutAt? {mark : List Char} (h : cutAt? mark text = some (left, right)) :
    occurrences m n left + occurrences m n mark + occurrences m n right ≤
      occurrences m n text := by
  rw [cutAt?_eq_some h]
  have hleft := occurrences_append_le (m := m) (n := n) left mark
  have hright := occurrences_append_le (m := m) (n := n) (left ++ mark) right
  omega

end Parts

end LogLens.Text
