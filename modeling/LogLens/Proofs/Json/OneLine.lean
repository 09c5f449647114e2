import LogLens.Proofs.Json.Value
import LogLens.Json.Writer

/-!
# Compact text is one line

A text is *plain* when there is no control character in it, so neither a line feed nor a carriage
return. Inside of a quoted text control characters are written as escapes, and between the parts of
a value the compact layout writes no space, so compact text is plain. The text of an object ends
with its closing brace.

## Main results

* `plain_compact` — compact text is plain.
* `not_mem_compact` — in particular no line break is in it.
* `getLast?_compact_object` — the compact text of an object ends with a brace.
-/

namespace LogLens

namespace Text

/-- No control character below the space is in a text. -/
def Plain (cs : List Char) : Prop := ∀ c ∈ cs, 0x20 ≤ c.toNat

instance (cs : List Char) : Decidable (Plain cs) :=
  decidable_of_iff (cs.all fun c => decide (0x20 ≤ c.toNat)) (by simp [Plain])

@[simp] theorem plain_nil : Plain [] := fun _ h => by cases h

@[simp] theorem plain_cons {c : Char} {cs : List Char} :
    Plain (c :: cs) ↔ 0x20 ≤ c.toNat ∧ Plain cs :=
  List.forall_mem_cons

@[simp] theorem plain_append {cs ds : List Char} : Plain (cs ++ ds) ↔ Plain cs ∧ Plain ds :=
  List.forall_mem_append

theorem Plain.not_mem {cs : List Char} (h : Plain cs) {c : Char} (hc : c.toNat < 0x20) : c ∉ cs :=
  fun hmem => Nat.not_le.2 hc (h c hmem)

end Text

open Text (Plain plain_nil plain_cons plain_append)

/-! ## Numbers -/

theorem plain_toDigits (n : Nat) : Plain (Nat.toDigits 10 n) := by
  intro c hc
  have hdigit := Nat.isDigit_of_mem_toDigits (by decide) (by decide) hc
  simp only [Char.isDigit, Bool.and_eq_true, decide_eq_true_eq] at hdigit
  have hzero : '0'.toNat ≤ c.toNat := UInt32.le_iff_toNat_le.1 hdigit.1
  exact Nat.le_trans (by decide) hzero

theorem plain_intText (i : Int) : Plain (Decimal.intText i).toList := by
  have hdigits := plain_toDigits i.natAbs
  unfold Decimal.intText Decimal.natText
  split <;> simp [hdigits]

namespace NumberStyle

theorem plain_positionalText (style : NumberStyle) {digits : List Char} (h : Plain digits)
    (exponent : Int) : Plain (style.positionalText digits exponent) := by
  have hzeros : ∀ n, Plain (zeros n) := fun n c hc => by
    rw [List.eq_of_mem_replicate hc]
    decide
  have htake : ∀ n, Plain (digits.take n) := fun n c hc => h c (List.mem_of_mem_take hc)
  have hdrop : ∀ n, Plain (digits.drop n) := fun n c hc => h c (List.mem_of_mem_drop hc)
  unfold positionalText
  simp only
  split
  · split <;> simp [h, hzeros]
  · split <;> simp [h, hzeros, htake, hdrop]

theorem plain_scientificText {digits : List Char} (h : Plain digits) (exponent : Int) :
    Plain (scientificText digits exponent) := by
  have hexponent := plain_toDigits (digits.length + exponent - 1).natAbs
  have hsign : 0x20 ≤ (if (digits.length + exponent - 1 : Int) < 0 then '-' else '+').toNat := by
    split <;> decide
  unfold scientificText
  simp only [plain_append, plain_cons, hexponent, hsign, and_true]
  refine ⟨?_, by decide⟩
  split <;> simp_all

theorem plain_magnitudeText (style : NumberStyle) (m s : Nat) :
    Plain (style.magnitudeText m s) := by
  have hdigits := plain_toDigits (Digits.shortest style.tie m s).coefficient
  unfold magnitudeText
  simp only
  split
  · exact plain_positionalText style hdigits _
  · split
    · exact plain_positionalText style hdigits _
    · exact plain_scientificText hdigits _

theorem plain_text (style : NumberStyle) (x : Binary64) : Plain (style.text x).toList := by
  cases x with
  | nan => rw [text]; decide
  | infinite negative => cases negative <;> rw [text] <;> decide
  | finite negative m s =>
      have hmagnitude := plain_magnitudeText style m s
      rw [text, String.toList_ofList]
      cases negative <;> simp [hmagnitude]

end NumberStyle

namespace Json

theorem plain_number (n : Number) : Plain n.text.toList := by
  cases n with
  | whole n => exact plain_intText n.value
  | real x =>
      rw [Number.text]
      split
      · exact NumberStyle.json.plain_text x
      · decide

/-! ## Values -/

/-- Control characters are written as escapes. -/
theorem plain_escaped (c : Char) : Plain (escaped c) := by
  have hcontrol : ∀ n < 0x20,
      Plain ['\\', 'u', '0', '0', hexChar (n / 16), hexChar (n % 16)] := by decide
  unfold escaped
  split
  case h_8 =>
    split
    · next hlow => exact hcontrol c.toNat hlow
    · next hhigh => simpa using Nat.not_lt.1 hhigh
  all_goals decide

theorem plain_escapedText (cs : List Char) : Plain (escapedText cs) := by
  induction cs with
  | nil => simp [escapedText]
  | cons c cs ih => simp [escapedText, plain_escaped, ih]

theorem plain_quote (s : String) : Plain (quote s) := by
  simp [quote, plain_escapedText]

theorem plain_compactItems {items : List Json} (h : ∀ v ∈ items, Plain (compact v)) :
    Plain (compactItems items) := by
  induction items with
  | nil => simp [compactItems]
  | cons v rest ih =>
      obtain ⟨hv, hrest⟩ := List.forall_mem_cons.1 h
      simp [compactItems, hv, ih hrest]

theorem plain_compactMembers {members : List (String × Json)}
    (h : ∀ m ∈ members, Plain (compact m.2)) : Plain (compactMembers members) := by
  induction members with
  | nil => simp [compactMembers]
  | cons m rest ih =>
      obtain ⟨hm, hrest⟩ := List.forall_mem_cons.1 h
      simp [compactMembers, hm, ih hrest, plain_quote]

/-- Compact text is plain. -/
theorem plain_compact (v : Json) : Plain (compact v) := by
  induction v with
  | null => decide
  | bool b => cases b <;> decide
  | number n => exact plain_number n
  | string s => exact plain_quote s
  | list items ih =>
      cases items with
      | nil => decide
      | cons v rest =>
          obtain ⟨hv, hrest⟩ := List.forall_mem_cons.1 ih
          simp [compact, hv, plain_compactItems hrest]
  | object members ih =>
      cases members with
      | nil => decide
      | cons m rest =>
          obtain ⟨hm, hrest⟩ := List.forall_mem_cons.1 ih
          simp [compact, hm, plain_compactMembers hrest, plain_quote]

/-- No line break is in compact text. -/
theorem not_mem_compact (v : Json) : '\n' ∉ compact v :=
  (plain_compact v).not_mem (by decide)

theorem getLast?_compactMembers (members : List (String × Json)) (before : List Char) :
    (before ++ compactMembers members).getLast? = some '}' := by
  induction members generalizing before with
  | nil => simp [compactMembers]
  | cons m rest ih =>
      have hassoc : before ++ compactMembers (m :: rest) =
          (before ++ ',' :: quote m.1 ++ ':' :: compact m.2) ++ compactMembers rest := by
        simp [compactMembers]
      rw [hassoc]
      exact ih _

/-- The compact text of an object ends with a brace. -/
theorem getLast?_compact_object (members : List (String × Json)) :
    (compact (.object members)).getLast? = some '}' := by
  cases members with
  | nil => rfl
  | cons m rest =>
      have hassoc : compact (.object (m :: rest)) =
          ('{' :: quote m.1 ++ ':' :: compact m.2) ++ compactMembers rest := by
        simp [compact]
      rw [hassoc]
      exact getLast?_compactMembers rest _

end Json

end LogLens
