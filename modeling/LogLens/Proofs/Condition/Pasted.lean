import LogLens.Layout.Line
import LogLens.Proofs.Condition.FieldEquals
import LogLens.Proofs.Record.Decoded

/-!
# Pasting a shown value into a condition

The values in the list of fields are written for a reader, and the values of a condition are texts
to compare with. The two are written by functions of their own, but for the values that fields hold
they agree: a text is bare in both, a finite number is as it is shown, and the empty list is `[]`.
Only a null differs, which is shown as `<null>` and compared as the empty text. So what stands after
`key=` can be copied between quotes, as it is and whatever is in it but `&&` and `||`: quotes are
taken off at the two ends only, and nothing in the text is an escape.

A record that was decoded has one value for each key, so the field that is named is the one that was
copied.

## Main results

* `plainText_eq_fieldValue` — a value is shown as it is compared.
* `holds_pasted` — the comparison of a field with its shown value holds.
-/

namespace LogLens

open Dictionary (find?)

namespace Record

theorem lookup_of_find? {r : Record} {key : String} {value : Json}
    (h : find? key r.fields = some value) : r.lookup key = value.plainText := by
  rw [lookup, h]

end Record

namespace Layout

/-- A finite number is shown as it is compared. -/
theorem numberText_of_finite {n : Number} (h : n.IsFinite) :
    numberText n = n.shownOrText.toList := by
  cases n with
  | whole n => rfl
  | real x => simp [numberText, Number.shownOrText, Number.shown?, show x.isFinite = true from h]

/-- A value that fields hold is shown as it is compared, apart from null. -/
theorem plainText_eq_fieldValue {value : Json} (hkind : value.kind = .field)
    (hnull : value ≠ .null) (hfinite : ∀ n ∈ value.numbers, n.IsFinite) :
    value.plainText = String.ofList (fieldValue value) := by
  cases value with
  | null => exact absurd rfl hnull
  | bool b => cases b <;> rfl
  | number n =>
      have hn : n.IsFinite := hfinite n (by simp [Json.numbers])
      rw [fieldValue, block, numberText_of_finite hn, String.ofList_toList, Json.plainText]
  | string s => rw [fieldValue, String.ofList_toList, Json.plainText]
  | list items =>
      cases items with
      | nil => rfl
      | cons v rest => cases hkind
  | object members => cases hkind

/-- What is written for each field stands in the list of the fields. -/
theorem infix_fieldEntries {fields : Dictionary Json} {key : String} {value : Json}
    (h : (key, value) ∈ fields) :
    key.toList ++ '=' :: fieldValue value ++ [',', ' '] <:+: fieldEntries fields := by
  induction fields with
  | nil => cases h
  | cons m fields ih =>
      rcases List.mem_cons.1 h with rfl | h
      · exact ⟨[], fieldEntries fields, by simp [fieldEntries]⟩
      · refine (ih h).trans ⟨m.1.toList ++ '=' :: fieldValue m.2 ++ [',', ' '], [], ?_⟩
        simp [fieldEntries]

theorem infix_fieldPart {r : Record} {key : String} {value : Json} (h : (key, value) ∈ r.fields) :
    key.toList ++ '=' :: fieldValue value ++ [',', ' '] <:+: fieldPart r := by
  refine (infix_fieldEntries h).trans ?_
  exact ⟨[' ', '('], "tid=".toList ++ (Decimal.intText r.tid.toInt).toList ++ [')'], by
    simp [fieldPart]⟩

end Layout

namespace Condition

/-- **A shown value can be pasted into a condition.** For every field of a decoded record that is
not null, let `shown` be the text of its value in the list of fields. When the key has none of `&&`,
`||` and `==` in it and no blank character at its end, and `shown` has neither `&&` nor `||`, the
text that compares the key with `shown` between quotes is read as the equality of the field and that
very text, and it holds for the record. -/
theorem holds_pasted {r : Record} (hr : r.IsDecoded) {key : String} {value : Json}
    (hfield : (key, value) ∈ r.fields) (hnull : value ≠ .null) (hkey : IsNameable key.toList)
    (hand : ¬['&', '&'] <:+: Layout.fieldValue value)
    (hor : ¬['|', '|'] <:+: Layout.fieldValue value) :
    let shown := String.ofList (Layout.fieldValue value)
    (key ++ "=" ++ shown ++ ", ").toList <:+: Layout.fieldPart r ∧
      ofText ("." ++ key ++ " == \"" ++ shown ++ "\"") =
        .ok (.equals (.field key) (.constant shown)) ∧
      (Condition.equals (.field key) (.constant shown)).holds r = true := by
  intro shown
  obtain ⟨hfind, hkind, hfinite⟩ := hr.field hfield
  have htext : ("." ++ key ++ " == \"" ++ shown ++ "\"").toList =
      fieldEquals key.toList ('"' :: Layout.fieldValue value ++ ['"']) := by
    simp [shown, fieldEquals]
  refine ⟨?_, ?_, ?_⟩
  · simpa [shown] using Layout.infix_fieldPart hfield
  · rw [ofText, htext, read_fieldEquals hkey (isToken_quoted hand hor), Operand.read_quoted,
      String.ofList_toList]
  · have hvalue : r.lookup key = shown :=
      (Record.lookup_of_find? hfind).trans
        (Layout.plainText_eq_fieldValue hkind hnull hfinite)
    simpa [holds, Operand.value] using hvalue

/-- Quotes and an `==` inside of the text, and a blank character at its end. -/
theorem holds_pasted_quotes :
    let value : Json := .string "say \"a == b\" "
    let r := (Record.decode [("user name", value)]).1
    ("user name", value) ∈ r.fields ∧
      ofText ".user name == \"say \"a == b\" \"" =
        .ok (.equals (.field "user name") (.constant "say \"a == b\" ")) ∧
      (Condition.equals (.field "user name") (.constant "say \"a == b\" ")).holds r = true := by
  intro value r
  have hr : r.IsDecoded := .ofObject _ fun m hm n hn => by
    rw [List.mem_singleton.1 hm] at hn
    simp [value, Json.numbers] at hn
  have hfield : ("user name", value) ∈ r.fields := List.mem_singleton.2 rfl
  have hend : ∀ c, "user name".toList.getLast? = some c → Text.isBlank c = false := by
    intro c hc
    have hlast : "user name".toList.getLast? = some 'e' := by decide
    obtain rfl := Option.some.inj (hlast.symm.trans hc)
    rfl
  have hkey : IsNameable "user name".toList :=
    ⟨Text.cutAt?_eq_none_iff.1 (by decide), Text.cutAt?_eq_none_iff.1 (by decide),
      Text.cutAt?_eq_none_iff.1 (by decide), hend⟩
  have hpasted := holds_pasted hr hfield (by simp [value]) hkey
    (Text.cutAt?_eq_none_iff.1 (by decide)) (Text.cutAt?_eq_none_iff.1 (by decide))
  simp only [value, Layout.fieldValue, String.ofList_toList] at hpasted
  exact ⟨hfield, by simpa using hpasted.2.1, hpasted.2.2⟩

end Condition

end LogLens
