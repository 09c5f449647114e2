import LogLens.Proofs.Layout.Output
import LogLens.Proofs.Record.Decoded

/-!
# The marker is never written

The marker announces a value that has no form of its own: an object as a field value, and a number
that is not finite. Neither is in a record that came about, whatever extension values were stored in
it, because an object is kept among the blobs and numbers are finite. That the marker is not written
is said without looking for it in the text, where it may stand as part of a message or of a key: the
text of the record is the same with every other mark in its place.

## Main results

* `writeRecord_of_grown` — the mark plays no part in the text of a record.
* `render_unmarked` — together with what is kept in the two dictionaries.
-/

namespace LogLens

theorem Json.kind_eq_blob_iff {v : Json} :
    v.kind = .blob ↔ (∃ item rest, v = .list (item :: rest)) ∨ ∃ members, v = .object members := by
  cases v with
  | list items => cases items <;> simp [Json.kind]
  | _ => simp [Json.kind]

namespace Layout

/-- The mark plays no part in the text of a record that came about. -/
theorem writeRecord_of_grown {r : Record} (h : r.Grown) (mark : List Char) (view : View) :
    writeRecord mark view r = full view r := by
  obtain ⟨hfields, hblobs⟩ := h.keepsKinds
  refine writeRecord_eq (fun e he => ?_) (fun e he out => ?_) view
  · exact writeFieldValue_field (hfields e he) (h.isFinite .field he)
  · exact writeBlock_eq (fun n hn => .inr (h.isFinite .blob he n hn)) out blobIndent

/-- **The marker is never written.** A record that came about has only values without parts and
empty lists as fields, and only lists with items and objects as blobs, and every number in a field
or a blob is shown, at any depth. So its long and its short form, which are written with the marker,
are written just so with any other mark. -/
theorem render_unmarked {r : Record} (h : r.Grown) :
    (∀ e ∈ r.fields, e.2.isComposite = false ∨ e.2 = .list []) ∧
    (∀ e ∈ r.blobs,
      (∃ item rest, e.2 = .list (item :: rest)) ∨ ∃ members, e.2 = .object members) ∧
    (∀ e ∈ r.fields ++ r.blobs, ∀ n ∈ e.2.numbers, n.shown? ≠ none) ∧
    ∀ view : View, view.mode = .long ∨ view.mode = .short →
      render view r = writeRecord marker view r ∧
        ∀ mark, render view r = writeRecord mark view r := by
  obtain ⟨hfields, hblobs⟩ := h.keepsKinds
  refine ⟨fun e he => ?_, fun e he => ?_, fun e he n hn => ?_, fun view hmode => ?_⟩
  · exact Record.kind_eq_field_iff.1 (hfields e he)
  · exact Json.kind_eq_blob_iff.1 (hblobs e he)
  · rcases List.mem_append.1 he with he | he
    · exact shown?_ne_none (h.isFinite .field he n hn)
    · exact shown?_ne_none (h.isFinite .blob he n hn)
  · have hrender : render view r = full view r := by
      rcases hmode with hmode | hmode <;> rw [render, hmode]
    rw [hrender]
    exact ⟨(writeRecord_marker view r).symm, fun mark => (writeRecord_of_grown h mark view).symm⟩

/-- A record with a field, in which a list with a number and an object is stored. -/
theorem render_unmarked_stored :
    let one : Json := .number (.whole ⟨1, by decide, by decide⟩)
    let tags : Json := .list [.number (.real (.finite true 1 1073)), .object [("b", one)]]
    let r := (Record.decode [("a", one)]).1.insert "tags" tags
    let view : View := { mode := .long }
    r.Grown ∧ r.fields = [("a", one)] ∧ one.isComposite = false ∧ r.blobs = [("tags", tags)] ∧
      (∀ n ∈ tags.numbers, n.shown? ≠ none) ∧ view.mode = .long ∧
      render view r = writeRecord ['?'] view r := by
  intro one tags r view
  have hdecoded : (Record.decode [("a", one)]).1.Grown := .decoded (.ofObject _ (by decide))
  have hgrown : r.Grown := .insert hdecoded "tags" (by decide)
  have hfields : r.fields = [("a", one)] := rfl
  have hblobs : r.blobs = [("tags", tags)] := rfl
  obtain ⟨hfield, -, hshown, hrender⟩ := render_unmarked hgrown
  have hone : one.isComposite = false := (hfield ("a", one) (by simp [hfields])).resolve_right nofun
  exact ⟨hgrown, hfields, hone, hblobs, hshown ("tags", tags) (by simp [hblobs]), rfl,
    (hrender view (.inl rfl)).2 ['?']⟩

end Layout

end LogLens
