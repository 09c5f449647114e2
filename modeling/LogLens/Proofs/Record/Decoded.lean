import LogLens.Proofs.Json.NormalNumber
import LogLens.Proofs.Record.Extensions
import LogLens.Proofs.Record.Source

/-!
# Records that come about

A record is the default one, or it was decoded from an object or from a line, and extension values
may have been stored in it after that. All such records keep two things that no record has by its
type alone: a field is a value without parts or the empty list and a blob is one with parts, and all
numbers of both are finite. The first follows from how a value is stored, the second from where the
values come from: an object that is handed over and the values that are stored have finite numbers,
as every JSON value has, and those of a line were read.

## Main results

* `IsDecoded.exists_object`, `IsDecoded.field` — the extensions of a decoded record.
* `Grown.keepsKinds`, `Grown.isFinite` — what every record keeps that comes about.
-/

namespace LogLens.Record

open Dictionary (Sorted find?)

/-! ## Decoded records -/

/-- A record that was decoded, from an object or from a line. An object is handed over as a value,
and JSON has no number that is not finite; that a line has none is proved. -/
inductive IsDecoded : Record → Prop
  | ofObject (o : List (String × Json)) (hfinite : ∀ m ∈ o, ∀ n ∈ m.2.numbers, n.IsFinite) :
      IsDecoded (decode o).1
  | ofLine (line : String) (r : Record) (errors : List FieldError)
      (h : Record.ofLine line = .ok (r, errors)) : IsDecoded r

variable {r : Record}

/-- The extensions of a decoded record come from an object whose numbers are finite. -/
theorem IsDecoded.exists_object (h : r.IsDecoded) :
    ∃ o : List (String × Json), (∀ m ∈ o, ∀ n ∈ m.2.numbers, n.IsFinite) ∧
      ∀ kind, kept kind r = Dictionary.ofEntries (o.filter (keeps kind)) := by
  cases h with
  | ofObject o hfinite => exact ⟨o, hfinite, kept_decode_eq_ofEntries o⟩
  | ofLine line r errors hline =>
      obtain ⟨members, hparse, hd⟩ := ofLine_eq_ok_iff.1 hline
      refine ⟨members, fun m hm n hn => ?_, fun kind => ?_⟩
      · exact Json.isFinite_parse hparse n (Json.mem_numbers_object.2 ⟨m, hm, hn⟩)
      · rw [(Prod.mk.inj hd).1, ← kept_decode_eq_ofEntries]
        cases kind <;> rfl

/-- An extension of a decoded record has the kind of its dictionary, and its numbers are finite. -/
theorem IsDecoded.extension (h : r.IsDecoded) (kind : FieldKind) {m : String × Json}
    (hmem : m ∈ kept kind r) : m.2.kind = kind ∧ ∀ n ∈ m.2.numbers, n.IsFinite := by
  obtain ⟨o, hfinite, hkept⟩ := h.exists_object
  rw [hkept] at hmem
  have hkeeps : m ∈ o.filter (keeps kind) := Dictionary.mem_ofEntries hmem
  exact ⟨kind_of_mem_keeps hkeeps, hfinite m (List.mem_of_mem_filter hkeeps)⟩

/-- A field of a decoded record is the only one with its key, has the kind of fields, and its
numbers are finite. -/
theorem IsDecoded.field (h : r.IsDecoded) {key : String} {value : Json}
    (hmem : (key, value) ∈ r.fields) :
    find? key r.fields = some value ∧ value.kind = .field ∧ ∀ n ∈ value.numbers, n.IsFinite := by
  obtain ⟨o, -, hkept⟩ := h.exists_object
  have hfields : r.fields = Dictionary.ofEntries (o.filter (keeps .field)) := hkept .field
  have hsorted : Sorted r.fields := hfields ▸ Dictionary.sorted_ofEntries _
  exact ⟨(Dictionary.find?_eq_some_iff hsorted.nodup_keys).2 hmem, h.extension .field hmem⟩

/-! ## Records with more extension values -/

/-- A record that came about: the default one, a decoded one, or one of them in which extension
values were stored one after the other. -/
inductive Grown : Record → Prop
  | default : Grown {}
  | decoded {r : Record} (h : r.IsDecoded) : Grown r
  | insert {r : Record} (h : Grown r) (key : String) {value : Json}
      (hfinite : ∀ n ∈ value.numbers, n.IsFinite) : Grown (r.insert key value)

/-- Every value is kept where its kind belongs. -/
theorem Grown.keepsKinds (h : r.Grown) : r.KeepsKinds := by
  induction h with
  | default => exact ⟨fun _ h => (List.not_mem_nil h).elim, fun _ h => (List.not_mem_nil h).elim⟩
  | decoded h =>
      exact ⟨fun _ hfield => (h.extension .field hfield).1,
        fun _ hblob => (h.extension .blob hblob).1⟩
  | insert h key hfinite ih => exact keepsKinds_insert ih key _

/-- All numbers of extension values are finite. -/
theorem Grown.isFinite (h : r.Grown) (kind : FieldKind) {m : String × Json}
    (hmem : m ∈ kept kind r) : ∀ n ∈ m.2.numbers, n.IsFinite := by
  induction h with
  | default => cases kind <;> cases hmem
  | decoded h => exact (h.extension kind hmem).2
  | insert h key hfinite ih =>
      rw [kept_insert] at hmem
      split at hmem
      · rcases Dictionary.mem_insert hmem with rfl | hmem
        · exact hfinite
        · exact ih hmem
      · exact ih hmem

end LogLens.Record
