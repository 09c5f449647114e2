import LogLens.Proofs.Condition.FieldEquals
import LogLens.Proofs.Decimal.Binary64
import LogLens.Proofs.Record.Members

/-!
# Ids of a record

The two ids of a record are signed 64-bit words, but the number of a member goes through binary64 on
its way to one. So an id is kept as it is when its magnitude has a significand of 53 bits, which all
magnitudes up to `2 ^ 53` have; the greatest word is rounded up and cut down again. Any other id is
moved to the nearest number of the format. What is looked up and compared is the id that was kept.

## Main results

* `survives_iff` — the ids that are kept as they are.
* `lookup_id` — the text of an id.
* `decode_id` — the id that an object decodes to, and the comparisons that hold of it.
-/

namespace LogLens

open Dictionary

namespace Record

/-! ## Words that binary64 holds -/

/-- An id that goes through binary64 unchanged. -/
def Survives (id : Int64) : Prop := (Binary64.ofInt id.toInt).truncated = id.toInt

theorem survives_zero : Survives 0 := by
  unfold Survives
  decide +kernel

/-- The ids that go through unchanged. -/
theorem survives_iff {id : Int64} :
    Survives id ↔ Binary64.IsShort id.toInt.natAbs ∨ id = Int64.maxValue := by
  have hgreatest : id = Int64.maxValue ↔ id.toInt = 9223372036854775807 := Int64.toInt_inj.symm
  rw [hgreatest]
  exact Binary64.truncated_ofInt_eq_iff id.le_toInt id.toInt_le

theorem toInt_wordOf (n : Number) : (wordOf n).toInt = n.toBinary64.truncated := by
  obtain ⟨hlower, hupper⟩ := Binary64.truncated_range n.toBinary64
  exact Int64.toInt_ofInt_of_le (by omega) (by omega)

theorem survives_wordOf {n : Number} (h : n.InNormalForm) : Survives (wordOf n) := by
  rw [Survives, toInt_wordOf]
  exact Binary64.truncated_ofInt_truncated (Number.inNormalForm_toBinary64 h)

/-! ## The two ids -/

/-- The ids of a record. -/
inductive IdKey where
  | process
  | task

namespace IdKey

/-- The key of an id. -/
def name : IdKey → String
  | process => "pid"
  | task => "tid"

/-- The id of a record. -/
def of (r : Record) : IdKey → Int64
  | process => r.pid
  | task => r.tid

theorem isNameable_name (id : IdKey) : Condition.IsNameable id.name.toList :=
  Condition.isNameable_of_isAlpha (List.all_eq_true.1 (by cases id <;> decide))

end IdKey

section Decoded

variable {o : Dictionary Json} (id : IdKey)

/-- No extension has the key of an id. -/
theorem find?_kept_id (o : Dictionary Json) (kind : FieldKind) :
    find? id.name (kept kind (decode o).1) = none := by
  rw [kept_decode_eq_ofEntries, find?_eq_none_iff]
  intro hmem
  obtain ⟨m, hm, hname⟩ := List.mem_map.1 hmem
  have hkeeps := (List.mem_filter.1 (mem_ofEntries hm)).2
  simp only [keeps, Bool.and_eq_true] at hkeeps
  rw [hname] at hkeeps
  have hextension : isExtension id.name = false := by cases id <;> decide
  rw [hextension] at hkeeps
  cases hkeeps.2

theorem of_decode (h : Sorted o) : id.of (decode o).1 = valueAt id.name word? 0 o := by
  rw [fst_decode h]
  cases id <;> rfl

/-- The text of an id is that of the word that was kept. -/
theorem lookup_id (o : Dictionary Json) :
    (decode o).1.lookup id.name = Decimal.intText (id.of (decode o).1).toInt := by
  have hfield : find? id.name (decode o).1.fields = none := find?_kept_id id o .field
  have hblob : find? id.name (decode o).1.blobs = none := find?_kept_id id o .blob
  rw [lookup, hfield, hblob]
  cases id <;> rfl

/-- A comparison of an id with an integer. -/
theorem read_id {token : String} {m : Int64} (h : Decimal.integer? token.toList = some m.toInt) :
    Condition.ofText ("." ++ id.name ++ " == " ++ token) =
      .ok (.equals (.field id.name) (.number (.whole (Whole.ofInt64 m)))) := by
  have htext : ("." ++ id.name ++ " == " ++ token).toList =
      Condition.fieldEquals id.name.toList token.toList := by
    simp [Condition.fieldEquals]
  have hwhole : Decimal.integer? token.toList = some (Whole.ofInt64 m).value := h
  rw [Condition.ofText, htext,
    Condition.read_fieldEquals id.isNameable_name (Condition.isToken_integer h),
    Operand.read_integer hwhole, String.ofList_toList]

/-- It holds when the integer is the id that was kept. -/
theorem holds_id (o : Dictionary Json) (m : Int64) :
    (Condition.equals (.field id.name) (.number (.whole (Whole.ofInt64 m)))).holds (decode o).1 =
      true ↔ m = id.of (decode o).1 := by
  have htext : (Number.whole (Whole.ofInt64 m)).shownOrText = Decimal.intText m.toInt := rfl
  rw [Condition.holds, Operand.value, Operand.value, lookup_id, htext, beq_iff_eq,
    Decimal.intText_inj, Int64.toInt_inj, eq_comm]

/-- **Ids go through binary64.** When the process id or the task id of an object is an integer of 64
bits with a sign, it is no error, and the id that is kept is the nearest number of the format, cut
down to the range. It is the integer itself exactly when the magnitude of the integer has a
significand of 53 bits or the integer is the greatest one. The text of the id is that of the integer
that was kept, and the comparison of the id with an integer literal holds when the literal is the
integer that was kept. -/
theorem decode_id (h : Sorted o) {n : Int64}
    (hn : find? id.name o = some (.number (.whole (Whole.ofInt64 n)))) :
    let r := (decode o).1
    let word := id.of r
    (∀ e ∈ (decode o).2, e.key ≠ id.name) ∧
      word.toInt = (Binary64.ofInt n.toInt).truncated ∧
      (word = n ↔ Binary64.IsShort n.toInt.natAbs ∨ n = Int64.maxValue) ∧
      r.lookup id.name = Decimal.intText word.toInt ∧
      ∀ (token : String) (m : Int64), Decimal.integer? token.toList = some m.toInt →
        ∃ c, Condition.ofText ("." ++ id.name ++ " == " ++ token) = .ok c ∧
          (c.holds r = true ↔ m = word) := by
  intro r word
  have hword : word.toInt = (Binary64.ofInt n.toInt).truncated := by
    have heq : word = wordOf (.whole (Whole.ofInt64 n)) := by
      show id.of (decode o).1 = _
      rw [of_decode id h, valueAt, hn]
      rfl
    rw [heq, toInt_wordOf]
    rfl
  have hfits : fits id.name (.number (.whole (Whole.ofInt64 n))) = true := by cases id <;> rfl
  refine ⟨key_ne_of_fits h hn hfits, hword, ?_, lookup_id id o, fun token m hm => ?_⟩
  · rw [← survives_iff, Survives, ← hword, Int64.toInt_inj]
  · exact ⟨_, read_id id hm, holds_id id o m⟩

/-- An even integer above `2 ^ 53` is kept. -/
theorem decode_id_even :
    let n : Int64 := 9007199254740994
    let o : Dictionary Json := [("pid", .number (.whole (Whole.ofInt64 n)))]
    (decode o).1.pid = n ∧
      ∃ c, Condition.ofText ".pid == +9007199254740994" = .ok c ∧
        c.holds (decode o).1 = true := by
  intro n o
  have hsorted : Sorted o := List.pairwise_singleton _ _
  obtain ⟨-, -, hkept, -, hcompare⟩ := decode_id .process hsorted rfl
  have hpid : (decode o).1.pid = n :=
    hkept.2 (.inl ⟨4503599627370497, 1, by decide, by decide⟩)
  obtain ⟨c, hread, hholds⟩ := hcompare "+9007199254740994" n (by decide)
  exact ⟨hpid, c, hread, hholds.2 hpid.symm⟩

/-- The odd integer after `2 ^ 53` is not: the id is that power, and a comparison with the integer
that was written does not hold. -/
theorem decode_id_odd :
    let n : Int64 := 9007199254740993
    let o : Dictionary Json := [("pid", .number (.whole (Whole.ofInt64 n)))]
    Sorted o ∧ (decode o).2 = [] ∧ (decode o).1.pid = 9007199254740992 ∧
      (decode o).1.lookup "pid" = "9007199254740992" ∧
      ∃ c, Condition.ofText ".pid == 9007199254740993" = .ok c ∧
        c.holds (decode o).1 = false := by
  intro n o
  have hsorted : Sorted o := List.pairwise_singleton _ _
  have hpid : (decode o).1.pid = 9007199254740992 := by
    show wordOf (.whole (Whole.ofInt64 n)) = _
    decide +kernel
  have hliteral : Decimal.integer? "9007199254740993".toList = some n.toInt := by decide
  have hread := read_id .process hliteral
  refine ⟨hsorted, rfl, hpid, ?_, _, hread, ?_⟩
  · have htext := lookup_id .process o
    rw [show IdKey.of (decode o).1 .process = 9007199254740992 from hpid] at htext
    exact htext
  · rw [← Bool.not_eq_true, holds_id]
    show n ≠ (decode o).1.pid
    rw [hpid]
    decide

end Decoded

end Record

end LogLens
