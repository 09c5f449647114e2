import LogLens.Json.Writer
import LogLens.Level
import LogLens.Time.Rfc3339
/-!
# Log records

A record is what one line of a log says: a fixed set of attributes, each with a default, and any
number of extension values under keys of their own. An extension value is kept as a *field* when it
is shown on the line of the record, which is so for values without parts and for the empty list, and
as a *blob* when it is shown below it. Fields and blobs are two dictionaries; the kind of a value
decides which of them takes it.

`Record.lookup` resolves a name to text. Extension values come before the attributes, and a name
that means nothing is the empty text.

## Main results

* `keepsKinds_insert` — fields hold only values of the one kind and blobs only of the other,
  whatever is inserted.
-/

namespace LogLens

/-- How an extension value is kept and shown. -/
inductive FieldKind where
  | field
  | blob
  deriving DecidableEq, Repr

/-- The kind of a value: lists with items and all objects are blobs. -/
def Json.kind : Json → FieldKind
  | .list [] => .field
  | .list (_ :: _) => .blob
  | .object _ => .blob
  | _ => .field

/-- The text of a value in comparisons: texts are bare, numbers as they are shown, null is empty,
and a value with parts is its compact JSON text. -/
def Json.plainText : Json → String
  | .null => ""
  | .string s => s
  | .bool b => if b then "true" else "false"
  | .number n => n.shownOrText
  | v => v.compactText

/-- One record of a log. -/
structure Record where
  time : Option Instant := none
  level : Level := .info
  hostname : String := ""
  name : String := ""
  pid : Int64 := 0
  tid : Int64 := 0
  topic : String := ""
  scope : String := ""
  message : String := ""
  fields : Dictionary Json := []
  blobs : Dictionary Json := []
  /-- The line that the record was read from; empty for a record with another origin. -/
  source : String := ""

namespace Record

instance : Inhabited Record := ⟨{}⟩

/-- Keeps an extension value under its key, among the fields or the blobs by its kind. -/
def insert (key : String) (value : Json) (r : Record) : Record :=
  match value.kind with
  | .field => { r with fields := r.fields.insert key value }
  | .blob => { r with blobs := r.blobs.insert key value }

/-- The text of an attribute. -/
def attributeText (r : Record) (name : String) : String :=
  match name with
  | "level" => r.level.name
  | "hostname" => r.hostname
  | "name" => r.name
  | "pid" => Decimal.intText r.pid.toInt
  | "tid" => Decimal.intText r.tid.toInt
  | "topic" => r.topic
  | "scope" => r.scope
  | "msg" => r.message
  | "time" => (r.time.map (Rfc3339.write 3)).getD ""
  | "timestamp" => (r.time.map (Rfc3339.write 3)).getD ""
  | _ => ""

/-- The text that a name stands for: that of a field, of a blob, or of an attribute. -/
def lookup (r : Record) (name : String) : String :=
  match r.fields.find? name with
  | some v => v.plainText
  | none =>
    match r.blobs.find? name with
    | some v => v.compactText
    | none => r.attributeText name

/-- Every value is kept where its kind belongs. -/
def KeepsKinds (r : Record) : Prop :=
  (∀ entry ∈ r.fields, entry.2.kind = .field) ∧ (∀ entry ∈ r.blobs, entry.2.kind = .blob)

end Record

theorem Dictionary.mem_insert {β : Type} {key : String} {value : β} {d : Dictionary β}
    {entry : String × β} (h : entry ∈ Dictionary.insert key value d) :
    entry = (key, value) ∨ entry ∈ d := by
  induction d with
  | nil => simpa [Dictionary.insert] using h
  | cons e rest ih =>
    unfold Dictionary.insert at h
    split at h
    · rcases List.mem_cons.1 h with h | h
      · exact .inl h
      · exact .inr (List.mem_cons_of_mem _ h)
    · split at h
      · rcases List.mem_cons.1 h with h | h
        · exact .inl h
        · exact .inr h
      · rcases List.mem_cons.1 h with h | h
        · exact .inr (by simp [h])
        · rcases ih h with h | h
          · exact .inl h
          · exact .inr (List.mem_cons_of_mem _ h)

/-- Fields hold only values of the one kind and blobs only of the other. -/
theorem Record.keepsKinds_insert {r : Record} (h : r.KeepsKinds) (key : String) (value : Json) :
    (r.insert key value).KeepsKinds := by
  unfold Record.insert
  split
  · next hk =>
    refine ⟨fun entry he => ?_, h.2⟩
    rcases Dictionary.mem_insert he with rfl | he
    · exact hk
    · exact h.1 entry he
  · next hk =>
    refine ⟨h.1, fun entry he => ?_⟩
    rcases Dictionary.mem_insert he with rfl | he
    · exact hk
    · exact h.2 entry he

end LogLens
