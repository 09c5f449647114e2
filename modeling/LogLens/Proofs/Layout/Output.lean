import LogLens.Layout.Line
import LogLens.Proofs.Json.NormalNumber

/-!
# Records as they are appended to an output

`Layout` says which text a value or a record has. Here the same text is appended to an output, piece
by piece and from left to right: what separates two items is chosen by whether one follows, and a
line is closed before the next one is indented. Whatever the output holds already, what is appended
is the text of the layout.

The text that announces a value without a form of its own is handed over as `mark`. With the marker
of the layout the texts are those of the layout. With another mark they still are, as long as the
mark is never written, which is so for finite numbers in blocks, and for the values of fields.

## Main results

* `writeBlock_eq` — a block is appended as it is.
* `writeFieldValue_marker`, `writeFieldValue_field` — so is a field value.
* `writeRecord_eq`, `writeRecord_marker` — so is a record whose fields and blobs are.
-/

namespace LogLens.Layout

open Json (newLine)

variable (mark : List Char)

/-! ## Writing -/

/-- Appends a number as it is shown, or its JSON text behind the mark. -/
def writeNumber (out : List Char) (n : Number) : List Char :=
  match n.shown? with
  | some s => out ++ s.toList
  | none => out ++ mark ++ n.text.toList

/-- Appends the blanks of a new line. -/
def writeIndent (out : List Char) (indent : Nat) : List Char := out ++ List.replicate indent ' '

/-- Closes a line, with a comma when another item follows. -/
def closeLine {α : Type} (out : List Char) (rest : List α) : List Char :=
  out ++ if rest.isEmpty then ['\n'] else [',', '\n']

mutual

/-- Appends a value as a block at column `indent`. -/
def writeBlock (out : List Char) (indent : Nat) : Json → List Char
  | .null => out ++ "<null>".toList
  | .bool b => out ++ (if b then "true" else "false").toList
  | .number n => writeNumber mark out n
  | .string s => out ++ ['"'] ++ s.toList ++ ['"']
  | .list items =>
    if isInline items then writeInline (out ++ ['[']) indent [] items ++ [']']
    else writeIndent (writeItems (out ++ ['[', '\n']) indent items) indent ++ [']']
  | .object members =>
    if members.isEmpty then out ++ ['{', '}']
    else writeIndent (writeMembers (out ++ ['{', '\n']) indent members) indent ++ ['}']

/-- Appends items on one line, with a separator before the first and a comma before every other. -/
def writeInline (out : List Char) (indent : Nat) (separator : List Char) : List Json → List Char
  | [] => out
  | v :: rest => writeInline (writeBlock (out ++ separator) indent v) indent [',', ' '] rest

/-- Appends items, each on a line of its own. -/
def writeItems (out : List Char) (indent : Nat) : List Json → List Char
  | [] => out
  | v :: rest =>
    writeItems (closeLine (writeBlock (writeIndent out (indent + 2)) (indent + 2) v) rest) indent rest

/-- Appends members, each on a line of its own. -/
def writeMembers (out : List Char) (indent : Nat) : List (String × Json) → List Char
  | [] => out
  | (k, v) :: rest =>
    writeMembers
      (closeLine (writeBlock (writeIndent out (indent + 2) ++ label k) (indent + 2) v) rest)
      indent rest

end

mutual

/-- Appends a value on one line, with texts bare. -/
def writeFieldValue (out : List Char) : Json → List Char
  | .string s => out ++ s.toList
  | .list items => writeFieldItems (out ++ ['[']) [] items ++ [']']
  | .object members => out ++ mark ++ Json.compact (.object members)
  | .null => writeBlock mark out 0 .null
  | .bool b => writeBlock mark out 0 (.bool b)
  | .number n => writeBlock mark out 0 (.number n)

/-- Appends items with a separator before the first and a comma before every other. -/
def writeFieldItems (out separator : List Char) : List Json → List Char
  | [] => out
  | v :: rest => writeFieldItems (writeFieldValue (out ++ separator) v) [',', ' '] rest

end

/-- Appends the fields, each followed by a comma. -/
def writeFields (out : List Char) (fields : Dictionary Json) : List Char :=
  fields.foldl (fun out e => writeFieldValue mark (out ++ e.1.toList ++ ['=']) e.2 ++ [',', ' ']) out

/-- Appends the blobs, each on new lines. -/
def writeBlobs (out : List Char) (blobs : Dictionary Json) : List Char :=
  blobs.foldl
    (fun out e =>
      writeBlock mark (out ++ newLine blobIndent ++ e.1.toList ++ [':', ' ']) blobIndent e.2)
    out

/-- The long and the short form of a record, as it is appended to an empty output. -/
def writeRecord (view : View) (r : Record) : List Char :=
  let out := header view r ++ [':', ' '] ++ topicPart view r ++ messageText view r ++ [' ', '(']
  let out := writeFields mark out r.fields
  let out := out ++ "tid=".toList ++ (Decimal.intText r.tid.toInt).toList ++ [')']
  writeBlobs mark out r.blobs

/-- An object has no form as a field value, so the mark announces it. -/
example : writeFieldValue ['?'] ['k', '='] (.object []) = ['k', '=', '?', '{', '}'] := by decide

/-! ## What is appended -/

variable {mark : List Char}

theorem shown?_ne_none {n : Number} (h : n.IsFinite) : n.shown? ≠ none := by
  cases n with
  | whole n => simp [Number.shown?]
  | real x => simp [Number.shown?, show x.isFinite = true from h]

theorem writeNumber_eq {n : Number} (h : mark = marker ∨ n.IsFinite) (out : List Char) :
    writeNumber mark out n = out ++ numberText n := by
  unfold writeNumber numberText
  cases hshown : n.shown? with
  | some s => rfl
  | none =>
      obtain rfl := h.resolve_right fun hfinite => shown?_ne_none hfinite hshown
      simp

section Parts

variable {indent : Nat}

theorem writeInline_eq {items : List Json}
    (h : ∀ v ∈ items, ∀ out, writeBlock mark out indent v = out ++ block indent v)
    (out : List Char) :
    writeInline mark out indent [',', ' '] items ++ [']'] = out ++ inlineItems indent items := by
  induction items generalizing out with
  | nil => rfl
  | cons v rest ih =>
      obtain ⟨hv, hrest⟩ := List.forall_mem_cons.1 h
      rw [writeInline, ih hrest, hv, inlineItems]
      simp

/-- The break after an item that is not the last one is written with the comma, and the last one is
broken before the bracket. -/
theorem writeItems_eq {items : List Json}
    (h : ∀ v ∈ items, ∀ out, writeBlock mark out (indent + 2) v = out ++ block (indent + 2) v)
    (out : List Char) :
    writeIndent (writeItems mark (closeLine out items) indent items) indent ++ [']'] =
      out ++ blockItems indent items := by
  induction items generalizing out with
  | nil => simp [writeItems, writeIndent, closeLine, blockItems, newLine]
  | cons v rest ih =>
      obtain ⟨hv, hrest⟩ := List.forall_mem_cons.1 h
      rw [writeItems, ih hrest, hv, blockItems]
      simp [writeIndent, closeLine, newLine]

theorem writeMembers_eq {members : List (String × Json)}
    (h : ∀ m ∈ members, ∀ out, writeBlock mark out (indent + 2) m.2 = out ++ block (indent + 2) m.2)
    (out : List Char) :
    writeIndent (writeMembers mark (closeLine out members) indent members) indent ++ ['}'] =
      out ++ blockMembers indent members := by
  induction members generalizing out with
  | nil => simp [writeMembers, writeIndent, closeLine, blockMembers, newLine]
  | cons m rest ih =>
      obtain ⟨hm, hrest⟩ := List.forall_mem_cons.1 h
      rw [writeMembers, ih hrest, hm, blockMembers]
      simp [writeIndent, closeLine, newLine]

end Parts

/-- A block is appended as it is, with the marker or when all of its numbers are finite. -/
theorem writeBlock_eq {v : Json} (h : ∀ n ∈ v.numbers, mark = marker ∨ n.IsFinite)
    (out : List Char) (indent : Nat) : writeBlock mark out indent v = out ++ block indent v := by
  induction v generalizing out indent with
  | null => rw [writeBlock, block]
  | bool b => cases b <;> rw [writeBlock, block] <;> rfl
  | number n => rw [writeBlock, block, writeNumber_eq (h n (by simp [Json.numbers]))]
  | string s => simp [writeBlock, block]
  | list items ih =>
      have hitems : ∀ v ∈ items, ∀ out indent,
          writeBlock mark out indent v = out ++ block indent v :=
        fun v hv => ih v hv fun n hn => h n (Json.mem_numbers_list.2 ⟨v, hv, hn⟩)
      cases items with
      | nil => simp [writeBlock, writeInline, block, isInline, inlineLimit]
      | cons v rest =>
          obtain ⟨hv, hrest⟩ := List.forall_mem_cons.1 hitems
          rw [writeBlock, block]
          split
          · rw [writeInline, hv, writeInline_eq fun w hw out => hrest w hw out indent]
            simp
          · rw [writeItems, hv, writeItems_eq fun w hw out => hrest w hw out (indent + 2)]
            simp [writeIndent, newLine]
  | object members ih =>
      have hmembers : ∀ m ∈ members, ∀ out indent,
          writeBlock mark out indent m.2 = out ++ block indent m.2 :=
        fun m hm => ih m hm fun n hn => h n (Json.mem_numbers_object.2 ⟨m, hm, hn⟩)
      cases members with
      | nil => simp [writeBlock, block]
      | cons m rest =>
          obtain ⟨hm, hrest⟩ := List.forall_mem_cons.1 hmembers
          rw [writeBlock, block, if_neg (by simp), writeMembers, hm,
            writeMembers_eq fun w hw out => hrest w hw out (indent + 2)]
          simp [writeIndent, newLine]

/-- Field values are appended as they are, with the marker. -/
theorem writeFieldItems_eq {items : List Json}
    (h : ∀ v ∈ items, ∀ out, writeFieldValue mark out v = out ++ fieldValue v) (out : List Char) :
    writeFieldItems mark out [',', ' '] items ++ [']'] = out ++ fieldItems items := by
  induction items generalizing out with
  | nil => rfl
  | cons v rest ih =>
      obtain ⟨hv, hrest⟩ := List.forall_mem_cons.1 h
      rw [writeFieldItems, ih hrest, hv, fieldItems]
      simp

theorem writeFieldValue_marker (v : Json) (out : List Char) :
    writeFieldValue marker out v = out ++ fieldValue v := by
  have hblock : ∀ v : Json, ∀ out, writeBlock marker out 0 v = out ++ block 0 v :=
    fun v out => writeBlock_eq (fun _ _ => .inl rfl) out 0
  induction v generalizing out with
  | null => rw [writeFieldValue, fieldValue, hblock]
  | bool b => rw [writeFieldValue, fieldValue, hblock]
  | number n => rw [writeFieldValue, fieldValue, hblock]
  | string s => rw [writeFieldValue, fieldValue]
  | list items ih =>
      cases items with
      | nil => simp [writeFieldValue, writeFieldItems, fieldValue]
      | cons v rest =>
          obtain ⟨hv, hrest⟩ := List.forall_mem_cons.1 ih
          rw [writeFieldValue, writeFieldItems, hv, writeFieldItems_eq hrest, fieldValue]
          simp
  | object members ih => simp [writeFieldValue, fieldValue]

/-- A value that fields hold is appended as it is with every mark, when its numbers are finite. -/
theorem writeFieldValue_field {v : Json} (hkind : v.kind = .field)
    (hfinite : ∀ n ∈ v.numbers, n.IsFinite) (out : List Char) :
    writeFieldValue mark out v = out ++ fieldValue v := by
  have hblock : writeBlock mark out 0 v = out ++ block 0 v :=
    writeBlock_eq (fun n hn => .inr (hfinite n hn)) out 0
  cases v with
  | null => rw [writeFieldValue, fieldValue, hblock]
  | bool b => rw [writeFieldValue, fieldValue, hblock]
  | number n => rw [writeFieldValue, fieldValue, hblock]
  | string s => rw [writeFieldValue, fieldValue]
  | list items =>
      cases items with
      | nil => simp [writeFieldValue, writeFieldItems, fieldValue]
      | cons v rest => cases hkind
  | object members => cases hkind

/-! ## Records -/

theorem writeFields_eq {fields : Dictionary Json}
    (h : ∀ e ∈ fields, ∀ out, writeFieldValue mark out e.2 = out ++ fieldValue e.2)
    (out : List Char) : writeFields mark out fields = out ++ fieldEntries fields := by
  induction fields generalizing out with
  | nil => simp [writeFields, fieldEntries]
  | cons e rest ih =>
      obtain ⟨he, hrest⟩ := List.forall_mem_cons.1 h
      show writeFields mark (writeFieldValue mark (out ++ e.1.toList ++ ['=']) e.2 ++ [',', ' '])
        rest = _
      rw [ih hrest, he, fieldEntries]
      simp

theorem writeBlobs_eq {blobs : Dictionary Json}
    (h : ∀ e ∈ blobs, ∀ out, writeBlock mark out blobIndent e.2 = out ++ block blobIndent e.2)
    (out : List Char) : writeBlobs mark out blobs = out ++ blobPart blobs := by
  induction blobs generalizing out with
  | nil => simp [writeBlobs, blobPart]
  | cons e rest ih =>
      obtain ⟨he, hrest⟩ := List.forall_mem_cons.1 h
      show writeBlobs mark
        (writeBlock mark (out ++ newLine blobIndent ++ e.1.toList ++ [':', ' ']) blobIndent e.2)
        rest = _
      rw [ih hrest, he, blobPart]
      simp

/-- A record is appended as it is when its fields and its blobs are. -/
theorem writeRecord_eq {r : Record}
    (hfields : ∀ e ∈ r.fields, ∀ out, writeFieldValue mark out e.2 = out ++ fieldValue e.2)
    (hblobs : ∀ e ∈ r.blobs, ∀ out,
      writeBlock mark out blobIndent e.2 = out ++ block blobIndent e.2)
    (view : View) : writeRecord mark view r = full view r := by
  simp only [writeRecord, writeBlobs_eq hblobs, writeFields_eq hfields, full, fieldPart]
  simp

theorem writeRecord_marker (view : View) (r : Record) :
    writeRecord marker view r = full view r :=
  writeRecord_eq (fun e _ => writeFieldValue_marker e.2)
    (fun _ _ out => writeBlock_eq (fun _ _ => .inl rfl) out blobIndent) view

end LogLens.Layout
