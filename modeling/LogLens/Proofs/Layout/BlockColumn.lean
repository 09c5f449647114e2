import LogLens.Proofs.Layout.Heading
import LogLens.Proofs.Layout.Output

/-!
# Blocks at another column

A block breaks lines at the column of its value or further to the right, never at a column of its
own. So a block that is moved to the right keeps its shape: every line but the first gets the same
number of blanks more. Where a text in the value has a line break in it, that break is not one of the
layout, and the line behind it is not moved.

## Main results

* `block_add` — a block that is moved to the right.
* `block_shifted` — the same of a block that is appended to an output.
-/

namespace LogLens.Layout

open Json (newLine)

/-! ## Blanks behind line breaks -/

/-- A text with `k` more blanks behind each line break. -/
def shifted (k : Nat) (text : List Char) : List Char :=
  text.flatMap fun c => if c = '\n' then newLine k else [c]

variable {k : Nat}

@[simp] theorem shifted_append (text other : List Char) :
    shifted k (text ++ other) = shifted k text ++ shifted k other :=
  List.flatMap_append

@[simp] theorem shifted_cons_of_ne {c : Char} (h : c ≠ '\n') (text : List Char) :
    shifted k (c :: text) = c :: shifted k text := by
  rw [shifted, List.flatMap_cons, if_neg h]
  rfl

theorem shifted_of_not_mem {text : List Char} (h : '\n' ∉ text) : shifted k text = text := by
  induction text with
  | nil => rfl
  | cons c text ih =>
      rw [List.mem_cons, not_or] at h
      rw [shifted_cons_of_ne (Ne.symm h.1), ih h.2]

/-- The blanks of a new line become more. -/
@[simp] theorem shifted_newLine (indent : Nat) :
    shifted k (newLine indent) = newLine (indent + k) := by
  have hblanks : shifted k (List.replicate indent ' ') = List.replicate indent ' ' :=
    shifted_of_not_mem (Text.not_mem_blanks indent)
  show newLine k ++ shifted k (List.replicate indent ' ') = newLine (indent + k)
  rw [hblanks, newLine, newLine, List.cons_append, List.replicate_append_replicate, Nat.add_comm]

/-! ## Blocks -/

section Parts

variable {indent : Nat}

theorem inlineItems_add {items : List Json}
    (h : ∀ v ∈ items, block (indent + k) v = shifted k (block indent v)) :
    inlineItems (indent + k) items = shifted k (inlineItems indent items) := by
  induction items with
  | nil => rfl
  | cons v rest ih =>
      obtain ⟨hv, hrest⟩ := List.forall_mem_cons.1 h
      rw [inlineItems, inlineItems, ih hrest, hv]
      simp

theorem blockItems_add {items : List Json}
    (h : ∀ v ∈ items, block (indent + k + 2) v = shifted k (block (indent + 2) v)) :
    blockItems (indent + k) items = shifted k (blockItems indent items) := by
  induction items with
  | nil =>
      rw [blockItems, blockItems, shifted_append, shifted_newLine]
      rfl
  | cons v rest ih =>
      obtain ⟨hv, hrest⟩ := List.forall_mem_cons.1 h
      rw [blockItems, blockItems, ih hrest, hv]
      simp [Nat.add_right_comm indent k 2]

theorem shifted_label {key : String} (h : '\n' ∉ key.toList) : shifted k (label key) = label key :=
  shifted_of_not_mem (by simp [label, h])

theorem blockMembers_add {members : List (String × Json)}
    (h : ∀ m ∈ members, '\n' ∉ m.1.toList ∧
      block (indent + k + 2) m.2 = shifted k (block (indent + 2) m.2)) :
    blockMembers (indent + k) members = shifted k (blockMembers indent members) := by
  induction members with
  | nil =>
      rw [blockMembers, blockMembers, shifted_append, shifted_newLine]
      rfl
  | cons m rest ih =>
      obtain ⟨⟨hkey, hm⟩, hrest⟩ := List.forall_mem_cons.1 h
      rw [blockMembers, blockMembers, ih hrest, hm]
      simp [shifted_label hkey, Nat.add_right_comm indent k 2]

end Parts

/-- A block that is moved to the right, when no text in it has a line break. -/
theorem block_add {v : Json} (h : ∀ s ∈ v.texts, '\n' ∉ s.toList) (indent k : Nat) :
    block (indent + k) v = shifted k (block indent v) := by
  induction v generalizing indent with
  | null => rfl
  | bool b => cases b <;> rfl
  | number n => exact (shifted_of_not_mem (not_mem_of_plain (plain_numberText n))).symm
  | string s =>
      have hs : '\n' ∉ s.toList := h s (List.mem_singleton.2 rfl)
      exact (shifted_of_not_mem (by simp [block, hs])).symm
  | list items ih =>
      rw [Json.forall_texts_list] at h
      have hdeeper : ∀ v ∈ items, block (indent + k + 2) v = shifted k (block (indent + 2) v) := by
        intro v hv
        rw [Nat.add_right_comm, ih v hv (h v hv)]
      cases items with
      | nil => rfl
      | cons v rest =>
          rw [block, block]
          split
          · obtain ⟨hv, hrest⟩ := List.forall_mem_cons.1 fun v hv => ih v hv (h v hv) indent
            rw [hv, inlineItems_add hrest]
            simp
          · obtain ⟨hv, hrest⟩ := List.forall_mem_cons.1 hdeeper
            rw [hv, blockItems_add hrest]
            simp [Nat.add_right_comm indent k 2]
  | object members ih =>
      rw [Json.forall_texts_object] at h
      have hdeeper : ∀ m ∈ members, '\n' ∉ m.1.toList ∧
          block (indent + k + 2) m.2 = shifted k (block (indent + 2) m.2) := by
        intro m hm
        rw [Nat.add_right_comm, ih m hm (h m hm).2]
        exact ⟨(h m hm).1, rfl⟩
      cases members with
      | nil => rfl
      | cons m rest =>
          obtain ⟨⟨hkey, hm⟩, hrest⟩ := List.forall_mem_cons.1 hdeeper
          rw [block, block, hm, blockMembers_add hrest]
          simp [shifted_label hkey, Nat.add_right_comm indent k 2]

/-- **Blocks keep their shape.** For a value without a line break in its texts and keys, the block
that starts `k` columns further to the right is the block with `k` more blanks behind each line
break. A block that is appended to an output is the same, whatever the output holds. -/
theorem block_shifted (v : Json) :
    ((∀ s ∈ v.texts, '\n' ∉ s.toList) →
      ∀ indent k, block (indent + k) v = shifted k (block indent v)) ∧
    ∀ out indent, writeBlock marker out indent v = out ++ block indent v :=
  ⟨block_add, writeBlock_eq fun _ _ => .inl rfl⟩

/-- An object in a list with an item a line, and a list on one line in the object. -/
theorem block_shifted_nested :
    let v : Json := .list [.object [("b", .list [.null, .string "x"])]]
    (∀ s ∈ v.texts, '\n' ∉ s.toList) ∧
      block (4 + 3) v = shifted 3 (block 4 v) ∧
      writeBlock marker "k: ".toList 7 v = "k: ".toList ++ block 7 v := by
  intro v
  have htexts : ∀ s ∈ v.texts, '\n' ∉ s.toList := by decide
  obtain ⟨hblock, hwrite⟩ := block_shifted v
  exact ⟨htexts, hblock htexts 4 3, hwrite "k: ".toList 7⟩

end LogLens.Layout
