import LogLens.Layout.Block
import LogLens.Proofs.Json.OneLine
import LogLens.Proofs.Json.Roundtrip

/-!
# Blocks as JSON text

A block looks like JSON text, and it is JSON text where nothing in the value has a form of its own
or would have to be escaped: no null is in it, every number is whole, and every text and every key
is *bare*, without a quote, a backslash or a control character. Such a block is a spelling of its
value on one line, on many lines and at every column. So it is read back as that value, with the
members in their order, unless it nests deeper than the reader allows.

## Main results

* `exists_spelling_block` — the block of a value is a spelling of it.
* `parse_block` — a block is read back as its value.
-/

namespace LogLens.Layout

open Json

/-! ## Bare texts -/

/-- A text in which nothing has to be escaped. -/
structure Bare (s : String) : Prop where
  plain : Text.Plain s.toList
  quote : '"' ∉ s.toList
  slash : '\\' ∉ s.toList

instance (s : String) : Decidable (Bare s) :=
  decidable_of_iff (Text.Plain s.toList ∧ '"' ∉ s.toList ∧ '\\' ∉ s.toList)
    ⟨fun ⟨hplain, hquote, hslash⟩ => ⟨hplain, hquote, hslash⟩, fun h => ⟨h.plain, h.quote, h.slash⟩⟩

theorem escaped_eq_self {c : Char} (hplain : 0x20 ≤ c.toNat) (hquote : c ≠ '"')
    (hslash : c ≠ '\\') : escaped c = [c] := by
  unfold escaped
  split
  case h_8 => rw [if_neg (Nat.not_lt.2 hplain)]
  all_goals contradiction

theorem escapedText_eq_self {cs : List Char} (hplain : Text.Plain cs) (hquote : '"' ∉ cs)
    (hslash : '\\' ∉ cs) : escapedText cs = cs := by
  induction cs with
  | nil => rfl
  | cons c cs ih =>
      rw [Text.plain_cons] at hplain
      rw [List.mem_cons, not_or] at hquote hslash
      rw [escapedText, escaped_eq_self hplain.1 (Ne.symm hquote.1) (Ne.symm hslash.1),
        ih hplain.2 hquote.2 hslash.2, List.singleton_append]

/-- A bare text is quoted as it stands. -/
theorem Bare.quote_eq {s : String} (h : Bare s) : Json.quote s = '"' :: s.toList ++ ['"'] := by
  rw [Json.quote, escapedText_eq_self h.plain h.quote h.slash]

/-- The label of a bare key is the quoted key with a colon and a blank. -/
theorem Bare.label_eq {key : String} (h : Bare key) :
    label key = Json.quote key ++ (':' :: Space.single.text) := by
  rw [h.quote_eq]
  simp [label, Space.single]

/-! ## Values whose block is JSON text -/

/-- Nothing in a value has a form of its own in a block, or would have to be escaped. -/
structure Literal (v : Json) : Prop where
  noNull : v.hasNull = false
  whole : ∀ n ∈ v.numbers, n.isWhole = true
  bare : ∀ s ∈ v.texts, Bare s

theorem Literal.item {items : List Json} (h : Literal (.list items)) {v : Json} (hv : v ∈ items) :
    Literal v where
  noNull := hasNull_list_eq_false_iff.1 h.noNull v hv
  whole n hn := h.whole n (mem_numbers_list.2 ⟨v, hv, hn⟩)
  bare := forall_texts_list.1 h.bare v hv

theorem Literal.member {members : List (String × Json)} (h : Literal (.object members))
    {m : String × Json} (hm : m ∈ members) : Literal m.2 where
  noNull := hasNull_object_eq_false_iff.1 h.noNull m hm
  whole n hn := h.whole n (mem_numbers_object.2 ⟨m, hm, hn⟩)
  bare := (forall_texts_object.1 h.bare m hm).2

theorem Literal.key {members : List (String × Json)} (h : Literal (.object members))
    {m : String × Json} (hm : m ∈ members) : Bare m.1 :=
  (forall_texts_object.1 h.bare m hm).1

/-! ## Blocks -/

/-- A value without parts is written as in the compact layout. -/
theorem block_eq_compact {v : Json} (hparts : v.isComposite = false) (h : Literal v)
    (indent : Nat) : block indent v = compact v := by
  cases v with
  | null => cases h.noNull
  | bool b => cases b <;> rw [block, compact]
  | number n =>
      cases n with
      | whole i => rw [block, compact, numberText, Number.shown?, Number.text]
      | real x => cases h.whole (.real x) (by simp [numbers])
  | string s =>
      have hs : Bare s := h.bare s (by simp [texts])
      rw [block, compact, hs.quote_eq]
  | list items => cases hparts
  | object members => cases hparts

/-- The block of a value is a spelling of it. -/
theorem exists_spelling_block {v : Json} (h : Literal v) (indent : Nat) :
    ∃ w : Spelling, w.text = block indent v ∧ w.value = v := by
  induction v generalizing indent with
  | list items ih =>
      have hparts : ∀ indent, ∀ v ∈ items, ∃ w : Spelling, w.text = block indent v ∧ w.value = v :=
        fun indent v hv => ih v hv (h.item hv) indent
      cases items with
      | nil => exact ⟨.list .none [], by rw [block]; rfl, rfl⟩
      | cons v rest =>
          rw [block]
          split
          · exact exists_spelling_list .single .none .none (inlineItems indent) rfl
              (fun _ _ => rfl) (hparts indent)
          · exact exists_spelling_list (.newLine (indent + 2)) (.newLine indent)
              (.newLine (indent + 2)) (blockItems indent) rfl (fun _ _ => rfl)
              (hparts (indent + 2))
  | object members ih =>
      have hparts : ∀ m ∈ members,
          ∃ w : Spelling, w.text = block (indent + 2) m.2 ∧ w.value = m.2 :=
        fun m hm => ih m hm (h.member hm) (indent + 2)
      cases members with
      | nil => exact ⟨.object .none [], by rw [block]; rfl, rfl⟩
      | cons m rest =>
          -- With its keys quoted as they stand, an object is laid out as in indented text.
          have hlabel : ∀ member ∈ m :: rest,
              label member.1 = Json.quote member.1 ++ (':' :: Space.single.text) :=
            fun member hmember => (h.key hmember).label_eq
          obtain ⟨hfirst, hothers⟩ := List.forall_mem_cons.1 hlabel
          have hmore : ∀ member ∈ rest, ∀ others, blockMembers indent (member :: others) =
              ',' :: (Space.newLine (indent + 2)).text ++ Json.quote member.1 ++
                (':' :: Space.single.text ++ block (indent + 2) member.2) ++
                  blockMembers indent others := by
            intro member hmember others
            rw [blockMembers, hothers member hmember]
            simp [Space.newLine]
          obtain ⟨w, htext, hvalue⟩ := exists_spelling_object (.newLine (indent + 2))
            (.newLine indent) .single (blockMembers indent) rfl hmore hparts
          refine ⟨w, ?_, hvalue⟩
          rw [block, htext, hfirst]
          simp [Space.newLine]
  | _ =>
      obtain ⟨w, htext, -, hvalue⟩ := exists_spelling_scalar rfl h.whole indent
      exact ⟨w, htext.trans (block_eq_compact rfl h indent).symm, hvalue⟩

/-- A block is read back as its value, at every column. What the reader then keeps is the canonical
form, which is the value itself for one whose objects are in dictionary form. -/
theorem parse_block {v : Json} (hnull : v.hasNull = false)
    (hwhole : ∀ n ∈ v.numbers, n.isWhole = true) (hbare : ∀ s ∈ v.texts, Bare s)
    (hdepth : v.nesting ≤ maxDepth) (indent : Nat) :
    Json.read (String.ofList (block indent v)) = .ok v ∧
      Json.parse (String.ofList (block indent v)) = .ok v.canonical := by
  obtain ⟨w, htext, hvalue⟩ := exists_spelling_block ⟨hnull, hwhole, hbare⟩ indent
  have htoList : w.text = (String.ofList (block indent v)).toList :=
    htext.trans String.toList_ofList.symm
  have hnesting : w.value.nesting ≤ maxDepth := hvalue.symm ▸ hdepth
  exact ⟨read_eq_ok_iff.2 ⟨w, htoList, hvalue, hnesting⟩,
    parse_eq_ok_iff.2 ⟨w, htoList, congrArg canonical hvalue, hnesting⟩⟩

/-- A list on one line, a list with an item a line, and empty brackets. -/
theorem parse_block_nested :
    let v : Json := .object
      [("empty", .object []),
        ("items", .list
          [.object [("size", .number (.whole ⟨-3, by decide, by decide⟩))], .list []]),
        ("line", .list [.bool true, .string "a, b"])]
    Json.read (String.ofList (block 4 v)) = .ok v ∧
      Json.parse (String.ofList (block 4 v)) = .ok v :=
  parse_block (by decide) (by decide) (by decide) (by decide) 4

end LogLens.Layout
