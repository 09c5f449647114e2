import LogLens.Proofs.Json.Token
import LogLens.Proofs.Json.Value

/-!
# Spellings

A `Spelling` is a JSON text taken apart: its tokens, the brackets around lists and objects with the
parts between them, and the space that stands at each place where space may stand. It has a text,
and it has a value, the one that is written down in it, with the members of objects as they are
written. Spellings are what can be rearranged where texts cannot: a comma or a brace of a text may
be a mark between parts as well as a character of a quoted text.

The reader reads a spelling as its value wherever the nesting of that value is allowed. The space
after a value is left for whoever reads on, so what is left of a text is known up to space.

## Main results

* `Spelling.reads` — the text of a spelling is read as its value.
-/

namespace LogLens.Json

/-! ## Space -/

/-- Characters that may stand between the parts of a value. -/
structure Space where
  text : List Char
  blank : ∀ c ∈ text, isSpace c = true

/-- No space at all. -/
def Space.none : Space := ⟨[], fun _ h => by cases h⟩

theorem skipSpace_append (s : Space) (text : List Char) :
    skipSpace (s.text ++ text) = skipSpace text := by
  obtain ⟨cs, hblank⟩ := s
  show skipSpace (cs ++ text) = skipSpace text
  induction cs with
  | nil => rfl
  | cons c cs ih =>
      have hc := hblank c List.mem_cons_self
      simp only [List.cons_append, skipSpace, hc, if_true]
      exact ih fun d hd => hblank d (List.mem_cons_of_mem _ hd)

theorem skipSpace_cons {c : Char} (h : isSpace c = false) (cs : List Char) :
    skipSpace (c :: cs) = c :: cs := by
  simp [skipSpace, h]

theorem skipSpace_quote (cs : List Char) : skipSpace ('"' :: cs) = '"' :: cs :=
  skipSpace_cons rfl cs

theorem skipSpace_colon (cs : List Char) : skipSpace (':' :: cs) = ':' :: cs :=
  skipSpace_cons rfl cs

theorem skipSpace_skipSpace (text : List Char) : skipSpace (skipSpace text) = skipSpace text := by
  fun_induction skipSpace text with
  | case1 => rfl
  | case2 c cs h ih => exact ih
  | case3 c cs h => exact skipSpace_cons (Bool.eq_false_iff.2 h) cs

/-- The space at the beginning of a text. -/
theorem exists_space (text : List Char) : ∃ s : Space, text = s.text ++ skipSpace text := by
  fun_induction skipSpace text with
  | case1 => exact ⟨Space.none, rfl⟩
  | case2 c cs h ih =>
      obtain ⟨space, hs⟩ := ih
      exact ⟨⟨c :: space.text, List.forall_mem_cons.2 ⟨h, space.blank⟩⟩, congrArg (c :: ·) hs⟩
  | case3 c cs h => exact ⟨Space.none, rfl⟩

/-- Space stops a number. -/
theorem Space.stops (s : Space) {after : List Char} (h : Stops after) :
    Stops (s.text ++ after) := by
  obtain ⟨_ | ⟨c, cs⟩, hblank⟩ := s
  · exact h
  · have hc := hblank c List.mem_cons_self
    simp only [isSpace, Bool.or_eq_true, beq_iff_eq] at hc
    rw [List.cons_append, stops_cons_iff]
    rcases hc with ((rfl | rfl) | rfl) | rfl <;> decide

/-! ## The reader and space -/

/-- The space before a value plays no part. -/
theorem value_skipSpace {text text' : List Char} (h : skipSpace text = skipSpace text')
    (depth : Nat) : value depth text = value depth text' := by
  cases depth <;> simp only [value, valueWith, h]

theorem value_eq_scalar {c : Char} (hspace : isSpace c = false) (hlist : c ≠ '[')
    (hobject : c ≠ '{') (cs : List Char) (depth : Nat) : value depth (c :: cs) = scalar c cs := by
  cases depth <;> simp only [value, valueWith, skipSpace_cons hspace, if_neg hlist, if_neg hobject]

/-- A value begins with a character that is no space and closes no list. -/
theorem first_of_value {depth : Nat} {text rest : List Char} {v : Json}
    (h : value depth text = .ok (v, rest)) :
    ∃ c cs, skipSpace text = c :: cs ∧ c ≠ ']' ∧ value depth (c :: cs) = .ok (v, rest) := by
  have hskip := value_skipSpace (skipSpace_skipSpace text) depth
  cases hs : skipSpace text with
  | nil => cases depth <;> simp [value, valueWith, hs] at h
  | cons c cs =>
      rw [hs] at hskip
      refine ⟨c, cs, rfl, ?_, hskip.trans h⟩
      rintro rfl
      rw [← hskip, value_eq_scalar rfl (by decide) (by decide)] at h
      cases h

/-- A text is read as a value wherever it stops, up to the space that comes after it. -/
def Reads (depth : Nat) (text : List Char) (v : Json) : Prop :=
  ∀ after, Stops after →
    ∃ rest, value depth (text ++ after) = .ok (v, rest) ∧ skipSpace rest = skipSpace after

theorem Token.reads_text (t : Token) (depth : Nat) : Reads depth t.text t.value := by
  intro after hafter
  obtain ⟨hspace, hlist, -, hobject, -⟩ := first_of_scalar t.reads
  refine ⟨after, ?_, rfl⟩
  rw [Token.text, List.cons_append, value_eq_scalar hspace hlist hobject]
  exact t.scalar_append hafter

theorem Reads.spaced {depth : Nat} {text : List Char} {v : Json} (h : Reads depth text v)
    (before after : Space) : Reads depth (before.text ++ text ++ after.text) v := by
  intro next hnext
  obtain ⟨rest, hread, hrest⟩ := h (after.text ++ next) (after.stops hnext)
  refine ⟨rest, ?_, hrest.trans (skipSpace_append after next)⟩
  rw [List.append_assoc, List.append_assoc, value_skipSpace (skipSpace_append before _)]
  exact hread

/-! ## Spellings -/

/-- What stands before the value of a member: its key and a colon. -/
structure Label where
  before : Space
  key : Key
  after : Space

/-- All characters of a label. -/
def Label.text (l : Label) : List Char :=
  l.before.text ++ l.key.text ++ l.after.text ++ [':']

/-- A JSON text taken apart. -/
inductive Spelling where
  | token (t : Token)
  | spaced (before : Space) (w : Spelling) (after : Space)
  | list (inside : Space) (items : List Spelling)
  | object (inside : Space) (members : List (Label × Spelling))

namespace Spelling

/-- Every spelling has a property that its parts hand on. -/
@[elab_as_elim, induction_eliminator]
theorem induct {P : Spelling → Prop} (token : ∀ t, P (.token t))
    (spaced : ∀ before w after, P w → P (.spaced before w after))
    (list : ∀ inside items, (∀ w ∈ items, P w) → P (.list inside items))
    (object : ∀ inside members, (∀ m ∈ members, P m.2) → P (.object inside members)) : ∀ w, P w
  | .token t => token t
  | .spaced before w after => spaced before w after (induct token spaced list object w)
  | .list inside items => list inside items fun w _ => induct token spaced list object w
  | .object inside members => object inside members fun m _ => induct token spaced list object m.2
  decreasing_by
    · simp only [Spelling.spaced.sizeOf_spec]
      omega
    · next hmem =>
        have hsize := List.sizeOf_lt_of_mem hmem
        simp only [Spelling.list.sizeOf_spec]
        omega
    · next hmem =>
        have hsize := List.sizeOf_lt_of_mem hmem
        have hpart : sizeOf m.2 < sizeOf m := by
          cases m
          simp only [Prod.mk.sizeOf_spec]
          omega
        simp only [Spelling.object.sizeOf_spec]
        omega

mutual

/-- The text that is spelled. -/
def text : Spelling → List Char
  | token t => t.text
  | spaced before w after => before.text ++ text w ++ after.text
  | list inside [] => '[' :: inside.text ++ [']']
  | list inside (w :: rest) => '[' :: inside.text ++ text w ++ itemsText rest
  | object inside [] => '{' :: inside.text ++ ['}']
  | object inside ((l, w) :: rest) => '{' :: inside.text ++ l.text ++ text w ++ membersText rest

/-- The items after the first, each with a comma before it, and the closing bracket. -/
def itemsText : List Spelling → List Char
  | [] => [']']
  | w :: rest => ',' :: text w ++ itemsText rest

/-- The members after the first, each with a comma before it, and the closing bracket. -/
def membersText : List (Label × Spelling) → List Char
  | [] => ['}']
  | (l, w) :: rest => ',' :: l.text ++ text w ++ membersText rest

end

mutual

/-- The value that is written down. -/
def value : Spelling → Json
  | token t => t.value
  | spaced _ w _ => value w
  | list _ items => .list (itemValues items)
  | object _ members => .object (memberValues members)

/-- The values of items. -/
def itemValues : List Spelling → List Json
  | [] => []
  | w :: rest => value w :: itemValues rest

/-- The keys and values of members. -/
def memberValues : List (Label × Spelling) → List (String × Json)
  | [] => []
  | (l, w) :: rest => (l.key.name, value w) :: memberValues rest

end

theorem itemValues_eq (items : List Spelling) : itemValues items = items.map value := by
  induction items with
  | nil => rfl
  | cons w rest ih => rw [itemValues, ih, List.map_cons]

theorem memberValues_eq (members : List (Label × Spelling)) :
    memberValues members = members.map fun m => (m.1.key.name, m.2.value) := by
  induction members with
  | nil => rfl
  | cons m rest ih => rw [memberValues, ih, List.map_cons]

/-! ## Reading a spelling -/

section Parts

variable {depth : Nat} {text after : List Char}

theorem itemsText_first (items : List Spelling) (after : List Char) :
    Stops (itemsText items ++ after) ∧
      skipSpace (itemsText items ++ after) = itemsText items ++ after := by
  cases items with
  | nil => exact ⟨stops_cons_iff.2 (by decide), skipSpace_cons rfl _⟩
  | cons w rest => exact ⟨stops_cons_iff.2 (by decide), skipSpace_cons rfl _⟩

theorem membersText_first (members : List (Label × Spelling)) (after : List Char) :
    Stops (membersText members ++ after) ∧
      skipSpace (membersText members ++ after) = membersText members ++ after := by
  cases members with
  | nil => exact ⟨stops_cons_iff.2 (by decide), skipSpace_cons rfl _⟩
  | cons m rest => exact ⟨stops_cons_iff.2 (by decide), skipSpace_cons rfl _⟩

theorem length_itemsText (items : List Spelling) : items.length < (itemsText items).length := by
  induction items with
  | nil => exact Nat.one_pos
  | cons w rest ih =>
      simp only [itemsText, List.length_append, List.length_cons]
      omega

theorem length_membersText (members : List (Label × Spelling)) :
    members.length < (membersText members).length := by
  induction members with
  | nil => exact Nat.one_pos
  | cons m rest ih =>
      simp only [membersText, List.length_append, List.length_cons]
      omega

/-- The items after the first are read one after the other, given fuel for each. -/
theorem moreItems_itemsText {items : List Spelling}
    (h : ∀ w ∈ items, Reads depth w.text w.value) {fuel : Nat} (hfuel : items.length < fuel)
    (htext : skipSpace text = itemsText items ++ after) :
    moreItems (Json.value depth) fuel text = .ok (itemValues items, after) := by
  induction items generalizing fuel text with
  | nil =>
      obtain ⟨fuel, rfl⟩ := Nat.exists_eq_succ_of_ne_zero (Nat.ne_zero_of_lt hfuel)
      rw [itemsText] at htext
      simp [moreItems, htext, itemValues]
  | cons w rest ih =>
      obtain ⟨fuel, rfl⟩ := Nat.exists_eq_succ_of_ne_zero (Nat.ne_zero_of_lt hfuel)
      obtain ⟨hstops, hskip⟩ := itemsText_first rest after
      obtain ⟨left, hread, hleft⟩ := h w List.mem_cons_self _ hstops
      obtain ⟨c, cs, hfirst, hclose, hvalue⟩ := first_of_value hread
      have hmore := ih (fun w hw => h w (List.mem_cons_of_mem _ hw)) (Nat.lt_of_succ_lt_succ hfuel)
        (hleft.trans hskip)
      rw [itemsText, List.cons_append, List.cons_append, List.append_assoc] at htext
      rw [moreItems]
      simp only [htext, hfirst, hclose, hvalue, hmore, ok_bind, if_false, if_true, itemValues,
        Char.reduceEq]

/-- The items of a list are read from after its opening bracket. -/
theorem items_itemsText (inside : Space) {w : Spelling} {rest : List Spelling}
    (h : ∀ item ∈ w :: rest, Reads depth item.text item.value) :
    items (Json.value depth) (inside.text ++ w.text ++ itemsText rest ++ after) =
      .ok (itemValues (w :: rest), after) := by
  obtain ⟨hstops, hskip⟩ := itemsText_first rest after
  obtain ⟨left, hread, hleft⟩ := h w List.mem_cons_self _ hstops
  obtain ⟨c, cs, hfirst, hclose, hvalue⟩ := first_of_value hread
  have hfuel : rest.length < (inside.text ++ w.text ++ itemsText rest ++ after).length := by
    have hlength := length_itemsText rest
    simp only [List.length_append]
    omega
  have hmore := moreItems_itemsText (fun w hw => h w (List.mem_cons_of_mem _ hw)) hfuel
    (hleft.trans hskip)
  rw [← skipSpace_append inside] at hfirst
  rw [items]
  simp only [List.append_assoc] at hmore ⊢
  simp only [hfirst, hclose, hvalue, hmore, ok_bind, if_false, itemValues]

/-- A member is read from after the opening quote of its key. -/
theorem member_label (l : Label) {w : Spelling} {left : List Char}
    (h : Json.value depth (w.text ++ text) = .ok (w.value, left)) :
    member (Json.value depth) (l.key.others ++ (l.after.text ++ ':' :: (w.text ++ text))) =
      .ok ((l.key.name, w.value), left) := by
  rw [member, l.key.quotedText_append, ok_bind]
  simp only [skipSpace_append, skipSpace_colon, if_true, h, ok_bind]

/-- The members after the first are read one after the other, given fuel for each. -/
theorem moreMembers_membersText {members : List (Label × Spelling)}
    (h : ∀ m ∈ members, Reads depth m.2.text m.2.value) {fuel : Nat}
    (hfuel : members.length < fuel) (htext : skipSpace text = membersText members ++ after) :
    moreMembers (Json.value depth) fuel text = .ok (memberValues members, after) := by
  induction members generalizing fuel text with
  | nil =>
      obtain ⟨fuel, rfl⟩ := Nat.exists_eq_succ_of_ne_zero (Nat.ne_zero_of_lt hfuel)
      rw [membersText] at htext
      simp [moreMembers, htext, memberValues]
  | cons m rest ih =>
      obtain ⟨fuel, rfl⟩ := Nat.exists_eq_succ_of_ne_zero (Nat.ne_zero_of_lt hfuel)
      obtain ⟨hstops, hskip⟩ := membersText_first rest after
      obtain ⟨left, hread, hleft⟩ := h m List.mem_cons_self _ hstops
      have hmember := member_label m.1 hread
      have hmore := ih (fun w hw => h w (List.mem_cons_of_mem _ hw)) (Nat.lt_of_succ_lt_succ hfuel)
        (hleft.trans hskip)
      rw [membersText, Label.text, Key.text] at htext
      simp only [List.cons_append, List.append_assoc, List.nil_append] at htext
      rw [moreMembers]
      simp only [htext, skipSpace_append, skipSpace_quote, hmember, hmore, ok_bind, if_false,
        if_true, memberValues, Char.reduceEq]

/-- The members of an object are read from after its opening bracket. -/
theorem members_membersText (inside : Space) {m : Label × Spelling} {rest : List (Label × Spelling)}
    (h : ∀ part ∈ m :: rest, Reads depth part.2.text part.2.value) :
    members (Json.value depth)
        (inside.text ++ m.1.text ++ m.2.text ++ membersText rest ++ after) =
      .ok (memberValues (m :: rest), after) := by
  obtain ⟨hstops, hskip⟩ := membersText_first rest after
  obtain ⟨left, hread, hleft⟩ := h m List.mem_cons_self _ hstops
  have hmember := member_label m.1 hread
  have hfuel :
      rest.length < (inside.text ++ m.1.text ++ m.2.text ++ membersText rest ++ after).length := by
    have hlength := length_membersText rest
    simp only [List.length_append]
    omega
  have hmore := moreMembers_membersText (fun w hw => h w (List.mem_cons_of_mem _ hw)) hfuel
    (hleft.trans hskip)
  rw [members]
  simp only [Label.text, Key.text, List.append_assoc, List.cons_append, List.nil_append] at hmore ⊢
  simp only [skipSpace_append, skipSpace_quote, hmember, hmore, ok_bind, if_false, if_true,
    memberValues, Char.reduceEq]

/-- A list is read when its items are. -/
theorem reads_list (inside : Space) {parts : List Spelling}
    (h : ∀ w ∈ parts, Reads depth w.text w.value) :
    Reads (depth + 1) (list inside parts).text (list inside parts).value := by
  intro after hafter
  have hitems : ∃ cs, (list inside parts).text ++ after = '[' :: cs ∧
      items (Json.value depth) cs = .ok (itemValues parts, after) := by
    cases parts with
    | nil =>
        refine ⟨inside.text ++ ']' :: after, by simp [Spelling.text], ?_⟩
        simp [items, skipSpace_append, skipSpace_cons, isSpace, itemValues]
    | cons w rest =>
        exact ⟨_, by simp only [Spelling.text, List.cons_append], items_itemsText inside h⟩
  obtain ⟨cs, htext, hread⟩ := hitems
  refine ⟨after, ?_, rfl⟩
  rw [htext, Json.value, valueWith, skipSpace_cons rfl]
  simp only [if_true, hread, ok_bind, value]

/-- An object is read when the values of its members are. -/
theorem reads_object (inside : Space) {parts : List (Label × Spelling)}
    (h : ∀ m ∈ parts, Reads depth m.2.text m.2.value) :
    Reads (depth + 1) (object inside parts).text (object inside parts).value := by
  intro after hafter
  have hmembers : ∃ cs, (object inside parts).text ++ after = '{' :: cs ∧
      members (Json.value depth) cs = .ok (memberValues parts, after) := by
    cases parts with
    | nil =>
        refine ⟨inside.text ++ '}' :: after, by simp [Spelling.text], ?_⟩
        simp [members, skipSpace_append, skipSpace_cons, isSpace, memberValues]
    | cons m rest =>
        exact ⟨_, by simp only [Spelling.text, List.cons_append], members_membersText inside h⟩
  obtain ⟨cs, htext, hread⟩ := hmembers
  refine ⟨after, ?_, rfl⟩
  rw [htext, Json.value, valueWith, skipSpace_cons rfl]
  simp only [if_true, if_false, hread, ok_bind, value, Char.reduceEq]

end Parts

/-- The text of a spelling is read as its value where the nesting of that value is allowed. -/
theorem reads {w : Spelling} {depth : Nat} (h : w.value.nesting ≤ depth) :
    Reads depth w.text w.value := by
  induction w generalizing depth with
  | token t => exact t.reads_text depth
  | spaced before w after ih =>
      rw [value] at h
      exact (ih h).spaced before after
  | list inside parts ih =>
      obtain ⟨depth, rfl⟩ := Nat.exists_eq_succ_of_ne_zero (Nat.ne_zero_of_lt h)
      rw [value, itemValues_eq, nesting_list_le_iff, List.forall_mem_map] at h
      exact reads_list inside fun w hw => ih w hw (h w hw)
  | object inside parts ih =>
      obtain ⟨depth, rfl⟩ := Nat.exists_eq_succ_of_ne_zero (Nat.ne_zero_of_lt h)
      rw [value, memberValues_eq, nesting_object_le_iff, List.forall_mem_map] at h
      exact reads_object inside fun m hm => ih m hm (h m hm)

end Spelling

end LogLens.Json
