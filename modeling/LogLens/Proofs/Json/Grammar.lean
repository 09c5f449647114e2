import LogLens.Proofs.Json.Spelling

/-!
# What the reader accepts

The reader accepts the texts of spellings whose values nest no deeper than it allows, and no others;
and it reads them as their values. One direction is `Spelling.reads`. For the other the reader is
followed back: whatever it takes off a text on its way to a value is the text of a spelling of that
value, part by part. The space that it skips before a comma or a closing bracket belongs to the part
before it.

## Main results

* `spells_value` — what a value is read from is the text of a spelling.
* `read_eq_ok_iff`, `parse_eq_ok_iff` — the accepted texts and what they are read as.
* `Spelling.value_unique` — spellings of one text have one value.
-/

namespace LogLens.Json

/-- What a reader takes off a text is the text of a spelling, of the value that it gives. -/
def Spells (depth : Nat) (reader : ValueReader) : Prop :=
  ∀ text v rest, reader text = .ok (v, rest) →
    ∃ w : Spelling, text = w.text ++ rest ∧ w.value = v ∧ v.nesting ≤ depth

section Parts

variable {item : ValueReader} {depth : Nat} {text rest : List Char}

/-- The items after the first, with the space before them. -/
theorem moreItems_eq_ok (hitem : Spells depth item) {fuel : Nat} {vs : List Json}
    (h : moreItems item fuel text = .ok (vs, rest)) :
    ∃ (space : Space) (ws : List Spelling),
      text = space.text ++ Spelling.itemsText ws ++ rest ∧ Spelling.itemValues ws = vs ∧
        ∀ v ∈ vs, v.nesting ≤ depth := by
  induction fuel generalizing text vs with
  | zero => cases h
  | succ fuel ih =>
      obtain ⟨space, htext⟩ := exists_space text
      rw [moreItems] at h
      cases hs : skipSpace text with
      | nil => simp [hs] at h
      | cons c cs =>
          rw [hs] at h htext
          by_cases hclose : c = ']'
          · simp only [hclose, if_true] at h
            cases h
            refine ⟨space, [], ?_, rfl, by simp⟩
            simp [htext, hclose, Spelling.itemsText]
          · by_cases hcomma : c = ','
            · obtain ⟨before, hbefore⟩ := exists_space cs
              simp only [hcomma, if_true, if_false, Char.reduceEq] at h
              cases hd : skipSpace cs with
              | nil => simp [hd] at h
              | cons d ds =>
                  rw [hd] at hbefore
                  simp only [hd] at h
                  split at h
                  · cases h
                  · simp only [bind_eq_ok, Prod.exists] at h
                    obtain ⟨v, left, hread, vs', rest', hmore, h⟩ := h
                    cases h
                    obtain ⟨w, hw, rfl, hdepth⟩ := hitem _ _ _ hread
                    obtain ⟨after, ws, rfl, rfl, hrest⟩ := ih hmore
                    refine ⟨space, .spaced before w after :: ws, ?_, rfl,
                      List.forall_mem_cons.2 ⟨hdepth, hrest⟩⟩
                    rw [htext, hbefore, hw, hcomma]
                    simp [Spelling.itemsText, Spelling.text]
            · simp [hclose, hcomma] at h

/-- A list from after its opening bracket. -/
theorem items_eq_ok (hitem : Spells depth item) {vs : List Json}
    (h : items item text = .ok (vs, rest)) :
    ∃ (inside : Space) (ws : List Spelling),
      '[' :: text = (Spelling.list inside ws).text ++ rest ∧ Spelling.itemValues ws = vs ∧
        ∀ v ∈ vs, v.nesting ≤ depth := by
  obtain ⟨inside, htext⟩ := exists_space text
  rw [items] at h
  cases hs : skipSpace text with
  | nil => simp [hs] at h
  | cons c cs =>
      rw [hs] at htext
      simp only [hs] at h
      by_cases hclose : c = ']'
      · simp only [hclose, if_true] at h
        cases h
        refine ⟨inside, [], ?_, rfl, by simp⟩
        simp [htext, hclose, Spelling.text]
      · simp only [hclose, if_false, bind_eq_ok, Prod.exists] at h
        obtain ⟨v, left, hread, vs', rest', hmore, h⟩ := h
        cases h
        obtain ⟨w, hw, rfl, hdepth⟩ := hitem _ _ _ hread
        obtain ⟨after, ws, rfl, rfl, hrest⟩ := moreItems_eq_ok hitem hmore
        refine ⟨inside, .spaced .none w after :: ws, ?_, rfl,
          List.forall_mem_cons.2 ⟨hdepth, hrest⟩⟩
        rw [htext, hw]
        simp [Spelling.text, Space.none]

/-- A member from after the opening quote of its key. -/
theorem member_eq_ok (hitem : Spells depth item) {m : String × Json}
    (h : member item text = .ok (m, rest)) :
    ∃ (key : Key) (after : Space) (w : Spelling),
      text = key.others ++ after.text ++ ':' :: w.text ++ rest ∧ (key.name, w.value) = m ∧
        m.2.nesting ≤ depth := by
  simp only [member, bind_eq_ok, Prod.exists] at h
  obtain ⟨name, left, hkey, h⟩ := h
  obtain ⟨key, rfl, rfl⟩ := exists_key hkey
  obtain ⟨after, hleft⟩ := exists_space left
  cases hs : skipSpace left with
  | nil => simp [hs] at h
  | cons c cs =>
      rw [hs] at hleft
      simp only [hs] at h
      by_cases hcolon : c = ':'
      · simp only [hcolon, if_true, bind_eq_ok, Prod.exists] at h
        obtain ⟨v, rest', hread, h⟩ := h
        cases h
        obtain ⟨w, rfl, rfl, hdepth⟩ := hitem _ _ _ hread
        refine ⟨key, after, w, ?_, rfl, hdepth⟩
        simp [hleft, hcolon]
      · simp [hcolon] at h

/-- The members after the first, with the space before them. -/
theorem moreMembers_eq_ok (hitem : Spells depth item) {fuel : Nat} {ms : List (String × Json)}
    (h : moreMembers item fuel text = .ok (ms, rest)) :
    ∃ (space : Space) (ws : List (Label × Spelling)),
      text = space.text ++ Spelling.membersText ws ++ rest ∧ Spelling.memberValues ws = ms ∧
        ∀ m ∈ ms, m.2.nesting ≤ depth := by
  induction fuel generalizing text ms with
  | zero => cases h
  | succ fuel ih =>
      obtain ⟨space, htext⟩ := exists_space text
      rw [moreMembers] at h
      cases hs : skipSpace text with
      | nil => simp [hs] at h
      | cons c cs =>
          rw [hs] at h htext
          by_cases hclose : c = '}'
          · simp only [hclose, if_true] at h
            cases h
            refine ⟨space, [], ?_, rfl, by simp⟩
            simp [htext, hclose, Spelling.membersText]
          · by_cases hcomma : c = ','
            · obtain ⟨before, hbefore⟩ := exists_space cs
              simp only [hcomma, if_true, if_false, Char.reduceEq] at h
              cases hd : skipSpace cs with
              | nil => simp [hd] at h
              | cons d ds =>
                  rw [hd] at hbefore
                  simp only [hd] at h
                  by_cases hquote : d = '"'
                  · simp only [hquote, if_true, bind_eq_ok, Prod.exists] at h
                    obtain ⟨k, v, left, hmember, ms', rest', hmore, h⟩ := h
                    cases h
                    obtain ⟨key, between, w, hw, hm, hdepth⟩ := member_eq_ok hitem hmember
                    obtain ⟨after, ws, rfl, rfl, hrest⟩ := ih hmore
                    refine ⟨space, (⟨before, key, between⟩, .spaced .none w after) :: ws, ?_, ?_,
                      List.forall_mem_cons.2 ⟨hdepth, hrest⟩⟩
                    · rw [htext, hbefore, hw, hcomma, hquote]
                      simp [Spelling.membersText, Spelling.text, Label.text, Key.text, Space.none]
                    · exact congrArg (· :: Spelling.memberValues ws) hm
                  · simp only [hquote, if_false] at h
                    split at h <;> cases h
            · simp [hclose, hcomma] at h

/-- An object from after its opening bracket. -/
theorem members_eq_ok (hitem : Spells depth item) {ms : List (String × Json)}
    (h : members item text = .ok (ms, rest)) :
    ∃ (inside : Space) (ws : List (Label × Spelling)),
      '{' :: text = (Spelling.object inside ws).text ++ rest ∧
        Spelling.memberValues ws = ms ∧ ∀ m ∈ ms, m.2.nesting ≤ depth := by
  obtain ⟨inside, htext⟩ := exists_space text
  rw [members] at h
  cases hs : skipSpace text with
  | nil => simp [hs] at h
  | cons c cs =>
      rw [hs] at htext
      simp only [hs] at h
      by_cases hclose : c = '}'
      · simp only [hclose, if_true] at h
        cases h
        refine ⟨inside, [], ?_, rfl, by simp⟩
        simp [htext, hclose, Spelling.text]
      · by_cases hquote : c = '"'
        · simp only [hquote, if_true, if_false, bind_eq_ok, Prod.exists, Char.reduceEq] at h
          obtain ⟨k, v, left, hmember, ms', rest', hmore, h⟩ := h
          cases h
          obtain ⟨key, between, w, hw, hm, hdepth⟩ := member_eq_ok hitem hmember
          obtain ⟨after, ws, rfl, rfl, hrest⟩ := moreMembers_eq_ok hitem hmore
          refine ⟨inside, (⟨.none, key, between⟩, .spaced .none w after) :: ws, ?_, ?_,
            List.forall_mem_cons.2 ⟨hdepth, hrest⟩⟩
          · rw [htext, hw, hquote]
            simp [Spelling.text, Label.text, Key.text, Space.none]
          · exact congrArg (· :: Spelling.memberValues ws) hm
        · simp [hclose, hquote] at h

end Parts

/-- A value without parts does not nest. -/
theorem nesting_of_scalar {c : Char} {cs rest : List Char} {v : Json}
    (h : scalar c cs = .ok (v, rest)) : v.nesting = 0 := by
  unfold scalar at h
  split at h
  case h_6 =>
    split at h
    · obtain ⟨n, -, h⟩ := bind_eq_ok.1 h
      cases h
      rfl
    · cases h
  all_goals
    obtain ⟨a, -, h⟩ := bind_eq_ok.1 h
    cases h
    rfl

/-- A value whose parts are spelled is spelled itself. -/
theorem spells_valueWith {nested : Option ValueReader} {depth : Nat}
    (h : ∀ item ∈ nested, ∃ inner, depth = inner + 1 ∧ Spells inner item) :
    Spells depth (valueWith nested) := by
  intro text v rest hread
  obtain ⟨before, htext⟩ := exists_space text
  rw [valueWith] at hread
  -- The space in front of a spelling is part of a spelling of the same value.
  have hbefore : ∀ w : Spelling, skipSpace text = w.text ++ rest →
      text = (Spelling.spaced before w .none).text ++ rest := by
    intro w hw
    rw [htext, hw]
    simp [Spelling.text, Space.none]
  cases hs : skipSpace text with
  | nil => simp [hs] at hread
  | cons c cs =>
      simp only [hs] at hread hbefore
      by_cases hlist : c = '['
      · cases nested with
        | none => simp [hlist] at hread
        | some item =>
            obtain ⟨inner, rfl, hitem⟩ := h item rfl
            simp only [hlist, if_true, bind_eq_ok, Prod.exists] at hread
            obtain ⟨vs, left, hitems, hread⟩ := hread
            cases hread
            obtain ⟨inside, ws, hw, rfl, hdepth⟩ := items_eq_ok hitem hitems
            exact ⟨_, hbefore _ (hlist ▸ hw), rfl, nesting_list_le_iff.2 hdepth⟩
      · by_cases hobject : c = '{'
        · cases nested with
          | none => simp [hobject] at hread
          | some item =>
              obtain ⟨inner, rfl, hitem⟩ := h item rfl
              simp only [hobject, if_true, if_false, bind_eq_ok, Prod.exists, Char.reduceEq]
                at hread
              obtain ⟨ms, left, hmembers, hread⟩ := hread
              cases hread
              obtain ⟨inside, ws, hw, rfl, hdepth⟩ := members_eq_ok hitem hmembers
              exact ⟨_, hbefore _ (hobject ▸ hw), rfl, nesting_object_le_iff.2 hdepth⟩
        · simp only [hlist, hobject, if_false] at hread
          obtain ⟨t, ht, rfl⟩ := exists_token hread
          have hflat := nesting_of_scalar t.reads
          exact ⟨_, hbefore (.token t) ht, rfl, by rw [hflat]; exact Nat.zero_le depth⟩

/-- What a value is read from is the text of a spelling. -/
theorem spells_value (depth : Nat) : Spells depth (value depth) := by
  induction depth with
  | zero => exact spells_valueWith fun item h => by cases h
  | succ depth ih =>
      refine spells_valueWith fun item h => ⟨depth, rfl, ?_⟩
      obtain rfl := Option.some.inj h
      exact ih

/-! ## Whole texts -/

/-- A text is accepted when it is that of a spelling whose value nests no deeper than allowed. -/
theorem document_eq_ok_iff {text : List Char} {v : Json} :
    document text = .ok v ↔
      ∃ w : Spelling, w.text = text ∧ w.value = v ∧ w.value.nesting ≤ maxDepth := by
  constructor
  · intro h
    simp only [document, bind_eq_ok, Prod.exists] at h
    obtain ⟨v', rest, hread, h⟩ := h
    split at h
    · next hend =>
        cases h
        obtain ⟨after, hafter⟩ := exists_space rest
        obtain ⟨w, rfl, rfl, hdepth⟩ := spells_value maxDepth _ _ _ hread
        rw [hend, List.append_nil] at hafter
        refine ⟨.spaced .none w after, ?_, rfl, hdepth⟩
        rw [Spelling.text, hafter]
        rfl
    · cases h
  · rintro ⟨w, rfl, rfl, hdepth⟩
    obtain ⟨rest, hread, hrest⟩ := w.reads hdepth [] stops_nil
    rw [List.append_nil] at hread
    have hend : skipSpace rest = [] := hrest
    simp only [document, hread, ok_bind, hend]

theorem read_eq_ok_iff {text : String} {v : Json} :
    read text = .ok v ↔
      ∃ w : Spelling, w.text = text.toList ∧ w.value = v ∧ w.value.nesting ≤ maxDepth := by
  rw [← document_eq_ok_iff, read]
  split
  · next v' hv => rw [hv, Except.ok.injEq, Except.ok.injEq]
  · next fault hfault => simp [hfault]

/-- A text denotes the canonical form of what is written in it. -/
theorem parse_eq_ok_iff {text : String} {v : Json} :
    parse text = .ok v ↔
      ∃ w : Spelling, w.text = text.toList ∧ w.value.canonical = v ∧
        w.value.nesting ≤ maxDepth := by
  have hmap : parse text = .ok v ↔ ∃ u, read text = .ok u ∧ u.canonical = v := by
    cases hread : read text <;> simp [parse, hread]
  rw [hmap]
  constructor
  · rintro ⟨u, hread, hcanonical⟩
    obtain ⟨w, htext, rfl, hdepth⟩ := read_eq_ok_iff.1 hread
    exact ⟨w, htext, hcanonical, hdepth⟩
  · rintro ⟨w, htext, hcanonical, hdepth⟩
    exact ⟨w.value, read_eq_ok_iff.2 ⟨w, htext, rfl, hdepth⟩, hcanonical⟩

/-- Spellings of one text have one value. -/
theorem Spelling.value_unique {w w' : Spelling} (h : w.text = w'.text) : w.value = w'.value := by
  have hread := w.reads (Nat.le_max_left w.value.nesting w'.value.nesting) [] stops_nil
  have hread' := w'.reads (Nat.le_max_right w.value.nesting w'.value.nesting) [] stops_nil
  obtain ⟨rest, hw, -⟩ := hread
  obtain ⟨rest', hw', -⟩ := hread'
  rw [h, hw', Except.ok.injEq, Prod.mk.injEq] at hw
  exact hw.1.symm

end LogLens.Json
