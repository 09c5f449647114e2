import LogLens.Json.Writer
import LogLens.Proofs.Decimal.Reading
import LogLens.Proofs.Json.Grammar

/-!
# Reading what was written

The text of a value, compact or indented, is read as that value when all numbers in it are whole: a
quoted text gives back its characters, the digits of a whole number give back the number, and the
parts of lists and objects are put together as a spelling puts them together. The two layouts differ
in the space between the parts only. A value that a text denotes is in canonical form and nests no
deeper than is allowed, so writing it and reading it again gives it back.

## Main results

* `exists_spelling_compact`, `exists_spelling_indented` — what is written is a spelling.
* `parse_compactText_of_parse`, `parse_indentedText_of_parse` — a value that some text denotes is
  denoted by what is written for it.
-/

namespace LogLens.Json

/-! ## Quoted texts -/

/-- The escapes by number are those of the control characters. -/
theorem numericEscape_control {n : Nat} (h : n < 0x20) :
    numericEscape ['0', '0', hexChar (n / 16), hexChar (n % 16)] = .ok (Char.ofNat n, []) := by
  have hquads : ∀ n < 0x20,
      hexQuad? ['0', '0', hexChar (n / 16), hexChar (n % 16)] = some (n, []) := by decide
  have hlow : ¬(0xDC00 ≤ n ∧ n ≤ 0xDFFF) := by omega
  have hone : n < 0xD800 ∨ 0xDFFF < n := by omega
  simp only [numericEscape, hexQuad, hquads n h, ok_bind, if_neg hlow, if_pos hone]

/-- A character is written as an escape that stands for it, or as itself. -/
theorem escaped_cases (c : Char) :
    (∃ letters, escaped c = '\\' :: letters ∧ escape letters = .ok (c, [])) ∨
      (escaped c = [c] ∧ c ≠ '"' ∧ c ≠ '\\' ∧ ¬c.toNat < 0x20) := by
  unfold escaped
  split
  case h_8 hquote hslash _ _ _ _ _ =>
    split
    · next hcontrol =>
        have hnumber := numericEscape_control hcontrol
        rw [Char.ofNat_toNat] at hnumber
        exact .inl ⟨_, rfl, hnumber⟩
    · next hcontrol => exact .inr ⟨rfl, hquote, hslash, hcontrol⟩
  all_goals exact .inl ⟨_, rfl, rfl⟩

theorem escaped_ne_nil (c : Char) : escaped c ≠ [] := by
  rcases escaped_cases c with ⟨letters, h, -⟩ | ⟨h, -⟩ <;> simp [h]

/-- The characters of a quoted text are given back, up to the closing quote. -/
theorem quoted_escapedText {cs : List Char} {fuel : Nat} (h : (escapedText cs).length < fuel)
    (rest : List Char) : quoted fuel (escapedText cs ++ '"' :: rest) = .ok (cs, rest) := by
  induction cs generalizing fuel with
  | nil =>
      obtain ⟨fuel, rfl⟩ := Nat.exists_eq_succ_of_ne_zero (Nat.ne_zero_of_lt h)
      exact quoted_close fuel rest
  | cons c cs ih =>
      obtain ⟨fuel, rfl⟩ := Nat.exists_eq_succ_of_ne_zero (Nat.ne_zero_of_lt h)
      have hpos := List.length_pos_iff.2 (escaped_ne_nil c)
      rw [escapedText, List.length_append] at h
      have hmore : quoted fuel (escapedText cs ++ '"' :: rest) = .ok (cs, rest) := ih (by omega)
      rw [escapedText, List.append_assoc]
      rcases escaped_cases c with ⟨letters, hletters, hescape⟩ | ⟨hself, hquote, hslash, hcontrol⟩
      · obtain ⟨token, htoken, hread⟩ := delimited_escape _ _ _ hescape
        rw [List.append_nil] at htoken
        subst htoken
        rw [hletters]
        exact quoted_escape (hread _) hmore
      · rw [hself]
        exact quoted_plain hquote hslash hcontrol hmore

/-- A quoted text as it is written. -/
def Key.ofName (s : String) : Key where
  others := escapedText s.toList ++ ['"']
  name := s
  reads := by
    have hfuel : (escapedText s.toList).length < (escapedText s.toList ++ ['"']).length.succ := by
      rw [List.length_append]
      omega
    simp only [quotedText, quoted_escapedText hfuel, ok_bind, String.ofList_toList]

/-! ## Whole numbers -/

theorem eq_zero_of_digit {c : Char} (h : c.isDigit = true) (hzero : c.toNat - '0'.toNat = 0) :
    c = '0' := by
  simp only [Char.isDigit, Bool.and_eq_true, decide_eq_true_eq] at h
  have hle : '0'.toNat ≤ c.toNat := UInt32.le_iff_toNat_le.1 h.1
  exact Text.toNat_injective (Nat.le_antisymm (Nat.le_of_sub_eq_zero hzero) hle)

/-- Digits make a number larger. -/
theorem le_ofDigitChars (digits : List Char) (word : Nat) :
    word ≤ Nat.ofDigitChars 10 digits word := by
  rw [Nat.ofDigitChars_eq_ofDigitChars_zero]
  have hpow : 1 * word ≤ 10 ^ digits.length * word :=
    Nat.mul_le_mul_right word (Nat.one_le_pow _ _ (by decide))
  omega

/-- Digits whose number fits a word are gathered to that number. -/
theorem gather_value {digits : List Char} (h : ∀ c ∈ digits, c.isDigit = true) {word : Nat}
    (hfits : Nat.ofDigitChars 10 digits word ≤ maxWord) :
    gather word digits = (Nat.ofDigitChars 10 digits word, digits.length, []) := by
  induction digits generalizing word with
  | nil => rfl
  | cons c cs ih =>
      obtain ⟨hc, hcs⟩ := List.forall_mem_cons.1 h
      rw [Nat.ofDigitChars_cons, Nat.mul_comm] at hfits ⊢
      have hsmall : ¬maxWord < word * 10 + (c.toNat - '0'.toNat) :=
        Nat.not_lt.2 (Nat.le_trans (le_ofDigitChars cs _) hfits)
      simp only [gather, Decimal.digit?_of_isDigit hc, if_neg hsmall, ih hcs hfits,
        List.length_cons]

/-- Only zero is written with a zero in front. -/
theorem head_toDigits {n : Nat} (h : 0 < n) : (Nat.toDigits 10 n).head? ≠ some '0' := by
  induction n using Nat.strongRecOn with
  | ind n ih =>
      rcases Nat.lt_or_ge n 10 with hsmall | hlarge
      · rw [Nat.toDigits_of_lt_base hsmall]
        have hdigits : ∀ d < 10, 0 < d → [Nat.digitChar d].head? ≠ some '0' := by decide
        exact hdigits n hsmall h
      · rw [Nat.toDigits_of_base_le (by decide) hlarge,
          List.head?_append_of_ne_nil _ Nat.toDigits_ne_nil]
        exact ih (n / 10) (by omega) (by omega)

/-- The digits of a number that fits a word are read as that number. -/
theorem numeral_toDigits (negative : Bool) {n : Nat} (h : n ≤ maxWord) :
    numeral negative (Nat.toDigits 10 n) = .ok (wholeNumber negative n, []) := by
  rcases Nat.eq_zero_or_pos n with rfl | hpos
  · rfl
  · have hdigits : ∀ c ∈ Nat.toDigits 10 n, c.isDigit = true := fun c =>
      Decimal.isDigit_of_mem_toDigits
    have hhead := head_toDigits hpos
    have hvalue : Nat.ofDigitChars 10 (Nat.toDigits 10 n) 0 = n := Nat.ofDigitChars_ten_toDigits
    cases hd : Nat.toDigits 10 n with
    | nil => exact absurd hd Nat.toDigits_ne_nil
    | cons c cs =>
        rw [hd] at hdigits hhead hvalue
        obtain ⟨hc, hcs⟩ := List.forall_mem_cons.1 hdigits
        rw [Nat.ofDigitChars_cons, Nat.mul_zero, Nat.zero_add] at hvalue
        have hgather := gather_value hcs (hvalue.symm ▸ h)
        rw [hvalue] at hgather
        obtain ⟨d, hd⟩ : ∃ d, c.toNat - '0'.toNat = d + 1 := by
          refine Nat.exists_eq_succ_of_ne_zero fun hzero => hhead ?_
          rw [List.head?_cons, eq_zero_of_digit hc hzero]
        have hdigit := Decimal.digit?_of_isDigit hc
        rw [hd] at hdigit hgather
        simp only [numeral, hdigit, hgather, startsWithDigit, Bool.false_eq_true, if_false]
        rfl

/-- The whole numbers of a numeral without a sign and with one. -/
theorem wholeNumber_natAbs (n : Whole) :
    wholeNumber (decide (n.value < 0)) n.value.natAbs = .whole n := by
  by_cases hneg : n.value < 0
  · have habs : -(n.value.natAbs : Int) = n.value := by omega
    have hzero : n.value.natAbs ≠ 0 := by omega
    simp only [wholeNumber, hneg, decide_true, if_true, hzero, if_false, habs,
      Whole.ofInt?_value]
  · have habs : (n.value.natAbs : Int) = n.value := by omega
    simp only [wholeNumber, hneg, decide_false, Bool.false_eq_true, if_false, habs,
      Whole.ofInt?_value]

theorem scalar_of_isDigit {c : Char} (h : c.isDigit = true) {cs rest : List Char} {n : Number}
    (hread : numeral false (c :: cs) = .ok (n, rest)) : scalar c cs = .ok (.number n, rest) := by
  unfold scalar
  split
  case h_6 =>
    have hdigit := congrArg Option.isSome (Decimal.digit?_of_isDigit h)
    simp only [hdigit, Option.isSome_some, if_true, hread, ok_bind]
  all_goals exact absurd h (by decide)

/-- A whole number as it is written. -/
theorem exists_token_whole (n : Whole) :
    ∃ t : Token, t.text = (Number.whole n).text.toList ∧ t.value = .number (.whole n) := by
  have hfits : n.value.natAbs ≤ maxWord := Nat.le_of_lt_succ n.natAbs_lt
  have hread := numeral_toDigits (decide (n.value < 0)) hfits
  rw [wholeNumber_natAbs] at hread
  by_cases hneg : n.value < 0
  · rw [decide_eq_true hneg] at hread
    refine ⟨⟨'-', Nat.toDigits 10 n.value.natAbs, .number (.whole n), ?_⟩, ?_, rfl⟩
    · simp only [scalar, hread, ok_bind]
    · simp [Token.text, Number.text, Decimal.intText, Decimal.natText, hneg]
  · rw [decide_eq_false hneg] at hread
    cases hd : Nat.toDigits 10 n.value.natAbs with
    | nil => exact absurd hd Nat.toDigits_ne_nil
    | cons c cs =>
        rw [hd] at hread
        have hdigit : c.isDigit = true :=
          Decimal.isDigit_of_mem_toDigits (hd ▸ List.mem_cons_self)
        refine ⟨⟨c, cs, .number (.whole n), scalar_of_isDigit hdigit hread⟩, ?_, rfl⟩
        simp [Token.text, Number.text, Decimal.intText, Decimal.natText, hneg, hd]

/-! ## Values without parts -/

/-- A value without parts is written alike in both layouts, as a spelling of it. -/
theorem exists_spelling_scalar {v : Json} (hparts : v.isComposite = false)
    (hwhole : ∀ n ∈ v.numbers, n.isWhole = true) (indent : Nat) :
    ∃ w : Spelling, w.text = compact v ∧ w.text = indented indent v ∧ w.value = v := by
  cases v with
  | null => exact ⟨.token ⟨'n', ['u', 'l', 'l'], .null, rfl⟩, rfl, rfl, rfl⟩
  | bool b =>
      cases b with
      | true => exact ⟨.token ⟨'t', ['r', 'u', 'e'], .bool true, rfl⟩, rfl, rfl, rfl⟩
      | false => exact ⟨.token ⟨'f', ['a', 'l', 's', 'e'], .bool false, rfl⟩, rfl, rfl, rfl⟩
  | number n =>
      cases n with
      | whole i =>
          obtain ⟨t, htext, hvalue⟩ := exists_token_whole i
          refine ⟨.token t, ?_, ?_, by rw [Spelling.value, hvalue]⟩
          · rw [Spelling.text, htext, compact]
          · rw [Spelling.text, htext, indented]
      | real x => cases hwhole (.real x) (by simp [numbers])
  | string s =>
      have hread : scalar '"' (Key.ofName s).others = .ok (.string s, []) := by
        simp only [scalar, (Key.ofName s).reads, ok_bind]
        rfl
      exact ⟨.token ⟨'"', (Key.ofName s).others, .string s, hread⟩, rfl, rfl, rfl⟩
  | list items => cases hparts
  | object members => cases hparts

/-! ## Values with parts

Both layouts put a fixed space before each part, after each colon and before the closing bracket,
and the same marks between them. The space before a closing bracket belongs to the part before it.
-/

section Layout

variable (inside last colon : Space) {write : Json → List Char}

/-- The rest of a list is spelled when its items are. -/
theorem exists_itemsText (more : List Json → List Char) (hnil : more [] = last.text ++ [']'])
    (hcons : ∀ v rest, more (v :: rest) = ',' :: inside.text ++ write v ++ more rest)
    {items : List Json} (h : ∀ v ∈ items, ∃ w : Spelling, w.text = write v ∧ w.value = v) :
    ∃ (before : Space) (ws : List Spelling),
      before.text ++ Spelling.itemsText ws = more items ∧ Spelling.itemValues ws = items := by
  induction items with
  | nil => exact ⟨last, [], hnil.symm, rfl⟩
  | cons v rest ih =>
      obtain ⟨⟨w, htext, hvalue⟩, hrest⟩ := List.forall_mem_cons.1 h
      obtain ⟨after, ws, htexts, hvalues⟩ := ih hrest
      refine ⟨.none, .spaced inside w after :: ws, ?_, ?_⟩
      · simp [hcons, Spelling.itemsText, Spelling.text, htext, ← htexts, Space.none]
      · rw [Spelling.itemValues, Spelling.value, hvalue, hvalues]

/-- The label of a member as it is written after some space. -/
def Label.ofName (before : Space) (s : String) : Label := ⟨before, Key.ofName s, .none⟩

theorem Label.text_ofName (before : Space) (s : String) :
    (Label.ofName before s).text = before.text ++ quote s ++ [':'] := by
  simp [Label.text, Label.ofName, Key.text, Key.ofName, quote, Space.none]

/-- The rest of an object is spelled when the values of its members are. -/
theorem exists_membersText (more : List (String × Json) → List Char)
    (hnil : more [] = last.text ++ ['}'])
    {members : List (String × Json)}
    (hcons : ∀ m ∈ members, ∀ rest, more (m :: rest) =
      ',' :: inside.text ++ quote m.1 ++ (':' :: colon.text ++ write m.2) ++ more rest)
    (h : ∀ m ∈ members, ∃ w : Spelling, w.text = write m.2 ∧ w.value = m.2) :
    ∃ (before : Space) (ws : List (Label × Spelling)),
      before.text ++ Spelling.membersText ws = more members ∧
        Spelling.memberValues ws = members := by
  induction members with
  | nil => exact ⟨last, [], hnil.symm, rfl⟩
  | cons m rest ih =>
      obtain ⟨⟨w, htext, hvalue⟩, hrest⟩ := List.forall_mem_cons.1 h
      obtain ⟨hhead, htail⟩ := List.forall_mem_cons.1 hcons
      obtain ⟨after, ws, htexts, hvalues⟩ := ih htail hrest
      refine ⟨.none, (Label.ofName inside m.1, .spaced colon w after) :: ws, ?_, ?_⟩
      · simp [hhead, Spelling.membersText, Spelling.text, Label.text_ofName, htext, ← htexts,
          Space.none]
      · rw [Spelling.memberValues, Spelling.value, hvalue, hvalues]
        rfl

/-- A list is spelled when its items are. The space before the first item may be another one. -/
theorem exists_spelling_list (first : Space) (more : List Json → List Char)
    (hnil : more [] = last.text ++ [']'])
    (hcons : ∀ v rest, more (v :: rest) = ',' :: inside.text ++ write v ++ more rest)
    {v : Json} {rest : List Json}
    (h : ∀ item ∈ v :: rest, ∃ w : Spelling, w.text = write item ∧ w.value = item) :
    ∃ w : Spelling, w.text = '[' :: first.text ++ write v ++ more rest ∧
      w.value = list (v :: rest) := by
  obtain ⟨⟨w, htext, hvalue⟩, hrest⟩ := List.forall_mem_cons.1 h
  obtain ⟨after, ws, htexts, hvalues⟩ := exists_itemsText inside last more hnil hcons hrest
  refine ⟨.list first (.spaced .none w after :: ws), ?_, ?_⟩
  · simp [Spelling.text, htext, ← htexts, Space.none]
  · rw [Spelling.value, Spelling.itemValues, Spelling.value, hvalue, hvalues]

/-- An object is spelled when the values of its members are. -/
theorem exists_spelling_object (more : List (String × Json) → List Char)
    (hnil : more [] = last.text ++ ['}'])
    {m : String × Json} {rest : List (String × Json)}
    (hcons : ∀ member ∈ rest, ∀ others, more (member :: others) =
      ',' :: inside.text ++ quote member.1 ++ (':' :: colon.text ++ write member.2) ++
        more others)
    (h : ∀ member ∈ m :: rest, ∃ w : Spelling, w.text = write member.2 ∧ w.value = member.2) :
    ∃ w : Spelling,
      w.text = '{' :: inside.text ++ quote m.1 ++ (':' :: colon.text ++ write m.2) ++ more rest ∧
        w.value = object (m :: rest) := by
  obtain ⟨⟨w, htext, hvalue⟩, hrest⟩ := List.forall_mem_cons.1 h
  obtain ⟨after, ws, htexts, hvalues⟩ := exists_membersText inside last colon more hnil hcons hrest
  refine ⟨.object .none ((Label.ofName inside m.1, .spaced colon w after) :: ws), ?_, ?_⟩
  · simp [Spelling.text, Label.text_ofName, htext, ← htexts, Space.none]
  · rw [Spelling.value, Spelling.memberValues, Spelling.value, hvalue, hvalues]
    rfl

end Layout

/-! ## The two layouts -/

/-- The compact text of a value without real numbers is a spelling of it. -/
theorem exists_spelling_compact {v : Json} (h : ∀ n ∈ v.numbers, n.isWhole = true) :
    ∃ w : Spelling, w.text = compact v ∧ w.value = v := by
  induction v with
  | list items ih =>
      have hparts : ∀ v ∈ items, ∃ w : Spelling, w.text = compact v ∧ w.value = v := fun v hv =>
        ih v hv fun n hn => h n (mem_numbers_list.2 ⟨v, hv, hn⟩)
      cases items with
      | nil => exact ⟨.list .none [], rfl, rfl⟩
      | cons v rest =>
          rw [compact]
          exact exists_spelling_list .none .none .none compactItems rfl (fun _ _ => rfl) hparts
  | object members ih =>
      have hparts : ∀ m ∈ members, ∃ w : Spelling, w.text = compact m.2 ∧ w.value = m.2 :=
        fun m hm => ih m hm fun n hn => h n (mem_numbers_object.2 ⟨m, hm, hn⟩)
      cases members with
      | nil => exact ⟨.object .none [], rfl, rfl⟩
      | cons m rest =>
          rw [compact]
          exact exists_spelling_object .none .none .none compactMembers rfl
            (fun _ _ _ => rfl) hparts
  | _ =>
      obtain ⟨w, htext, -, hvalue⟩ := exists_spelling_scalar rfl h 0
      exact ⟨w, htext, hvalue⟩

/-- The line break and the blanks before a part of the indented layout. -/
def Space.newLine (indent : Nat) : Space where
  text := Json.newLine indent
  blank := by
    intro c hc
    rcases List.mem_cons.1 hc with rfl | hc
    · rfl
    · rw [List.eq_of_mem_replicate hc]
      rfl

/-- The blank after a colon of the indented layout. -/
def Space.single : Space := ⟨[' '], by simp [isSpace]⟩

/-- The indented text of a value without real numbers is a spelling of it. -/
theorem exists_spelling_indented {v : Json} (h : ∀ n ∈ v.numbers, n.isWhole = true)
    (indent : Nat) : ∃ w : Spelling, w.text = indented indent v ∧ w.value = v := by
  induction v generalizing indent with
  | list items ih =>
      have hparts : ∀ v ∈ items,
          ∃ w : Spelling, w.text = indented (indent + 2) v ∧ w.value = v := fun v hv =>
        ih v hv (fun n hn => h n (mem_numbers_list.2 ⟨v, hv, hn⟩)) (indent + 2)
      cases items with
      | nil => exact ⟨.list .none [], rfl, rfl⟩
      | cons v rest =>
          rw [indented]
          exact exists_spelling_list (.newLine (indent + 2)) (.newLine indent)
            (.newLine (indent + 2)) (indentedItems indent) rfl (fun _ _ => rfl) hparts
  | object members ih =>
      have hparts : ∀ m ∈ members,
          ∃ w : Spelling, w.text = indented (indent + 2) m.2 ∧ w.value = m.2 := fun m hm =>
        ih m hm (fun n hn => h n (mem_numbers_object.2 ⟨m, hm, hn⟩)) (indent + 2)
      cases members with
      | nil => exact ⟨.object .none [], rfl, rfl⟩
      | cons m rest =>
          rw [indented]
          exact exists_spelling_object (.newLine (indent + 2)) (.newLine indent) .single
            (indentedMembers indent) rfl (fun _ _ _ => rfl) hparts
  | _ =>
      obtain ⟨w, -, htext, hvalue⟩ := exists_spelling_scalar rfl h indent
      exact ⟨w, htext, hvalue⟩

/-- A spelling of a value that some text denotes denotes that value. -/
theorem parse_spelling_of_parse {text : String} {v : Json} (h : parse text = .ok v)
    {w : Spelling} (hvalue : w.value = v) : parse (String.ofList w.text) = .ok v := by
  obtain ⟨u, -, rfl, hdepth⟩ := parse_eq_ok_iff.1 h
  refine parse_eq_ok_iff.2 ⟨w, String.toList_ofList.symm, ?_, ?_⟩
  · rw [hvalue, canonical_canonical]
  · rw [hvalue]
    exact Nat.le_trans (nesting_canonical_le u.value) hdepth

section Again

variable {text : String} {v : Json}

/-- A value that some text denotes is denoted by its compact text. -/
theorem parse_compactText_of_parse (h : parse text = .ok v)
    (hwhole : ∀ n ∈ v.numbers, n.isWhole = true) : parse (compactText v) = .ok v := by
  obtain ⟨w, htext, hvalue⟩ := exists_spelling_compact hwhole
  rw [compactText, ← htext]
  exact parse_spelling_of_parse h hvalue

/-- A value that some text denotes is denoted by its indented text. -/
theorem parse_indentedText_of_parse (h : parse text = .ok v)
    (hwhole : ∀ n ∈ v.numbers, n.isWhole = true) : parse (indentedText v) = .ok v := by
  obtain ⟨w, htext, hvalue⟩ := exists_spelling_indented hwhole 0
  rw [indentedText, ← htext]
  exact parse_spelling_of_parse h hvalue

end Again

end LogLens.Json
