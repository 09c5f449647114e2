import LogLens.Proofs.Condition.Step
import LogLens.Proofs.Decimal.Reading

/-!
# Comparing a field with a token

The text `.key == token` is read as the equality of a field and of whatever the token is, as long as
no operator stands in the key before the `==` and no `&&` or `||` stands in the token. The blank
characters around the `==` keep the operators apart from both sides, so `=` at the end of the key or
at the beginning of the token does no harm, and neither does `==` in the token.

Of the tokens that are read as integers each denotes one, and the two sides of the comparison are the
texts of integers, which differ when the integers do.

## Main results

* `read_fieldEquals` — what such a text is read as.
* `Operand.read_quoted`, `isToken_quoted` — texts between quotes are such tokens.
* `Operand.read_integer`, `isToken_integer` — and integers are.
* `holds_equals_integer` — the comparison of a field with an integer.
-/

namespace LogLens

/-- Text between quotes is a constant, whatever is in it. -/
theorem Operand.read_quoted (text : List Char) :
    Operand.read ('"' :: text ++ ['"']) = .constant (String.ofList text) := by
  simp [Operand.read, Operand.enclosed?, Text.dropEnd?_append_singleton]

section Tokens

variable {c : Char} {cs : List Char}

theorem Operand.enclosed?_of_ne {delimiter : Char} (h : c ≠ delimiter) (cs : List Char) :
    enclosed? delimiter (c :: cs) = none := if_neg h

theorem Operand.boolean?_of_ne (htrue : c ≠ 't') (hfalse : c ≠ 'f') (cs : List Char) :
    boolean? (c :: cs) = none := by
  have htrue' : c :: cs ≠ "true".toList := fun h => htrue (List.cons.inj h).1
  have hfalse' : c :: cs ≠ "false".toList := fun h => hfalse (List.cons.inj h).1
  simp only [boolean?, if_neg htrue', if_neg hfalse']

/-- A token without a point or a quote at its beginning is a literal that stands for itself. -/
theorem Operand.read_of_ne (hpoint : c ≠ '.') (hquote : c ≠ '"') (cs : List Char) :
    Operand.read (c :: cs) = bare (c :: cs) := by
  unfold Operand.read
  split
  · next hname => exact absurd (List.cons.inj hname).1 hpoint
  · rw [enclosed?_of_ne hquote]

/-- An integer of the range of whole numbers is a number. -/
theorem Operand.read_integer {token : List Char} {n : Whole}
    (h : Decimal.integer? token = some n.value) : Operand.read token = .number (.whole n) := by
  have hnumber : number? token = some (.whole n) := by
    simp [number?, h, Whole.ofInt?_value]
  cases token with
  | nil => cases h
  | cons c cs =>
      have hne : ∀ d, Decimal.isNumeric d = false → c ≠ d := by
        rintro d hd rfl
        rw [Decimal.numeric_of_integer? h c List.mem_cons_self] at hd
        cases hd
      have hpoint : c ≠ '.' := by
        rintro rfl
        cases h
      rw [Operand.read_of_ne hpoint (hne '"' (by decide))]
      simp only [bare, pattern?, enclosed?_of_ne (hne '/' (by decide)), Option.bind_none,
        boolean?_of_ne (hne 't' (by decide)) (hne 'f' (by decide)), hnumber]

end Tokens

namespace Condition

open Text (cutAt? isBlank trim trimStart trimEnd)

/-- The text that compares a field with a token. -/
def fieldEquals (key token : List Char) : List Char :=
  '.' :: key ++ ' ' :: '=' :: '=' :: ' ' :: token

/-- A key that can be named before an `==`: no operator that is tried before `=~` is in it, and it
does not end with a blank character, which would be trimmed away. -/
structure IsNameable (key : List Char) : Prop where
  and_free : ¬['&', '&'] <:+: key
  or_free : ¬['|', '|'] <:+: key
  equals_free : ¬['=', '='] <:+: key
  end_not_blank : ∀ c, key.getLast? = some c → isBlank c = false

/-- A token that is not split and that nothing is trimmed of. -/
structure IsToken (token : List Char) : Prop where
  and_free : ¬['&', '&'] <:+: token
  or_free : ¬['|', '|'] <:+: token
  trimmed : trim token = token
  ne_nil : token ≠ []

/-- A mark of one character twice is not in a text whose characters are all of another sort. -/
theorem not_infix_pair {sort : Char → Bool} {text : List Char} (h : ∀ c ∈ text, sort c = true)
    {mark : Char} (hmark : sort mark = false) : ¬[mark, mark] <:+: text := by
  intro hpart
  have hmem := h mark (hpart.subset List.mem_cons_self)
  rw [hmark] at hmem
  cases hmem

/-- A key of letters can be named. -/
theorem isNameable_of_isAlpha {key : List Char} (h : ∀ c ∈ key, c.isAlpha = true) :
    IsNameable key :=
  ⟨not_infix_pair h rfl, not_infix_pair h rfl, not_infix_pair h rfl, fun c hc =>
    Text.not_blank_of_isAlpha (h c (List.mem_of_getLast? hc))⟩

section

variable {mark key token : List Char}

/-- An operator that contains no point, blank or `=` occurs in the comparison only when it occurs in
one of its two sides. -/
theorem cutAt?_fieldEquals (hmark : mark ≠ []) (hpoint : '.' ∉ mark) (hblank : ' ' ∉ mark)
    (hequals : '=' ∉ mark) (hkey : ¬mark <:+: key) (htoken : ¬mark <:+: token) :
    cutAt? mark (fieldEquals key token) = none := by
  rw [← Text.cutAt?_eq_none_iff] at hkey htoken
  simp [fieldEquals, Text.cutAt?_cons hmark hpoint, Text.cutAt?_append_cons hmark hblank,
    Text.cutAt?_cons hmark hequals, Text.cutAt?_cons hmark hblank, hkey, htoken]

/-- The `==` between the two sides is the first one. -/
theorem cutAt?_equals_fieldEquals (hkey : ¬['=', '='] <:+: key) :
    cutAt? ['=', '='] (fieldEquals key token) = some ('.' :: key ++ [' '], ' ' :: token) := by
  have hnone : cutAt? ['=', '='] ('.' :: key) = none := by
    rw [Text.cutAt?_cons (by decide) (by decide), Text.cutAt?_eq_none_iff.2 hkey]
    rfl
  have hstart : cutAt? ['=', '='] ('=' :: '=' :: ' ' :: token) = some ([], ' ' :: token) :=
    Text.cutAt?_of_dropStart? rfl
  rw [fieldEquals, Text.cutAt?_append_cons (by decide) (by decide), hnone, hstart]
  rfl

theorem trim_fieldEquals (h : IsToken token) :
    trim (fieldEquals key token) = fieldEquals key token := by
  have hpoint : trim ['.'] = ['.'] := rfl
  have hboth := Text.trim_between hpoint (by simp) h.trimmed h.ne_nil (key ++ [' ', '=', '=', ' '])
  simpa [fieldEquals] using hboth

/-- The name of the field is what remains of the left side. -/
theorem trim_name (h : ∀ c, key.getLast? = some c → isBlank c = false) :
    trim ('.' :: key ++ [' ']) = '.' :: key := by
  rw [Text.trim_append_blank rfl, Text.trim_eq_self_iff]
  refine ⟨fun c hc => ?_, fun c hc => ?_⟩
  · obtain rfl := Option.some.inj hc
    rfl
  · cases key using List.reverseRecOn with
    | nil =>
        obtain rfl := Option.some.inj hc
        rfl
    | append_singleton ds d =>
        rw [← List.cons_append, List.getLast?_concat] at hc
        exact h c (by rwa [List.getLast?_concat])

/-- A comparison of a field with a token is read as their equality. -/
theorem read_fieldEquals (hkey : IsNameable key) (htoken : IsToken token) :
    read (fieldEquals key token) =
      .ok (.equals (.field (String.ofList key)) (Operand.read token)) := by
  have htrim : trim (fieldEquals key token) = fieldEquals key token := trim_fieldEquals htoken
  have hand : cutAt? ['&', '&'] (fieldEquals key token) = none :=
    cutAt?_fieldEquals (by decide) (by decide) (by decide) (by decide) hkey.and_free
      htoken.and_free
  have hor : cutAt? ['|', '|'] (fieldEquals key token) = none :=
    cutAt?_fieldEquals (by decide) (by decide) (by decide) (by decide) hkey.or_free htoken.or_free
  have hopen : Open (fieldEquals key token) := by
    constructor <;> rw [htrim] <;> simp [fieldEquals, unwrapped?]
  have hright : trim (' ' :: token) = token := by
    rw [Text.trim_cons_of_blank rfl, htoken.trimmed]
  rw [read_single hopen hand hor, htrim, comparison, cutAt?_equals_fieldEquals hkey.equals_free]
  simp only [trim_name hkey.end_not_blank, hright]
  rfl

end

/-! ## Tokens -/

/-- Text between quotes is not split, and nothing is trimmed of it, when none of the two operators
that link conditions is in it. -/
theorem isToken_quoted {text : List Char} (hand : ¬['&', '&'] <:+: text)
    (hor : ¬['|', '|'] <:+: text) : IsToken ('"' :: text ++ ['"']) := by
  have hfree : ∀ mark : List Char, mark ≠ [] → '"' ∉ mark → ¬mark <:+: text →
      ¬mark <:+: '"' :: text ++ ['"'] := by
    intro mark hmark hquote htext
    rw [← Text.cutAt?_eq_none_iff] at htext ⊢
    rw [Text.cutAt?_append_singleton hmark hquote, Text.cutAt?_cons hmark hquote, htext]
    rfl
  exact ⟨hfree _ (by decide) (by decide) hand, hfree _ (by decide) (by decide) hor,
    Text.trim_of_not_blank (by decide) (by decide) text, by simp⟩

/-- An integer has neither operators nor blank characters in it. -/
theorem isToken_integer {token : List Char} {m : Int} (h : Decimal.integer? token = some m) :
    IsToken token := by
  have hnumeric := Decimal.numeric_of_integer? h
  have hblank : ∀ c ∈ token, isBlank c = false := fun c hc =>
    Decimal.not_blank_of_isNumeric (hnumeric c hc)
  refine ⟨not_infix_pair hnumeric (by decide), not_infix_pair hnumeric (by decide), ?_, ?_⟩
  · exact Text.trim_eq_self_iff.2 ⟨fun c hc => hblank c (List.mem_of_head? hc),
      fun c hc => hblank c (List.mem_of_getLast? hc)⟩
  · rintro rfl
    cases h

/-! ## Integers under a key -/

/-- **Integers are compared exactly.** A field that holds an integer equals an operand of an optional
sign and digits exactly when the two are the same integer, over the whole range of signed and unsigned
words and whatever the sign and the zeros the operand begins with. -/
theorem holds_equals_integer {r : Record} {key : String} {n : Whole}
    (hstored : Dictionary.find? key r.fields = some (.number (.whole n))) {token : List Char} {m : Int}
    (htoken : Decimal.Denotes token m) (hlower : -9223372036854775808 ≤ m)
    (hupper : m < 18446744073709551616) :
    (Condition.equals (.field key) (Operand.read token)).holds r = true ↔ n.value = m := by
  have hread : Operand.read token = .number (.whole ⟨m, hlower, hupper⟩) :=
    Operand.read_integer (Decimal.integer?_of_denotes htoken)
  have hfield : (Operand.field key).value r = Decimal.intText n.value := by
    rw [Operand.value, Record.lookup, hstored]
    rfl
  have hliteral : (Operand.read token).value r = Decimal.intText m := by
    rw [hread]
    rfl
  rw [holds, hfield, hliteral, beq_iff_eq, Decimal.intText_inj]

/-- The greatest unsigned word, which a signed one does not hold, with a sign and zeros before it; and
a zero with a minus sign. -/
theorem holds_equals_integer_unsigned :
    let top : Whole := ⟨18446744073709551615, by decide, by decide⟩
    let r := (Record.insert "k" (.number (.whole top)) {}).insert "z" (.number (.whole default))
    (Condition.equals (.field "k") (Operand.read "+0018446744073709551615".toList)).holds r = true ∧
      (Condition.equals (.field "k") (Operand.read "18446744073709551614".toList)).holds r = false ∧
      (Condition.equals (.field "z") (Operand.read "-00".toList)).holds r = true := by
  intro top r
  have hk : Dictionary.find? "k" r.fields = some (.number (.whole top)) := rfl
  have hz : Dictionary.find? "z" r.fields = some (.number (.whole default)) := rfl
  have hplus : Decimal.Denotes "+0018446744073709551615".toList 18446744073709551615 :=
    @Decimal.Denotes.plus "0018446744073709551615".toList (by decide)
      (List.all_eq_true.1 (by decide))
  have hbare : Decimal.Denotes "18446744073709551614".toList 18446744073709551614 :=
    .bare (by decide) (List.all_eq_true.1 (by decide))
  have hminus : Decimal.Denotes "-00".toList 0 :=
    @Decimal.Denotes.minus "00".toList (by decide) (List.all_eq_true.1 (by decide))
  refine ⟨?_, ?_, ?_⟩
  · exact (holds_equals_integer hk hplus (by decide) (by decide)).2 rfl
  · rw [← Bool.not_eq_true, holds_equals_integer hk hbare (by decide) (by decide)]
    decide
  · exact (holds_equals_integer hz hminus (by decide) (by decide)).2 rfl

end Condition

end LogLens
