import LogLens.Json.Reader
import LogLens.Proofs.Except
import LogLens.Proofs.Json.NumberToken

/-!
# Tokens

The values without parts are the tokens of JSON text: words, quoted texts and numbers. A word and a
quoted text say themselves where they end, so whatever follows them they are read in the same way
(`Delimited`); a number needs something that stops it.

A `Token` is a text together with the value that it is read as, and a `Key` a quoted text together
with the text that it stands for. They are what is left alone when the parts of a text are moved
about.

## Main results

* `delimited_quotedText` — a quoted text ends at its closing quote.
* `tokenwise_scalar` — every value without parts is read by its own characters.
* `exists_token`, `exists_key` — what is read as such a value begins with a token.
-/

namespace LogLens.Json

variable {α β : Type}

/-- A reader that takes a token off a text, and takes the same token off whatever comes after it. -/
def Delimited (reader : List Char → Except Fault (α × List Char)) : Prop :=
  ∀ text a rest, reader text = .ok (a, rest) →
    ∃ token, text = token ++ rest ∧ ∀ after, reader (token ++ after) = .ok (a, after)

theorem word_eq_ok {expected text rest : List Char} :
    word expected text = .ok rest ↔ text = expected ++ rest := by
  induction expected generalizing text with
  | nil => simp [word]
  | cons e es ih =>
      cases text with
      | nil => simp [word]
      | cons c cs =>
          by_cases hec : e = c
          · subst hec
            simp only [word, if_true, ih, List.cons_append, List.cons.injEq, true_and]
          · have hce : c ≠ e := Ne.symm hec
            simp [word, hec, hce]

/-! ## Quoted texts -/

theorem hexQuad?_eq_some {text rest : List Char} {n : Nat} (h : hexQuad? text = some (n, rest)) :
    ∃ token, text = token ++ rest ∧ ∀ after, hexQuad? (token ++ after) = some (n, after) := by
  unfold hexQuad? at h
  split at h
  · next a b c d tail =>
      simp only [Option.bind_eq_bind, Option.bind_eq_some_iff, Option.some.injEq,
        Prod.mk.injEq] at h
      obtain ⟨x, hx, y, hy, z, hz, w, hw, rfl, rfl⟩ := h
      refine ⟨[a, b, c, d], rfl, fun after => ?_⟩
      simp [hexQuad?, hx, hy, hz, hw]
  · cases h

theorem delimited_hexQuad : Delimited hexQuad := by
  intro text n rest h
  have hquad : hexQuad? text = some (n, rest) := by
    unfold hexQuad at h
    split at h
    · next found hfound =>
        rw [hfound, Except.ok.inj h]
    · split at h <;> cases h
  obtain ⟨token, htext, htoken⟩ := hexQuad?_eq_some hquad
  refine ⟨token, htext, fun after => ?_⟩
  rw [hexQuad, htoken after]

theorem pairMark_eq_ok {mark : Char} {text rest : List Char} :
    pairMark mark text = .ok rest ↔ text = mark :: rest := by
  cases text with
  | nil => simp [pairMark]
  | cons c cs =>
      rw [pairMark]
      by_cases hc : c = mark <;> simp [hc]

theorem delimited_numericEscape : Delimited numericEscape := by
  intro text c rest h
  simp only [numericEscape, bind_eq_ok] at h
  obtain ⟨⟨n, tail⟩, hquad, h⟩ := h
  obtain ⟨token, rfl, htoken⟩ := delimited_hexQuad _ _ _ hquad
  simp only at h
  split at h
  · cases h
  · next hlow =>
      split at h
      · next hone =>
          obtain ⟨rfl, rfl⟩ := Prod.mk.inj (Except.ok.inj h)
          refine ⟨token, rfl, fun after => ?_⟩
          simp only [numericEscape, htoken, ok_bind, if_neg hlow, if_pos hone]
      · next htwo =>
          simp only [bind_eq_ok, pairMark_eq_ok] at h
          obtain ⟨_, rfl, _, rfl, ⟨m, tail⟩, hquad', h⟩ := h
          obtain ⟨token', rfl, htoken'⟩ := delimited_hexQuad _ _ _ hquad'
          simp only at h
          split at h
          · cases h
          · next hpair =>
              obtain ⟨rfl, rfl⟩ := Prod.mk.inj (Except.ok.inj h)
              refine ⟨token ++ '\\' :: 'u' :: token', by simp, fun after => ?_⟩
              simp only [List.append_assoc, List.cons_append, numericEscape, htoken, ok_bind,
                if_neg hlow, if_neg htwo, pairMark, if_true, htoken', if_neg hpair]

theorem delimited_escape : Delimited escape := by
  intro text c rest h
  unfold escape at h
  split at h
  · cases h
  · next d ds =>
      split at h
      case h_9 =>
        obtain ⟨token, rfl, htoken⟩ := delimited_numericEscape _ _ _ h
        exact ⟨'u' :: token, rfl, htoken⟩
      case h_10 => cases h
      all_goals
        cases h
        exact ⟨[_], rfl, fun after => rfl⟩

section Steps

variable {fuel : Nat} {text rest after cs : List Char} {c : Char}

theorem quoted_close (fuel : Nat) (rest : List Char) :
    quoted (fuel + 1) ('"' :: rest) = .ok ([], rest) :=
  if_pos rfl

/-- An escape gives one character of the text. -/
theorem quoted_escape (h : escape text = .ok (c, rest))
    (hmore : quoted fuel rest = .ok (cs, after)) :
    quoted (fuel + 1) ('\\' :: text) = .ok (c :: cs, after) := by
  simp only [quoted, h, hmore, ok_bind, if_true, if_false, Char.reduceEq]

/-- Every other character that may stand in a quoted text stands for itself. -/
theorem quoted_plain (hquote : c ≠ '"') (hslash : c ≠ '\\') (hcontrol : ¬c.toNat < 0x20)
    (hmore : quoted fuel text = .ok (cs, after)) :
    quoted (fuel + 1) (c :: text) = .ok (c :: cs, after) := by
  simp only [quoted, if_neg hquote, if_neg hslash, if_neg hcontrol, hmore, ok_bind]

/-- What a step of `quoted` on a text that is not closed yet has done. -/
theorem quoted_cons_eq_ok (hquote : c ≠ '"') (h : quoted (fuel + 1) (c :: text) = .ok (cs, rest)) :
    ∃ d ds, cs = d :: ds ∧
      ((c = '\\' ∧ ∃ left, escape text = .ok (d, left) ∧ quoted fuel left = .ok (ds, rest)) ∨
        (c ≠ '\\' ∧ ¬c.toNat < 0x20 ∧ d = c ∧ quoted fuel text = .ok (ds, rest))) := by
  rw [quoted, if_neg hquote] at h
  by_cases hslash : c = '\\'
  · simp only [hslash, if_true, bind_eq_ok, Prod.exists] at h
    obtain ⟨d, left, hescape, ds, rest', hmore, h⟩ := h
    cases h
    exact ⟨d, ds, rfl, .inl ⟨hslash, left, hescape, hmore⟩⟩
  · rw [if_neg hslash] at h
    by_cases hcontrol : c.toNat < 0x20
    · rw [if_pos hcontrol] at h
      cases h
    · simp only [if_neg hcontrol, bind_eq_ok, Prod.exists] at h
      obtain ⟨ds, rest', hmore, h⟩ := h
      cases h
      exact ⟨c, ds, rfl, .inr ⟨hslash, hcontrol, rfl, hmore⟩⟩

end Steps

/-- A quoted text ends at its closing quote, given fuel for each of its characters. -/
theorem quoted_eq_ok {fuel : Nat} {text cs rest : List Char}
    (h : quoted fuel text = .ok (cs, rest)) :
    ∃ token, text = token ++ rest ∧
      ∀ fuel' after, token.length ≤ fuel' → quoted fuel' (token ++ after) = .ok (cs, after) := by
  induction fuel generalizing text cs with
  | zero => cases h
  | succ fuel ih =>
      cases text with
      | nil => cases h
      | cons c tail =>
          by_cases hquote : c = '"'
          · subst hquote
            rw [quoted_close] at h
            cases h
            refine ⟨['"'], rfl, fun fuel' after hfuel => ?_⟩
            obtain ⟨fuel', rfl⟩ := Nat.exists_eq_add_of_le' hfuel
            exact quoted_close fuel' after
          · obtain ⟨d, ds, rfl, hstep⟩ := quoted_cons_eq_ok hquote h
            rcases hstep with ⟨rfl, left, hescape, hmore⟩ | ⟨hslash, hcontrol, rfl, hmore⟩
            · obtain ⟨letters, rfl, hletters⟩ := delimited_escape _ _ _ hescape
              obtain ⟨token, rfl, htoken⟩ := ih hmore
              refine ⟨'\\' :: letters ++ token, by simp, fun fuel' after hfuel => ?_⟩
              rw [List.length_append, List.length_cons] at hfuel
              have hpos : 1 ≤ fuel' := by omega
              obtain ⟨fuel', rfl⟩ := Nat.exists_eq_add_of_le' hpos
              rw [List.append_assoc, List.cons_append]
              exact quoted_escape (hletters _) (htoken fuel' after (by omega))
            · obtain ⟨token, rfl, htoken⟩ := ih hmore
              refine ⟨d :: token, rfl, fun fuel' after hfuel => ?_⟩
              rw [List.length_cons] at hfuel
              have hpos : 1 ≤ fuel' := by omega
              obtain ⟨fuel', rfl⟩ := Nat.exists_eq_add_of_le' hpos
              exact quoted_plain hquote hslash hcontrol (htoken fuel' after (by omega))

/-- A quoted text ends at its closing quote. -/
theorem delimited_quotedText : Delimited quotedText := by
  intro text s rest h
  simp only [quotedText, bind_eq_ok, Prod.exists] at h
  obtain ⟨cs, rest', hquoted, h⟩ := h
  cases h
  obtain ⟨token, rfl, htoken⟩ := quoted_eq_ok hquoted
  refine ⟨token, rfl, fun after => ?_⟩
  have hfuel : token.length ≤ (token ++ after).length.succ := by
    rw [List.length_append]
    omega
  simp only [quotedText, htoken _ after hfuel, ok_bind]

/-! ## Values without parts -/

/-- A word that is a value. -/
theorem tokenwise_word (expected : List Char) (v : Json) :
    Tokenwise (fun text => do
      let rest ← word expected text
      .ok (v, rest)) := by
  intro text a rest h
  simp only [bind_eq_ok, word_eq_ok] at h
  obtain ⟨rest', rfl, h⟩ := h
  cases h
  refine ⟨expected, rfl, fun after _ => ?_⟩
  simp only [word_eq_ok.2 rfl, ok_bind]

/-- A token that is turned into a value. -/
theorem Tokenwise.map {reader : List Char → Except Fault (α × List Char)} (h : Tokenwise reader)
    (f : α → β) :
    Tokenwise (fun text => do
      let (a, rest) ← reader text
      .ok (f a, rest)) := by
  intro text b rest hok
  simp only [bind_eq_ok, Prod.exists] at hok
  obtain ⟨a, rest', hread, hok⟩ := hok
  cases hok
  obtain ⟨token, rfl, htoken⟩ := h _ _ _ hread
  refine ⟨token, rfl, fun after hafter => ?_⟩
  simp only [htoken after hafter, ok_bind]

theorem Delimited.tokenwise {reader : List Char → Except Fault (α × List Char)}
    (h : Delimited reader) : Tokenwise reader := by
  intro text a rest hok
  obtain ⟨token, htext, htoken⟩ := h text a rest hok
  exact ⟨token, htext, fun after _ => htoken after⟩

/-- Every value without parts is read by its own characters. -/
theorem tokenwise_scalar (c : Char) : Tokenwise (scalar c) := by
  intro text v rest h
  unfold scalar at h ⊢
  split at h
  · exact tokenwise_word ['u', 'l', 'l'] .null text v rest h
  · exact tokenwise_word ['r', 'u', 'e'] (.bool true) text v rest h
  · exact tokenwise_word ['a', 'l', 's', 'e'] (.bool false) text v rest h
  · exact delimited_quotedText.tokenwise.map Json.string text v rest h
  · exact (tokenwise_numeral true).map Json.number text v rest h
  · next hn ht hf hq hm =>
      split at h
      · next hdigit =>
          simp only [bind_eq_ok, Prod.exists] at h
          obtain ⟨n, rest', hnumeral, h⟩ := h
          cases h
          obtain ⟨token, htext, htoken⟩ := tokenwise_numeral false _ _ _ hnumeral
          cases token with
          | nil => cases htoken [] stops_nil
          | cons d ds =>
              obtain ⟨rfl, rfl⟩ := List.cons.inj htext
              refine ⟨ds, rfl, fun after hafter => ?_⟩
              have hread := htoken after hafter
              simp only [List.cons_append] at hread
              simp only [hdigit, if_true, hread, ok_bind]
      · cases h

/-- No space and no bracket begins a value without parts. -/
theorem first_of_scalar {c : Char} {cs rest : List Char} {v : Json}
    (h : scalar c cs = .ok (v, rest)) :
    isSpace c = false ∧ c ≠ '[' ∧ c ≠ ']' ∧ c ≠ '{' ∧ c ≠ '}' := by
  refine ⟨Bool.eq_false_iff.2 fun hspace => ?_, ?_, ?_, ?_, ?_⟩
  · simp only [isSpace, Bool.or_eq_true, beq_iff_eq] at hspace
    rcases hspace with ((rfl | rfl) | rfl) | rfl <;> cases h
  all_goals
    rintro rfl
    cases h

/-- The text of a value without parts. -/
structure Token where
  first : Char
  others : List Char
  value : Json
  reads : scalar first others = .ok (value, [])

/-- All characters of a token. -/
def Token.text (t : Token) : List Char := t.first :: t.others

/-- A token is read wherever it may end. -/
theorem Token.scalar_append (t : Token) {after : List Char} (h : Stops after) :
    scalar t.first (t.others ++ after) = .ok (t.value, after) := by
  obtain ⟨token, htext, htoken⟩ := tokenwise_scalar _ _ _ _ t.reads
  rw [htext, List.append_nil]
  exact htoken after h

/-- A value without parts is read from a token. -/
theorem exists_token {c : Char} {cs rest : List Char} {v : Json} (h : scalar c cs = .ok (v, rest)) :
    ∃ t : Token, c :: cs = t.text ++ rest ∧ t.value = v := by
  obtain ⟨token, rfl, htoken⟩ := tokenwise_scalar _ _ _ _ h
  have hreads := htoken [] stops_nil
  rw [List.append_nil] at hreads
  exact ⟨⟨c, token, v, hreads⟩, rfl, rfl⟩

/-- A quoted text and what it stands for. -/
structure Key where
  others : List Char
  name : String
  reads : quotedText others = .ok (name, [])

/-- All characters of a quoted text. -/
def Key.text (k : Key) : List Char := '"' :: k.others

theorem Key.quotedText_append (k : Key) (after : List Char) :
    quotedText (k.others ++ after) = .ok (k.name, after) := by
  obtain ⟨token, htext, htoken⟩ := delimited_quotedText _ _ _ k.reads
  rw [htext, List.append_nil]
  exact htoken after

theorem exists_key {text rest : List Char} {s : String} (h : quotedText text = .ok (s, rest)) :
    ∃ k : Key, text = k.others ++ rest ∧ k.name = s := by
  obtain ⟨token, rfl, htoken⟩ := delimited_quotedText _ _ _ h
  have hreads := htoken []
  rw [List.append_nil] at hreads
  exact ⟨⟨token, s, hreads⟩, rfl, rfl⟩

end LogLens.Json
