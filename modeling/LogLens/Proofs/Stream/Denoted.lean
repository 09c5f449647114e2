import LogLens.Proofs.Json.Rearrange
import LogLens.Proofs.Record.Source
import LogLens.Proofs.Stream.Outcome

/-!
# What is shown depends on what a line denotes

What becomes of a line that is a JSON object is settled by that object: the record and what did not
fit are decoded from its members, the filter does not look at the line, and a layout looks at
nothing of the line but the object. So two lines of one object have one result. In particular it
makes no difference in which order the members are written, at any depth, nor whether a member
stands before another one with the same key.

## Main results

* `ofLine_of_denotes` — lines of one object have one result.
* `ofLine_object` — the same for all lines of an object and for all rearrangements of its text.
-/

namespace LogLens.Stream

/-- A line is the text of a JSON object with these members. -/
def Denotes (line : List UInt8) (members : List (String × Json)) : Prop :=
  ∃ text, Text.encode text = line ∧ Json.parse text = .ok (.object members)

variable {line line' : List UInt8} {members : List (String × Json)}

/-- The record of a line is decoded from the object and keeps the text of the line. -/
theorem recordOf?_of_denotes (h : Denotes line members) :
    ∃ text, Json.parse text = .ok (.object members) ∧
      recordOf? line =
        some ({ (Record.decode members).1 with source := text }, (Record.decode members).2) := by
  obtain ⟨text, hline, hparse⟩ := h
  exact ⟨text, hparse, recordOf?_eq_some_iff.2 ⟨text, members, hline, hparse, rfl⟩⟩

/-- Records that differ in their lines only have one result when the lines have one object. -/
theorem ofDecoded_source {text text' : String} (h : Json.parse text = .ok (.object members))
    (h' : Json.parse text' = .ok (.object members)) (filter : Filter) (view : View) (r : Record)
    (errors : List FieldError) :
    LineResult.ofDecoded filter view ({ r with source := text }, errors) =
      LineResult.ofDecoded filter view ({ r with source := text' }, errors) := by
  simp only [LineResult.ofDecoded, Filter.shows_source, Layout.text_source h h' view r]

/-- Lines of one object have one result. -/
theorem ofLine_of_denotes (h : Denotes line members) (h' : Denotes line' members)
    (filter : Filter) (view : View) :
    LineResult.ofLine filter view line = LineResult.ofLine filter view line' := by
  obtain ⟨text, hparse, hrecord⟩ := recordOf?_of_denotes h
  obtain ⟨text', hparse', hrecord'⟩ := recordOf?_of_denotes h'
  rw [ofLine_of_record hrecord, ofLine_of_record hrecord']
  exact ofDecoded_source hparse hparse' filter view _ _

/-- Lines of one object add the same to the output. -/
theorem rendered_of_denotes (h : Denotes line members) (h' : Denotes line' members)
    (filter : Filter) (view : View) : rendered filter view line = rendered filter view line' := by
  obtain ⟨text, hparse, hrecord⟩ := recordOf?_of_denotes h
  obtain ⟨text', hparse', hrecord'⟩ := recordOf?_of_denotes h'
  simp only [rendered, hrecord, hrecord', Filter.shows_source,
    Layout.text_source hparse hparse' view]

/-- A line of an object never passes. -/
theorem ofLine_ne_passed (h : Denotes line members) (filter : Filter) (view : View)
    (reason : NoRecord) : LineResult.ofLine filter view line ≠ .passed reason := by
  obtain ⟨text, -, hrecord⟩ := recordOf?_of_denotes h
  rw [ofLine_of_record hrecord, LineResult.ofDecoded]
  split <;> simp

/-- **What is shown depends only on the object of a line.** Two lines of one object are both shown,
with one text, or both hidden, and with the same errors, whatever the filter and the view are. Every
text of an object has a spelling. When the members of such a spelling change places or are
overridden by members with the same key, at any depth, the text that results denotes the same object
and has the same result, if it is still accepted. -/
theorem ofLine_object (filter : Filter) (view : View) :
    (∀ line line' members, Denotes line members → Denotes line' members →
      LineResult.ofLine filter view line = LineResult.ofLine filter view line' ∧
        ∀ reason, LineResult.ofLine filter view line ≠ .passed reason) ∧
    ∀ text members, Json.parse text = .ok (.object members) →
      (∃ w : Json.Spelling, w.text = text.toList) ∧
        ∀ (w w' : Json.Spelling) (v : Json), w.text = text.toList → Json.Rearranged w w' →
          Json.parse (String.ofList w'.text) = .ok v →
            v = .object members ∧
              LineResult.ofLine filter view (Text.encode (String.ofList w'.text)) =
                LineResult.ofLine filter view (Text.encode text) := by
  constructor
  · intro line line' members h h'
    exact ⟨ofLine_of_denotes h h' filter view, ofLine_ne_passed h filter view⟩
  · intro text members hparse
    obtain ⟨w, hw, -, -⟩ := Json.parse_eq_ok_iff.1 hparse
    refine ⟨⟨w, hw⟩, fun w w' v htext hrearranged hparse' => ?_⟩
    have hv : v = .object members :=
      Json.parse_rearranged hrearranged htext (String.toList_ofList).symm hparse hparse'
    subst hv
    exact ⟨rfl, ofLine_of_denotes ⟨_, rfl, hparse'⟩ ⟨_, rfl, hparse⟩ filter view⟩

/-- Two members in both orders. -/
theorem ofLine_object_swapped :
    let no : Json.Token := ⟨'n', ['u', 'l', 'l'], .null, rfl⟩
    let yes : Json.Token := ⟨'t', ['r', 'u', 'e'], .bool true, rfl⟩
    let a : Json.Label := ⟨.none, ⟨['a', '"'], "a", rfl⟩, .none⟩
    let b : Json.Label := ⟨.none, ⟨['b', '"'], "b", rfl⟩, .none⟩
    let w : Json.Spelling := .object .none [(a, .token no), (b, .token yes)]
    let w' : Json.Spelling := .object .none [(b, .token yes), (a, .token no)]
    let line := Text.encode (String.ofList w.text)
    let line' := Text.encode (String.ofList w'.text)
    w.text ≠ w'.text ∧ LineResult.ofLine .all {} line' = LineResult.ofLine .all {} line ∧
      ∀ reason, LineResult.ofLine .all {} line ≠ .passed reason := by
  intro no yes a b w w' line line'
  have hparse : Json.parse (String.ofList w.text) = .ok w.value.canonical :=
    Json.parse_eq_ok_iff.2 ⟨w, (String.toList_ofList).symm, rfl, by decide⟩
  have hparse' : Json.parse (String.ofList w'.text) = .ok w'.value.canonical :=
    Json.parse_eq_ok_iff.2 ⟨w', (String.toList_ofList).symm, rfl, by decide⟩
  have hswap : Json.Rearranged w w' := .permuted .none (.swap _ _ _) (by decide)
  obtain ⟨hlines, htexts⟩ := ofLine_object .all {}
  refine ⟨by decide, ?_, ?_⟩
  · exact ((htexts _ _ hparse).2 w w' _ (String.toList_ofList).symm hswap hparse').2
  · exact (hlines line line _ ⟨_, rfl, hparse⟩ ⟨_, rfl, hparse⟩).2

end LogLens.Stream
