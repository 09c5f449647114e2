import LogLens.Proofs.Json.Grammar
import LogLens.Proofs.Layout.Heading
import LogLens.Proofs.Stream.Outcome

/-!
# Telling records apart in an output

An output in one of the forms for reading consists of the lines of the records that are shown. When
no text in them has a line break, the lines that do not begin with the blanks to the column of blobs
are the headings of these records, one for each, in their order. So nothing is lost by looking at the
headings alone, and what is below a heading belongs to it.

## Main results

* `output_records` — an output as the text of the records that are shown.
* `headings_texts` — which lines of records one after the other are headings.
* `run_headings` — the headings of an output are those of the shown records.
-/

namespace LogLens.Stream

open Layout (HasHeading isBelow render)
open Text (heading)

/-- The records among some pieces that a filter shows. -/
def shownRecords (filter : Filter) (ps : List (List UInt8)) : List Record :=
  (ps.filterMap fun p => (recordOf? p).map Prod.fst).filter filter.shows

/-- Records as they are written, each with a line break after it. -/
def textOf (view : View) (records : List Record) : List Char :=
  records.flatMap fun r => render view r ++ ['\n']

variable {filter : Filter} {view : View} {ps : List (List UInt8)}

/-! ## An output as text -/

theorem encode_text (view : View) (r : Record) :
    Text.encode (Layout.text view r) ++ [lineFeed] =
      (render view r ++ ['\n']).flatMap String.utf8EncodeChar := by
  rw [Layout.text, Text.encode_ofList, List.flatMap_append]
  rfl

theorem shownRecords_cons {p : List UInt8} {d : Record.Decoded} (h : recordOf? p = some d)
    (filter : Filter) (ps : List (List UInt8)) :
    shownRecords filter (p :: ps) =
      if filter.shows d.1 then d.1 :: shownRecords filter ps else shownRecords filter ps := by
  simp only [shownRecords, List.filterMap_cons, h, Option.map_some, List.filter_cons]

/-- Pieces that are all records make the text of those that are shown. -/
theorem output_records (filter : Filter) (view : View) (h : ∀ p ∈ ps, ∃ d, recordOf? p = some d) :
    ps.flatMap (rendered filter view) =
      Text.encode (String.ofList (textOf view (shownRecords filter ps))) := by
  rw [Text.encode_ofList]
  induction ps with
  | nil => rfl
  | cons p ps ih =>
      obtain ⟨⟨d, hd⟩, hrest⟩ := List.forall_mem_cons.1 h
      rw [List.flatMap_cons, ih hrest, shownRecords_cons hd, rendered, hd]
      dsimp only
      split
      · rw [textOf, textOf, List.flatMap_cons, List.flatMap_append, encode_text]
      · rfl

/-- As many records are shown as are counted. -/
theorem length_shownRecords (filter : Filter) (ps : List (List UInt8)) :
    (shownRecords filter ps).length = (tally filter ps).shown := by
  rw [shownRecords, ← List.countP_eq_length_filter, List.countP_filterMap]
  refine List.countP_congr fun p _ => ?_
  rw [isShown]
  cases recordOf? p <;> simp

/-! ## Headings -/

/-- The lines of an output; a line break ends the last one. -/
def linesOf (text : List Char) : List (List Char) := (text.splitOn '\n').dropLast

theorem linesOf_append (text rest : List Char) :
    linesOf (text ++ ['\n'] ++ rest) = text.splitOn '\n' ++ linesOf rest := by
  rw [linesOf, List.append_assoc, List.singleton_append, List.splitOn_append_cons_self,
    List.dropLast_append_of_ne_nil (List.splitOn_ne_nil _ _), linesOf]

/-- Of the lines of records one after the other only the headings are not below. -/
theorem headings_texts {records : List Record} (h : ∀ r ∈ records, HasHeading (render view r)) :
    (linesOf (textOf view records)).filter (fun line => !isBelow line) =
      records.map fun r => heading (render view r) := by
  induction records with
  | nil => rfl
  | cons r rest ih =>
      obtain ⟨⟨hheading, below, hlines, hbelow⟩, hrest⟩ := List.forall_mem_cons.1 h
      have hnone : below.filter (fun line => !isBelow line) = [] :=
        List.filter_eq_nil_iff.2 fun line hline => by simp [hbelow line hline]
      have hcons : textOf view (r :: rest) = render view r ++ ['\n'] ++ textOf view rest := rfl
      rw [hcons, linesOf_append, List.filter_append, ih hrest, hlines,
        List.filter_cons_of_pos (by simp [hheading]), hnone, List.map_cons]
      rfl

theorem unbroken_of_mem (h : ∀ p ∈ ps, ∃ d, recordOf? p = some d ∧ d.1.Unbroken) {r : Record}
    (hr : r ∈ shownRecords filter ps) : r.Unbroken := by
  obtain ⟨p, hp, hrecord⟩ := List.mem_filterMap.1 (List.mem_of_mem_filter hr)
  obtain ⟨d, hd, hunbroken⟩ := h p hp
  rw [hd] at hrecord
  exact Option.some.inj hrecord ▸ hunbroken

/-- **Records can be told apart.** In a form for reading a record without line breaks in its texts
has a first line that does not begin with four blanks, and all its other lines begin so; the simple
form has no other lines. So of the output for an input of such records the lines that do not begin
with four blanks are, in order, the first lines of the records that are shown, one for each. -/
theorem run_headings :
    (∀ (view : View) (r : Record), view.mode.isJson = false → r.Unbroken →
      HasHeading (render view r) ∧
        (view.mode = .simple → (render view r).splitOn '\n' = [render view r])) ∧
    ∀ (filter : Filter) (view : View) (bytes : List UInt8), view.mode.isJson = false →
      (∀ p ∈ pieces bytes, ∃ d, recordOf? p = some d ∧ d.1.Unbroken) →
        let report := run filter view { bytes := bytes } {}
        let shown := shownRecords filter (pieces bytes)
        ∃ text, Text.decode? report.output = some (String.ofList text) ∧
          (linesOf text).filter (fun line => !isBelow line) =
            shown.map (fun r => heading (render view r)) ∧
          shown.length = report.stats.shown := by
  refine ⟨fun view r hmode hr => ⟨Layout.hasHeading_render hr hmode, fun hsimple => ?_⟩, ?_⟩
  · have hone := Layout.not_mem_simple hr view
    rw [render, hsimple]
    exact List.splitOn_eq_singleton hone
  · intro filter view bytes hmode hrecords report shown
    have houtput := output_records filter view fun p hp => (hrecords p hp).imp fun _ hd => hd.1
    refine ⟨textOf view shown, ?_, ?_, ?_⟩
    · rw [show report.output = _ from congrArg Report.output (run_unlimited filter view bytes),
        houtput, Text.decode?_encode]
    · exact headings_texts fun r hr => Layout.hasHeading_render (unbroken_of_mem hrecords hr) hmode
    · rw [show report.stats = _ from congrArg Report.stats (run_unlimited filter view bytes)]
      exact length_shownRecords filter (pieces bytes)

/-- One record with a list in a list, which takes three lines below its heading. -/
theorem run_headings_nested_list :
    let line := "\x7b\"msg\":\"a\",\"x\":[[true]]\x7d"
    let r : Record := { message := "a", blobs := [("x", .list [.list [.bool true]])], source := line }
    let bytes := Text.encode line ++ [lineFeed]
    HasHeading (render {} r) ∧ ((render {} r).splitOn '\n').length = 4 ∧
      ∃ text, Text.decode? (run .all {} { bytes := bytes } {}).output = some (String.ofList text) ∧
        (linesOf text).filter (fun line => !isBelow line) = [" INFO: : a (tid=0)".toList] := by
  intro line r bytes
  let msg : Json.Label := ⟨.none, ⟨['m', 's', 'g', '"'], "msg", rfl⟩, .none⟩
  let x : Json.Label := ⟨.none, ⟨['x', '"'], "x", rfl⟩, .none⟩
  let a : Json.Token := ⟨'"', ['a', '"'], .string "a", rfl⟩
  let yes : Json.Token := ⟨'t', ['r', 'u', 'e'], .bool true, rfl⟩
  let w : Json.Spelling :=
    .object .none [(msg, .token a), (x, .list .none [.list .none [.token yes]])]
  let members : Dictionary Json := [("msg", .string "a"), ("x", .list [.list [.bool true]])]
  have hsorted : Dictionary.Sorted members := by
    unfold Dictionary.Sorted
    decide +kernel
  have hvalue : w.value.canonical = .object members :=
    congrArg Json.object (Dictionary.ofEntries_of_sorted hsorted)
  have hparse : Json.parse line = .ok (.object members) :=
    Json.parse_eq_ok_iff.2 ⟨w, by decide +kernel, hvalue, by decide⟩
  have hrecord : recordOf? (Text.encode line) = some (r, []) :=
    recordOf?_eq_some_iff.2 ⟨line, _, rfl, hparse, rfl⟩
  have hpieces : pieces bytes = [Text.encode line] := by
    decide +kernel
  have hunbroken : r.Unbroken := by
    unfold Record.Unbroken
    decide
  obtain ⟨htexts, houtputs⟩ := run_headings
  obtain ⟨text, houtput, hlines, -⟩ := houtputs .all {} bytes rfl fun p hp => by
    rw [hpieces, List.mem_singleton] at hp
    exact ⟨(r, []), hp ▸ hrecord, hunbroken⟩
  have hshown : shownRecords .all (pieces bytes) = [r] := by
    rw [hpieces, shownRecords_cons hrecord]
    rfl
  rw [hshown] at hlines
  exact ⟨(htexts {} r rfl hunbroken).1, by decide, text, houtput, hlines.trans (by decide)⟩

end LogLens.Stream
