import LogLens.Proofs.Json.OneLine
import LogLens.Proofs.Json.Roundtrip
import LogLens.Proofs.Record.Source

/-!
# The JSON forms of a record

The two JSON forms of a record write the object that its line denotes, as a whole: also the members
whose values did not fit, those that are known and say nothing, and the extension values. So both
texts denote the object of the line again, as long as all numbers in it are whole; a real number may
be written in another way than it was read.

## Main results

* `text_denotes` — both JSON forms of a record denote the object of its line.
-/

namespace LogLens.Layout

/-- **Both JSON forms denote the object of the line.** Every line that is a record and in which all
numbers are whole denotes an object; the indented and the compact text of the record denote that
object again, whatever did not fit its attribute, and the compact text is a single line. -/
theorem text_denotes (line : String) (r : Record) (errors : List FieldError)
    (hrecord : Record.ofLine line = .ok (r, errors))
    (hwhole : ∀ v, Json.parse line = .ok v → ∀ n ∈ v.numbers, n.isWhole = true) :
    ∃ members, Json.parse line = .ok (.object members) ∧
      ∀ zone colors,
        Json.parse (text ⟨.json, zone, colors⟩ r) = .ok (.object members) ∧
        Json.parse (text ⟨.bunyan, zone, colors⟩ r) = .ok (.object members) ∧
        '\n' ∉ (text ⟨.bunyan, zone, colors⟩ r).toList ∧
        '\r' ∉ (text ⟨.bunyan, zone, colors⟩ r).toList := by
  obtain ⟨members, hparse, hd⟩ := Record.ofLine_eq_ok_iff.1 hrecord
  have hobject : object r = .object members := by
    rw [(Prod.mk.inj hd).1]
    exact object_of_parse hparse _
  have hnumbers := hwhole _ hparse
  refine ⟨members, hparse, fun zone colors => ?_⟩
  have hplain := Json.plain_compact (.object members)
  simp only [text, render, hobject, String.toList_ofList]
  exact ⟨Json.parse_indentedText_of_parse hparse hnumbers,
    Json.parse_compactText_of_parse hparse hnumbers, hplain.not_mem (by decide),
    hplain.not_mem (by decide)⟩

/-- A line with space in it, a line break in a text, and a process id that is none. -/
theorem text_denotes_wrong_pid :
    let line := "\x7b \"pid\" : \"a\\n\" , \"v\" : [ 1 , \x7b \x7d ] \x7d"
    let one : Json := .number (.whole ⟨1, by decide, by decide⟩)
    let members := [("pid", Json.string "a\n"), ("v", .list [one, .object []])]
    ∃ r error, Record.ofLine line = .ok (r, [error]) ∧
      Json.parse (text ⟨.json, .utc, false⟩ r) = .ok (.object members) ∧
      Json.parse (text ⟨.bunyan, .utc, false⟩ r) = .ok (.object members) := by
  intro line one members
  let space := Json.Space.single
  let word : Json.Token := ⟨'"', ['a', '\\', 'n', '"'], .string "a\n", rfl⟩
  let digit : Json.Token := ⟨'1', [], .number (Json.wholeNumber false 1), rfl⟩
  let pid : Json.Label := ⟨space, ⟨['p', 'i', 'd', '"'], "pid", rfl⟩, space⟩
  let v : Json.Label := ⟨space, ⟨['v', '"'], "v", rfl⟩, space⟩
  let items := [Json.Spelling.spaced space (.token digit) space,
    .spaced space (.object space []) space]
  let w : Json.Spelling := .object .none [(pid, .spaced space (.token word) space),
    (v, .spaced space (.list .none items) space)]
  have htext : w.text = line.toList := by decide +kernel
  have hsorted : Dictionary.Sorted members := by
    unfold Dictionary.Sorted
    decide +kernel
  have hvalue : w.value.canonical = .object members :=
    congrArg Json.object (Dictionary.ofEntries_of_sorted hsorted)
  have hparse : Json.parse line = .ok (.object members) :=
    Json.parse_eq_ok_iff.2 ⟨w, htext, hvalue, by decide⟩
  have hrecord : ∃ r error, Record.ofLine line = .ok (r, [error]) :=
    ⟨_, _, Record.ofLine_eq_ok_iff.2 ⟨members, hparse, rfl⟩⟩
  have hwhole : ∀ v, Json.parse line = .ok v → ∀ n ∈ v.numbers, n.isWhole = true := by
    intro v hv
    obtain rfl : Json.object members = v := Except.ok.inj (hparse.symm.trans hv)
    decide
  obtain ⟨r, error, hrecord⟩ := hrecord
  obtain ⟨members', hparse', hforms⟩ := text_denotes line r [error] hrecord hwhole
  obtain rfl : members = members' := Json.object.inj (Except.ok.inj (hparse.symm.trans hparse'))
  obtain ⟨hindented, hcompact, -⟩ := hforms .utc false
  exact ⟨r, error, hrecord, hindented, hcompact⟩

end LogLens.Layout
