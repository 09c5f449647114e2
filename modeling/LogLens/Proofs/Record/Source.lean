import LogLens.Filter.Basic
import LogLens.Layout.Line

/-!
# Records and the lines they come from

A record keeps the line that it was read from, but only the two JSON forms look at it, and these
only at the object that the line denotes. So neither the decision of a filter nor the text of a
record can tell apart two lines that denote one object.

## Main results

* `Record.ofLine_eq_ok_iff` — which lines are records, and of what.
* `Filter.shows_source` — no filter looks at the line.
* `Layout.text_source` — lines of one object give one text.
-/

namespace LogLens

/-- A line is a record when it denotes an object, and the record keeps the line. -/
theorem Record.ofLine_eq_ok_iff {line : String} {d : Record.Decoded} :
    Record.ofLine line = .ok d ↔
      ∃ members, Json.parse line = .ok (.object members) ∧
        d = ({ (decode members).1 with source := line }, (decode members).2) := by
  cases hparse : Json.parse line with
  | error e => simp [ofLine, hparse]
  | ok v => cases v <;> simp [ofLine, hparse, eq_comm]

section

variable (r : Record) (source : String)

theorem Record.lookup_source (name : String) :
    { r with source := source }.lookup name = r.lookup name := by
  rfl

theorem Operand.value_source (operand : Operand) :
    operand.value { r with source := source } = operand.value r := by
  cases operand with
  | field name => exact Record.lookup_source r source name
  | _ => rfl

theorem Condition.holds_source (c : Condition) :
    c.holds { r with source := source } = c.holds r := by
  induction c with
  | both left right ihl ihr => rw [holds, holds, ihl, ihr]
  | either left right ihl ihr => rw [holds, holds, ihl, ihr]
  | negation inner ih => rw [holds, holds, ih]
  | equals left right => rw [holds, holds, left.value_source, right.value_source]
  | matched left pattern => rw [holds, holds, left.value_source]

/-- Filters that decide alike one by one decide alike together. -/
theorem Filter.showsAll_congr {r r' : Record} {filters : List Filter}
    (h : ∀ f ∈ filters, f.shows r = f.shows r') : showsAll r filters = showsAll r' filters := by
  induction filters with
  | nil => rfl
  | cons f rest ih =>
      obtain ⟨hf, hrest⟩ := List.forall_mem_cons.1 h
      rw [showsAll, showsAll, hf, ih hrest]

/-- No filter looks at the line. -/
theorem Filter.shows_source : ∀ filter : Filter,
    filter.shows { r with source := source } = filter.shows r
  | .all => rfl
  | .level _ => rfl
  | .condition c => c.holds_source r source
  | .every filters => by
      rw [shows, shows]
      exact showsAll_congr fun f _ => shows_source f

end

namespace Layout

variable {source : String} {members : List (String × Json)}

/-- The object of a record is the one that its line denotes. -/
theorem object_of_parse (h : Json.parse source = .ok (.object members)) (r : Record) :
    object { r with source := source } = .object members := by
  simp only [object, h]

/-- Lines of one object give one text, in every mode. -/
theorem text_source {other : String} (h : Json.parse source = .ok (.object members))
    (hother : Json.parse other = .ok (.object members)) (view : View) (r : Record) :
    text view { r with source := source } = text view { r with source := other } := by
  refine congrArg String.ofList ?_
  obtain ⟨mode, zone, colors⟩ := view
  cases mode with
  | long => rfl
  | short => rfl
  | simple => rfl
  | json => simp only [render, object_of_parse h, object_of_parse hother]
  | bunyan => simp only [render, object_of_parse h, object_of_parse hother]

end Layout

end LogLens
