import LogLens.Proofs.Stream.Feed
import LogLens.Proofs.Text.Utf8
import Mathlib.Algebra.GroupWithZero.Nat

/-!
# What a stream makes of its input

Between an input and an output that never fail, a stream is a function of the pieces of the input. A
piece that is the UTF-8 text of a JSON object is a record: it is written in the layout of the view
when the filter shows it, and not at all otherwise. Every other piece is written as it is, whatever
the filter is. The counts are numbers of pieces, and what did not fit its field counts for hidden
records too.

## Main results

* `recordOf?_eq_some_iff` — which pieces are records, and of what.
* `run_pieces` — the output and the counts of a run from the pieces of its input, and of an input
  that is cut after a line feed from those of both parts.
-/

namespace LogLens.Stream

/-- The record that a piece denotes, and what did not fit. -/
def recordOf? (piece : List UInt8) : Option Record.Decoded :=
  match Text.decode? piece with
  | none => none
  | some text =>
    match Json.parse text with
    | .ok (.object members) =>
      some ({ (Record.decode members).1 with source := text }, (Record.decode members).2)
    | _ => none

/-- Whether a piece is a record that a filter shows. -/
def isShown (filter : Filter) (piece : List UInt8) : Bool :=
  match recordOf? piece with
  | some (r, _) => filter.shows r
  | none => false

/-- The number of values in a piece that do not fit their field. -/
def errorCount (piece : List UInt8) : Nat :=
  match recordOf? piece with
  | some (_, errors) => errors.length
  | none => 0

/-- What a piece adds to the output. -/
def rendered (filter : Filter) (view : View) (piece : List UInt8) : List UInt8 :=
  match recordOf? piece with
  | some (r, _) =>
    if filter.shows r then Text.encode (Layout.text view r) ++ [lineFeed] else []
  | none => piece ++ [lineFeed]

/-- The counts of some pieces. -/
def tally (filter : Filter) (pieces : List (List UInt8)) : Stats where
  records := pieces.countP fun p => (recordOf? p).isSome
  shown := pieces.countP (isShown filter)
  passed := pieces.countP fun p => (recordOf? p).isNone
  fieldErrors := (pieces.map errorCount).sum

/-! ## Single pieces -/

/-- A piece is a record exactly when it is the bytes of a text that is a JSON object. -/
theorem recordOf?_eq_some_iff {piece : List UInt8} {d : Record.Decoded} :
    recordOf? piece = some d ↔
      ∃ text members, Text.encode text = piece ∧ Json.parse text = .ok (.object members) ∧
        d = ({ (Record.decode members).1 with source := text }, (Record.decode members).2) := by
  constructor
  · intro h
    unfold recordOf? at h
    split at h
    · cases h
    · next text hdecode =>
        split at h
        · next members hparse =>
            exact ⟨text, members, Text.decode?_eq_some_iff.1 hdecode, hparse,
              (Option.some.inj h).symm⟩
        · cases h
  · rintro ⟨text, members, rfl, hparse, rfl⟩
    simp only [recordOf?, Text.decode?_encode, hparse]

/-- A record becomes what the filter and the view make of it. -/
theorem ofLine_of_record {piece : List UInt8} {d : Record.Decoded} (h : recordOf? piece = some d)
    (filter : Filter) (view : View) :
    LineResult.ofLine filter view piece = LineResult.ofDecoded filter view d := by
  obtain ⟨text, members, rfl, hparse, rfl⟩ := recordOf?_eq_some_iff.1 h
  simp only [LineResult.ofLine, Text.decode?_encode, LineResult.ofText, Record.ofLine, hparse]

/-- Every other piece passes. -/
theorem ofLine_of_no_record {piece : List UInt8} (h : recordOf? piece = none) (filter : Filter)
    (view : View) : ∃ reason, LineResult.ofLine filter view piece = .passed reason := by
  unfold LineResult.ofLine
  split
  · next text hdecode =>
      simp only [recordOf?, hdecode] at h
      unfold LineResult.ofText Record.ofLine
      split at h
      · cases h
      · next hno =>
          cases hparse : Json.parse text with
          | error e => exact ⟨_, rfl⟩
          | ok v =>
              cases v with
              | object members => exact absurd hparse (hno members)
              | _ => exact ⟨_, rfl⟩
  · exact ⟨_, rfl⟩

theorem writes_ofLine (filter : Filter) (view : View) (piece : List UInt8) :
    ((LineResult.ofLine filter view piece).writes piece).flatten = rendered filter view piece := by
  cases h : recordOf? piece with
  | none =>
      obtain ⟨reason, hpassed⟩ := ofLine_of_no_record h filter view
      simp [hpassed, LineResult.writes, rendered, h]
  | some d =>
      rw [ofLine_of_record h]
      simp only [rendered, h, LineResult.ofDecoded]
      split <;> simp [LineResult.writes]

theorem count_ofLine (filter : Filter) (view : View) (piece : List UInt8) :
    Stats.of (LineResult.ofLine filter view piece) = tally filter [piece] := by
  cases h : recordOf? piece with
  | none =>
      obtain ⟨reason, hpassed⟩ := ofLine_of_no_record h filter view
      simp [hpassed, Stats.of, Stats.count, LineResult.errors, tally, isShown, errorCount, h]
  | some d =>
      rw [ofLine_of_record h, LineResult.ofDecoded]
      split
      · next hshows =>
          simp [Stats.of, Stats.count, LineResult.errors, tally, isShown, errorCount, h, hshows]
      · next hhides =>
          simp [Stats.of, Stats.count, LineResult.errors, tally, isShown, errorCount, h, hhides]

/-! ## All pieces of an input -/

theorem tally_append (filter : Filter) (ps qs : List (List UInt8)) :
    tally filter (ps ++ qs) = tally filter ps + tally filter qs := by
  simp [tally, List.countP_append]

theorem counts_ofLine (filter : Filter) (view : View) (ps : List (List UInt8)) :
    counts (LineResult.ofLine filter view) ps = tally filter ps := by
  induction ps with
  | nil => rfl
  | cons p ps ih =>
      have hcons : p :: ps = [p] ++ ps := rfl
      rw [hcons, counts_append, tally_append, ih, ← count_ofLine filter view p]
      simp [counts]

theorem written_ofLine (filter : Filter) (view : View) (ps : List (List UInt8)) :
    written (LineResult.ofLine filter view) ps = ps.flatMap (rendered filter view) := by
  simp only [written, writes_ofLine]

/-- Every piece is counted once, as a record or as one that passes. -/
theorem tally_records_add_passed (filter : Filter) (ps : List (List UInt8)) :
    (tally filter ps).records + (tally filter ps).passed = ps.length := by
  have hnone : (fun p => (recordOf? p).isNone) = fun p => decide ¬(recordOf? p).isSome = true := by
    funext p
    cases recordOf? p <;> rfl
  simp only [tally, hnone]
  exact (List.length_eq_countP_add_countP fun p => (recordOf? p).isSome).symm

/-- The report of a run between an input and an output that never fail. -/
theorem run_unlimited (filter : Filter) (view : View) (bytes : List UInt8) :
    run filter view { bytes := bytes } {} =
      { stats := tally filter (pieces bytes)
        output := (pieces bytes).flatMap (rendered filter view)
        ending := .completed
        results := (pieces bytes).map (LineResult.ofLine filter view)
        flushed := true } := by
  have hzero : ({} : Stats) = 0 := rfl
  rw [run, feed_unlimited, counts_ofLine, written_ofLine, hzero, zero_add]
  rfl

/-- **What a run writes and counts.** Between an input and an output that never fail, the output is
that of the pieces of the input one after the other and the counts are theirs; each piece is counted
once. Output and counts of an input that is cut after a line feed are those of both parts. -/
theorem run_pieces (filter : Filter) (view : View) :
    (∀ bytes,
      let report := run filter view { bytes := bytes } {}
      report.output = (pieces bytes).flatMap (rendered filter view) ∧
        report.returned = .ok (tally filter (pieces bytes)) ∧
        report.stats.records + report.stats.passed = (pieces bytes).length) ∧
    ∀ a b, EndsLine a →
      (run filter view { bytes := a ++ b } {}).output =
          (run filter view { bytes := a } {}).output ++
            (run filter view { bytes := b } {}).output ∧
        (run filter view { bytes := a ++ b } {}).stats =
          (run filter view { bytes := a } {}).stats +
            (run filter view { bytes := b } {}).stats := by
  refine ⟨fun bytes => ?_, fun a b ha => ?_⟩
  · rw [run_unlimited]
    exact ⟨rfl, rfl, tally_records_add_passed filter (pieces bytes)⟩
  · rw [run_unlimited, run_unlimited, run_unlimited, pieces_append ha]
    exact ⟨List.flatMap_append, tally_append filter (pieces a) (pieces b)⟩

/-- The object of the first line and the text after it, with a carriage return between them. -/
theorem run_pieces_object_then_text :
    EndsLine [123, 125, 13, 10] ∧
      (run .all {} { bytes := [123, 125, 13, 10] ++ [13, 120] } {}).output =
          (run .all {} { bytes := [123, 125, 13, 10] } {}).output ++
            (run .all {} { bytes := [13, 120] } {}).output ∧
        (run .all {} { bytes := [123, 125, 13, 10] ++ [13, 120] } {}).stats =
          (run .all {} { bytes := [123, 125, 13, 10] } {}).stats +
            (run .all {} { bytes := [13, 120] } {}).stats :=
  ⟨.inr rfl, (run_pieces .all {}).2 [123, 125, 13, 10] [13, 120] (.inr rfl)⟩

end LogLens.Stream
