import LogLens.Proofs.Stream.Outcome

/-!
# Streams with failing ends

A failing end loses nothing of what came before the failure. What an output with a limit takes are
the first bytes of what an output without one would get. Where everything fits, only the end of the
stream can differ, by the failure of the input or of the flush. Where it does not, the stream ends
within the line whose bytes are the first not to fit: a closed output gives back the counts up to
and with this line, every other failure is returned as it is.

An input that fails after its last byte is, up to this failure, its longest beginning that ends with
a line feed.

## Main results

* `run_limited` — output, result and flush of a run whose ends may both fail.
-/

namespace LogLens.Stream

/-- What is returned after a write failed: a closed output is no error. -/
def returnedOnFull (failure : IoFailure) (stats : Stats) : Except IoFailure Stats :=
  if failure = .brokenPipe then .ok stats else .error failure

/-- What is returned after the flush: that the output is closed does not matter there either. -/
def returnedOnFlush (failure : Option IoFailure) (stats : Stats) : Except IoFailure Stats :=
  match failure with
  | none => .ok stats
  | some e => returnedOnFull e stats

theorem returned_of_full {report : Report} {failure : IoFailure}
    (h : report.ending = endOfWrite failure) :
    report.returned = returnedOnFull failure report.stats := by
  rw [Report.returned, h]
  cases failure <;> rfl

theorem returned_of_flush {report : Report} {failure : Option IoFailure}
    (h : report.ending = endOfFlush failure) :
    report.returned = returnedOnFlush failure report.stats := by
  rw [Report.returned, h]
  cases failure with
  | none => rfl
  | some e => cases e <;> rfl

section Runs

variable (filter : Filter) (view : View) (bytes : List UInt8) (inputFailure : Option IoFailure)
  {k : Nat} (onFull : IoFailure) (onFlush : Option IoFailure)

theorem output_unlimited (input : List UInt8) :
    (run filter view { bytes := input } {}).output =
      written (LineResult.ofLine filter view) (pieces input) := by
  rw [run_unlimited, written_ofLine]

theorem stats_unlimited (input : List UInt8) :
    (run filter view { bytes := input } {}).stats =
      0 + counts (LineResult.ofLine filter view) (pieces input) := by
  rw [run_unlimited, counts_ofLine, zero_add]

/-- Where everything fits, the output and the counts are those of a run without a limit over what
can be read, and the end is that of the input or of the flush. -/
theorem run_fitting
    (h : (run filter view { bytes := readable inputFailure bytes } {}).output.length ≤ k) :
    let unlimited := run filter view { bytes := readable inputFailure bytes } {}
    let report := run filter view ⟨bytes, inputFailure⟩ ⟨some k, onFull, onFlush⟩
    report.output = unlimited.output ∧ report.stats = unlimited.stats ∧
      report.ending = endOfInput inputFailure onFlush ∧
      report.flushed = inputFailure.isNone := by
  intro unlimited report
  rw [output_unlimited] at h
  have hreport : report = _ :=
    (feed_fitting (LineResult.ofLine filter view) ⟨some k, onFull, onFlush⟩ inputFailure h {}).trans
      (feed_unlimited (LineResult.ofLine filter view) ⟨some k, onFull, onFlush⟩ inputFailure {}
        bytes)
  rw [hreport]
  exact ⟨(output_unlimited ..).symm, (stats_unlimited ..).symm, rfl, rfl⟩

/-- Where not everything fits, the run ends within the line that does not fit any more. -/
theorem run_full
    (h : k < (run filter view { bytes := readable inputFailure bytes } {}).output.length) :
    let unlimited := fun input => run filter view { bytes := input } {}
    let report := run filter view ⟨bytes, inputFailure⟩ ⟨some k, onFull, onFlush⟩
    report.output = (unlimited (readable inputFailure bytes)).output.take k ∧
      report.flushed = false ∧
      ∃ before line after,
        readable inputFailure bytes = before ++ line ++ after ∧ EndsLine before ∧
          IsLine line after ∧ (unlimited before).output.length ≤ k ∧
          k < (unlimited (before ++ line)).output.length ∧
          report.returned = returnedOnFull onFull (unlimited (before ++ line)).stats := by
  rw [output_unlimited] at h
  obtain ⟨before, line, after, ⟨hsplit, hbefore, hline, hle, hgt⟩, houtput, hstats, hending,
    hflushed⟩ :=
    feed_full (LineResult.ofLine filter view) ⟨some k, onFull, onFlush⟩ inputFailure h {}
  simp only [output_unlimited, stats_unlimited]
  refine ⟨houtput, hflushed, before, line, after, hsplit, hbefore, hline, hle, hgt, ?_⟩
  exact (returned_of_full hending).trans (congrArg (returnedOnFull onFull) hstats)

end Runs

/-- **Failing ends lose nothing before the failure.** An output with room for `k` bytes takes the
first `k` bytes of what is written without a limit over what can be read. Where these are not all,
the run ends within the line that does not fit any more, without a flush: a closed output gives back
the counts up to that line, any other failure is returned. Where they are all, the run ends as its
input and its flush do. -/
theorem run_limited (filter : Filter) (view : View) (bytes : List UInt8)
    (inputFailure : Option IoFailure) (k : Nat) (onFull : IoFailure) (onFlush : Option IoFailure) :
    let unlimited := fun input => run filter view { bytes := input } {}
    let input := readable inputFailure bytes
    let full := (unlimited input).output
    let report := run filter view ⟨bytes, inputFailure⟩ ⟨some k, onFull, onFlush⟩
    report.output = full.take (min k full.length) ∧
      (k < full.length →
        report.flushed = false ∧
          ∃ before line after,
            input = before ++ line ++ after ∧ EndsLine before ∧ IsLine line after ∧
              (unlimited before).output.length ≤ k ∧
              k < (unlimited (before ++ line)).output.length ∧
              report.returned = returnedOnFull onFull (unlimited (before ++ line)).stats) ∧
      (full.length ≤ k →
        match inputFailure with
        | none =>
          report.flushed = true ∧ report.returned = returnedOnFlush onFlush (unlimited input).stats
        | some e => report.flushed = false ∧ report.returned = .error e) := by
  intro unlimited input full report
  rcases Nat.lt_or_ge k full.length with hfull | hfits
  · obtain ⟨houtput, hflushed, hstop⟩ :=
      run_full filter view bytes inputFailure onFull onFlush hfull
    refine ⟨?_, fun _ => ⟨hflushed, hstop⟩, fun h => absurd h (Nat.not_le.2 hfull)⟩
    rw [Nat.min_eq_left hfull.le]
    exact houtput
  · obtain ⟨houtput, hstats, hending, hflushed⟩ :=
      run_fitting filter view bytes inputFailure onFull onFlush hfits
    refine ⟨?_, fun h => absurd hfits (Nat.not_le.2 h), fun _ => ?_⟩
    · rw [Nat.min_eq_right hfits, List.take_length]
      exact houtput
    · cases inputFailure with
      | none => exact ⟨hflushed, (returned_of_flush hending).trans (by rw [hstats])⟩
      | some e =>
          refine ⟨hflushed, ?_⟩
          rw [Report.returned, hending]
          rfl

/-- An output that takes four bytes and is then closed, within the second line of two texts. -/
theorem run_limited_second_line :
    let full := (run .all {} { bytes := [97, 98, 10, 99, 10] } {}).output
    let report := run .all {} ⟨[97, 98, 10, 99, 10], none⟩ ⟨some 4, .brokenPipe, none⟩
    4 < full.length ∧ report.output = [97, 98, 10, 99] ∧ report.flushed = false ∧
      ∃ stats, report.returned = .ok stats := by
  intro full report
  have hfull : full = [97, 98, 10, 99, 10] := by
    rw [show full = _ from congrArg Report.output (run_unlimited .all {} _)]
    decide +kernel
  have hlong : 4 < full.length := by
    rw [hfull]
    decide
  obtain ⟨houtput, hstop, -⟩ := run_limited .all {} [97, 98, 10, 99, 10] none 4 .brokenPipe none
  obtain ⟨hflushed, before, line, after, -, -, -, -, -, hreturned⟩ := hstop hlong
  refine ⟨hlong, ?_, hflushed, _, hreturned⟩
  calc report.output = full.take (min 4 full.length) := houtput
    _ = [97, 98, 10, 99] := by rw [hfull]; rfl

end LogLens.Stream
