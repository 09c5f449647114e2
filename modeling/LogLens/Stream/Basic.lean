import LogLens.Stream.Line
/-!
# From an input to an output

The lines of an input are taken one after the other, and what each becomes is written. A line that
is empty is skipped. Both ends can fail. An input may fail after its last byte; an unfinished line
is then lost. An output takes a limited number of bytes in all, part of a write perhaps, and fails
after them; it may also fail at the flush that ends the stream.

An output that is closed by its reader (`brokenPipe`) is no error: the stream stops, and the line
that could not be written has been counted. A closed output at the flush does not matter either. A
stream that ends early, at either end, is not flushed.

## Main results

* `accept_unlimited`, `acceptAll_unlimited` — an output without a limit takes everything.
-/

namespace LogLens

namespace Stream

/-- What was counted on the way. -/
structure Stats where
  records : Nat := 0
  shown : Nat := 0
  passed : Nat := 0
  fieldErrors : Nat := 0
  deriving DecidableEq, Repr

/-- Counts a line. -/
def Stats.count (stats : Stats) (result : LineResult) : Stats :=
  let fieldErrors := stats.fieldErrors + result.errors.length
  match result with
  | .passed _ => { stats with passed := stats.passed + 1, fieldErrors := fieldErrors }
  | .hidden _ => { stats with records := stats.records + 1, fieldErrors := fieldErrors }
  | .shown .. =>
    { stats with
      records := stats.records + 1, shown := stats.shown + 1, fieldErrors := fieldErrors }

/-- An input and how it ends. -/
structure Source where
  bytes : List UInt8 := []
  failure : Option IoFailure := none
  deriving DecidableEq, Repr

/-- An output: the bytes that it takes, how it fails after them, and whether a flush fails. -/
structure Sink where
  room : Option Nat := none
  onFull : IoFailure := .brokenPipe
  onFlush : Option IoFailure := none
  deriving DecidableEq, Repr

/-- How a stream ends. -/
inductive Ending where
  | completed
  | closed
  | failed (failure : IoFailure)
  deriving DecidableEq, Repr

/-- What a stream leaves: counts, the bytes that were taken, how it ended, what became of each line
that was read, and whether the output was flushed. -/
structure Report where
  stats : Stats
  output : List UInt8
  ending : Ending
  results : List LineResult
  flushed : Bool

/-- What is returned: the counts, or the failure of one of the ends. -/
def Report.returned (report : Report) : Except IoFailure Stats :=
  match report.ending with
  | .failed failure => .error failure
  | _ => .ok report.stats

/-- What an output does with bytes: the room that is left, or the bytes that it still took. -/
def accept (room : Option Nat) (bytes : List UInt8) : Except (List UInt8) (Option Nat) :=
  match room with
  | none => .ok none
  | some n => if bytes.length ≤ n then .ok (some (n - bytes.length)) else .error (bytes.take n)

/-- What an output does with several writes: the room that is left after the last one, or all bytes
that it still took. The writes after one that fails are not made. -/
def acceptAll : (room : Option Nat) → List (List UInt8) → Except (List UInt8) (Option Nat)
  | room, [] => .ok room
  | room, bytes :: rest =>
    match accept room bytes with
    | .error taken => .error taken
    | .ok room =>
      match acceptAll room rest with
      | .error taken => .error (bytes ++ taken)
      | .ok room => .ok room

/-- The end after a failed write. -/
def endOfWrite : IoFailure → Ending
  | .brokenPipe => .closed
  | failure => .failed failure

/-- The end after the flush. -/
def endOfFlush : Option IoFailure → Ending
  | none => .completed
  | some .brokenPipe => .completed
  | some failure => .failed failure

/-- Takes one line after the other from an input that fails so after its last byte, with the given
room and counts. -/
def feed (become : List UInt8 → LineResult) (sink : Sink) (failure : Option IoFailure)
    (room : Option Nat) (stats : Stats) (bytes : List UInt8) : Report :=
  match _h : readLine failure bytes with
  | .failed failure => ⟨stats, [], .failed failure, [], false⟩
  | .ended => ⟨stats, [], endOfFlush sink.onFlush, [], true⟩
  | .line line rest =>
    let line := withoutReturn line
    if line.isEmpty then feed become sink failure room stats rest
    else
      let result := become line
      let stats := stats.count result
      match acceptAll room (result.writes line) with
      | .error taken => ⟨stats, taken, endOfWrite sink.onFull, [result], false⟩
      | .ok room =>
        let report := feed become sink failure room stats rest
        { report with
          output := (result.writes line).flatten ++ report.output
          results := result :: report.results }
termination_by bytes.length
decreasing_by all_goals exact readLine_length _h

/-- Runs an input through a filter and a view into an output. -/
def run (filter : Filter) (view : View) (source : Source) (sink : Sink) : Report :=
  feed (LineResult.ofLine filter view) sink source.failure sink.room {} source.bytes

/-- An output without a limit takes everything. -/
theorem accept_unlimited (bytes : List UInt8) : accept none bytes = .ok none := rfl

theorem acceptAll_unlimited (writes : List (List UInt8)) : acceptAll none writes = .ok none := by
  induction writes with
  | nil => rfl
  | cons bytes rest ih => simp only [acceptAll, accept_unlimited, ih]

end Stream

end LogLens
