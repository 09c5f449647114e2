import LogLens.Proofs.Stream.Pieces
import LogLens.Stream.Basic
import Mathlib.Algebra.BigOperators.Group.List.Basic

/-!
# The reading loop, line by line

The loop holds the room that is left, the counts and the bytes that are still to be read. Each round
is one of five: the input fails, it ends, its next line is empty, the line is written, or the output
is full. From these rounds the whole loop is known. Without a limit it is a walk over the pieces of
what can be read. A limit that is large enough changes nothing, and a limit that is not stops the
loop within the first line whose bytes do not fit any more.

## Main results

* `feed_unlimited` — the report of the loop without a limit, from the pieces.
* `feed_fitting` — a limit that everything fits changes nothing.
* `feed_full` — where the loop stops when not everything fits, and with what.
-/

namespace LogLens.Stream

variable (become : List UInt8 → LineResult) (sink : Sink) (failure : Option IoFailure)

/-! ## Counts -/

instance : Zero Stats := ⟨{}⟩

/-- Counts are added one by one. -/
instance : Add Stats where
  add a b :=
    ⟨a.records + b.records, a.shown + b.shown, a.passed + b.passed, a.fieldErrors + b.fieldErrors⟩

theorem Stats.zero_eq : (0 : Stats) = ⟨0, 0, 0, 0⟩ := rfl

@[simp] theorem Stats.mk_add (r s p e r' s' p' e' : Nat) :
    Stats.mk r s p e + Stats.mk r' s' p' e' = ⟨r + r', s + s', p + p', e + e'⟩ := rfl

instance : AddCommMonoid Stats where
  nsmul := nsmulRec
  add_assoc := by
    rintro ⟨⟩ ⟨⟩ ⟨⟩
    simp [Nat.add_assoc]
  zero_add := by
    rintro ⟨⟩
    simp [Stats.zero_eq]
  add_zero := by
    rintro ⟨⟩
    simp [Stats.zero_eq]
  add_comm := by
    rintro ⟨⟩ ⟨⟩
    simp [Nat.add_comm]

/-- The counts of one line alone. -/
def Stats.of (result : LineResult) : Stats := Stats.count {} result

theorem Stats.count_eq (stats : Stats) (result : LineResult) :
    stats.count result = stats + Stats.of result := by
  obtain ⟨r, s, p, e⟩ := stats
  cases result <;> simp [Stats.count, Stats.of]

/-- The counts of several pieces together. -/
def counts (pieces : List (List UInt8)) : Stats := (pieces.map fun p => Stats.of (become p)).sum

/-- What several pieces add to the output. -/
def written (pieces : List (List UInt8)) : List UInt8 :=
  pieces.flatMap fun p => ((become p).writes p).flatten

theorem counts_append (ps qs : List (List UInt8)) :
    counts become (ps ++ qs) = counts become ps + counts become qs := by
  simp only [counts, List.map_append, List.sum_append]

theorem written_append (ps qs : List (List UInt8)) :
    written become (ps ++ qs) = written become ps ++ written become qs := by
  simp only [written, List.flatMap_append]

/-! ## Limited room -/

/-- Writes that fit are made, and the room shrinks by their bytes. -/
theorem acceptAll_fitting {k : Nat} {writes : List (List UInt8)} (h : writes.flatten.length ≤ k) :
    acceptAll (some k) writes = .ok (some (k - writes.flatten.length)) := by
  induction writes generalizing k with
  | nil => simp [acceptAll]
  | cons bytes rest ih =>
      simp only [List.flatten_cons, List.length_append] at h ⊢
      have hbytes : bytes.length ≤ k := by omega
      have hrest : rest.flatten.length ≤ k - bytes.length := by omega
      simp only [acceptAll, accept, hbytes, if_true, ih hrest]
      congr 2
      omega

/-- Of writes that do not fit, the first bytes are still taken, as many as there is room for. -/
theorem acceptAll_full {k : Nat} {writes : List (List UInt8)} (h : k < writes.flatten.length) :
    acceptAll (some k) writes = .error (writes.flatten.take k) := by
  induction writes generalizing k with
  | nil => simp at h
  | cons bytes rest ih =>
      simp only [List.flatten_cons, List.length_append] at h ⊢
      by_cases hbytes : bytes.length ≤ k
      · have hrest : k - bytes.length < rest.flatten.length := by omega
        simp only [acceptAll, accept, hbytes, if_true, ih hrest]
        rw [List.take_append, List.take_of_length_le hbytes]
      · have hk : k - bytes.length = 0 := by omega
        simp only [acceptAll, accept, hbytes, if_false]
        rw [List.take_append, hk, List.take_zero, List.append_nil]

/-! ## The rounds of the loop -/

section Rounds

variable {become sink failure} {room : Option Nat} {stats : Stats} {bytes line rest : List UInt8}

theorem feed_failed {e : IoFailure} (h : readLine failure bytes = .failed e) :
    feed become sink failure room stats bytes = ⟨stats, [], .failed e, [], false⟩ := by
  rw [feed]
  split <;> simp_all

theorem feed_ended (h : readLine failure bytes = .ended) :
    feed become sink failure room stats bytes = ⟨stats, [], endOfFlush sink.onFlush, [], true⟩ := by
  rw [feed]
  split <;> simp_all

theorem feed_empty (h : readLine failure bytes = .line line rest) (hempty : dropReturn line = []) :
    feed become sink failure room stats bytes = feed become sink failure room stats rest := by
  rw [feed]
  split <;> simp_all [withoutReturn_eq]

/-- The round of a line for which there is no room. -/
theorem feed_stopped {taken : List UInt8} (h : readLine failure bytes = .line line rest)
    (hne : dropReturn line ≠ [])
    (hfull : acceptAll room ((become (dropReturn line)).writes (dropReturn line)) = .error taken) :
    feed become sink failure room stats bytes =
      ⟨stats + Stats.of (become (dropReturn line)), taken, endOfWrite sink.onFull,
        [become (dropReturn line)], false⟩ := by
  rw [feed]
  split <;> simp_all [withoutReturn_eq, Stats.count_eq]

/-- The round of a line that is taken. -/
theorem feed_taken {left : Option Nat} (h : readLine failure bytes = .line line rest)
    (hne : dropReturn line ≠ [])
    (hok : acceptAll room ((become (dropReturn line)).writes (dropReturn line)) = .ok left) :
    feed become sink failure room stats bytes =
      let report :=
        feed become sink failure left (stats + Stats.of (become (dropReturn line))) rest
      { report with
        output :=
          ((become (dropReturn line)).writes (dropReturn line)).flatten ++ report.output
        results := become (dropReturn line) :: report.results } := by
  rw [feed]
  split <;> simp_all [withoutReturn_eq, Stats.count_eq]

/-- A line that fits is written and counted, and the loop goes on with the room that is left. -/
theorem feed_fits (sink : Sink) (stats : Stats) {k : Nat}
    (h : readLine failure bytes = .line line rest)
    (hfits : (written become (pieceOf line)).length ≤ k) :
    let report := feed become sink failure (some k) stats bytes
    let later :=
      feed become sink failure (some (k - (written become (pieceOf line)).length))
        (stats + counts become (pieceOf line)) rest
    report.output = written become (pieceOf line) ++ later.output ∧ report.stats = later.stats ∧
      report.ending = later.ending ∧ report.flushed = later.flushed := by
  by_cases hempty : dropReturn line = []
  · have hnone : pieceOf line = [] := if_pos hempty
    rw [feed_empty h hempty, hnone]
    simp [written, counts]
  · have hone : pieceOf line = [dropReturn line] := if_neg hempty
    rw [hone] at hfits ⊢
    simp only [written, List.flatMap_singleton] at hfits ⊢
    rw [feed_taken h hempty (acceptAll_fitting hfits)]
    simp [counts]

/-- A line that does not fit is written as far as there is room, counted, and ends the loop. -/
theorem feed_exceeds (sink : Sink) (stats : Stats) {k : Nat}
    (h : readLine failure bytes = .line line rest)
    (hexceeds : k < (written become (pieceOf line)).length) :
    let report := feed become sink failure (some k) stats bytes
    report.output = (written become (pieceOf line)).take k ∧
      report.stats = stats + counts become (pieceOf line) ∧
      report.ending = endOfWrite sink.onFull ∧ report.flushed = false := by
  by_cases hempty : dropReturn line = []
  · simp [pieceOf, hempty, written] at hexceeds
  · have hone : pieceOf line = [dropReturn line] := if_neg hempty
    rw [hone] at hexceeds ⊢
    simp only [written, List.flatMap_singleton] at hexceeds ⊢
    rw [feed_stopped h hempty (acceptAll_full hexceeds)]
    simp [counts]

end Rounds

/-! ## Whole runs -/

/-- The end of a stream whose output takes everything. -/
def endOfInput (failure flush : Option IoFailure) : Ending :=
  match failure with
  | some e => .failed e
  | none => endOfFlush flush

/-- Without a limit every piece of what can be read is taken, and the report is made of what the
pieces become. -/
theorem feed_unlimited (stats : Stats) (bytes : List UInt8) :
    feed become sink failure none stats bytes =
      { stats := stats + counts become (pieces (readable failure bytes))
        output := written become (pieces (readable failure bytes))
        ending := endOfInput failure sink.onFlush
        results := (pieces (readable failure bytes)).map become
        flushed := failure.isNone } := by
  induction hn : bytes.length using Nat.strong_induction_on generalizing stats bytes with
  | _ n ih =>
      subst hn
      cases hr : readLine failure bytes with
      | failed e =>
          obtain ⟨rfl, hread⟩ := readLine_failed hr
          rw [feed_failed hr, hread, pieces_nil]
          simp [counts, written, endOfInput]
      | ended =>
          obtain ⟨rfl, rfl⟩ := readLine_ended hr
          rw [feed_ended hr]
          simp [readable, pieces_nil, counts, written, endOfInput]
      | line line rest =>
          have hlt := readLine_length hr
          rw [pieces_readable hr]
          by_cases hempty : dropReturn line = []
          · rw [feed_empty hr hempty, ih _ hlt _ _ rfl, pieceOf, if_pos hempty, List.nil_append]
          · rw [feed_taken hr hempty (acceptAll_unlimited _), ih _ hlt _ _ rfl, pieceOf,
              if_neg hempty]
            simp [counts, written, add_assoc]

/-- A limit that everything fits changes nothing. -/
theorem feed_fitting {k : Nat} {bytes : List UInt8}
    (h : (written become (pieces (readable failure bytes))).length ≤ k) (stats : Stats) :
    feed become sink failure (some k) stats bytes = feed become sink failure none stats bytes := by
  induction hn : bytes.length using Nat.strong_induction_on generalizing k stats bytes with
  | _ n ih =>
      subst hn
      cases hr : readLine failure bytes with
      | failed e => rw [feed_failed hr, feed_failed hr]
      | ended => rw [feed_ended hr, feed_ended hr]
      | line line rest =>
          have hlt := readLine_length hr
          rw [pieces_readable hr] at h
          by_cases hempty : dropReturn line = []
          · rw [pieceOf, if_pos hempty, List.nil_append] at h
            rw [feed_empty hr hempty, feed_empty hr hempty, ih _ hlt h _ rfl]
          · rw [pieceOf, if_neg hempty, written_append, List.length_append] at h
            simp only [written, List.flatMap_singleton] at h
            have hfirst :
                ((become (dropReturn line)).writes (dropReturn line)).flatten.length ≤ k := by
              omega
            have hrest : (written become (pieces (readable failure rest))).length ≤
                k - ((become (dropReturn line)).writes (dropReturn line)).flatten.length := by
              simp only [written]
              omega
            rw [feed_taken hr hempty (acceptAll_fitting hfirst),
              feed_taken hr hempty (acceptAll_unlimited _), ih _ hlt hrest _ rfl]

/-! ## Where an output is full -/

/-- The line within which an output with room for `k` bytes is full: everything before it fits, and
with the line it does not fit any more. -/
structure StopsAt (k : Nat) (input before line after : List UInt8) : Prop where
  split : input = before ++ line ++ after
  endsLine : EndsLine before
  isLine : IsLine line after
  fits : (written become (pieces before)).length ≤ k
  exceeds : k < (written become (pieces (before ++ line))).length

section Stops

variable {become} {k : Nat} {raw input before line after : List UInt8}

/-- A first line that does not fit is where the output is full. -/
theorem StopsAt.first (hraw : IsLine raw after) (h : k < (written become (pieces raw)).length) :
    StopsAt become k (raw ++ after) [] raw after := by
  constructor
  · rw [List.nil_append]
  · exact .inl rfl
  · exact hraw
  · simp [written, pieces_nil]
  · rwa [List.nil_append]

/-- Behind a line that fits, the output is full where it is full with the room that is left. -/
theorem StopsAt.later (hraw : IsLine raw input) (hfits : (written become (pieces raw)).length ≤ k)
    (h : StopsAt become (k - (written become (pieces raw)).length) input before line after) :
    StopsAt become k (raw ++ input) (raw ++ before) line after ∧
      pieces (raw ++ before ++ line) = pieces raw ++ pieces (before ++ line) := by
  obtain ⟨rfl, hbefore, hline, hle, hgt⟩ := h
  obtain ⟨hends, hone, htwo⟩ := hraw.extend hbefore hline.ne_nil
  refine ⟨⟨?_, hends, hline, ?_, ?_⟩, htwo⟩
  · rw [List.append_assoc, List.append_assoc, List.append_assoc]
  · rw [hone, written_append, List.length_append]
    omega
  · rw [htwo, written_append, List.length_append]
    omega

end Stops

/-- When not everything fits, the loop stops at the line whose bytes are the first not to fit. What
is taken are the first bytes of everything that would be written, and that line is counted. -/
theorem feed_full {k : Nat} {bytes : List UInt8}
    (h : k < (written become (pieces (readable failure bytes))).length) (stats : Stats) :
    ∃ before line after, StopsAt become k (readable failure bytes) before line after ∧
      let report := feed become sink failure (some k) stats bytes
      report.output = (written become (pieces (readable failure bytes))).take k ∧
        report.stats = stats + counts become (pieces (before ++ line)) ∧
        report.ending = endOfWrite sink.onFull ∧ report.flushed = false := by
  induction hn : bytes.length using Nat.strong_induction_on generalizing k stats bytes with
  | _ n ih =>
      subst hn
      cases hr : readLine failure bytes with
      | failed e =>
          rw [(readLine_failed hr).2, pieces_nil] at h
          simp [written] at h
      | ended =>
          obtain ⟨rfl, rfl⟩ := readLine_ended hr
          simp [readable, pieces_nil, written] at h
      | line line rest =>
          have hlt := readLine_length hr
          obtain ⟨raw, hread, hraw, hpiece⟩ := readLine_line hr
          have hpieces := pieces_readable hr
          rw [hpieces, written_append, List.length_append] at h
          by_cases hfits : (written become (pieceOf line)).length ≤ k
          · -- The line is taken, so the stop lies in what is left.
            obtain ⟨houtput, hstats, hending, hflushed⟩ := feed_fits sink stats hr hfits
            have hrest : k - (written become (pieceOf line)).length <
                (written become (pieces (readable failure rest))).length := by
              omega
            obtain ⟨before, stop, after, hstop, hout, hst, hend, hfl⟩ :=
              ih _ hlt hrest (stats + counts become (pieceOf line)) rfl
            rw [← hpiece] at hfits hstop
            obtain ⟨hlater, htwo⟩ := hstop.later hraw hfits
            rw [hpiece] at hfits htwo
            refine ⟨raw ++ before, stop, after, hread ▸ hlater, ?_, ?_, ?_, ?_⟩
            · rw [houtput, hout, hpieces, written_append, List.take_append,
                List.take_of_length_le hfits]
            · rw [hstats, hst, htwo, counts_append, add_assoc]
            · rw [hending, hend]
            · rw [hflushed, hfl]
          · -- The line itself does not fit.
            rw [not_le] at hfits
            obtain ⟨houtput, hstats, hending, hflushed⟩ := feed_exceeds sink stats hr hfits
            rw [← hpiece] at hfits
            have hfirst := StopsAt.first hraw hfits
            refine ⟨[], raw, readable failure rest, hread ▸ hfirst, ?_, ?_, hending, hflushed⟩
            · rw [houtput, hpieces, ← hpiece, written_append, List.take_append,
                Nat.sub_eq_zero_of_le hfits.le, List.take_zero, List.append_nil]
            · rw [hstats, List.nil_append, hpiece]

end LogLens.Stream
