import LogLens.Proofs.Decimal.Magnitude
import LogLens.Proofs.Record.Members

/-!
# Times in milliseconds

The number of a time is taken to binary64 and cut back to an integer before it is looked at as
milliseconds. That changes no time: the range of instants ends well below `2 ^ 53` on both sides, so
a number in range is not rounded, and one outside of it stays outside, the words of 64 bits that are
farthest away included. A number that is out of range is one error about its key, and the time is
then what the other key says.

## Main results

* `Instant.inRange_iff` — the ends of the range.
* `inRange_truncated_iff`, `truncated_of_inRange` — the range before and after binary64.
* `time?_of_inRange`, `time?_of_not_inRange` — what a whole number says about the time.
* `decode_millis` — the time and the errors of an object with a whole number under one of the keys.
-/

namespace LogLens

open Dictionary

namespace Instant

/-! ## Milliseconds -/

/-- The instant is a number of milliseconds after 1970-01-01T00:00:00Z, and no leap second. -/
def IsMillis (t : Instant) (millis : Int) : Prop :=
  t.seconds * 1000000000 + t.nanos = millis * 1000000 ∧ t.nanos < 1000000000

/-- A number of milliseconds whose day lies in one of the years from -262143 to 262142. -/
def InRange (millis : Int) : Prop :=
  Date.toDays ⟨-262143, 1, 1⟩ * 86400000 ≤ millis ∧
    millis < Date.toDays ⟨262143, 1, 1⟩ * 86400000

variable {millis : Int}

/-- The two ends in numbers, each of which has fewer than 53 bits. -/
theorem inRange_iff : InRange millis ↔ -8334601228800000 ≤ millis ∧ millis ≤ 8210266876799999 := by
  have hfirst : Date.toDays ⟨-262143, 1, 1⟩ = -96465292 := by decide
  have hend : Date.toDays ⟨262143, 1, 1⟩ = 95026237 := by decide
  rw [InRange, hfirst, hend]
  omega

/-- A number of milliseconds in range is the instant that it says. -/
theorem exists_ofMillis? (h : InRange millis) :
    ∃ t, ofMillis? millis = some t ∧ t.IsMillis millis := by
  refine ⟨_, if_pos (inRange_iff.1 h), ?_⟩
  have hdivision := Int.mul_fdiv_add_fmod millis 1000
  have hnonneg := Int.fmod_nonneg_of_pos millis (show (0 : Int) < 1000 by decide)
  have hlt := Int.fmod_lt_of_pos millis (show (0 : Int) < 1000 by decide)
  constructor
  · show millis.fdiv 1000 * 1000000000 + ((millis.fmod 1000).toNat % 1000 * 1000000 : Nat) = _
    omega
  · show (millis.fmod 1000).toNat % 1000 * 1000000 < 1000000000
    omega

theorem ofMillis?_eq_none (h : ¬InRange millis) : ofMillis? millis = none :=
  if_neg fun hrange => h (inRange_iff.2 hrange)

end Instant

namespace Record

/-- A whole number of milliseconds is in range after binary64 when it is so before, and then it is
the same number. -/
theorem inRange_truncated_iff (n : Whole) :
    Instant.InRange (Number.whole n).toBinary64.truncated ↔ Instant.InRange n.value := by
  rw [Instant.inRange_iff, Instant.inRange_iff, Number.toBinary64,
    Binary64.le_truncated_ofInt_iff (by decide) n.natAbs_lt,
    Binary64.truncated_ofInt_le_iff (by decide) n.natAbs_lt]

theorem truncated_of_inRange {n : Whole} (h : Instant.InRange n.value) :
    (Number.whole n).toBinary64.truncated = n.value := by
  obtain ⟨hfirst, hlast⟩ := Instant.inRange_iff.1 h
  have hcases := Binary64.truncated_ofInt_cases n.natAbs_lt
  show (Binary64.ofInt n.value).truncated = n.value
  omega

/-- What a whole number says about the time. -/
theorem time?_of_inRange {n : Whole} (h : Instant.InRange n.value) :
    ∃ t, time? (.number (.whole n)) = some t ∧ t.IsMillis n.value := by
  obtain ⟨t, ht, hmillis⟩ := Instant.exists_ofMillis? h
  refine ⟨t, ?_, hmillis⟩
  rw [time?, truncated_of_inRange h, ht]

theorem time?_of_not_inRange {n : Whole} (h : ¬Instant.InRange n.value) :
    time? (.number (.whole n)) = none := by
  rw [← inRange_truncated_iff] at h
  rw [time?, Instant.ofMillis?_eq_none h]

/-! ## The two keys of the time -/

/-- The keys of the time. -/
inductive TimeKey where
  | time
  | stamp

namespace TimeKey

/-- The key in an object. -/
def name : TimeKey → String
  | time => "time"
  | stamp => "timestamp"

/-- The other one of the two. -/
def other : TimeKey → TimeKey
  | time => stamp
  | stamp => time

/-- What the member of the key says about the time. -/
def said (key : TimeKey) (o : Dictionary Json) : Option Instant := (find? key.name o).bind time?

end TimeKey

section Decoded

/-- The error of an integer shows its digits. -/
theorem mismatch_whole (key expected : String) (n : Whole) :
    mismatch key expected (.number (.whole n)) =
      .wrongType key expected (Decimal.intText n.value) := by
  rw [mismatch, Json.compactText, Json.compact, String.ofList_toList, Number.text]

variable {o : Dictionary Json} (key : TimeKey)

/-- A number under a key of the time sets the time when it says one, and is an error otherwise. -/
theorem decodeMember_time (state : Decoded) (n : Number) :
    decodeMember state key.name (.number n) =
      match time? (.number n) with
      | some t => ({ state.1 with time := some t }, state.2)
      | none =>
        (state.1, state.2 ++ [mismatch key.name "epoch milliseconds in range" (.number n)]) := by
  cases htime : Instant.ofMillis? n.toBinary64.truncated <;>
    cases key <;> simp only [TimeKey.name, decodeMember, decodeTime, time?, htime, store]

/-- **Times in milliseconds are exact.** Let an object have a whole number under one of the two keys of
the time. When that many milliseconds are in range, binary64 does not round the number. The key sets
the time to the instant that is so many milliseconds after the beginning of 1970, whatever was decoded
before it, and there is no error about the key; only the time of `time` gives way to one that the
other key says. When they are out of range, they are so after binary64 too. The key leaves the record
as it was, there is one error about it, which shows the number, and the time is what the other key
says. -/
theorem decode_millis (h : Sorted o) {n : Whole}
    (hn : find? key.name o = some (.number (.whole n))) :
    let r := (decode o).1
    let cut := (Number.whole n).toBinary64.truncated
    let error : FieldError :=
      .wrongType key.name "epoch milliseconds in range" (Decimal.intText n.value)
    (Instant.InRange n.value →
      cut = n.value ∧ ∃ t : Instant, t.IsMillis n.value ∧
        (∀ state : Decoded, decodeMember state key.name (.number (.whole n)) =
          ({ state.1 with time := some t }, state.2)) ∧
        errorsOf key.name o = [] ∧
        r.time = match key with
          | .time => (TimeKey.stamp.said o).or (some t)
          | .stamp => some t) ∧
    (¬Instant.InRange n.value →
      ¬Instant.InRange cut ∧
        (∀ state : Decoded, decodeMember state key.name (.number (.whole n)) =
          (state.1, state.2 ++ [error])) ∧
        errorsOf key.name o = [error] ∧
        r.time = key.other.said o) := by
  intro r cut error
  have htime : r.time = (TimeKey.stamp.said o).or (TimeKey.time.said o) := time_decode h
  have hsaid : key.said o = time? (.number (.whole n)) := by
    rw [TimeKey.said, hn, Option.bind_some]
  have herrors : errorsOf key.name o = (decodeMember ({}, []) key.name (.number (.whole n))).2 := by
    rw [errorsOf_eq h, hn, Option.elim_some, complaints]
  constructor
  · intro hrange
    obtain ⟨t, ht, hmillis⟩ := time?_of_inRange hrange
    have hstep : ∀ state : Decoded, decodeMember state key.name (.number (.whole n)) =
        ({ state.1 with time := some t }, state.2) := by
      intro state
      rw [decodeMember_time, ht]
    rw [ht] at hsaid
    rw [hstep] at herrors
    refine ⟨truncated_of_inRange hrange, t, hmillis, hstep, herrors, ?_⟩
    -- The member of `time` comes before that of `timestamp`, so only the first one can be replaced.
    cases key with
    | time => rw [htime, hsaid]
    | stamp => rw [htime, hsaid, Option.some_or]
  · intro hrange
    have hnone := time?_of_not_inRange hrange
    have hstep : ∀ state : Decoded, decodeMember state key.name (.number (.whole n)) =
        (state.1, state.2 ++ [error]) := by
      intro state
      rw [decodeMember_time, hnone, mismatch_whole]
    rw [hnone] at hsaid
    rw [hstep] at herrors
    refine ⟨(inRange_truncated_iff n).not.2 hrange, hstep, herrors, ?_⟩
    cases key with
    | time => rw [htime, hsaid, Option.or_none, TimeKey.other]
    | stamp => rw [htime, hsaid, Option.none_or, TimeKey.other]

/-- The last millisecond of the range under the first key, and the next one under the second key. -/
theorem decode_millis_last :
    let last : Whole := ⟨8210266876799999, by decide, by decide⟩
    let next : Whole := ⟨8210266876800000, by decide, by decide⟩
    let o : Dictionary Json := [("time", .number (.whole last)), ("timestamp", .number (.whole next))]
    Sorted o ∧ errorsOf "time" o = [] ∧
      errorsOf "timestamp" o =
        [.wrongType "timestamp" "epoch milliseconds in range" "8210266876800000"] ∧
      ∃ t : Instant, t.IsMillis 8210266876799999 ∧ (decode o).1.time = some t := by
  intro last next o
  have hsorted : Sorted o := by
    unfold Sorted
    decide
  have hlast : Instant.InRange last.value := Instant.inRange_iff.2 ⟨by decide, by decide⟩
  have hnext : ¬Instant.InRange next.value := fun h => absurd (Instant.inRange_iff.1 h).2 (by decide)
  obtain ⟨-, t, hmillis, -, hnone, htime⟩ := (decode_millis .time hsorted rfl).1 hlast
  obtain ⟨-, -, herror, -⟩ := (decode_millis .stamp hsorted rfl).2 hnext
  have hsilent : TimeKey.stamp.said o = none := by decide +kernel
  rw [hsilent] at htime
  exact ⟨hsorted, hnone, herror.trans (by decide), t, hmillis, htime⟩

end Decoded

end Record

end LogLens
