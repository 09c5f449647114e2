import LogLens.Layout.Line
import LogLens.Proofs.Time.Clockface

/-!
# Times that are told apart

In the long form the time of a record is a date, a time to the millisecond and, but for Greenwich, the
offset of the zone at that moment. When clocks are put back, local times come a second time, but with
another offset beside them. So the text tells two instants apart as soon as they differ by a
millisecond, by the clock of the machine and by that of every named zone, whatever these clocks are,
as long as the offsets have no seconds, which are not shown.

A leap second is shown as second 60 when it ends a minute, and so it differs from the second after it,
with which it shares its milliseconds.

## Main results

* `second_eq_sixty_iff` — second 60 is shown in leap seconds only.
* `timeText_wholeMillis` — what is below a millisecond is not shown.
* `shown_eq` — equal texts come from equal clockfaces and offsets.
* `timeText_long_injective` — the long text of a time identifies the instant.
-/

namespace LogLens

namespace Instant

/-- The milliseconds from the beginning of 1970 on a scale without leap seconds. -/
def millis (t : Instant) : Int := t.seconds * 1000 + t.nanos / 1000000

/-- The instant lies in a second that is added to the end of a minute. -/
def InLeapSecond (t : Instant) : Prop := 1000000000 ≤ t.nanos ∧ t.seconds % 60 = 59

theorem wholeMillis_eq_iff {t u : Instant} :
    t.wholeMillis = u.wholeMillis ↔
      t.seconds = u.seconds ∧ t.nanos / 1000000 = u.nanos / 1000000 := by
  rw [wholeMillis, wholeMillis, Instant.mk.injEq]
  omega

/-- The scale without leap seconds tells two instants apart, but for a leap second and the second
after it. -/
theorem wholeMillis_eq_iff_millis {t u : Instant} (ht : t.EndsMinute) (hu : u.EndsMinute) :
    t.wholeMillis = u.wholeMillis ↔
      t.millis = u.millis ∧ (t.InLeapSecond ↔ u.InLeapSecond) := by
  have hbound := t.nanos_lt
  have hbound' := u.nanos_lt
  unfold EndsMinute at ht hu
  rw [wholeMillis_eq_iff, millis, millis, InLeapSecond, InLeapSecond]
  constructor
  · rintro ⟨hseconds, hmillis⟩
    constructor <;> omega
  · rintro ⟨hmillis, hleap⟩
    constructor <;> omega

end Instant

/-- Where the clock is ahead by whole minutes, it shows second 60 in leap seconds only. -/
theorem Clockface.second_eq_sixty_iff {offset : Int} (hoffset : offset % 60 = 0) (t : Instant) :
    (Clockface.of offset t).second = 60 ↔ t.InLeapSecond := by
  obtain ⟨-, -, -, hsecond, -, -⟩ := Rfc3339.clockface_spec offset t rfl
  have hbound := t.nanos_lt
  unfold Instant.InLeapSecond
  omega

/-- What is below a millisecond changes nothing on the clock but the fraction of the second. -/
theorem Clockface.of_wholeMillis (offset : Int) (t : Instant) :
    Clockface.of offset t.wholeMillis =
      { Clockface.of offset t with
        nanos := (Clockface.of offset t).nanos / 1000000 * 1000000 } := by
  have hleap : t.nanos / 1000000 * 1000000 / 1000000000 = t.nanos / 1000000000 := by omega
  have hnanos : t.nanos / 1000000 * 1000000 % 1000000000 =
      t.nanos % 1000000000 / 1000000 * 1000000 := by omega
  simp only [Clockface.of, Instant.wholeMillis, hleap, hnanos]

namespace Layout

section Text

variable {view : View}

/-- The offset of a zone depends on the second alone. -/
theorem offsetAt_of_seconds (zone : DisplayZone) {t u : Instant} (h : t.seconds = u.seconds) :
    zone.offsetAt t = zone.offsetAt u := by
  cases zone with
  | utc => rfl
  | machine clock => rw [DisplayZone.offsetAt, DisplayZone.offsetAt, h]
  | named name clock => rw [DisplayZone.offsetAt, DisplayZone.offsetAt, h]

/-- The clock of the one zone that needs no offset beside its times is never ahead. -/
theorem offsetAt_of_isUtc {zone : DisplayZone} {t : Instant} (h : zone.isUtc = true) :
    zone.offsetAt t = 0 := by
  cases zone with
  | utc => rfl
  | machine clock => cases h
  | named name clock => cases h

/-- What is below a millisecond is not shown, in any form of the time. -/
theorem timeText_wholeMillis (view : View) (t : Instant) :
    timeText view t.wholeMillis = timeText view t := by
  have hoffset : view.zone.offsetAt t.wholeMillis = view.zone.offsetAt t :=
    offsetAt_of_seconds view.zone rfl
  simp only [timeText, DisplayZone.clockface, hoffset, Clockface.of_wholeMillis, Clockface.dateText,
    Clockface.timeText, show Nat.pow 10 (9 - 3) = 1000000 from rfl, Nat.mul_div_cancel,
    Nat.zero_lt_succ]

/-- Equal texts of the long form come from clocks that show the same, to the millisecond, at the same
offset. -/
theorem shown_eq (hmode : view.mode = .long) {t u : Instant} {c d : Clockface}
    (hc : view.zone.clockface t = c) (hd : view.zone.clockface u = d)
    (ht : view.zone.offsetAt t % 60 = 0) (hu : view.zone.offsetAt u % 60 = 0)
    (htext : timeText view t = timeText view u) :
    c.date = d.date ∧ (c.hour = d.hour ∧ c.minute = d.minute ∧ c.second = d.second ∧
      c.nanos / 1000000 = d.nanos / 1000000) ∧ view.zone.offsetAt t = view.zone.offsetAt u := by
  obtain ⟨hvalid, -, -, -, hnanos, -⟩ := Rfc3339.clockface_spec _ t hc
  obtain ⟨hvalid', -, -, -, hnanos', -⟩ := Rfc3339.clockface_spec _ u hd
  simp only [timeText, hmode, hc, hd, List.append_assoc, List.cons_append] at htext
  obtain ⟨hdate, htext⟩ := Text.append_cons_inj (Clockface.not_mem_dateText c)
    (Clockface.not_mem_dateText d) (List.cons.inj htext).2
  obtain ⟨hshown, hrest⟩ := Clockface.timeText_append_inj (by omega) (by omega) htext
  have hsuffix := List.append_cancel_right hrest
  refine ⟨Clockface.dateText_inj hvalid hvalid' hdate, hshown, ?_⟩
  -- Times without an offset beside them are those of Greenwich.
  cases hutc : view.zone.isUtc with
  | true => rw [offsetAt_of_isUtc hutc, offsetAt_of_isUtc hutc]
  | false =>
      simp only [hutc, Bool.false_eq_true, if_false] at hsuffix
      exact Clockface.offsetText_inj ht hu hsuffix

end Text

/-- **The long text of a time identifies the instant.** Take two instants at which the offset of the
zone is a whole number of minutes. When their texts are equal, the instants agree to the millisecond,
and either both are in a leap second or neither is. When their leap seconds end a minute, as those of
every time do that is read (`endsMinute_read`, `endsMinute_ofMillis?`), the texts are equal exactly
when the instants are, cut down to milliseconds. -/
theorem timeText_long_injective {view : View} (hmode : view.mode = .long) {t u : Instant}
    (ht : view.zone.offsetAt t % 60 = 0) (hu : view.zone.offsetAt u % 60 = 0) :
    (timeText view t = timeText view u →
      t.millis = u.millis ∧ (t.InLeapSecond ↔ u.InLeapSecond)) ∧
    (t.EndsMinute → u.EndsMinute →
      (timeText view t = timeText view u ↔ t.wholeMillis = u.wholeMillis)) := by
  have hsame : timeText view t = timeText view u →
      t.millis = u.millis ∧ (t.InLeapSecond ↔ u.InLeapSecond) := by
    intro htext
    obtain ⟨hdate, ⟨hhour, hminute, hsecond, hmillis⟩, hoffset⟩ :=
      shown_eq hmode rfl rfl ht hu htext
    obtain ⟨-, -, -, -, hnanos, htotal⟩ := Rfc3339.clockface_spec (view.zone.offsetAt t) t rfl
    obtain ⟨-, -, -, -, hnanos', htotal'⟩ := Rfc3339.clockface_spec (view.zone.offsetAt u) u rfl
    constructor
    · -- Date, time and offset give the second back, and with a leap second the one after it.
      simp only [DisplayZone.clockface] at hdate hhour hminute hsecond hmillis
      rw [hdate, hhour, hminute, hsecond, htotal', hoffset] at htotal
      unfold Instant.millis
      omega
    · rw [← Clockface.second_eq_sixty_iff ht, ← Clockface.second_eq_sixty_iff hu]
      exact Eq.congr hsecond rfl
  refine ⟨hsame, fun hleap hleap' => ⟨fun htext => ?_, fun hwhole => ?_⟩⟩
  · exact (Instant.wholeMillis_eq_iff_millis hleap hleap').mpr (hsame htext)
  · rw [← timeText_wholeMillis view t, hwhole, timeText_wholeMillis]

/-- The hour that Paris lived through twice in October 2023, on a machine in Paris and by the name of
its zone: at 02:30 before and after the clocks were put back they show the same, and yet the texts
differ. A nanosecond less is not seen. At the end of 2016 a leap second is told from the second after
it. -/
theorem timeText_long_injective_clocks_back :
    let paris : Clock := ⟨fun second => if second < 1698541200 then 7200 else 3600⟩
    let view : View := { zone := .machine paris }
    let named : View := { zone := .named "Europe/Paris" paris }
    let summer : Instant := ⟨1698539400, 123456789, by decide⟩
    let nearly : Instant := ⟨1698539400, 123456788, by decide⟩
    let winter : Instant := ⟨1698543000, 123456789, by decide⟩
    let leap : Instant := ⟨1483228799, 1500000000, by decide⟩
    let after : Instant := ⟨1483228800, 500000000, by decide⟩
    view.zone.clockface summer = view.zone.clockface winter ∧
      timeText view summer ≠ timeText view winter ∧
      timeText named summer ≠ timeText named winter ∧
      timeText view summer = timeText view nearly ∧
      leap.millis = after.millis ∧ timeText view leap ≠ timeText view after := by
  intro paris view named summer nearly winter leap after
  have hsummer : view.zone.offsetAt summer % 60 = 0 := by decide
  have hwinter : view.zone.offsetAt winter % 60 = 0 := by decide
  have hsummer' : named.zone.offsetAt summer % 60 = 0 := by decide
  have hwinter' : named.zone.offsetAt winter % 60 = 0 := by decide
  have hnearly : view.zone.offsetAt nearly % 60 = 0 := by decide
  have hleap : view.zone.offsetAt leap % 60 = 0 := by decide
  have hafter : view.zone.offsetAt after % 60 = 0 := by decide
  have hends : summer.EndsMinute := fun h => absurd h (by decide)
  have hends' : nearly.EndsMinute := fun h => absurd h (by decide)
  refine ⟨by decide +kernel, fun htext => ?_, fun htext => ?_, ?_, by decide, fun htext => ?_⟩
  · have hmillis := ((timeText_long_injective rfl hsummer hwinter).1 htext).1
    revert hmillis
    decide
  · have hmillis := ((timeText_long_injective rfl hsummer' hwinter').1 htext).1
    revert hmillis
    decide
  · exact ((timeText_long_injective rfl hsummer hnearly).2 hends hends').2
      (Instant.wholeMillis_eq_iff.2 ⟨rfl, by decide⟩)
  · have hboth := ((timeText_long_injective rfl hleap hafter).1 htext).2
    unfold Instant.InLeapSecond at hboth
    revert hboth
    decide

end Layout

end LogLens
