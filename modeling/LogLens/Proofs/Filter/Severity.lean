import LogLens.Filter.Basic
import LogLens.Proofs.Decimal.Magnitude
import LogLens.Proofs.Filter.Grammar
import LogLens.Proofs.Record.Members

/-!
# Numbers of levels against a filter

A level can be given as a number, which goes through binary64 and is then the nearest level at or
below it on the scale of the levels. The scale ends at 60, far below the numbers that binary64 rounds,
so the level is the one of the number that was written. The name of a level is a level set without
targets, and its filter shows a record when the level of the record is at least that one.

Put together, a record with a number as its level is shown by the filter of a level when the number
has reached that level on the scale, and always when the level is the lowest one.

## Main results

* `Level.ofNumber_truncated` — binary64 does not change the level of a number.
* `LevelSet.read_of_isNamed` — the set of a level's name.
* `Filter.shows_numbered` — which filters show a record with a number as its level.
-/

namespace LogLens

open Dictionary (Sorted find?)

/-! ## Levels of numbers -/

namespace Level

theorem ofNumber_of_lt {n : Int} (h : n < 20) : ofNumber n = trace := if_pos h

theorem ofNumber_of_le {n : Int} (h : 60 ≤ n) : ofNumber n = fatal := by
  rw [ofNumber, if_neg (by omega), if_neg (by omega), if_neg (by omega), if_neg (by omega),
    if_neg (by omega)]

/-- Binary64 does not change the level of a number of 64 bits. -/
theorem ofNumber_truncated (n : Whole) :
    ofNumber (Number.whole n).toBinary64.truncated = ofNumber n.value := by
  have hcases := Binary64.truncated_ofInt_cases n.natAbs_lt
  rw [Number.toBinary64]
  -- A number that is rounded is beyond the scale, and so is what it is rounded to.
  rcases hcases with hsame | hlarge | hsmall
  · rw [hsame]
  · rw [ofNumber_of_le (by omega), ofNumber_of_le (by omega)]
  · rw [ofNumber_of_lt (by omega), ofNumber_of_lt (by omega)]

/-- The greater of two numbers has a level that is at least as severe. -/
theorem number_ofNumber_mono {n m : Int} (h : n ≤ m) :
    (ofNumber n).number ≤ (ofNumber m).number := by
  unfold ofNumber
  split_ifs <;> simp only [number] <;> omega

/-- The name of a level names it, and there is nothing to trim. -/
theorem isNamed_name (level : Level) : level.IsNamed (Text.trim level.name.toList) := by
  cases level <;> decide

end Level

/-! ## Sets of one level -/

namespace LevelSet

open Text (trim)

/-- The name of a level, with blank characters around it, is the set in which this level is the
threshold of every record. -/
theorem read_of_isNamed {level : Level} {s : String} (h : level.IsNamed (trim s.toList)) :
    read s = .ok (ofLevel level) := by
  have hsemicolon : ';' ∉ s.toList := by
    intro hmem
    have hletter := h.isAlpha ((Text.mem_trim_iff (by decide)).2 hmem)
    revert hletter
    decide
  have hentries : entries s.toList = [trim s.toList] := by
    rw [entries_eq, entryTexts, List.splitOn_eq_singleton hsemicolon]
    simp [h.ne_nil]
  have hrule : Rule.Denotes (trim s.toList) ⟨level, .everything⟩ :=
    .everything (by rwa [Text.trim_trim])
  rw [read_of_not_blank h.ne_nil, hentries, readEntries_of_denotes (.cons hrule .nil)]
  rfl

theorem shows_ofLevel (threshold level : Level) (topic scope : String) :
    (ofLevel threshold).shows level topic scope = Level.reaches threshold level := rfl

end LevelSet

namespace Filter

section Decoded

variable {o : Dictionary Json} {n : Whole}

/-- The level of a record is that of the number under its key. -/
theorem level_decode (h : Sorted o) (hn : find? "level" o = some (.number (.whole n))) :
    (Record.decode o).1.level = Level.ofNumber n.value := by
  rw [Record.fst_decode h]
  show Record.valueAt "level" Record.level? .info o = _
  rw [Record.valueAt, hn, Option.bind_some, Record.level?, Option.getD_some,
    Level.ofNumber_truncated]

/-- **Numbers of levels.** A record whose level is given by a whole number has the level of that
number. The filter that is read from the name of a level shows the record exactly when the level is
the lowest one or the number is at least that of the level. Of two such records the one with the
greater number has the level that is at least as severe, and the number of a level stands for that
level. -/
theorem shows_numbered (h : Sorted o) (hn : find? "level" o = some (.number (.whole n))) :
    (Record.decode o).1.level = Level.ofNumber n.value ∧
      (∀ level : Level, ∃ f, ofLevelSet level.name = .ok f ∧
        (f.shows (Record.decode o).1 = true ↔ level = .trace ∨ level.number ≤ n.value)) ∧
      (∀ (o' : Dictionary Json) (m : Whole), Sorted o' →
        find? "level" o' = some (.number (.whole m)) → n.value ≤ m.value →
        (Record.decode o).1.level.number ≤ (Record.decode o').1.level.number) ∧
      ∀ level : Level, Level.ofNumber level.number = level := by
  have hlevel := level_decode h hn
  refine ⟨hlevel, fun level => ?_, fun o' m h' hm hle => ?_, Level.ofNumber_number⟩
  · have hread := LevelSet.read_of_isNamed level.isNamed_name
    refine ⟨.level (.ofLevel level), ?_, ?_⟩
    · rw [ofLevelSet, hread]
      rfl
    · rw [shows, LevelSet.shows_ofLevel, hlevel, Level.le_number_iff]
  · rw [hlevel, level_decode h' hm]
    exact Level.number_ofNumber_mono hle

/-- A number just below a level, and the greatest word, which binary64 rounds up. -/
theorem shows_numbered_between :
    let o : Dictionary Json := [("level", .number (.whole ⟨39, by decide, by decide⟩))]
    let top : Dictionary Json :=
      [("level", .number (.whole ⟨18446744073709551615, by decide, by decide⟩))]
    Sorted o ∧ Sorted top ∧
      (∃ f, ofLevelSet "INFO" = .ok f ∧ f.shows (Record.decode o).1 = true) ∧
      (∃ f, ofLevelSet "WARN" = .ok f ∧ f.shows (Record.decode o).1 = false) ∧
      (∃ f, ofLevelSet "FATAL" = .ok f ∧ f.shows (Record.decode top).1 = true) ∧
      (Record.decode o).1.level.number ≤ (Record.decode top).1.level.number := by
  intro o top
  have ho : Sorted o := List.pairwise_singleton _ _
  have htop : Sorted top := List.pairwise_singleton _ _
  obtain ⟨-, hfilter, hmono, -⟩ := shows_numbered ho rfl
  obtain ⟨-, hfilterTop, -⟩ := shows_numbered htop rfl
  obtain ⟨info, hinfo, hshown⟩ := hfilter .info
  obtain ⟨warn, hwarn, hhidden⟩ := hfilter .warn
  obtain ⟨fatal, hfatal, hshownTop⟩ := hfilterTop .fatal
  refine ⟨ho, htop, ⟨info, hinfo, hshown.2 (by decide)⟩, ⟨warn, hwarn, ?_⟩,
    ⟨fatal, hfatal, hshownTop.2 (by decide)⟩, hmono top _ htop rfl (by decide)⟩
  rw [← Bool.not_eq_true, hhidden]
  decide

end Decoded

end Filter

end LogLens
