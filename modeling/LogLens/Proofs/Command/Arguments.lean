import LogLens.Command.Arguments
import LogLens.Proofs.Except

/-!
# What a command line and the variables say together

The words of a command line only ever store values and turn switches on. So a property that every
stored value and every switch keeps holds of every command line that is read; for instance, local
time is never turned off there. A variable of the environment then fills the place of its option
when the words have left it empty, and nothing else.

## Main results

* `Lasting.words`, `Lasting.settle` — what every value and every switch keeps, all words keep.
* `withVariables_eq_ok` — all places of a command line after the variables.
* `read_eq_ok` — the words and the variables of a command line that is accepted.
-/

namespace LogLens.CommandLine

/-! ## Places -/

/-- A place takes one value. -/
theorem once_eq_ok {α : Type} {present : Bool} {value : Option α} {set : α → CommandLine}
    {c : CommandLine} :
    once present value set = .ok c ↔ present = false ∧ ∃ a, value = some a ∧ set a = c := by
  unfold once
  cases present with
  | true => simp
  | false => cases value <;> simp

/-- A property that every value and every switch keeps. -/
structure Lasting (P : CommandLine → Prop) : Prop where
  store : ∀ {c c' slot value}, P c → store c slot value = .ok c' → P c'
  turnOn : ∀ {c c' s}, P c → turnOn c s = .ok c' → P c'

namespace Lasting

variable {P : CommandLine → Prop} (hP : Lasting P) {r r' : Reading}
include hP

/-! ## Words

Each step of the reader judges what is pending and may store one more value or turn one switch on.
-/

theorem settle {c : CommandLine} (hr : P r.found) (h : r.settle = .ok c) : P c := by
  unfold Reading.settle at h
  split at h
  · exact Except.ok.inj h ▸ hr
  · cases h
  · exact hP.store hr h

theorem await {slot : Slot} (hr : P r.found) (h : r.await slot = .ok r') : P r'.found := by
  obtain ⟨found, hfound, h⟩ := bind_eq_ok.1 h
  obtain rfl := Except.ok.inj h
  exact hP.settle hr hfound

theorem attached {slot : Slot} {value : String} (hr : P r.found)
    (h : r.attached slot value = .ok r') : P r'.found := by
  obtain ⟨found, hfound, h⟩ := bind_eq_ok.1 h
  obtain ⟨stored, hstored, h⟩ := bind_eq_ok.1 h
  obtain rfl := Except.ok.inj h
  exact hP.store (hP.settle hr hfound) hstored

theorem switch {s : Switch} (hr : P r.found) (h : r.switch s = .ok r') : P r'.found := by
  obtain ⟨found, hfound, h⟩ := bind_eq_ok.1 h
  obtain ⟨turned, hturned, h⟩ := bind_eq_ok.1 h
  obtain rfl := Except.ok.inj h
  exact hP.turnOn (hP.settle hr hfound) hturned

theorem positional {word : String} (hr : P r.found) (h : r.positional word = .ok r') :
    P r'.found := by
  unfold Reading.positional at h
  split at h
  · cases h
  · obtain ⟨found, hfound, h⟩ := bind_eq_ok.1 h
    obtain rfl := Except.ok.inj h
    exact hP.settle hr hfound

theorem long {text : List Char} (hr : P r.found) (h : r.long text = .ok r') : P r'.found := by
  simp only [Reading.long] at h
  split at h
  · cases h
  · exact hP.attached hr h
  · exact hP.await hr h
  · cases h
  · exact hP.switch hr h

theorem letters {text : List Char} (hr : P r.found) (h : r.letters text = .ok r') :
    P r'.found := by
  induction text generalizing r with
  | nil => exact Except.ok.inj h ▸ hr
  | cons c cs ih =>
      unfold Reading.letters at h
      split at h
      · cases h
      · obtain ⟨turned, hturned, h⟩ := bind_eq_ok.1 h
        exact ih (hP.switch hr hturned) h
      · exact hP.await hr h
      · exact hP.attached hr h
      · exact hP.attached hr h

theorem plain {word : String} (hr : P r.found) (h : r.plain word = .ok r') : P r'.found := by
  unfold Reading.plain at h
  split at h
  · exact Except.ok.inj h ▸ hr
  · exact hP.positional hr h

theorem word {word : String} (hr : P r.found) (h : r.word word = .ok r') : P r'.found := by
  unfold Reading.word at h
  split at h
  · exact hP.long hr h
  · exact hP.letters hr h
  · exact hP.plain hr h

/-- What every value and every switch keeps, all words keep. -/
theorem words {args : List String} {ended : Bool} (hr : P r.found)
    (h : r.words ended args = .ok r') : P r'.found := by
  induction args generalizing r ended with
  | nil => exact Except.ok.inj h ▸ hr
  | cons w ws ih =>
      rw [Reading.words] at h
      split at h
      · obtain ⟨next, hnext, h⟩ := bind_eq_ok.1 h
        exact ih (hP.positional hr hnext) h
      · split at h
        · exact ih hr h
        · obtain ⟨next, hnext, h⟩ := bind_eq_ok.1 h
          exact ih (hP.word hr hnext) h

end Lasting

/-- No word turns the switch for local time off. -/
theorem lasting_localTime : Lasting fun c => c.localTime ≠ some false where
  store := by
    intro c c' slot value hc h
    cases slot
    all_goals
      simp only [store, once_eq_ok] at h
      obtain ⟨-, a, -, rfl⟩ := h
      exact hc
  turnOn := by
    intro c c' s hc h
    cases s with
    | localTime =>
        simp only [turnOn, once_eq_ok] at h
        obtain ⟨-, on, hon, rfl⟩ := h
        obtain rfl := Option.some.inj hon
        simp
    | help => cases h
    | version => cases h
    | noColor | noPager | debug | verbose =>
        simp only [turnOn, once_eq_ok] at h
        obtain ⟨-, on, -, rfl⟩ := h
        exact hc

/-! ## Variables -/

section Variables

variable {c c' : CommandLine}

/-- A variable fills the place of its option when nothing is in it. The place is given by what it
holds and by the function that sets it. -/
theorem fromVariable_eq_ok {α : Type} {slot : Slot} {value : Option String} {current : Option α}
    (read : String → Option α) (set : Option α → CommandLine) (hcurrent : set current = c)
    (hstore : ∀ v, store c slot v = once current.isSome (read v) fun a => set (some a))
    (h : fromVariable c current.isSome slot value = .ok c') :
    c' = set (current.or (value.bind read)) := by
  unfold fromVariable at h
  cases value with
  | none =>
      rw [Option.bind_none, Option.or_none, hcurrent]
      exact (Except.ok.inj h).symm
  | some v =>
      cases current with
      | some a =>
          rw [Option.some_or, hcurrent]
          exact (Except.ok.inj h).symm
      | none =>
          simp only [Option.isSome_none, Bool.false_eq_true, if_false, hstore] at h
          obtain ⟨-, a, ha, rfl⟩ := once_eq_ok.1 h
          rw [Option.none_or, Option.bind_some, ha]

theorem localFromVariable_eq_ok {value : Option String}
    (h : localFromVariable c value = .ok c') :
    c' = { c with localTime := c.localTime.or (value.map fun v => v == "true") } := by
  unfold localFromVariable at h
  cases hlocal : c.localTime with
  | some on =>
      rw [hlocal] at h
      rw [Option.some_or, ← hlocal]
      exact (Except.ok.inj h).symm
  | none =>
      rw [hlocal] at h
      cases value with
      | none =>
          rw [Option.map_none, Option.or_none, ← hlocal]
          exact (Except.ok.inj h).symm
      | some v =>
          split at h
          · next hv =>
              rw [Option.some.inj hv]
              exact (Except.ok.inj h).symm
          · next hv =>
              rw [Option.some.inj hv]
              exact (Except.ok.inj h).symm
          · cases h
          · next hother => exact absurd rfl (hother v rfl)

/-- All places of a command line after the variables. -/
theorem withVariables_eq_ok {env : String → Option String} (h : c.withVariables env = .ok c') :
    c' = { c with
      output := c.output.or ((env "LV_OUTPUT").bind Mode.ofName?)
      levels := c.levels.or (env "LV_LEVEL")
      condition := c.condition.or (env "LV_FILTER")
      localTime := c.localTime.or ((env "LV_LOCAL").map fun v => v == "true")
      timezone := c.timezone.or (env "LV_TIMEZONE")
      config := c.config.or ((env "LV_CONFIG").bind path?) } := by
  obtain ⟨c₁, h₁, h⟩ := bind_eq_ok.1 h
  obtain ⟨c₂, h₂, h⟩ := bind_eq_ok.1 h
  obtain ⟨c₃, h₃, h⟩ := bind_eq_ok.1 h
  obtain ⟨c₄, h₄, h⟩ := bind_eq_ok.1 h
  obtain ⟨c₅, h₅, h₆⟩ := bind_eq_ok.1 h
  -- Each variable fills its own place, so the places that come later are still those of the words.
  have houtput :=
    fromVariable_eq_ok Mode.ofName? (fun v => { c with output := v }) rfl (fun _ => rfl) h₁
  have hlevels := fromVariable_eq_ok some (fun v => { c₁ with levels := v }) rfl (fun _ => rfl) h₂
  have hcondition :=
    fromVariable_eq_ok some (fun v => { c₂ with condition := v }) rfl (fun _ => rfl) h₃
  have hlocal := localFromVariable_eq_ok h₄
  have htimezone :=
    fromVariable_eq_ok some (fun v => { c₄ with timezone := v }) rfl (fun _ => rfl) h₅
  have hconfig :=
    fromVariable_eq_ok path? (fun v => { c₅ with config := v }) rfl (fun _ => rfl) h₆
  subst houtput hlevels hcondition hlocal htimezone hconfig
  simp only [Option.bind_fun_some]

/-- Variables that are not set say nothing. -/
theorem withVariables_silent (c : CommandLine) : c.withVariables (fun _ => none) = .ok c := by
  have hlocal : localFromVariable c none = .ok c := by
    unfold localFromVariable
    split
    all_goals first | rfl | contradiction
  simp only [withVariables, fromVariable, ok_bind, hlocal]

/-- The words and the variables of a command line that is accepted. The words are accepted without
the variables too, and do not turn local time off. -/
theorem read_eq_ok {args : List String} {env : String → Option String}
    (h : read args env = .ok c) :
    ∃ words, read args (fun _ => none) = .ok words ∧ words.localTime ≠ some false ∧
      words.withVariables env = .ok c := by
  obtain ⟨r, hr, h⟩ := bind_eq_ok.1 h
  obtain ⟨words, hwords, h⟩ := bind_eq_ok.1 h
  obtain ⟨c', hvariables, h⟩ := bind_eq_ok.1 h
  have hlocal : r.found.localTime ≠ some false := lasting_localTime.words (by simp) hr
  split at h
  · cases h
  · next hcolors =>
      obtain rfl := Except.ok.inj h
      have hplaces := withVariables_eq_ok hvariables
      refine ⟨words, ?_, lasting_localTime.settle hlocal hwords, hvariables⟩
      have hwordColors : ¬(words.color.isSome ∧ words.noColor.isSome) := by
        rw [hplaces] at hcolors
        exact hcolors
      simp only [read, hr, hwords, ok_bind, withVariables_silent, if_neg hwordColors]

end Variables

end LogLens.CommandLine
