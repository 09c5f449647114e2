import LogLens.Proofs.Command.Arguments
import LogLens.Settings.Basic

/-!
# The layers that choose the zone

Three layers may say in which zone times are shown: the words of the command line, the variables of
the environment and the settings file. Each may name a zone or turn local time on, and its name goes
before its switch. Between layers the highest one that says anything decides, and Greenwich is left
when none does. Local time is that of the machine, and a name is good when the clocks that are given
from outside know it; nothing else is assumed about them.

The settings are resolved from two layers, because the words have taken up the variables by then,
name beside name and switch beside switch. That comes to the same unless the words turn local time
on without naming a zone while a variable names one: then the name of the lower layer goes before
the switch of the higher one.

## Main results

* `decided_over` — when two layers may be taken together.
* `resolve_zone` — the zone of the resolved settings, and when it is the one of the highest layer.
-/

namespace LogLens.Settings

/-! ## Layers -/

/-- What a layer says about the zone. -/
structure ZoneChoice where
  name : Option String
  localTime : Bool
  deriving DecidableEq, Repr

/-- What a command line says. -/
def ZoneChoice.ofCommandLine (c : CommandLine) : ZoneChoice :=
  ⟨c.timezone, CommandLine.isOn c.localTime⟩

/-- What the variables say. -/
def ZoneChoice.ofVariables (env : String → Option String) : ZoneChoice :=
  ⟨env "LV_TIMEZONE", env "LV_LOCAL" == some "true"⟩

/-- What a settings file says. -/
def ZoneChoice.ofFile (file : Config) : ZoneChoice :=
  ⟨file.timezone, CommandLine.isOn file.localTime⟩

/-- Every name is that of a zone. -/
def ZoneChoice.IsKnown (clocks : Clocks) (layer : ZoneChoice) : Prop :=
  ∀ name, layer.name = some name → ∃ zone, DisplayZone.read clocks name = .ok zone

/-- What two layers say when they are taken together. -/
def ZoneChoice.over (upper lower : ZoneChoice) : ZoneChoice :=
  ⟨upper.name.or lower.name, upper.localTime || lower.localTime⟩

/-- The zone on which layers decide: the highest one that says anything does. -/
def decided (clocks : Clocks) : List ZoneChoice → Except String DisplayZone
  | [] => .ok .utc
  | layer :: lower =>
    match layer.name, layer.localTime with
    | some name, _ => DisplayZone.read clocks name
    | none, true => .ok (.machine clocks.machine)
    | none, false => decided clocks lower

/-- The higher layer turns local time on, the lower one names another zone. -/
def Overruled (clocks : Clocks) (upper lower : ZoneChoice) : Prop :=
  upper.name = none ∧ upper.localTime = true ∧
    ∃ name, lower.name = some name ∧ DisplayZone.read clocks name ≠ .ok (.machine clocks.machine)

variable {clocks : Clocks}

/-- Two layers that are taken together decide as they do one after the other, unless the name of the
lower one goes before the switch of the higher one. -/
theorem decided_over (clocks : Clocks) (upper lower : ZoneChoice) (rest : List ZoneChoice) :
    decided clocks (upper.over lower :: rest) = decided clocks (upper :: lower :: rest) ↔
      ¬Overruled clocks upper lower := by
  obtain ⟨upperName, upperLocal⟩ := upper
  obtain ⟨lowerName, lowerLocal⟩ := lower
  -- The two ways part where the higher layer has a switch and no name.
  cases upperName with
  | some name => simp [decided, ZoneChoice.over, Overruled]
  | none =>
      cases upperLocal with
      | false => simp [decided, ZoneChoice.over, Overruled]
      | true => cases lowerName <;> simp [decided, ZoneChoice.over, Overruled]

/-- Layers whose names are those of zones decide on one. -/
theorem exists_decided {layers : List ZoneChoice} (h : ∀ layer ∈ layers, layer.IsKnown clocks) :
    ∃ zone, decided clocks layers = .ok zone := by
  induction layers with
  | nil => exact ⟨.utc, rfl⟩
  | cons layer lower ih =>
      obtain ⟨hlayer, hlower⟩ := List.forall_mem_cons.1 h
      rw [decided]
      split
      · next name hname => exact hlayer name hname
      · exact ⟨.machine clocks.machine, rfl⟩
      · exact ih hlower

theorem ZoneChoice.IsKnown.over {upper lower : ZoneChoice} (hupper : upper.IsKnown clocks)
    (hlower : lower.IsKnown clocks) : (upper.over lower).IsKnown clocks := by
  intro name hname
  rcases Option.or_eq_some_iff.1 hname with h | ⟨-, h⟩
  · exact hupper name h
  · exact hlower name h

/-! ## Resolving -/

/-- A command line that has taken up the variables goes before the settings file. -/
theorem zone_eq_decided (c : CommandLine) (file : Config) :
    zone clocks c file = decided clocks [.ofCommandLine c, .ofFile file] := by
  simp only [zone, decided, ZoneChoice.ofCommandLine, ZoneChoice.ofFile]
  cases c.timezone with
  | some name => rfl
  | none =>
      cases CommandLine.isOn c.localTime with
      | true => rfl
      | false =>
          cases file.timezone with
          | some name => rfl
          | none => rcases file.localTime with _ | _ | _ <;> rfl

/-- What a command line says with the variables is what its words and they say together. -/
theorem ofCommandLine_withVariables {words c : CommandLine} {env : String → Option String}
    (hwords : words.localTime ≠ some false) (h : words.withVariables env = .ok c) :
    ZoneChoice.ofCommandLine c = (ZoneChoice.ofCommandLine words).over (.ofVariables env) := by
  rw [CommandLine.withVariables_eq_ok h]
  simp only [ZoneChoice.ofCommandLine, ZoneChoice.over, ZoneChoice.ofVariables,
    CommandLine.isOn, ZoneChoice.mk.injEq, true_and]
  cases hon : words.localTime with
  | none => cases env "LV_LOCAL" <;> simp
  | some on =>
      cases on with
      | true => simp
      | false => exact absurd hon hwords

/-- **The highest layer decides on the zone, but for one case.** Whatever clocks there are, the
resolved zone is that of the words and the variables taken together, over the settings file. It is
the one of the highest layer that says anything unless the words turn local time on and a variable
names another zone. -/
theorem resolve_zone (clocks : Clocks) {args : List String} {env : String → Option String}
    {c : CommandLine} (h : CommandLine.read args env = .ok c) (file : Config) (input output : Bool) :
    ∃ words, CommandLine.read args (fun _ => none) = .ok words ∧
      let upper := ZoneChoice.ofCommandLine words
      let lower := ZoneChoice.ofVariables env
      (upper.IsKnown clocks → lower.IsKnown clocks → (ZoneChoice.ofFile file).IsKnown clocks →
        ∃ settings, resolve clocks c file input output = .ok settings ∧
          decided clocks [upper.over lower, .ofFile file] = .ok settings.view.zone ∧
          (decided clocks [upper, lower, .ofFile file] = .ok settings.view.zone ↔
            ¬Overruled clocks upper lower)) := by
  obtain ⟨words, hwords, hlocal, hvariables⟩ := CommandLine.read_eq_ok h
  refine ⟨words, hwords, ?_⟩
  intro upper lower hupper hlower hfile
  obtain ⟨shown, hshown⟩ : ∃ shown, decided clocks [upper.over lower, .ofFile file] = .ok shown := by
    refine exists_decided (List.forall_mem_cons.2 ⟨hupper.over hlower, ?_⟩)
    exact List.forall_mem_cons.2 ⟨hfile, fun _ h => absurd h List.not_mem_nil⟩
  have hzone : zone clocks c file = .ok shown := by
    rw [zone_eq_decided, ofCommandLine_withVariables hlocal hvariables, hshown]
  have hlayers := decided_over clocks upper lower [.ofFile file]
  rw [hshown] at hlayers
  refine ⟨_, by rw [resolve, hzone, ok_bind], hshown, ?_⟩
  rw [← hlayers]
  exact eq_comm

/-- A machine on the winter time of Chicago that knows one name, the one of Tokyo. -/
def chicagoWithTokyo : Clocks where
  machine := ⟨fun _ => -21600⟩
  named? name := if name = "Asia/Tokyo" then some ⟨fun _ => 32400⟩ else none

/-- A name in the settings file is passed over by the switch among the words. -/
theorem resolve_zone_switch_over_file :
    ∃ settings,
      resolve chicagoWithTokyo { localTime := some true } { timezone := some "Asia/Tokyo" } false
          false = .ok settings ∧
        settings.view.zone = .machine ⟨fun _ => -21600⟩ := by
  have hread : CommandLine.read ["-L"] (fun _ => none) = .ok { localTime := some true } := by
    rfl
  have hfile : (ZoneChoice.ofFile { timezone := some "Asia/Tokyo" }).IsKnown chicagoWithTokyo := by
    rintro _ ⟨⟩
    exact ⟨.named "Asia/Tokyo" ⟨fun _ => 32400⟩, rfl⟩
  obtain ⟨words, hwords, hzone⟩ :=
    resolve_zone chicagoWithTokyo hread { timezone := some "Asia/Tokyo" } false false
  obtain rfl := Except.ok.inj (hread.symm.trans hwords)
  obtain ⟨settings, hsettings, -, hhighest⟩ :=
    hzone (fun _ h => nomatch h) (fun _ h => nomatch h) hfile
  refine ⟨settings, hsettings, ?_⟩
  have hdecided := hhighest.2 fun hoverruled => nomatch hoverruled.2.2
  exact (Except.ok.inj hdecided).symm

/-- The switch among the words loses against the name in a variable, though it is in the higher
layer. -/
theorem resolve_zone_name_over_switch :
    let env := fun name => List.lookup name [("LV_TIMEZONE", "Asia/Tokyo")]
    ∃ words c settings,
      CommandLine.read ["-L"] (fun _ => none) = .ok words ∧ CommandLine.read ["-L"] env = .ok c ∧
        (ZoneChoice.ofVariables env).IsKnown chicagoWithTokyo ∧
        resolve chicagoWithTokyo c {} false false = .ok settings ∧
        settings.view.zone = .named "Asia/Tokyo" ⟨fun _ => 32400⟩ ∧
        decided chicagoWithTokyo [.ofCommandLine words, .ofVariables env, .ofFile {}] =
          .ok (.machine ⟨fun _ => -21600⟩) := by
  intro env
  have htokyo : DisplayZone.read chicagoWithTokyo "Asia/Tokyo" =
      .ok (.named "Asia/Tokyo" ⟨fun _ => 32400⟩) := rfl
  refine ⟨{ localTime := some true }, { localTime := some true, timezone := some "Asia/Tokyo" },
    ⟨⟨.long, .named "Asia/Tokyo" ⟨fun _ => 32400⟩, false⟩, none, none, false⟩, rfl, rfl, ?_, ?_, rfl,
    rfl⟩
  · rintro _ ⟨⟩
    exact ⟨_, htokyo⟩
  · simp only [resolve, zone, htokyo, ok_bind]
    rfl

end LogLens.Settings
