import LogLens.Program
import LogLens.Proofs.Except
import LogLens.Proofs.Filter.Combined
import LogLens.Proofs.Stream.Outcome

/-!
# A run fails before it writes, or it streams

Before its stream a run takes several steps, each of which may fail: it opens the file of its
diagnostics, loads the settings file, finds the zone, reads the level set and the condition, and
opens its input. `Fails` says when one of them does, without regard to their order, in terms of what
the command line, the variables and the settings file say together. A zone is found when the clocks of
the surroundings know its name, whichever names these are. A run that fails so writes nothing. Every
other run is a stream of its input, with the settings and the filter that were resolved.

Each step is described by what it comes to when it succeeds; the description of all of them follows
by `result_bind`.

## Main results

* `prepare_eq_ok_iff` — what all steps together come to.
* `Prepares.not_fails`, `exists_prepares` — the steps succeed exactly when none of them fails.
* `run_fails_or_streams` — the exit code and the output of a run.
-/

namespace LogLens

namespace Journal

variable {ε α β : Type}

theorem result_pure (a : α) : (pure a : Journal α).result = .ok a := rfl

theorem result_note (severity : Severity) (source text : String) :
    (note severity source text).result = .ok () := rfl

theorem result_silent (error : ε → RunError) (result : Except ε α) :
    (silent error result).result = result.mapError error := rfl

/-- Two steps after each other succeed when the first does and the second does on its result. -/
theorem result_bind_eq_ok {j : Journal α} {f : α → Journal β} {b : β} :
    (j >>= f).result = .ok b ↔ ∃ a, j.result = .ok a ∧ (f a).result = .ok b := by
  rw [result_bind, bind_eq_ok]

end Journal

namespace Program

open Journal

variable {c : CommandLine} {s : Surroundings}

/-! ## What a run goes by -/

/-- What is added to the file of the diagnostics before the settings file is read. -/
def firstAddition (c : CommandLine) (s : Surroundings) : Option Addition :=
  additionOf c s (begin c).entries

/-- What is added to the file of the diagnostics before the input is opened. -/
def laterAddition (c : CommandLine) (s : Surroundings) : Option Addition :=
  additionOf c s (settle c s).entries

/-- The settings file that is read: the one that is named, or else the default one when it is
there. -/
def configFile? (c : CommandLine) (s : Surroundings) : Option String :=
  c.config.or (s.defaultConfig.filter (s.isFile (firstAddition c s)))

/-- What the settings file says; without one nothing is said. -/
inductive Loads (c : CommandLine) (s : Surroundings) : Config → Prop
  | absent (hfile : configFile? c s = none) : Loads c s {}
  | file {path text : String} {config : Config} (hfile : configFile? c s = some path)
      (htext : s.readText (firstAddition c s) path = .ok text)
      (hconfig : Config.read? text = some config) : Loads c s config

/-- The name of the zone that a run goes by, where one is given. -/
def zoneName? (c : CommandLine) (config : Config) : Option String :=
  c.timezone.or (if CommandLine.isOn c.localTime then none else config.timezone)

/-- The input of a run: the file that is named, or else the standard input. -/
inductive Opens (c : CommandLine) (s : Surroundings) : Stream.Source → Prop
  | standard (hfile : c.inputFile = none) : Opens c s s.input
  | file {path : String} {source : Stream.Source} (hfile : c.inputFile = some path)
      (hopen : s.openFile (laterAddition c s) path = .ok source) : Opens c s source

/-- Something keeps a run from its stream. -/
inductive Fails (c : CommandLine) (s : Surroundings) : Prop
  | logFile {path : String} {failure : IoFailure} (hlog : c.log = some path)
      (hextend : s.extendFailure? path = some failure)
  | configUnreadable {path : String} {failure : IoFailure} (hfile : configFile? c s = some path)
      (htext : s.readText (firstAddition c s) path = .error failure)
  | configMalformed {path text : String} (hfile : configFile? c s = some path)
      (htext : s.readText (firstAddition c s) path = .ok text) (hconfig : Config.read? text = none)
  | timezone {config : Config} {name unknown : String} (hconfig : Loads c s config)
      (hname : zoneName? c config = some name)
      (hread : DisplayZone.read s.clocks name = .error unknown)
  | levels {config : Config} {text : String} {e : FilterError} (hconfig : Loads c s config)
      (htext : c.levels.or config.levels = some text) (hblank : Text.isBlankText text.toList = false)
      (hread : LevelSet.read text = .error e)
  | condition {config : Config} {text : String} {e : FilterError} (hconfig : Loads c s config)
      (htext : c.condition.or config.condition = some text)
      (hblank : Text.isBlankText text.toList = false) (hread : Condition.ofText text = .error e)
  | inputFile {path : String} {failure : IoFailure} (hfile : c.inputFile = some path)
      (hopen : s.openFile (laterAddition c s) path = .error failure)

/-- What a run streams, when nothing keeps it from that. -/
structure Prepares (c : CommandLine) (s : Surroundings) (config : Config) (settings : Settings)
    (job : Job) : Prop where
  log : ∀ path, c.log = some path → s.extendFailure? path = none
  loads : Loads c s config
  resolves : Settings.resolve s.clocks c config s.inputIsTerminal s.outputIsTerminal = .ok settings
  filters : Filter.ofTexts settings.levels settings.condition = .ok job.filter
  views : job.view = settings.view
  opens : Opens c s job.source

/-! ## The steps -/

theorem openLog_eq_ok_iff {u : Unit} :
    (openLog c s).result = .ok u ↔ ∀ path, c.log = some path → s.extendFailure? path = none := by
  unfold openLog
  cases c.log with
  | none => simp [result_pure]
  | some path =>
      simp only [Option.some.injEq, forall_eq']
      cases s.extendFailure? path with
      | none => simp [result_pure]
      | some failure => simp [result_silent]

theorem result_begin (c : CommandLine) : (begin c).result = .ok () := by
  unfold begin
  cases CommandLine.isOn c.debug <;> rfl

theorem readConfig_eq_ok_iff {added : Option Addition} {path : String} {config : Config} :
    (readConfig s added path).result = .ok config ↔
      ∃ text, s.readText added path = .ok text ∧ Config.read? text = some config := by
  simp only [readConfig, result_bind_eq_ok, result_silent, mapError_eq_ok]
  refine exists_congr fun text => and_congr_right fun _ => ?_
  cases Config.read? text with
  | none => simp [result_silent]
  | some other => simp [result_bind_eq_ok, result_note, result_pure]

theorem result_loadConfig (c : CommandLine) (s : Surroundings) :
    (loadConfig c s (firstAddition c s)).result =
      match configFile? c s with
      | none => .ok {}
      | some path => (readConfig s (firstAddition c s) path).result := by
  unfold loadConfig configFile?
  cases c.config with
  | some path => rfl
  | none =>
      cases s.defaultConfig with
      | none => rfl
      | some path =>
          rw [Option.none_or, Option.filter_some]
          cases hfile : s.isFile (firstAddition c s) path with
          | true => simp only [hfile, if_true]
          | false =>
              simp only [hfile, Bool.false_eq_true, if_false]
              rfl

theorem loadConfig_eq_ok_iff {config : Config} :
    (loadConfig c s (firstAddition c s)).result = .ok config ↔ Loads c s config := by
  rw [result_loadConfig]
  constructor
  · intro h
    cases hfile : configFile? c s with
    | none =>
        rw [hfile] at h
        obtain rfl := Except.ok.inj h
        exact .absent hfile
    | some path =>
        rw [hfile] at h
        obtain ⟨text, htext, hconfig⟩ := readConfig_eq_ok_iff.1 h
        exact .file hfile htext hconfig
  · rintro (hfile | ⟨hfile, htext, hconfig⟩)
    · rw [hfile]
    · rw [hfile]
      exact readConfig_eq_ok_iff.2 ⟨_, htext, hconfig⟩

theorem resolve_eq_ok_iff {config : Config} {settings : Settings} :
    (resolve c s config).result = .ok settings ↔
      Settings.resolve s.clocks c config s.inputIsTerminal s.outputIsTerminal = .ok settings := by
  simp [resolve, result_bind_eq_ok, result_silent, mapError_eq_ok, result_note, result_pure]

theorem result_filterOf (words : String) (make : String → Except FilterError Filter)
    (text : Option String) :
    (filterOf words make text).result = (Filter.optional make text).mapError .filter := by
  unfold filterOf
  cases Filter.given? text <;> simp only [result_bind] <;> rfl

theorem buildFilter_eq_ok_iff {settings : Settings} {filter : Filter} :
    (buildFilter settings).result = .ok filter ↔
      Filter.ofTexts settings.levels settings.condition = .ok filter := by
  simp only [buildFilter, Filter.ofTexts, result_bind_eq_ok, result_filterOf, mapError_eq_ok,
    result_pure, bind_eq_ok, Except.ok.injEq]

theorem openInput_eq_ok_iff {source : Stream.Source} :
    (openInput c s (laterAddition c s)).result = .ok source ↔ Opens c s source := by
  unfold openInput
  constructor
  · intro h
    cases hfile : c.inputFile with
    | none =>
        rw [hfile] at h
        obtain rfl := Except.ok.inj h
        exact .standard hfile
    | some path =>
        rw [hfile] at h
        exact .file hfile (mapError_eq_ok.1 h)
  · rintro (hfile | ⟨hfile, hopen⟩)
    · rw [hfile]
      rfl
    · rw [hfile]
      exact mapError_eq_ok.2 hopen

theorem settle_eq_ok_iff {filter : Filter} {view : View} :
    (settle c s).result = .ok (filter, view) ↔
      (∀ path, c.log = some path → s.extendFailure? path = none) ∧
        ∃ config, Loads c s config ∧ ∃ settings,
          Settings.resolve s.clocks c config s.inputIsTerminal s.outputIsTerminal = .ok settings ∧
            Filter.ofTexts settings.levels settings.condition = .ok filter ∧
              settings.view = view := by
  have hadded : additionOf c s (begin c).entries = firstAddition c s := rfl
  simp only [settle, hadded, result_bind_eq_ok, result_begin, result_pure, openLog_eq_ok_iff,
    loadConfig_eq_ok_iff, resolve_eq_ok_iff, buildFilter_eq_ok_iff]
  simp

/-- What all steps together come to. -/
theorem prepare_eq_ok_iff {job : Job} :
    (prepare c s).result = .ok job ↔ ∃ config settings, Prepares c s config settings job := by
  have hlater : additionOf c s (settle c s).entries = laterAddition c s := rfl
  simp only [prepare, hlater, result_bind_eq_ok]
  constructor
  · rintro ⟨⟨filter, view⟩, hsettle, source, hsource, hjob⟩
    obtain ⟨hlog, config, hloads, settings, hresolves, hfilters, rfl⟩ := settle_eq_ok_iff.1 hsettle
    obtain rfl := Except.ok.inj hjob
    exact ⟨config, settings, hlog, hloads, hresolves, hfilters, rfl, openInput_eq_ok_iff.1 hsource⟩
  · rintro ⟨config, settings, h⟩
    refine ⟨(job.filter, job.view), ?_, job.source, openInput_eq_ok_iff.2 h.opens, rfl⟩
    exact settle_eq_ok_iff.2
      ⟨h.log, config, h.loads, settings, h.resolves, h.filters, h.views.symm⟩

/-! ## Failing and preparing -/

theorem Loads.unique {config config' : Config} (h : Loads c s config) (h' : Loads c s config') :
    config = config' :=
  Except.ok.inj ((loadConfig_eq_ok_iff.2 h).symm.trans (loadConfig_eq_ok_iff.2 h'))

theorem Opens.unique {source source' : Stream.Source} (h : Opens c s source)
    (h' : Opens c s source') : source = source' :=
  Except.ok.inj ((openInput_eq_ok_iff.2 h).symm.trans (openInput_eq_ok_iff.2 h'))

/-- The settings are resolved unless the zone has a name that is unknown. -/
theorem resolve_eq_error_iff {clocks : Clocks} {config : Config} {input output : Bool}
    {unknown : String} :
    Settings.resolve clocks c config input output = .error unknown ↔
      ∃ name, zoneName? c config = some name ∧ DisplayZone.read clocks name = .error unknown := by
  have hresolve : Settings.resolve clocks c config input output = .error unknown ↔
      Settings.zone clocks c config = .error unknown := by
    unfold Settings.resolve
    cases Settings.zone clocks c config <;> simp [ok_bind, error_bind]
  rw [hresolve, Settings.zone, zoneName?]
  cases c.timezone with
  | some name => simp
  | none =>
      cases CommandLine.isOn c.localTime with
      | true => simp
      | false =>
          cases config.timezone with
          | some name => simp
          | none => rcases config.localTime with _ | _ | _ <;> simp

/-- The texts of the filter are those of the command line, or else of the settings file; a pager is
used between two terminals only. -/
theorem resolve_texts {clocks : Clocks} {config : Config} {input output : Bool} {settings : Settings}
    (h : Settings.resolve clocks c config input output = .ok settings) :
    settings.levels = c.levels.or config.levels ∧
      settings.condition = c.condition.or config.condition ∧
      (settings.usePager = true → input = true ∧ output = true) := by
  obtain ⟨zone, -, hsettings⟩ := bind_eq_ok.1 h
  obtain rfl := Except.ok.inj hsettings
  refine ⟨rfl, rfl, fun hpager => ?_⟩
  simp only [Bool.and_eq_true] at hpager
  exact ⟨hpager.1.2, hpager.2⟩

/-- The filter is built unless one of its texts is not blank and does not parse. -/
theorem ofTexts_fails_iff {levels condition : Option String} :
    (∀ filter, Filter.ofTexts levels condition ≠ .ok filter) ↔
      (∃ text e, levels = some text ∧ Text.isBlankText text.toList = false ∧
        LevelSet.read text = .error e) ∨
      ∃ text e, condition = some text ∧ Text.isBlankText text.toList = false ∧
        Condition.ofText text = .error e := by
  have hfails : (∀ filter, Filter.ofTexts levels condition ≠ .ok filter) ↔
      ∃ e, Filter.ofTexts levels condition = .error e := by
    cases Filter.ofTexts levels condition <;> simp
  rw [hfails, Filter.exists_ofTexts_eq_error_iff]
  simp only [Filter.Refuses, Filter.given_iff, Filter.ofLevelSet, Filter.ofCondition, map_eq_error,
    and_assoc]
  exact or_congr exists_comm exists_comm

/-- What is prepared did not fail. -/
theorem Prepares.not_fails {config : Config} {settings : Settings} {job : Job}
    (h : Prepares c s config settings job) : ¬Fails c s := by
  obtain ⟨hlevels, hcondition, -⟩ := resolve_texts h.resolves
  have hbuilt := h.filters
  rw [hlevels, hcondition] at hbuilt
  intro hfails
  cases hfails with
  | logFile hlog hextend => simp [h.log _ hlog] at hextend
  | configUnreadable hfile htext => rcases h.loads with hnone | ⟨hfile', htext', -⟩ <;> simp_all
  | configMalformed hfile htext hconfig =>
      rcases h.loads with hnone | ⟨hfile', htext', hconfig'⟩ <;> simp_all
  | timezone hconfig hname hread =>
      obtain rfl := h.loads.unique hconfig
      exact nomatch h.resolves.symm.trans (resolve_eq_error_iff.2 ⟨_, hname, hread⟩)
  | levels hconfig htext hblank hread =>
      obtain rfl := h.loads.unique hconfig
      exact ofTexts_fails_iff.2 (.inl ⟨_, _, htext, hblank, hread⟩) _ hbuilt
  | condition hconfig htext hblank hread =>
      obtain rfl := h.loads.unique hconfig
      exact ofTexts_fails_iff.2 (.inr ⟨_, _, htext, hblank, hread⟩) _ hbuilt
  | inputFile hfile hopen =>
      have hopens := openInput_eq_ok_iff.2 h.opens
      simp [openInput, hfile, result_silent, hopen] at hopens

/-- The settings file is loaded unless it cannot be read or does not parse. -/
theorem exists_loads (h : ¬Fails c s) : ∃ config, Loads c s config := by
  cases hfile : configFile? c s with
  | none => exact ⟨{}, .absent hfile⟩
  | some path =>
      cases htext : s.readText (firstAddition c s) path with
      | error failure => exact absurd (.configUnreadable hfile htext) h
      | ok text =>
          cases hconfig : Config.read? text with
          | none => exact absurd (.configMalformed hfile htext hconfig) h
          | some config => exact ⟨config, .file hfile htext hconfig⟩

theorem exists_opens (h : ¬Fails c s) : ∃ source, Opens c s source := by
  cases hfile : c.inputFile with
  | none => exact ⟨s.input, .standard hfile⟩
  | some path =>
      cases hopen : s.openFile (laterAddition c s) path with
      | error failure => exact absurd (.inputFile hfile hopen) h
      | ok source => exact ⟨source, .file hfile hopen⟩

/-- Where nothing fails a stream is prepared. -/
theorem exists_prepares (h : ¬Fails c s) : ∃ config settings job, Prepares c s config settings job := by
  obtain ⟨config, hloads⟩ := exists_loads h
  obtain ⟨source, hopens⟩ := exists_opens h
  have hlog : ∀ path, c.log = some path → s.extendFailure? path = none := by
    intro path hpath
    by_contra hextend
    obtain ⟨failure, hfailure⟩ := Option.ne_none_iff_exists'.1 hextend
    exact h (.logFile hpath hfailure)
  cases hresolve : Settings.resolve s.clocks c config s.inputIsTerminal s.outputIsTerminal with
  | error unknown =>
      obtain ⟨name, hname, hread⟩ := resolve_eq_error_iff.1 hresolve
      exact absurd (.timezone hloads hname hread) h
  | ok settings =>
      obtain ⟨hlevels, hcondition, -⟩ := resolve_texts hresolve
      have hfilter : ∃ filter, Filter.ofTexts settings.levels settings.condition = .ok filter := by
        rw [hlevels, hcondition]
        by_contra hnone
        rcases ofTexts_fails_iff.1 (not_exists.1 hnone) with
          ⟨text, e, htext, hblank, hread⟩ | ⟨text, e, htext, hblank, hread⟩
        · exact h (.levels hloads htext hblank hread)
        · exact h (.condition hloads htext hblank hread)
      obtain ⟨filter, hfilter⟩ := hfilter
      exact ⟨config, settings, ⟨filter, settings.view, source⟩, hlog, hloads, hresolve, hfilter, rfl,
        hopens⟩

/-! ## Runs -/

/-- A run that fails before its stream writes nothing. -/
theorem outcome_of_fails (h : Fails c s) : (outcome c s).code = 1 ∧ (outcome c s).output = [] := by
  unfold outcome
  cases hresult : (prepare c s).result with
  | error e => simp only [hresult, and_self]
  | ok job =>
      obtain ⟨config, settings, hprepares⟩ := prepare_eq_ok_iff.1 hresult
      exact absurd h hprepares.not_fails

/-- Every other run is its stream. -/
theorem outcome_of_prepares {config : Config} {settings : Settings} {job : Job}
    (h : Prepares c s config settings job) (hread : job.source.failure = none) :
    (outcome c s).code = 0 ∧
      (outcome c s).output = (Stream.run job.filter job.view job.source {}).output := by
  have hresult := prepare_eq_ok_iff.2 ⟨config, settings, h⟩
  have hsource : job.source = { bytes := job.source.bytes } := by
    rw [← hread]
  have hending : failure? (Stream.run job.filter job.view job.source {}) = none := by
    rw [hsource, Stream.run_unlimited]
    rfl
  simp [outcome, hresult, hending]

/-- **A run fails before it writes, or it streams.** Take a command line that is accepted and asks for
no completion script, between two ends that are no terminals. When anything keeps the run from its
stream the exit code is 1 and nothing is written. Otherwise the settings are those of the command
line and of the settings file, the filter is that of their texts, the input is the file that is named
or the standard input, and no pager is used; if the input can be read to its end the exit code is 0
and what is written is the stream of the input. -/
theorem run_fails_or_streams {args : List String} (hargs : CommandLine.read args s.env = .ok c)
    (hcompletion : c.completion = none) (hinput : s.inputIsTerminal = false)
    (houtput : s.outputIsTerminal = false) :
    (Fails c s → (run args s).code = 1 ∧ (run args s).output = []) ∧
      (¬Fails c s → ∃ config settings filter source,
        Loads c s config ∧ Settings.resolve s.clocks c config false false = .ok settings ∧
          settings.usePager = false ∧
          Filter.ofTexts settings.levels settings.condition = .ok filter ∧ Opens c s source ∧
          (source.failure = none →
            (run args s).code = 0 ∧
              (run args s).output = (Stream.run filter settings.view source {}).output)) := by
  have hrun : run args s = outcome c s := by
    simp [run, hargs, hcompletion]
  rw [hrun]
  refine ⟨outcome_of_fails, fun hnot => ?_⟩
  obtain ⟨config, settings, job, h⟩ := exists_prepares hnot
  have hresolves := h.resolves
  rw [hinput, houtput] at hresolves
  have hpager : settings.usePager = false :=
    Bool.eq_false_iff.2 fun hpager => nomatch ((resolve_texts hresolves).2.2 hpager).1
  refine ⟨config, settings, job.filter, job.source, h.loads, hresolves, hpager, h.filters, h.opens,
    fun hread => ?_⟩
  rw [← h.views]
  exact outcome_of_prepares h hread

/-- An unknown zone, and a blank level set, which is none, beside the zone of Chicago, whose clock is
six hours behind Greenwich in winter. -/
theorem run_fails_or_streams_blank_level_set :
    let chicago : Clock := ⟨fun _ => -21600⟩
    let s : Surroundings :=
      { openFile := fun _ _ => .error .notFound
        extendFailure? := fun _ => none
        clocks := ⟨chicago, fun name => if name = "America/Chicago" then some chicago else none⟩
        input := { bytes := Text.encode "\x7b\"time\":0\x7d\n" } }
    ((run ["--time", "Nowhere"] s).code = 1 ∧ (run ["--time", "Nowhere"] s).output = []) ∧
      (run ["--level", " ", "--time", "America/Chicago"] s).code = 0 ∧
        (run ["--level", " ", "--time", "America/Chicago"] s).output =
          Text.encode "[1969-12-31T18:00:00.000-06:00]  INFO: :  (tid=0)\n" := by
  intro chicago s
  have hnowhere : CommandLine.read ["--time", "Nowhere"] s.env =
      .ok { timezone := some "Nowhere" } := by
    decide +kernel
  have hblank : CommandLine.read ["--level", " ", "--time", "America/Chicago"] s.env =
      .ok { levels := some " ", timezone := some "America/Chicago" } := by
    decide +kernel
  have hunknown : Fails { timezone := some "Nowhere" } s := .timezone (.absent rfl) rfl rfl
  let view : View := ⟨.long, .named "America/Chicago" chicago, false⟩
  have hprepares : Prepares { levels := some " ", timezone := some "America/Chicago" } s {}
      ⟨view, some " ", none, false⟩ ⟨.all, view, s.input⟩ :=
    { log := fun _ hlog => by cases hlog
      loads := .absent rfl
      resolves := rfl
      filters := rfl
      views := rfl
      opens := .standard rfl }
  obtain ⟨hcode, houtput⟩ := (run_fails_or_streams hnowhere rfl rfl rfl).1 hunknown
  obtain ⟨config, settings, filter, source, hloads, hresolves, -, hfilter, hopens, hruns⟩ :=
    (run_fails_or_streams hblank rfl rfl rfl).2 hprepares.not_fails
  obtain rfl := hloads.unique hprepares.loads
  obtain rfl := Except.ok.inj (hresolves.symm.trans hprepares.resolves)
  obtain rfl := Except.ok.inj (hfilter.symm.trans hprepares.filters)
  obtain rfl := hopens.unique hprepares.opens
  obtain ⟨hzero, hstream⟩ := hruns rfl
  refine ⟨⟨hcode, houtput⟩, hzero, hstream.trans ?_⟩
  rw [Stream.run_unlimited]
  decide +kernel

end Program

end LogLens
