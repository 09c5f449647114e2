import LogLens.Filter.Basic
import LogLens.Proofs.Except
import LogLens.Proofs.Text.Blank

/-!
# Filters that are put together

A list of filters shows a record when each of them shows it, so neither the order of the filters nor
the way they are nested plays a part. Reducing a filter takes lists off that hold none or one, down
to a filter that is no such list; there is nothing to reduce then, and what is shown stays.

The filter of a level set and a condition in text is built of those of the two that say something. A
text of blank characters says nothing, like a text that is not there. Of two texts that both do not
parse the level set is the one that is reported.

## Main results

* `isReduced_reduce`, `reduce_of_isReduced` — reducing ends, and it is done once.
* `shows_build_iff` — a collection shows what all of its filters show.
* `ofTexts_eq_error_iff`, `shows_of_ofTexts` — when texts make no filter, and what they show else.
* `shows_combined` — all of this together.
-/

namespace LogLens.Filter

variable {r : Record}

/-! ## Reducing -/

/-- A filter that is no list of fewer than two filters. -/
def IsReduced (f : Filter) : Prop := ∀ filters, f = every filters → 2 ≤ filters.length

theorem isReduced_reduce (f : Filter) : IsReduced (reduce f) := by
  fun_induction reduce f with
  | case1 =>
      intro filters h
      cases h
  | case2 f ih => exact ih
  | case3 f hnone hone =>
      intro filters h
      subst h
      cases filters with
      | nil => exact absurd rfl hnone
      | cons g rest =>
          cases rest with
          | nil => exact absurd rfl (hone g)
          | cons g' rest => exact Nat.le_add_left 2 rest.length

/-- There is nothing to reduce then. -/
theorem reduce_of_isReduced {f : Filter} (h : IsReduced f) : reduce f = f := by
  fun_cases reduce f with
  | case1 => exact absurd (h [] rfl) (by decide)
  | case2 g => exact absurd (h [g] rfl) (by simp)
  | case3 f hnone hone => rfl

/-! ## Lists of filters -/

/-- A list of filters shows what each of them shows. -/
theorem showsAll_iff {filters : List Filter} :
    showsAll r filters = true ↔ ∀ f ∈ filters, f.shows r = true := by
  induction filters with
  | nil => simp [showsAll]
  | cons f rest ih => rw [showsAll, Bool.and_eq_true, ih, List.forall_mem_cons]

theorem shows_combined_iff {filters : List Filter} :
    (combined filters).shows r = true ↔ ∀ f ∈ filters, f.shows r = true := by
  rw [combined, shows_reduce, shows, showsAll_iff]

/-- Filters that are added one after the other are collected in their order. -/
theorem filters_foldl_add (filters : List Filter) (collection : Collection) :
    (filters.foldl Collection.add collection).filters = collection.filters ++ filters := by
  induction filters generalizing collection with
  | nil => simp
  | cons f rest ih =>
      rw [List.foldl_cons, ih]
      simp [Collection.add]

/-- A collection shows what all of its filters show. -/
theorem shows_build_iff {filters : List Filter} :
    (filters.foldl Collection.add {}).build.shows r = true ↔ ∀ f ∈ filters, f.shows r = true := by
  rw [Collection.build, shows_combined_iff, filters_foldl_add, List.nil_append]

/-! ## Texts of filters -/

/-- A text is given: it is there, and not all of its characters are blank. -/
structure Given (text : Option String) (s : String) : Prop where
  text_eq : text = some s
  not_blank : ∃ c ∈ s.toList, Text.isBlank c = false

/-- A text is given that does not parse. -/
def Refuses (make : String → Except FilterError Filter) (text : Option String) (e : FilterError) :
    Prop :=
  ∃ s, Given text s ∧ make s = .error e

/-- When a text is given, its own filter shows the record. -/
def Admits (make : String → Except FilterError Filter) (text : Option String) (r : Record) : Prop :=
  ∀ s, Given text s → ∃ f, make s = .ok f ∧ f.shows r = true

theorem given?_eq_some_iff {text : Option String} {s : String} :
    given? text = some s ↔ Given text s := by
  have hblank : (!Text.isBlankText s.toList) = true ↔ ∃ c ∈ s.toList, Text.isBlank c = false := by
    rw [Text.isBlankText, Bool.not_eq_true', ← Bool.not_eq_true, List.isEmpty_iff,
      Text.trim_eq_nil_iff]
    simp
  rw [given?, Option.filter_eq_some_iff, hblank]
  exact ⟨fun ⟨htext, hs⟩ => ⟨htext, hs⟩, fun h => ⟨h.text_eq, h.not_blank⟩⟩

theorem given_iff {text : Option String} {s : String} :
    Given text s ↔ text = some s ∧ Text.isBlankText s.toList = false := by
  simp [← given?_eq_some_iff, given?, Option.filter_eq_some_iff]

section Optional

variable {make : String → Except FilterError Filter} {text : Option String}

theorem optional_eq_error_iff {e : FilterError} :
    optional make text = .error e ↔ Refuses make text e := by
  unfold optional Refuses
  simp only [← given?_eq_some_iff]
  cases given? text with
  | none => simp
  | some s => simp [map_eq_error]

/-- The filters of a text show what its own filter shows. -/
theorem showsAll_optional {filters : List Filter} (h : optional make text = .ok filters) :
    showsAll r filters = true ↔ Admits make text r := by
  unfold optional at h
  unfold Admits
  simp only [← given?_eq_some_iff]
  cases hgiven : given? text with
  | none =>
      rw [hgiven] at h
      obtain rfl := Except.ok.inj h
      simp [showsAll]
  | some s =>
      rw [hgiven] at h
      cases hmake : make s with
      | error e => simp [hmake, Except.map] at h
      | ok f =>
          simp only [hmake, Except.map, Except.ok.injEq] at h
          subst h
          simp [showsAll_iff, hmake]

end Optional

variable {levels condition : Option String}

/-- Texts make no filter when one is given that does not parse; the level set is reported first. -/
theorem ofTexts_eq_error_iff {e : FilterError} :
    ofTexts levels condition = .error e ↔
      Refuses ofLevelSet levels e ∨
        (∀ e', ¬Refuses ofLevelSet levels e') ∧ Refuses ofCondition condition e := by
  simp only [← optional_eq_error_iff]
  unfold ofTexts
  cases optional ofLevelSet levels with
  | error e' => simp [error_bind]
  | ok first => cases optional ofCondition condition <;> simp [ok_bind, error_bind]

/-- There is no filter when either of the texts is given and does not parse. -/
theorem exists_ofTexts_eq_error_iff :
    (∃ e, ofTexts levels condition = .error e) ↔
      (∃ e, Refuses ofLevelSet levels e) ∨ ∃ e, Refuses ofCondition condition e := by
  simp only [ofTexts_eq_error_iff]
  constructor
  · rintro ⟨e, hlevels | ⟨-, hcondition⟩⟩
    · exact .inl ⟨e, hlevels⟩
    · exact .inr ⟨e, hcondition⟩
  · intro h
    by_cases hlevels : ∃ e, Refuses ofLevelSet levels e
    · obtain ⟨e, he⟩ := hlevels
      exact ⟨e, .inl he⟩
    · obtain ⟨e, he⟩ := h.resolve_left hlevels
      exact ⟨e, .inr ⟨not_exists.1 hlevels, he⟩⟩

/-- The filter of texts shows what those that are given show. -/
theorem shows_of_ofTexts {f : Filter} (h : ofTexts levels condition = .ok f) :
    f.shows r = true ↔ Admits ofLevelSet levels r ∧ Admits ofCondition condition r := by
  obtain ⟨first, hfirst, hrest⟩ := bind_eq_ok.1 h
  obtain ⟨second, hsecond, hf⟩ := bind_eq_ok.1 hrest
  obtain rfl := Except.ok.inj hf
  rw [shows_combined_iff, List.forall_mem_append, ← showsAll_iff, ← showsAll_iff,
    showsAll_optional hfirst, showsAll_optional hsecond]

/-- **Putting filters together.** A reduced filter shows the same records, is reduced to itself and
is no list of fewer than two. A collection shows what all filters that were added to it show, in
whatever order they were added. The filter of an optional level set and an optional condition is
missing exactly when one of them is given and does not parse, with the error of the level set before
that of the condition; else it shows what the filters of those that are given show. -/
theorem shows_combined :
    (∀ f : Filter, (∀ r, (reduce f).shows r = f.shows r) ∧ reduce (reduce f) = reduce f ∧
      ∀ filters, reduce f = every filters → 2 ≤ filters.length) ∧
    (∀ added : List Filter,
      (∀ r, (added.foldl Collection.add {}).build.shows r = true ↔
        ∀ f ∈ added, f.shows r = true) ∧
      ∀ reordered : List Filter, reordered.Perm added → ∀ r,
        (reordered.foldl Collection.add {}).build.shows r =
          (added.foldl Collection.add {}).build.shows r) ∧
    ∀ levels condition : Option String,
      ((∃ e, ofTexts levels condition = .error e) ↔
        (∃ e, Refuses ofLevelSet levels e) ∨ ∃ e, Refuses ofCondition condition e) ∧
      (∀ e, ofTexts levels condition = .error e ↔
        Refuses ofLevelSet levels e ∨
          (∀ e', ¬Refuses ofLevelSet levels e') ∧ Refuses ofCondition condition e) ∧
      ∀ f, ofTexts levels condition = .ok f → ∀ r,
        (f.shows r = true ↔ Admits ofLevelSet levels r ∧ Admits ofCondition condition r) := by
  refine ⟨fun f => ?_, fun added => ?_, fun levels condition => ?_⟩
  · exact ⟨fun r => shows_reduce r f, reduce_of_isReduced (isReduced_reduce f), isReduced_reduce f⟩
  · refine ⟨fun r => shows_build_iff, fun reordered hperm r => ?_⟩
    rw [Bool.eq_iff_iff, shows_build_iff, shows_build_iff]
    exact forall_congr' fun f => imp_congr_left hperm.mem_iff
  · exact ⟨exists_ofTexts_eq_error_iff, fun e => ofTexts_eq_error_iff,
      fun f h r => shows_of_ofTexts h⟩

/-- A list in a list, two filters in either order, a level set that is reported before a condition,
and a condition that is blank. -/
theorem shows_combined_nested :
    let warn : Filter := .level (.ofLevel .warn)
    let f := every [every [warn, every []]]
    let build (filters : List Filter) := (filters.foldl Collection.add {}).build
    reduce f = every [warn, every []] ∧ 2 ≤ [warn, every []].length ∧
      (reduce f).shows {} = f.shows {} ∧ [warn, all].Perm [all, warn] ∧
      (build [warn, all]).shows {} = (build [all, warn]).shows {} ∧
      Refuses ofLevelSet (some "loud") (.unknownLevel "loud") ∧
      Refuses ofCondition (some "oops") (.malformed "oops") ∧
      ofTexts (some "loud") (some "oops") = .error (.unknownLevel "loud") ∧
      ∃ g, ofTexts (some "warn") (some " ") = .ok g ∧ g.shows {} = false := by
  intro warn f build
  obtain ⟨hreduce, hbuild, htexts⟩ := shows_combined
  obtain ⟨hshows, -, hlength⟩ := hreduce f
  have hperm : [warn, all].Perm [all, warn] := .swap all warn []
  have hloud : Refuses ofLevelSet (some "loud") (.unknownLevel "loud") :=
    ⟨"loud", ⟨rfl, 'l', by decide, by decide⟩, rfl⟩
  have hmalformed : ofCondition "oops" = .error (.malformed "oops") := by
    rw [ofCondition, Condition.ofText, Condition.read]
    rfl
  have hoops : Refuses ofCondition (some "oops") (.malformed "oops") :=
    ⟨"oops", ⟨rfl, 'o', by decide, by decide⟩, hmalformed⟩
  have hwarn : ofTexts (some "warn") (some " ") = .ok warn := rfl
  refine ⟨rfl, hlength _ rfl, hshows {}, hperm, (hbuild _).2 _ hperm {}, hloud, hoops,
    ((htexts _ _).2.1 _).2 (.inl hloud), warn, hwarn, ?_⟩
  rw [← Bool.not_eq_true, (htexts _ _).2.2 warn hwarn]
  rintro ⟨hlevels, -⟩
  obtain ⟨g, hg, hshown⟩ := hlevels "warn" ⟨rfl, 'w', by decide, by decide⟩
  obtain rfl := Except.ok.inj hg
  exact absurd hshown (by decide)

end LogLens.Filter
