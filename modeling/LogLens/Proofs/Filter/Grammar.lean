import LogLens.Filter.LevelSet
import LogLens.Proofs.Except
import LogLens.Proofs.List
import LogLens.Proofs.Text.Cut
import Mathlib.Data.List.TakeWhile

/-!
# The grammar of level sets

The text of a level set is cut at its semicolons, and its entries are what is left of the pieces
after trimming. An entry *denotes* a rule when it is the name of a level, for the default, or such a
name, a colon and a target. A target is a topic without a slash, or a topic and a scope with the
first slash between them. Any other entry is *refused*: for its name when that names no level, and
otherwise for all of it.

A set is read when every entry denotes a rule, and the rules are then added in their order. The
first entry that is refused decides on the error. A blank text is refused as a whole, but a text of
semicolons and blanks, which has no entry either, is read as the set without rules.

## Main results

* `Level.read?_eq_some_iff` — the texts that name a level.
* `Rule.read_eq_ok_iff`, `Rule.read_eq_error_iff` — an entry denotes a rule or is refused.
* `read_entries` — which texts are read as a set, and the error of every other text.
* `read_only_semicolon` — a text without an entry that is read.
-/

namespace LogLens

/-! ## Names of levels -/

namespace Level

/-- The names of a level, in lower case. -/
def names : Level → List String
  | trace => ["trace"]
  | debug => ["debug"]
  | info => ["info"]
  | warn => ["warn", "warning"]
  | error => ["error"]
  | fatal => ["fatal"]

/-- A text is a name of the level, in any letter case. -/
def IsNamed (level : Level) (text : List Char) : Prop :=
  String.ofList (text.map Char.toLower) ∈ level.names

instance (level : Level) (text : List Char) : Decidable (level.IsNamed text) :=
  inferInstanceAs (Decidable (_ ∈ level.names))

variable {level : Level} {text : List Char}

/-- The texts that are read as a level are its names, with blank characters around them. -/
theorem read?_eq_some_iff : read? text = some level ↔ level.IsNamed (Text.trim text) := by
  unfold read? IsNamed
  split <;> cases level <;> simp_all [names]

theorem isAlpha_of_toLower {c : Char} (h : c.toLower.isAlpha = true) : c.isAlpha = true := by
  unfold Char.toLower at h
  split at h
  · next hupper =>
      exact Bool.or_eq_true_iff.2 (.inl (decide_eq_true hupper))
  · exact h

/-- Names are made of letters. -/
theorem IsNamed.isAlpha (h : level.IsNamed text) {c : Char} (hc : c ∈ text) : c.isAlpha = true := by
  have hletters : (level.names.all fun name => name.toList.all Char.isAlpha) = true := by
    cases level <;> decide
  refine isAlpha_of_toLower (List.all_eq_true.1 (List.all_eq_true.1 hletters _ h) c.toLower ?_)
  rw [String.toList_ofList]
  exact List.mem_map_of_mem hc

theorem IsNamed.ne_nil (h : level.IsNamed text) : text ≠ [] := by
  rintro rfl
  cases level <;> revert h <;> decide

end Level

namespace LevelSet

open Text (cutAt? trim)

/-! ## Targets -/

/-- A trimmed text is a topic without a slash, or a topic and a scope around its first slash. -/
inductive Target.Denotes (text : List Char) : Target → Prop where
  | oneTopic (hne : text ≠ []) (hslash : '/' ∉ text) : Denotes text (.oneTopic (String.ofList text))
  | oneScope {topic scope : List Char} (htext : text = topic ++ '/' :: scope) (hslash : '/' ∉ topic)
    (htopic : topic ≠ []) (hscope : scope ≠ []) :
    Denotes text (.oneScope (String.ofList topic) (String.ofList scope))

theorem Target.read?_eq_some_iff {text : List Char} {target : Target} :
    Target.read? text = some target ↔ Target.Denotes text target := by
  constructor
  · intro h
    unfold Target.read? at h
    split at h
    · cases h
    · next hne =>
        split at h
        · next hcut =>
            cases h
            exact .oneTopic hne (Text.cutAt?_singleton_eq_none_iff.1 hcut)
        · cases h
        · cases h
        · next topic scope htopic hscope hcut =>
            obtain ⟨htext, hslash⟩ := Text.cutAt?_singleton_eq_some_iff.1 hcut
            cases h
            exact .oneScope htext hslash htopic hscope
  · intro h
    cases h with
    | oneTopic hne hslash =>
        unfold Target.read?
        split
        · contradiction
        · rw [Text.cutAt?_singleton_eq_none_iff.2 hslash]
    | @oneScope topic scope htext hslash htopic hscope =>
        have hcut := Text.cutAt?_singleton_eq_some_iff.2 ⟨htext, hslash⟩
        unfold Target.read?
        split
        · simp at htext
        · rw [hcut]
          cases topic with
          | nil => contradiction
          | cons c topic =>
              cases scope with
              | nil => contradiction
              | cons d scope => rfl

/-! ## Entries -/

/-- An entry is the name of a level, or a name, a colon and a target. -/
inductive Rule.Denotes (entry : List Char) : Rule → Prop where
  | everything {level : Level} (hname : level.IsNamed (trim entry)) :
    Denotes entry ⟨level, .everything⟩
  | targeted {level : Level} {target : Target} {name text : List Char}
    (hentry : entry = name ++ ':' :: text) (hname : level.IsNamed (trim name))
    (htarget : Target.Denotes (trim text) target) : Denotes entry ⟨level, target⟩

/-- What an entry has in the place of a name: all that stands before its first colon. -/
def Rule.nameOf (entry : List Char) : List Char := trim (entry.takeWhile (· != ':'))

/-- Why an entry denotes no rule. -/
inductive Rule.Refused (entry : List Char) : FilterError → Prop where
  | name (hname : ∀ level : Level, ¬level.IsNamed (nameOf entry)) :
    Refused entry (.unknownLevel (String.ofList (nameOf entry)))
  | target {level : Level} (hname : level.IsNamed (nameOf entry))
    (htarget : ∀ rule, ¬Rule.Denotes entry rule) :
    Refused entry (.badLevelSet (String.ofList entry))

section Entry

variable {entry : List Char} {rule : Rule}

/-- A name, with blank characters around it, has no colon in it. -/
theorem not_mem_of_isNamed {level : Level} {name : List Char} (h : level.IsNamed (trim name)) :
    ':' ∉ name := by
  intro hmem
  have hletter := h.isAlpha ((Text.mem_trim_iff (by decide)).2 hmem)
  revert hletter
  decide

theorem readLevel_eq_ok_iff {level : Level} {name : List Char} :
    readLevel name = .ok level ↔ level.IsNamed (trim name) := by
  rw [← Level.read?_eq_some_iff, readLevel]
  cases Level.read? name <;> simp

theorem readLevel_eq_error_iff {name : List Char} {e : FilterError} :
    readLevel name = .error e ↔
      (∀ level : Level, ¬level.IsNamed (trim name)) ∧ e = .unknownLevel (String.ofList name) := by
  simp only [← Level.read?_eq_some_iff, readLevel]
  cases Level.read? name <;> simp [eq_comm]

/-- What is read from an entry is the rule that it denotes. -/
theorem Rule.read_eq_ok_iff : Rule.read entry = .ok rule ↔ Rule.Denotes entry rule := by
  constructor
  · intro h
    unfold Rule.read at h
    split at h
    · cases hlevel : readLevel entry with
      | error e =>
          rw [hlevel] at h
          cases h
      | ok level =>
          rw [hlevel] at h
          cases h
          exact .everything (readLevel_eq_ok_iff.1 hlevel)
    · next name text hcut =>
        obtain ⟨hentry, -⟩ := Text.cutAt?_singleton_eq_some_iff.1 hcut
        obtain ⟨level, hlevel, h⟩ := bind_eq_ok.1 h
        rw [readLevel_eq_ok_iff, Text.trim_trim] at hlevel
        split at h
        · next target htarget =>
            cases h
            exact .targeted hentry hlevel (Target.read?_eq_some_iff.1 htarget)
        · cases h
  · intro h
    unfold Rule.read
    cases h with
    | everything hname =>
        rw [Text.cutAt?_singleton_eq_none_iff.2 (not_mem_of_isNamed hname)]
        simp only [readLevel_eq_ok_iff.2 hname]
        rfl
    | targeted hentry hname htarget =>
        rw [Text.cutAt?_singleton_eq_some_iff.2 ⟨hentry, not_mem_of_isNamed hname⟩]
        rw [← Text.trim_trim, ← readLevel_eq_ok_iff] at hname
        simp only [hname, ok_bind, Target.read?_eq_some_iff.2 htarget]

theorem Rule.nameOf_of_cutAt? {name text : List Char}
    (h : cutAt? [':'] entry = some (name, text)) : Rule.nameOf entry = trim name := by
  obtain ⟨rfl, hcolon⟩ := Text.cutAt?_singleton_eq_some_iff.1 h
  rw [Rule.nameOf, List.takeWhile_append_of_pos]
  · simp
  · intro c hc
    have hne : c ≠ ':' := fun hc' => hcolon (hc' ▸ hc)
    simpa using hne

theorem Rule.nameOf_of_not_mem (h : ':' ∉ entry) : Rule.nameOf entry = trim entry := by
  have hall : ∀ c ∈ entry, (c != ':') = true := by
    intro c hc
    have hne : c ≠ ':' := fun hc' => h (hc' ▸ hc)
    simpa using hne
  have hwhole : entry.takeWhile (· != ':') = entry := List.takeWhile_eq_self_iff.2 hall
  rw [Rule.nameOf, hwhole]

/-- What is said about an entry that is not read is why it is refused. -/
theorem Rule.refused_of_read {e : FilterError} (htrim : trim entry = entry)
    (h : Rule.read entry = .error e) : Rule.Refused entry e := by
  have hrule : ∀ rule, ¬Rule.Denotes entry rule := by
    intro rule hrule
    rw [Rule.read_eq_ok_iff.2 hrule] at h
    cases h
  unfold Rule.read at h
  split at h
  · next hcut =>
      have hname := nameOf_of_not_mem (Text.cutAt?_singleton_eq_none_iff.1 hcut)
      obtain ⟨hunknown, rfl⟩ := readLevel_eq_error_iff.1 (map_eq_error.1 h)
      rw [← hname] at hunknown
      have hrefused := Rule.Refused.name hunknown
      rwa [hname, htrim] at hrefused
  · next name text hcut =>
      have hname := nameOf_of_cutAt? hcut
      cases hlevel : readLevel (trim name) with
      | error e' =>
          obtain ⟨hunknown, rfl⟩ := readLevel_eq_error_iff.1 hlevel
          rw [hlevel, error_bind] at h
          cases h
          rw [Text.trim_trim, ← hname] at hunknown
          exact hname ▸ .name hunknown
      | ok level =>
          rw [hlevel, ok_bind] at h
          rw [readLevel_eq_ok_iff, Text.trim_trim, ← hname] at hlevel
          split at h <;> cases h
          exact .target hlevel hrule

/-- An entry that denotes no rule is refused. -/
theorem Rule.exists_refused (htrim : trim entry = entry) (h : ∀ rule, ¬Rule.Denotes entry rule) :
    ∃ e, Rule.Refused entry e ∧ Rule.read entry = .error e := by
  cases hread : Rule.read entry with
  | ok rule => exact absurd (Rule.read_eq_ok_iff.1 hread) (h rule)
  | error e => exact ⟨e, refused_of_read htrim hread, rfl⟩

end Entry

/-! ## Texts -/

/-- The pieces between the semicolons of a text, trimmed, without those of which nothing is left. -/
def entryTexts (text : List Char) : List (List Char) :=
  ((text.splitOn ';').map trim).filter (· ≠ [])

/-- These are the entries that are read. -/
theorem entries_eq (text : List Char) : entries text = entryTexts text := by
  rw [entries, entryTexts, Text.pieces_eq_splitOn]
  refine List.filter_congr fun entry _ => ?_
  cases entry <;> rfl

theorem trim_of_mem_entries {text entry : List Char} (h : entry ∈ entries text) :
    trim entry = entry := by
  obtain ⟨piece, -, rfl⟩ := List.mem_map.1 (List.mem_filter.1 h).1
  exact Text.trim_trim piece

/-- A blank text is one without entries and without semicolons. -/
theorem trim_eq_nil_iff_entries {text : List Char} :
    trim text = [] ↔ entries text = [] ∧ ';' ∉ text := by
  constructor
  · intro h
    have hsemicolon : ';' ∉ text := by
      intro hmem
      have hblank := Text.trim_eq_nil_iff.1 h ';' hmem
      revert hblank
      decide
    refine ⟨?_, hsemicolon⟩
    rw [entries_eq, entryTexts, List.splitOn_eq_singleton hsemicolon]
    simp [h]
  · rintro ⟨hentries, hsemicolon⟩
    rw [entries_eq, entryTexts, List.splitOn_eq_singleton hsemicolon] at hentries
    simpa using hentries

/-- Rules that are denoted one after the other are added one after the other. -/
theorem readEntries_of_denotes {entries : List (List Char)} {rules : List Rule}
    (h : List.Forall₂ Rule.Denotes entries rules) (set : LevelSet) :
    readEntries set entries = .ok (rules.foldl add set) := by
  induction h generalizing set with
  | nil => rfl
  | cons hentry _ ih => rw [readEntries, Rule.read_eq_ok_iff.2 hentry, ok_bind, ih, List.foldl_cons]

/-- The first entry that is not read decides on the error. -/
theorem readEntries_eq_error {before after : List (List Char)} {entry : List Char} {e : FilterError}
    (hbefore : ∀ b ∈ before, ∃ rule, Rule.Denotes b rule) (h : Rule.read entry = .error e)
    (set : LevelSet) : readEntries set (before ++ entry :: after) = .error e := by
  induction before generalizing set with
  | nil => rw [List.nil_append, readEntries, h, error_bind]
  | cons b before ih =>
      obtain ⟨⟨rule, hrule⟩, hrest⟩ := List.forall_mem_cons.1 hbefore
      rw [List.cons_append, readEntries, Rule.read_eq_ok_iff.2 hrule, ok_bind, ih hrest]

/-- The reader looks at the entries of every text that is not blank. -/
theorem read_of_not_blank {s : String} (h : trim s.toList ≠ []) :
    read s = readEntries {} (entries s.toList) := by
  have hblank : Text.isBlankText s.toList = false := by simpa [Text.isBlankText] using h
  rw [read, hblank]
  rfl

/-- **Which texts are level sets.** A text with an entry is read exactly when every entry denotes a
rule. When one does not, the first such entry decides on the error: its name when that names no
level, and otherwise the whole entry. Of the texts without an entry those with a semicolon are read
as the set without rules, and the others, which are blank, are refused as a whole. -/
theorem read_entries (s : String) :
    (entryTexts s.toList ≠ [] →
      ((∃ set, read s = .ok set) ↔ ∀ e ∈ entryTexts s.toList, ∃ rule, Rule.Denotes e rule)) ∧
    (∀ before e after, entryTexts s.toList = before ++ e :: after →
      (∀ b ∈ before, ∃ rule, Rule.Denotes b rule) → (∀ rule, ¬Rule.Denotes e rule) →
      ∃ error, Rule.Refused e error ∧ read s = .error error) ∧
    (entryTexts s.toList = [] →
      read s = if ';' ∈ s.toList then .ok {} else .error (.badLevelSet s)) := by
  have hes : entries s.toList = entryTexts s.toList := entries_eq s.toList
  have hread : entryTexts s.toList ≠ [] → read s = readEntries {} (entryTexts s.toList) := by
    intro hne
    have hblank : trim s.toList ≠ [] := fun h => hne (hes ▸ (trim_eq_nil_iff_entries.1 h).1)
    rw [read_of_not_blank hblank, hes]
  have hfirst : ∀ before e after, entryTexts s.toList = before ++ e :: after →
      (∀ b ∈ before, ∃ rule, Rule.Denotes b rule) → (∀ rule, ¬Rule.Denotes e rule) →
      ∃ error, Rule.Refused e error ∧ read s = .error error := by
    intro before e after hsplit hbefore he
    have hmem : e ∈ entries s.toList := by rw [hes, hsplit]; simp
    obtain ⟨error, hrefused, herror⟩ := Rule.exists_refused (trim_of_mem_entries hmem) he
    refine ⟨error, hrefused, ?_⟩
    rw [hread (by simp [hsplit]), hsplit, readEntries_eq_error hbefore herror]
  refine ⟨fun hne => ⟨?_, fun h => ?_⟩, hfirst, fun hnone => ?_⟩
  · rintro ⟨set, hset⟩
    rcases forall_or_first (fun e => ∃ rule, Rule.Denotes e rule) (entryTexts s.toList) with
      hall | ⟨before, e, after, hsplit, hbefore, he⟩
    · exact hall
    · obtain ⟨error, -, herror⟩ := hfirst before e after hsplit hbefore (not_exists.1 he)
      rw [hset] at herror
      cases herror
  · obtain ⟨rules, hrules⟩ := exists_forall₂ h
    exact ⟨_, (hread hne).trans (readEntries_of_denotes hrules {})⟩
  · by_cases hsemicolon : ';' ∈ s.toList
    · have hblank : trim s.toList ≠ [] :=
        fun h => (trim_eq_nil_iff_entries.1 h).2 hsemicolon
      rw [if_pos hsemicolon, read_of_not_blank hblank, hes, hnone]
      rfl
    · have hblank : trim s.toList = [] := trim_eq_nil_iff_entries.2 ⟨hes.trans hnone, hsemicolon⟩
      have hisBlank : Text.isBlankText s.toList = true := by simp [Text.isBlankText, hblank]
      rw [if_neg hsemicolon, read, hisBlank]
      rfl

/-- The half-empty pair comes before the unknown name. -/
theorem read_entries_half_empty_pair :
    entryTexts "info; DEBUG :db/;loud".toList =
        ["info".toList, "DEBUG :db/".toList, "loud".toList] ∧
      (∃ rule, Rule.Denotes "info".toList rule) ∧
      (∀ rule, ¬Rule.Denotes "DEBUG :db/".toList rule) ∧
      read "info; DEBUG :db/;loud" = .error (.badLevelSet "DEBUG :db/") := by
  have hes : entryTexts "info; DEBUG :db/;loud".toList =
      ["info".toList, "DEBUG :db/".toList, "loud".toList] := by decide +kernel
  have hinfo : Rule.Denotes "info".toList ⟨.info, .everything⟩ := .everything (by decide +kernel)
  have hbad : ∀ rule, ¬Rule.Denotes "DEBUG :db/".toList rule := by
    intro rule hrule
    have hread : Rule.read "DEBUG :db/".toList = .error (.badLevelSet "DEBUG :db/") := by
      decide +kernel
    rw [Rule.read_eq_ok_iff.2 hrule] at hread
    cases hread
  obtain ⟨-, hfirst, -⟩ := read_entries "info; DEBUG :db/;loud"
  obtain ⟨error, hrefused, hread⟩ :=
    hfirst ["info".toList] "DEBUG :db/".toList ["loud".toList] hes (by simpa using ⟨_, hinfo⟩) hbad
  refine ⟨hes, ⟨_, hinfo⟩, hbad, ?_⟩
  cases hrefused with
  | name hname => exact absurd (by decide +kernel) (hname .debug)
  | target hname htarget => exact hread

/-- A semicolon alone has no entry, and it is read as the set without rules. -/
theorem read_only_semicolon : entryTexts ";".toList = [] ∧ read ";" = .ok {} := by
  decide +kernel

end LevelSet

end LogLens
