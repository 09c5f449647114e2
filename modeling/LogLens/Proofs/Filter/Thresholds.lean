import LogLens.Proofs.Filter.Grammar
import LogLens.Proofs.Text.Dictionary

/-!
# The thresholds of a level set

A set holds at most one level for each target, and adding a rule sets the level of its own target
and of no other. So after any number of rules the level of a target is that of the last rule for it,
and the threshold for a topic and a scope is found by asking for both, then for the topic, then for
the default.

A text in which rules are written one after the other, with blanks around them and any number of
empty pieces between them, is read as the set that these rules make. The same set is made from the
last rule without a target and the others added to it in their order.

## Main results

* `levelOf_add`, `levelOf_foldl` — what one rule and what a run of rules does to a target.
* `foldl_add_eq` — the rules without a target can be added first.
* `denotes_of_writes` — the entries of a written text denote its rules.
* `threshold_written` — the set that is read from a written text, and its thresholds.
-/

namespace LogLens.LevelSet

open Dictionary (find?)
open Text (trim isBlank)

/-! ## One target at a time -/

/-- The level that a set holds for a target. -/
def levelOf (set : LevelSet) : Target → Option Level
  | .everything => some set.default
  | .oneTopic topic => find? topic set.topics
  | .oneScope topic scope => find? scope (set.scopesOf topic)

/-- The level of the last rule for a target. -/
def lastLevel (target : Target) (rules : List Rule) : Option Level :=
  (rules.reverse.find? fun rule => rule.target = target).map Rule.level

section Targets

variable (set : LevelSet) (target : Target) (rule : Rule) (rules : List Rule)

theorem lastLevel_cons :
    lastLevel target (rule :: rules) =
      (lastLevel target rules).or (if rule.target = target then some rule.level else none) := by
  rw [lastLevel, List.reverse_cons, List.find?_append, Option.map_or, ← lastLevel]
  congr 1
  by_cases h : rule.target = target <;> simp [h]

theorem scopesOf_withScope (topic other scope : String) (level : Level) :
    (set.withScope other scope level).scopesOf topic =
      if topic = other then (set.scopesOf other).insert scope level else set.scopesOf topic := by
  rw [scopesOf, withScope, Dictionary.find?_insert]
  split <;> rfl

/-- A rule sets the level of its own target and of no other. -/
theorem levelOf_add :
    (set.add rule).levelOf target =
      if rule.target = target then some rule.level else set.levelOf target := by
  obtain ⟨level, own⟩ := rule
  cases own with
  | everything => cases target <;> simp [add, levelOf, scopesOf]
  | oneTopic topic =>
      cases target <;> simp [add, levelOf, scopesOf, withTopic, Dictionary.find?_insert, eq_comm]
  | oneScope topic scope =>
      cases target with
      | everything => simp [add, levelOf, withScope]
      | oneTopic other => simp [add, levelOf, withScope]
      | oneScope other part =>
          simp only [add, levelOf, scopesOf_withScope, Target.oneScope.injEq]
          by_cases htopic : other = topic
          · simp [htopic, Dictionary.find?_insert, eq_comm]
          · simp [htopic, Ne.symm htopic]

/-- After a run of rules the level of a target is that of the last rule for it. -/
theorem levelOf_foldl :
    (rules.foldl add set).levelOf target = (lastLevel target rules).or (set.levelOf target) := by
  induction rules generalizing set with
  | nil => rfl
  | cons rule rules ih =>
      rw [List.foldl_cons, ih, levelOf_add, lastLevel_cons, Option.or_assoc]
      split <;> rfl

theorem threshold_eq (topic scope : String) :
    set.threshold topic scope =
      ((set.levelOf (.oneScope topic scope)).or (set.levelOf (.oneTopic topic))).getD
        set.default := by
  simp only [threshold, levelOf]
  cases find? scope (set.scopesOf topic) <;> rfl

end Targets

/-! ## Rules in order -/

/-- The rules with a target, added in their order. -/
def withTargets : List Rule → LevelSet → LevelSet
  | [], set => set
  | ⟨_, .everything⟩ :: rules, set => withTargets rules set
  | ⟨level, .oneTopic topic⟩ :: rules, set => withTargets rules (set.withTopic topic level)
  | ⟨level, .oneScope topic scope⟩ :: rules, set =>
    withTargets rules (set.withScope topic scope level)

/-- The set of the last rule without a target, or else of the lowest level, with the other rules
added in their order. -/
def ofRules (rules : List Rule) : LevelSet :=
  withTargets rules (ofLevel ((lastLevel .everything rules).getD .trace))

/-- The rules without a target can be added first, and the last of them is enough. -/
theorem foldl_add_eq (rules : List Rule) (set : LevelSet) :
    rules.foldl add set =
      withTargets rules { set with default := (lastLevel .everything rules).getD set.default } := by
  induction rules generalizing set with
  | nil => rfl
  | cons rule rules ih =>
      obtain ⟨level, target⟩ := rule
      rw [List.foldl_cons, ih, lastLevel_cons]
      cases target with
      | everything => simp [withTargets, add]
      | oneTopic topic => simp [withTargets, add, withTopic]
      | oneScope topic scope => simp [withTargets, add, withScope, scopesOf]

theorem foldl_add_empty (rules : List Rule) : rules.foldl add {} = ofRules rules :=
  foldl_add_eq rules {}

/-! ## Rules in writing -/

/-- A topic or a scope that can be written. -/
structure IsPart (s : String) : Prop where
  ne_nil : s.toList ≠ []
  semicolon : ';' ∉ s.toList
  trimmed : trim s.toList = s.toList

/-- The target of a rule that can be written: no topic has a slash in it. -/
def Target.IsPlain : Target → Prop
  | .everything => True
  | .oneTopic topic => IsPart topic ∧ '/' ∉ topic.toList
  | .oneScope topic scope => IsPart topic ∧ '/' ∉ topic.toList ∧ IsPart scope

/-- What is written behind the name of a level. -/
def Target.text : Target → List Char
  | .everything => []
  | .oneTopic topic => ':' :: topic.toList
  | .oneScope topic scope => ':' :: topic.toList ++ '/' :: scope.toList

/-- Pieces of text that write rules in their order: each is blank, or a rule with blank characters
around it. -/
inductive Writes : List (List Char) → List Rule → Prop where
  | nil : Writes [] []
  | blank {piece : List Char} {pieces : List (List Char)} {rules : List Rule}
    (hblank : ∀ c ∈ piece, isBlank c = true) (h : Writes pieces rules) :
    Writes (piece :: pieces) rules
  | rule {before name after : List Char} {level : Level} {target : Target}
    {pieces : List (List Char)} {rules : List Rule} (hbefore : ∀ c ∈ before, isBlank c = true)
    (hname : level.IsNamed name) (htarget : target.IsPlain)
    (hafter : ∀ c ∈ after, isBlank c = true) (h : Writes pieces rules) :
    Writes ((before ++ (name ++ target.text) ++ after) :: pieces) (⟨level, target⟩ :: rules)

section Writing

variable {name : List Char} {level : Level} {target : Target}

theorem trim_of_isNamed (h : level.IsNamed name) : trim name = name := by
  refine Text.trim_eq_self_iff.2 ⟨fun c hc => ?_, fun c hc => ?_⟩
  · exact Text.not_blank_of_isAlpha (h.isAlpha (List.mem_of_head? hc))
  · exact Text.not_blank_of_isAlpha (h.isAlpha (List.mem_of_getLast? hc))

/-- The text of a rule begins with a letter and ends with a letter or the end of a part. -/
theorem trim_text (hname : level.IsNamed name) (htarget : target.IsPlain) :
    trim (name ++ target.text) = name ++ target.text := by
  have hstart := trim_of_isNamed hname
  cases target with
  | everything => rw [Target.text, List.append_nil, hstart]
  | oneTopic topic =>
      have hend := Text.trim_between hstart hname.ne_nil htarget.1.trimmed htarget.1.ne_nil [':']
      simpa [Target.text] using hend
  | oneScope topic scope =>
      have hend := Text.trim_between hstart hname.ne_nil htarget.2.2.trimmed htarget.2.2.ne_nil
        (':' :: topic.toList ++ ['/'])
      simpa [Target.text] using hend

/-- The text of a rule denotes it. -/
theorem denotes_text (hname : level.IsNamed name) (htarget : target.IsPlain) :
    Rule.Denotes (name ++ target.text) ⟨level, target⟩ := by
  have htrimmed : level.IsNamed (trim name) := (trim_of_isNamed hname).symm ▸ hname
  cases target with
  | everything =>
      rw [Target.text, List.append_nil]
      exact .everything htrimmed
  | oneTopic topic =>
      obtain ⟨hpart, hslash⟩ := htarget
      refine .targeted rfl htrimmed ?_
      have hdenotes := Target.Denotes.oneTopic hpart.ne_nil hslash
      rwa [String.ofList_toList, ← hpart.trimmed] at hdenotes
  | oneScope topic scope =>
      obtain ⟨htopic, hslash, hscope⟩ := htarget
      refine .targeted rfl htrimmed ?_
      have hdenotes := Target.Denotes.oneScope rfl hslash htopic.ne_nil hscope.ne_nil
      have htrim :=
        Text.trim_between htopic.trimmed htopic.ne_nil hscope.trimmed hscope.ne_nil ['/']
      rw [String.ofList_toList, String.ofList_toList] at hdenotes
      rw [List.append_assoc, List.singleton_append] at htrim
      rwa [← htrim] at hdenotes

theorem not_mem_text (hname : level.IsNamed name) (htarget : target.IsPlain) :
    ';' ∉ name ++ target.text := by
  have hletters : ';' ∉ name := by
    intro hmem
    have hletter := hname.isAlpha hmem
    revert hletter
    decide
  cases target with
  | everything => simpa [Target.text] using hletters
  | oneTopic topic => simp [Target.text, hletters, htarget.1.semicolon]
  | oneScope topic scope =>
      simp [Target.text, hletters, htarget.1.semicolon, htarget.2.2.semicolon]

end Writing

section Writes

variable {pieces : List (List Char)} {rules : List Rule}

theorem not_mem_of_blank {piece : List Char} (h : ∀ c ∈ piece, isBlank c = true) : ';' ∉ piece :=
  fun hmem => absurd (h ';' hmem) (by decide)

/-- No piece has a semicolon in it, so a text of these pieces is cut into them again. -/
theorem not_mem_of_writes (h : Writes pieces rules) : ∀ piece ∈ pieces, ';' ∉ piece := by
  induction h with
  | nil => simp
  | blank hblank _ ih => exact List.forall_mem_cons.2 ⟨not_mem_of_blank hblank, ih⟩
  | rule hbefore hname htarget hafter _ ih =>
      refine List.forall_mem_cons.2 ⟨?_, ih⟩
      rw [List.mem_append, List.mem_append, not_or, not_or]
      exact ⟨⟨not_mem_of_blank hbefore, not_mem_text hname htarget⟩, not_mem_of_blank hafter⟩

/-- What is left of the pieces denotes the rules. -/
theorem denotes_of_writes (h : Writes pieces rules) :
    List.Forall₂ Rule.Denotes ((pieces.map trim).filter (· ≠ [])) rules := by
  induction h with
  | nil => exact .nil
  | blank hblank _ ih =>
      rw [List.map_cons, Text.trim_eq_nil_iff.2 hblank, List.filter_cons_of_neg (by simp)]
      exact ih
  | @rule before name after level target _ _ hbefore hname htarget hafter _ ih =>
      rw [List.map_cons, Text.trim_padded hbefore hafter, trim_text hname htarget,
        List.filter_cons_of_pos (by simp [hname.ne_nil])]
      exact .cons (denotes_text hname htarget) ih

theorem entries_of_writes (h : Writes pieces rules) (hne : rules ≠ []) :
    entries ([';'].intercalate pieces) = (pieces.map trim).filter (· ≠ []) := by
  have hpieces : pieces ≠ [] := by
    rintro rfl
    cases h
    exact hne rfl
  rw [entries_eq, entryTexts, List.splitOn_intercalate ';' (not_mem_of_writes h) hpieces]

end Writes

/-- The threshold of a run of rules falls through from the scope to the topic and to the default. -/
theorem threshold_ofRules (rules : List Rule) (topic scope : String) :
    (ofRules rules).threshold topic scope =
      (((lastLevel (.oneScope topic scope) rules).or (lastLevel (.oneTopic topic) rules)).or
        (lastLevel .everything rules)).getD .trace := by
  have hlevel : ∀ target, (ofRules rules).levelOf target =
      (lastLevel target rules).or (levelOf {} target) := by
    intro target
    rw [← foldl_add_empty, levelOf_foldl]
  have hdefault : (ofRules rules).default = (lastLevel .everything rules).getD .trace := by
    have heverything := hlevel .everything
    rw [levelOf, levelOf, Option.or_some] at heverything
    exact Option.some.inj heverything
  have hscope : levelOf {} (.oneScope topic scope) = none := rfl
  have htopic : levelOf {} (.oneTopic topic) = none := rfl
  rw [threshold_eq, hlevel, hlevel, hscope, htopic, Option.or_none, Option.or_none, hdefault,
    Option.getD_or, Option.getD_or, Option.getD_or]

/-- **The last rule for the most specific target decides.** A text in which at least one rule is
written is read as the set that begins with the last rule without a target, or else with the lowest
level, and to which the other rules are added in their order. Its threshold for a topic and a scope
is the level of the last rule for both, else of the last rule for the topic, else of the last rule
without a target, and else the lowest level. -/
theorem threshold_written {pieces : List (List Char)} {rules : List Rule} (h : Writes pieces rules)
    (hne : rules ≠ []) :
    read (String.ofList ([';'].intercalate pieces)) = .ok (ofRules rules) ∧
      ∀ topic scope, (ofRules rules).threshold topic scope =
        (((lastLevel (.oneScope topic scope) rules).or (lastLevel (.oneTopic topic) rules)).or
          (lastLevel .everything rules)).getD .trace := by
  refine ⟨?_, threshold_ofRules rules⟩
  have hentries := entries_of_writes h hne
  have hdenotes := denotes_of_writes h
  rw [← hentries] at hdenotes
  have hblank : trim ([';'].intercalate pieces) ≠ [] := by
    intro hblank
    rw [(trim_eq_nil_iff_entries.1 hblank).1, List.forall₂_nil_left_iff] at hdenotes
    exact hne hdenotes
  rw [read_of_not_blank (by rwa [String.toList_ofList]), String.toList_ofList,
    readEntries_of_denotes hdenotes, foldl_add_empty]

/-- A pair of a topic and a scope with more marks in it, a default that is overridden, and an empty
entry in between. -/
theorem threshold_written_overridden :
    let pieces := [" Error".toList, "debug:db ".toList, "  ".toList, "TRACE:db/a:b/c".toList,
      "warning".toList]
    let rules : List Rule := [⟨.error, .everything⟩, ⟨.debug, .oneTopic "db"⟩,
      ⟨.trace, .oneScope "db" "a:b/c"⟩, ⟨.warn, .everything⟩]
    Writes pieces rules ∧ rules ≠ [] ∧
      read " Error;debug:db ;  ;TRACE:db/a:b/c;warning" = .ok (ofRules rules) ∧
      (ofRules rules).threshold "db" "a:b/c" = .trace ∧
      (ofRules rules).threshold "db" "" = .debug ∧ (ofRules rules).threshold "http" "" = .warn := by
  intro pieces rules
  have hdb : IsPart "db" := ⟨by decide, by decide, by decide⟩
  have hscope : IsPart "a:b/c" := ⟨by decide, by decide, by decide⟩
  have hnone : ∀ c ∈ ([] : List Char), isBlank c = true := by simp
  have hone : ∀ c ∈ [' '], isBlank c = true := List.all_eq_true.1 (by decide)
  have hdefault : Writes ["warning".toList] [⟨.warn, .everything⟩] :=
    @Writes.rule [] "warning".toList [] .warn .everything _ _ hnone (by decide +kernel) trivial
      hnone .nil
  have hpair : Writes ["TRACE:db/a:b/c".toList, "warning".toList]
      [⟨.trace, .oneScope "db" "a:b/c"⟩, ⟨.warn, .everything⟩] :=
    @Writes.rule [] "TRACE".toList [] .trace (.oneScope "db" "a:b/c") _ _ hnone (by decide +kernel)
      ⟨hdb, by decide, hscope⟩ hnone hdefault
  have hwrites : Writes pieces rules :=
    @Writes.rule [' '] "Error".toList [] .error .everything _ _ hone (by decide +kernel) trivial
      hnone (@Writes.rule [] "debug".toList [' '] .debug (.oneTopic "db") _ _ hnone
        (by decide +kernel) ⟨hdb, by decide⟩ hone (.blank (List.all_eq_true.1 (by decide)) hpair))
  have hne : rules ≠ [] := by simp [rules]
  obtain ⟨hread, hthreshold⟩ := threshold_written hwrites hne
  refine ⟨hwrites, hne, hread, ?_, ?_, ?_⟩
  · exact (hthreshold "db" "a:b/c").trans (by decide)
  · exact (hthreshold "db" "").trans (by decide)
  · exact (hthreshold "http" "").trans (by decide)

end LogLens.LevelSet
