import LogLens.Condition.Basic
import LogLens.Filter.LevelSet
/-!
# Filters

A filter decides which records are shown: all of them, those that a level set shows, those for which
a condition holds, or those that several filters all show.

`reduce` takes off the wrapping of a list of filters that holds none or one, which changes nothing
in what is shown.

## Main results

* `shows_reduce` — a reduced filter shows the same records.
-/

namespace LogLens

/-- Decides which records are shown. -/
inductive Filter where
  | all
  | level (set : LevelSet)
  | condition (c : Condition)
  | every (filters : List Filter)

namespace Filter

instance : Inhabited Filter := ⟨all⟩

mutual

/-- Whether a record is shown. -/
def shows (r : Record) : Filter → Bool
  | all => true
  | level set => set.shows r.level r.topic r.scope
  | condition c => c.holds r
  | every filters => showsAll r filters

/-- Whether all filters show a record. -/
def showsAll (r : Record) : List Filter → Bool
  | [] => true
  | f :: rest => shows r f && showsAll r rest

end

/-- A list of no filter shows everything, and a list of one is that one. -/
def reduce : Filter → Filter
  | every [] => all
  | every [f] => reduce f
  | f => f

/-- The filter that shows what several filters all show. -/
def combined (filters : List Filter) : Filter := reduce (every filters)

/-- Filters that are collected one after the other; what is built of them shows what all of them
show. -/
structure Collection where
  filters : List Filter := []

/-- Adds a filter behind the others. -/
def Collection.add (collection : Collection) (f : Filter) : Collection :=
  { collection with filters := collection.filters ++ [f] }

/-- The filter of a collection. -/
def Collection.build (collection : Collection) : Filter := combined collection.filters

/-- The filter of a level set in text. -/
def ofLevelSet (text : String) : Except FilterError Filter := (LevelSet.read text).map .level

/-- The filter of a condition in text. -/
def ofCondition (text : String) : Except FilterError Filter :=
  (Condition.ofText text).map .condition

/-- A text that says something. -/
def given? (text : Option String) : Option String :=
  text.filter fun s => !Text.isBlankText s.toList

/-- The filters of an optional text; a blank one adds none. -/
def optional (make : String → Except FilterError Filter) (text : Option String) :
    Except FilterError (List Filter) :=
  match given? text with
  | none => .ok []
  | some s => (make s).map fun f => [f]

/-- The filter of an optional level set and an optional condition. -/
def ofTexts (levels condition : Option String) : Except FilterError Filter := do
  let first ← optional ofLevelSet levels
  let second ← optional ofCondition condition
  .ok (combined (first ++ second))

/-- A reduced filter shows the same records. -/
theorem shows_reduce (r : Record) (f : Filter) : (reduce f).shows r = f.shows r := by
  fun_induction reduce f with
  | case1 => simp [shows, showsAll]
  | case2 f ih => simp [shows, showsAll, ih]
  | case3 f => rfl

end Filter

end LogLens
