import LogLens.Filter.Error
import LogLens.Text.Cut
import LogLens.Text.Dictionary
/-!
# Level sets

A level set gives a threshold for every record: one of its topic and scope when there is a rule for
both, else one of its topic, else the default. A record is shown when its level reaches the
threshold.

In text a set is a list of rules with semicolons between them: `LEVEL`, `LEVEL:topic` or
`LEVEL:topic/scope`. Of several rules for the same target the last one counts. Without a rule for
the default it is the lowest level, so that nothing is hidden that no rule speaks of.
-/

namespace LogLens

/-- Thresholds by topic and scope. -/
structure LevelSet where
  default : Level := .trace
  topics : Dictionary Level := []
  scopes : Dictionary (Dictionary Level) := []
  deriving DecidableEq, Repr

namespace LevelSet

instance : Inhabited LevelSet := ⟨{}⟩

/-- The set without rules for a topic. -/
def ofLevel (level : Level) : LevelSet := { default := level }

/-- Adds a rule for a topic. -/
def withTopic (topic : String) (level : Level) (set : LevelSet) : LevelSet :=
  { set with topics := set.topics.insert topic level }

/-- The rules for the scopes of a topic. -/
def scopesOf (topic : String) (set : LevelSet) : Dictionary Level :=
  (set.scopes.find? topic).getD []

/-- Adds a rule for a scope of a topic. -/
def withScope (topic scope : String) (level : Level) (set : LevelSet) : LevelSet :=
  { set with scopes := set.scopes.insert topic ((set.scopesOf topic).insert scope level) }

/-- The most specific threshold for a topic and a scope. -/
def threshold (set : LevelSet) (topic scope : String) : Level :=
  match (set.scopesOf topic).find? scope with
  | some level => level
  | none => (set.topics.find? topic).getD set.default

/-- Whether a record of this level, topic and scope is shown. -/
def shows (set : LevelSet) (level : Level) (topic scope : String) : Bool :=
  Level.reaches (set.threshold topic scope) level

/-- What a rule is for. -/
inductive Target where
  | everything
  | oneTopic (topic : String)
  | oneScope (topic scope : String)
  deriving DecidableEq, Repr

/-- One rule of a set. -/
structure Rule where
  level : Level
  target : Target
  deriving DecidableEq, Repr

/-- Adds a rule. -/
def add (set : LevelSet) (rule : Rule) : LevelSet :=
  match rule.target with
  | .everything => { set with default := rule.level }
  | .oneTopic topic => set.withTopic topic rule.level
  | .oneScope topic scope => set.withScope topic scope rule.level

/-- Reads what a rule is for: a topic, or a topic and a scope that are both not empty. -/
def Target.read? (text : List Char) : Option Target :=
  match text with
  | [] => none
  | _ =>
    match Text.cutAt? ['/'] text with
    | none => some (.oneTopic (String.ofList text))
    | some ([], _) => none
    | some (_, []) => none
    | some (topic, scope) => some (.oneScope (String.ofList topic) (String.ofList scope))

/-- Reads the level of a rule, from a trimmed name. -/
def readLevel (name : List Char) : Except FilterError Level :=
  match Level.read? name with
  | some level => .ok level
  | none => .error (.unknownLevel (String.ofList name))

/-- Reads a trimmed rule. -/
def Rule.read (entry : List Char) : Except FilterError Rule :=
  match Text.cutAt? [':'] entry with
  | none => (readLevel entry).map fun level => ⟨level, .everything⟩
  | some (name, target) => do
    let level ← readLevel (Text.trim name)
    match Target.read? (Text.trim target) with
    | some target => .ok ⟨level, target⟩
    | none => .error (.badLevelSet (String.ofList entry))

/-- The rules of a text, trimmed; entries without a character do not count. -/
def entries (text : List Char) : List (List Char) :=
  ((Text.pieces ';' text).map Text.trim).filter fun e => !e.isEmpty

/-- Reads rules one after the other into a set. -/
def readEntries (set : LevelSet) : List (List Char) → Except FilterError LevelSet
  | [] => .ok set
  | entry :: rest => do
    let rule ← Rule.read entry
    readEntries (set.add rule) rest

/-- Reads a set. A blank text is none. -/
def read (text : String) : Except FilterError LevelSet :=
  if Text.isBlankText text.toList then .error (.badLevelSet text)
  else readEntries {} (entries text.toList)

end LevelSet

end LogLens
