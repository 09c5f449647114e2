import LogLens.Json.Reader
import LogLens.Record.Basic
/-!
# Records from JSON objects

A line that is a JSON object is a record. Ten keys set attributes, two more are known and say
nothing, and all other keys are extension values. Each key is decoded for itself: a value that does
not fit its attribute leaves the attribute as it is and is reported, and nothing else changes.

The members are taken in the order of their keys, so errors are reported in that order, and of
`time` and `timestamp` the second one wins when both are good.

Numbers of ids, levels and times go through binary64: they are cut down to an integer toward zero
and kept within the signed 64-bit range.
-/

namespace LogLens

/-- A known key whose value does not fit. -/
inductive FieldError where
  | wrongType (key expected found : String)
  | badTime (key value : String) (reason : Rfc3339.Fault)
  | unknownLevel (name : String)
  deriving DecidableEq, Repr

/-- The wording of a field error. -/
def FieldError.message : FieldError → String
  | wrongType key expected found =>
    "Field '" ++ key ++ "' should be " ++ expected ++ ", got: " ++ found
  | badTime key value reason =>
    "Field '" ++ key ++ "' is not an RFC3339 timestamp: " ++ value ++ " (" ++ reason.message ++ ")"
  | unknownLevel name => "Field 'level' has an unknown level name: " ++ name

namespace Record

/-- The number cut down to an integer of the signed 64-bit range. -/
def wordOf (n : Number) : Int64 := Int64.ofInt n.toBinary64.truncated

/-- The error of a value that is not what a key expects. -/
def mismatch (key expected : String) (value : Json) : FieldError :=
  .wrongType key expected value.compactText

/-- A text attribute. -/
def decodeText (key : String) : Json → Except FieldError String
  | .string s => .ok s
  | v => .error (mismatch key "a string" v)

/-- An id. -/
def decodeWord (key : String) : Json → Except FieldError Int64
  | .number n => .ok (wordOf n)
  | v => .error (mismatch key "a number" v)

/-- A level, by number or by name. -/
def decodeLevel (key : String) : Json → Except FieldError Level
  | .number n => .ok (Level.ofNumber n.toBinary64.truncated)
  | .string s =>
    match Level.read? s.toList with
    | some level => .ok level
    | none => .error (.unknownLevel s)
  | v => .error (mismatch key "a number or a level name" v)

/-- A time, in milliseconds or as a timestamp. -/
def decodeTime (key : String) : Json → Except FieldError Instant
  | .number n =>
    match Instant.ofMillis? n.toBinary64.truncated with
    | some t => .ok t
    | none => .error (mismatch key "epoch milliseconds in range" (.number n))
  | .string s =>
    match Rfc3339.read s.toList with
    | .ok t => .ok t
    | .error reason => .error (.badTime key s reason)
  | v => .error (mismatch key "an RFC3339 string or epoch milliseconds" v)

/-- A record on its way: the record so far and the errors so far. -/
abbrev Decoded := Record × List FieldError

/-- Stores what was decoded, or notes the error. -/
def store {α : Type} (set : Record → α → Record) (state : Decoded) :
    Except FieldError α → Decoded
  | .ok a => (set state.1 a, state.2)
  | .error e => (state.1, state.2 ++ [e])

/-- Takes one member of the object into account. -/
def decodeMember (state : Decoded) (key : String) (value : Json) : Decoded :=
  match key with
  | "hostname" => store (fun r s => { r with hostname := s }) state (decodeText key value)
  | "name" => store (fun r s => { r with name := s }) state (decodeText key value)
  | "topic" => store (fun r s => { r with topic := s }) state (decodeText key value)
  | "scope" => store (fun r s => { r with scope := s }) state (decodeText key value)
  | "msg" => store (fun r s => { r with message := s }) state (decodeText key value)
  | "pid" => store (fun r n => { r with pid := n }) state (decodeWord key value)
  | "tid" => store (fun r n => { r with tid := n }) state (decodeWord key value)
  | "level" => store (fun r l => { r with level := l }) state (decodeLevel key value)
  | "time" => store (fun r t => { r with time := some t }) state (decodeTime key value)
  | "timestamp" => store (fun r t => { r with time := some t }) state (decodeTime key value)
  | "severity" => state
  | "v" => state
  | _ => (state.1.insert key value, state.2)

/-- The record that the members of an object make, and what did not fit. -/
def decode (members : List (String × Json)) : Decoded :=
  members.foldl (fun state m => decodeMember state m.1 m.2) ({}, [])

/-- Why a line is no record. -/
inductive LineError where
  | notJson (e : Json.ReadError)
  | notObject (line : String)
  deriving DecidableEq, Repr

/-- The wording of a line error. -/
def LineError.message : LineError → String
  | notJson e => "Invalid JSON: " ++ e.message
  | notObject line => "Expected a JSON object, got: " ++ line

/-- The record of a line, and what did not fit. -/
def ofLine (line : String) : Except LineError Decoded :=
  match Json.parse line with
  | .error e => .error (.notJson e)
  | .ok (.object members) =>
    let (r, errors) := decode members
    .ok ({ r with source := line }, errors)
  | .ok _ => .error (.notObject line)

end Record

end LogLens
