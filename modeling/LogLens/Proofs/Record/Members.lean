import LogLens.Proofs.Text.Dictionary
import LogLens.Record.Decode

/-!
# What a record takes from each member

The members of an object are decoded one after the other into one record and one list of errors. All
that a single member does can be said by one equation, `fst_decodeMember`: it sets the attribute of
its own key when its value fits, or it is kept as an extension, and everything else stays. A run over
the members of an object then reads each attribute off the member with its key, whatever the other
members are, because an object has one member for each key; only the time has two keys. The members
of all other keys are kept, each in one of the two dictionaries of extensions.

## Main results

* `fst_decodeMember`, `keys_decodeMember` — what one member does to the record and to the errors.
* `foldl_told` — an attribute after a run is what the last member says that says anything about it.
* `errorsOf_eq` — the errors about a key are those of the member with that key.
* `kept_decode` — the extensions of an object are members of it.
* `decode_members` — all attributes, extensions and errors of an object.
-/

namespace LogLens

open Dictionary

/-- The key that an error is about. -/
def FieldError.key : FieldError → String
  | wrongType key _ _ => key
  | badTime key _ _ => key
  | unknownLevel _ => "level"

namespace Record

/-! ## Values of attributes -/

/-- A text says itself. -/
def text? : Json → Option String
  | .string s => some s
  | _ => none

/-- A number says an id. -/
def word? : Json → Option Int64
  | .number n => some (wordOf n)
  | _ => none

/-- A number and the name of a level say a level. -/
def level? : Json → Option Level
  | .number n => some (Level.ofNumber n.toBinary64.truncated)
  | .string s => Level.read? s.toList
  | _ => none

/-- A number of milliseconds in range and a timestamp say a time. -/
def time? : Json → Option Instant
  | .number n => Instant.ofMillis? n.toBinary64.truncated
  | .string s => (Rfc3339.read s.toList).toOption
  | _ => none

/-- The keys of text attributes. -/
def textKeys : List String := ["hostname", "name", "topic", "scope", "msg"]

/-- The keys of ids. -/
def wordKeys : List String := ["pid", "tid"]

/-- The keys of the time. -/
def timeKeys : List String := ["time", "timestamp"]

/-- The keys of all attributes. -/
def attributeKeys : List String := textKeys ++ wordKeys ++ "level" :: timeKeys

/-- The keys that are known and say nothing. -/
def silentKeys : List String := ["severity", "v"]

/-- Whether the member of a key is an extension. -/
def isExtension (key : String) : Bool := !(attributeKeys ++ silentKeys).contains key

/-- Whether a value fits the attribute of a key; the key of no attribute takes every value. -/
def fits (key : String) (value : Json) : Bool :=
  if key ∈ textKeys then (text? value).isSome
  else if key ∈ wordKeys then (word? value).isSome
  else if key = "level" then (level? value).isSome
  else if key ∈ timeKeys then (time? value).isSome
  else true

section Values

variable (key : String) (value : Json)

theorem toOption_decodeText : (decodeText key value).toOption = text? value := by
  cases value <;> rfl

theorem toOption_decodeWord : (decodeWord key value).toOption = word? value := by
  cases value <;> rfl

theorem toOption_decodeLevel : (decodeLevel key value).toOption = level? value := by
  cases value with
  | string s =>
      simp only [decodeLevel, level?]
      cases Level.read? s.toList <;> rfl
  | _ => rfl

theorem toOption_decodeTime : (decodeTime key value).toOption = time? value := by
  cases value with
  | number n =>
      simp only [decodeTime, time?]
      cases Instant.ofMillis? n.toBinary64.truncated <;> rfl
  | string s =>
      simp only [decodeTime, time?]
      cases Rfc3339.read s.toList <;> rfl
  | _ => rfl

variable {key value} {error : FieldError}

theorem key_of_decodeText (h : decodeText key value = .error error) : error.key = key := by
  cases value <;> cases h <;> rfl

theorem key_of_decodeWord (h : decodeWord key value = .error error) : error.key = key := by
  cases value <;> cases h <;> rfl

theorem key_of_decodeLevel (h : decodeLevel "level" value = .error error) :
    error.key = "level" := by
  cases value with
  | string s =>
      simp only [decodeLevel] at h
      split at h <;> cases h
      rfl
  | _ => cases h <;> rfl

theorem key_of_decodeTime (h : decodeTime key value = .error error) : error.key = key := by
  cases value with
  | number n =>
      simp only [decodeTime] at h
      split at h <;> cases h
      rfl
  | string s =>
      simp only [decodeTime] at h
      split at h <;> cases h
      rfl
  | _ => cases h; rfl

end Values

/-! ## One member -/

/-- What a member says about the attribute of a key: nothing when its own key is another one or its
value does not fit. -/
def told {α : Type} (key : String) (read? : Json → Option α) (member : String × Json) : Option α :=
  if member.1 = key then read? member.2 else none

/-- What a member says about the time. -/
def timeTold (member : String × Json) : Option Instant :=
  (told "timestamp" time? member).or (told "time" time? member)

section Step

variable {α : Type} (set : Record → α → Record) (state : Decoded)

theorem fst_store (e : Except FieldError α) :
    (store set state e).1 = (e.toOption.map (set state.1)).getD state.1 := by
  cases e <;> rfl

theorem keys_store {e : Except FieldError α} {key : String}
    (h : ∀ error, e = .error error → error.key = key) :
    (store set state e).2.map FieldError.key =
      state.2.map FieldError.key ++ if e.toOption.isSome then [] else [key] := by
  cases e with
  | ok a => simp [store, Except.toOption]
  | error error => simp [store, Except.toOption, h error rfl]

/-- The record after a member: the attribute of its key is set when its value fits, and the member of
a key that is not known is kept. -/
theorem fst_decodeMember (m : String × Json) :
    (decodeMember state m.1 m.2).1 =
      { state.1 with
        time := (timeTold m).or state.1.time
        level := (told "level" level? m).getD state.1.level
        hostname := (told "hostname" text? m).getD state.1.hostname
        name := (told "name" text? m).getD state.1.name
        pid := (told "pid" word? m).getD state.1.pid
        tid := (told "tid" word? m).getD state.1.tid
        topic := (told "topic" text? m).getD state.1.topic
        scope := (told "scope" text? m).getD state.1.scope
        message := (told "msg" text? m).getD state.1.message
        fields :=
          if isExtension m.1 ∧ m.2.kind = .field then state.1.fields.insert m.1 m.2
          else state.1.fields
        blobs :=
          if isExtension m.1 ∧ m.2.kind = .blob then state.1.blobs.insert m.1 m.2
          else state.1.blobs } := by
  obtain ⟨key, value⟩ := m
  dsimp only
  unfold decodeMember
  split
  case h_13 =>
    have hextension : isExtension key = true := by
      simp_all [isExtension, attributeKeys, textKeys, wordKeys, timeKeys, silentKeys]
    simp only [told, timeTold, hextension, insert, true_and]
    cases hkind : value.kind <;> simp_all
  case h_11 | h_12 =>
    simp [told, timeTold, isExtension, attributeKeys, textKeys, wordKeys, timeKeys, silentKeys]
  case h_6 | h_7 =>
    simp only [fst_store, toOption_decodeWord]
    cases h : word? value <;>
      simp [h, told, timeTold, isExtension, attributeKeys, textKeys, wordKeys]
  case h_8 =>
    simp only [fst_store, toOption_decodeLevel]
    cases h : level? value <;>
      simp [h, told, timeTold, isExtension, attributeKeys, textKeys, wordKeys]
  case h_9 | h_10 =>
    simp only [fst_store, toOption_decodeTime]
    cases h : time? value <;>
      simp [h, told, timeTold, isExtension, attributeKeys, textKeys, wordKeys, timeKeys]
  all_goals
    simp only [fst_store, toOption_decodeText]
    cases h : text? value <;>
      simp [h, told, timeTold, isExtension, attributeKeys, textKeys]

/-- The errors after a member: one more, with its key, when its value does not fit. -/
theorem keys_decodeMember (m : String × Json) :
    (decodeMember state m.1 m.2).2.map FieldError.key =
      state.2.map FieldError.key ++ if fits m.1 m.2 then [] else [m.1] := by
  obtain ⟨key, value⟩ := m
  dsimp only
  unfold decodeMember
  split
  case h_13 =>
    have hfits : fits key value = true := by
      simp_all [fits, textKeys, wordKeys, timeKeys]
    simp [hfits]
  case h_8 =>
    rw [keys_store _ _ fun _ => key_of_decodeLevel, toOption_decodeLevel]
    simp [fits, textKeys, wordKeys]
  case h_11 | h_12 => simp [fits, textKeys, wordKeys, timeKeys]
  case h_6 | h_7 =>
    rw [keys_store _ _ fun _ => key_of_decodeWord, toOption_decodeWord]
    simp [fits, textKeys, wordKeys]
  case h_9 | h_10 =>
    rw [keys_store _ _ fun _ => key_of_decodeTime, toOption_decodeTime]
    simp [fits, textKeys, wordKeys, timeKeys]
  all_goals
    rw [keys_store _ _ fun _ => key_of_decodeText, toOption_decodeText]
    simp [fits, textKeys]

/-- The extensions of a kind. -/
def kept (kind : FieldKind) (r : Record) : Dictionary Json :=
  match kind with
  | .field => r.fields
  | .blob => r.blobs

/-- Whether a member is an extension of a kind. -/
def keeps (kind : FieldKind) (m : String × Json) : Bool :=
  decide (m.2.kind = kind) && isExtension m.1

/-- The extensions of a kind after a member. -/
theorem kept_decodeMember (kind : FieldKind) (m : String × Json) :
    kept kind (decodeMember state m.1 m.2).1 =
      if keeps kind m then (kept kind state.1).insert m.1 m.2 else kept kind state.1 := by
  rw [fst_decodeMember]
  cases kind <;> simp [kept, keeps, and_comm]

end Step

/-! ## A run over members -/

/-- The state after several members. -/
def decodeFrom (state : Decoded) (members : List (String × Json)) : Decoded :=
  members.foldl (fun state m => decodeMember state m.1 m.2) state

theorem decodeFrom_cons (state : Decoded) (m : String × Json) (members : List (String × Json)) :
    decodeFrom state (m :: members) = decodeFrom (decodeMember state m.1 m.2) members := rfl

section Run

variable (members : List (String × Json)) (state : Decoded)

/-- What each member sets or leaves is, after a run, what the last member says that says anything. -/
theorem foldl_told {α : Type} (get : Record → Option α) (said : String × Json → Option α)
    (step : ∀ state m, get (decodeMember state m.1 m.2).1 = (said m).or (get state.1)) :
    get (decodeFrom state members).1 = (members.reverse.findSome? said).or (get state.1) := by
  induction members generalizing state with
  | nil => rfl
  | cons m members ih =>
      rw [decodeFrom_cons, ih, step, List.reverse_cons, List.findSome?_append,
        List.findSome?_singleton, Option.or_assoc]

theorem kept_decodeFrom (kind : FieldKind) :
    kept kind (decodeFrom state members).1 =
      (members.filter (keeps kind)).foldl (fun d entry => d.insert entry.1 entry.2)
        (kept kind state.1) := by
  induction members generalizing state with
  | nil => rfl
  | cons m members ih =>
      rw [decodeFrom_cons, ih, kept_decodeMember, List.filter_cons]
      split <;> rfl

theorem keys_decodeFrom :
    (decodeFrom state members).2.map FieldError.key =
      state.2.map FieldError.key ++ keys (members.filter fun m => !fits m.1 m.2) := by
  induction members generalizing state with
  | nil => simp [decodeFrom, keys]
  | cons m members ih =>
      rw [decodeFrom_cons, ih, keys_decodeMember, List.filter_cons]
      cases fits m.1 m.2 <;> simp [keys]

end Run

/-! ## Errors of a key -/

/-- The errors that a member makes. -/
def complaints (m : String × Json) : List FieldError := (decodeMember ({}, []) m.1 m.2).2

theorem snd_store {α : Type} (set : Record → α → Record) (state : Decoded)
    (e : Except FieldError α) :
    (store set state e).2 = state.2 ++ (store set ({}, []) e).2 := by
  cases e with
  | ok a => exact (List.append_nil _).symm
  | error error => rfl

/-- What a member complains about does not depend on the members before it. -/
theorem snd_decodeMember (state : Decoded) (m : String × Json) :
    (decodeMember state m.1 m.2).2 = state.2 ++ complaints m := by
  obtain ⟨key, value⟩ := m
  unfold complaints decodeMember
  dsimp only
  split
  case h_11 | h_12 | h_13 => exact (List.append_nil _).symm
  all_goals exact snd_store _ _ _

theorem snd_decodeFrom (members : List (String × Json)) (state : Decoded) :
    (decodeFrom state members).2 = state.2 ++ members.flatMap complaints := by
  induction members generalizing state with
  | nil => exact (List.append_nil _).symm
  | cons m members ih =>
      rw [decodeFrom_cons, ih, snd_decodeMember, List.append_assoc, List.flatMap_cons]

/-- The errors of an object are those of its members, in their order. -/
theorem snd_decode (o : Dictionary Json) : (decode o).2 = o.flatMap complaints :=
  snd_decodeFrom o ({}, [])

theorem key_of_mem_complaints {m : String × Json} {e : FieldError} (h : e ∈ complaints m) :
    e.key = m.1 := by
  have hmem : e.key ∈ (complaints m).map FieldError.key := List.mem_map_of_mem h
  rw [complaints, keys_decodeMember, List.map_nil, List.nil_append] at hmem
  split at hmem
  · cases hmem
  · exact List.mem_singleton.1 hmem

/-- The errors of an object that are about a key. -/
def errorsOf (key : String) (o : Dictionary Json) : List FieldError :=
  (decode o).2.filter fun e => e.key = key

/-- They are those of the member with that key. -/
theorem errorsOf_eq {o : Dictionary Json} (h : Sorted o) (key : String) :
    errorsOf key o = (find? key o).elim [] fun value => complaints (key, value) := by
  rw [errorsOf, snd_decode]
  have hnodup := h.nodup_keys
  clear h
  induction o with
  | nil => rfl
  | cons m o ih =>
      obtain ⟨hfirst, hrest⟩ := List.nodup_cons.1 hnodup
      rw [List.flatMap_cons, List.filter_append, ih hrest, find?]
      by_cases hkey : key = m.1
      · have hnone : find? m.1 o = none := find?_eq_none_iff.2 hfirst
        have hown : (complaints m).filter (fun e => e.key = m.1) = complaints m :=
          List.filter_eq_self.2 fun e he => decide_eq_true (key_of_mem_complaints he)
        subst hkey
        rw [hnone, if_pos rfl, hown]
        exact List.append_nil _
      · have hnone : (complaints m).filter (fun e => e.key = key) = [] := by
          refine List.filter_eq_nil_iff.2 fun e he => ?_
          rw [key_of_mem_complaints he, decide_eq_true_eq]
          exact Ne.symm hkey
        rw [hnone, if_neg hkey, List.nil_append]

/-! ## Objects -/

attribute [ext] Record

section Object

variable {o : Dictionary Json}

/-- What the member of a key says, or else a default. -/
def valueAt {α : Type} (key : String) (read? : Json → Option α) (default : α)
    (o : Dictionary Json) : α :=
  ((find? key o).bind read?).getD default

/-- Of an object, which has one member for each key, the last member that says anything about an
attribute is the one with its key. -/
theorem findSome?_told {α : Type} (h : (keys o).Nodup) (key : String) (read? : Json → Option α) :
    o.reverse.findSome? (told key read?) = (find? key o).bind read? := by
  induction o with
  | nil => rfl
  | cons m o ih =>
      obtain ⟨hfirst, hrest⟩ := List.nodup_cons.1 h
      rw [List.reverse_cons, List.findSome?_append, List.findSome?_singleton, ih hrest, find?, told]
      by_cases hkey : m.1 = key
      · subst hkey
        rw [find?_eq_none_iff.2 hfirst, if_pos rfl, if_pos rfl]
        rfl
      · rw [if_neg hkey, if_neg (Ne.symm hkey), Option.or_none]

/-- The time stands under two keys. The member of `time` comes before that of `timestamp`, so the
second one decides when both say a time. -/
theorem findSome?_timeTold (h : Sorted o) :
    o.reverse.findSome? timeTold =
      ((find? "timestamp" o).bind time?).or ((find? "time" o).bind time?) := by
  induction o with
  | nil => rfl
  | cons m o ih =>
      obtain ⟨hfirst, hrest⟩ := sorted_cons.1 h
      have hnone : ∀ key : String, Text.precedes m.1.toList key.toList = false →
          find? key o = none := by
        intro key hkey
        refine find?_eq_none_iff.2 fun hmem => ?_
        obtain ⟨other, hother, rfl⟩ := List.mem_map.1 hmem
        rw [hfirst other hother] at hkey
        cases hkey
      rw [List.reverse_cons, List.findSome?_append, List.findSome?_singleton, ih hrest, find?, find?,
        timeTold, told, told]
      by_cases hstamp : m.1 = "timestamp"
      · rw [hnone "timestamp" (by rw [hstamp]; rfl), hnone "time" (by rw [hstamp]; rfl)]
        simp [hstamp]
      · by_cases htime : m.1 = "time"
        · rw [hnone "time" (by rw [htime]; rfl)]
          simp [htime]
        · simp [hstamp, htime, Ne.symm hstamp, Ne.symm htime]

/-- An attribute that is set by the member of one key is read off that member. -/
theorem get_decode {α : Type} (get : Record → α) {key : String} {read? : Json → Option α}
    (h : Sorted o)
    (step : ∀ state m, get (decodeMember state m.1 m.2).1 = (told key read? m).getD (get state.1)) :
    get (decode o).1 = valueAt key read? (get {}) o := by
  have hrun := foldl_told o ({}, []) (fun r => some (get r)) (told key read?)
    fun state m => by rw [step, Option.or_some]
  rw [findSome?_told h.nodup_keys, Option.or_some] at hrun
  exact Option.some.inj hrun

theorem time_decode (h : Sorted o) :
    (decode o).1.time = ((find? "timestamp" o).bind time?).or ((find? "time" o).bind time?) := by
  have hrun := foldl_told o ({}, []) time timeTold fun state m => by
    rw [fst_decodeMember]
  rwa [findSome?_timeTold h, Option.or_none] at hrun

/-- The extensions of a kind are the dictionary of the members that are such extensions. -/
theorem kept_decode_eq_ofEntries (members : List (String × Json)) (kind : FieldKind) :
    kept kind (decode members).1 = ofEntries (members.filter (keeps kind)) := by
  have hrun := kept_decodeFrom members ({}, []) kind
  have hempty : kept kind {} = [] := by cases kind <;> rfl
  rw [hempty] at hrun
  exact hrun

/-- The extensions of a kind are the members that are such extensions. -/
theorem kept_decode (h : Sorted o) (kind : FieldKind) :
    kept kind (decode o).1 = o.filter (keeps kind) :=
  (kept_decode_eq_ofEntries o kind).trans (ofEntries_of_sorted (h.filter _))

theorem source_decode : (decode o).1.source = "" := by
  have hrun := foldl_told o ({}, []) (fun r => some r.source) (fun _ => none)
    fun state m => by
      rw [fst_decodeMember]
      rfl
  rw [List.findSome?_eq_none_iff.2 fun _ _ => rfl, Option.none_or] at hrun
  exact Option.some.inj hrun

/-- The record that an object describes. -/
def described (o : Dictionary Json) : Record where
  time := ((find? "timestamp" o).bind time?).or ((find? "time" o).bind time?)
  level := valueAt "level" level? .info o
  hostname := valueAt "hostname" text? "" o
  name := valueAt "name" text? "" o
  pid := valueAt "pid" word? 0 o
  tid := valueAt "tid" word? 0 o
  topic := valueAt "topic" text? "" o
  scope := valueAt "scope" text? "" o
  message := valueAt "msg" text? "" o
  fields := o.filter (keeps .field)
  blobs := o.filter (keeps .blob)

/-- An object decodes to the record that it describes. -/
theorem fst_decode (h : Sorted o) : (decode o).1 = described o := by
  refine Record.ext (time_decode h) ?_ ?_ ?_ ?_ ?_ ?_ ?_ ?_ (kept_decode h .field)
    (kept_decode h .blob) source_decode
  · exact get_decode level h fun _ _ => by rw [fst_decodeMember]
  · exact get_decode hostname h fun _ _ => by rw [fst_decodeMember]
  · exact get_decode name h fun _ _ => by rw [fst_decodeMember]
  · exact get_decode pid h fun _ _ => by rw [fst_decodeMember]
  · exact get_decode tid h fun _ _ => by rw [fst_decodeMember]
  · exact get_decode topic h fun _ _ => by rw [fst_decodeMember]
  · exact get_decode scope h fun _ _ => by rw [fst_decodeMember]
  · exact get_decode message h fun _ _ => by rw [fst_decodeMember]

/-- The errors of an object have the keys of the members whose values do not fit. -/
theorem keys_decode (o : Dictionary Json) :
    (decode o).2.map FieldError.key = keys (o.filter fun m => !fits m.1 m.2) :=
  keys_decodeFrom o ({}, [])

/-- A value that fits its key is no error. -/
theorem key_ne_of_fits (h : Sorted o) {key : String} {value : Json}
    (hvalue : find? key o = some value) (hfits : fits key value = true) :
    ∀ e ∈ (decode o).2, e.key ≠ key := by
  intro e he hkey
  have hmem : e.key ∈ keys (o.filter fun m => !fits m.1 m.2) :=
    keys_decode o ▸ List.mem_map_of_mem he
  obtain ⟨m, hm, hname⟩ := List.mem_map.1 hmem
  obtain ⟨hmo, hbad⟩ := List.mem_filter.1 hm
  have hfound : find? key o = some m.2 :=
    (find?_eq_some_iff h.nodup_keys).2 (by rw [← hkey, ← hname]; exact hmo)
  rw [hvalue] at hfound
  obtain rfl := Option.some.inj hfound
  rw [hname, hkey, hfits] at hbad
  cases hbad

/-- A value is kept as a field when it has no parts or is the empty list. -/
theorem kind_eq_field_iff {value : Json} :
    value.kind = .field ↔ value.isComposite = false ∨ value = .list [] := by
  cases value with
  | list items => cases items <;> simp [Json.kind, Json.isComposite]
  | _ => simp [Json.kind, Json.isComposite]

/-- A member is kept as one of the two kinds when it is an extension. -/
theorem perm_keeps (o : Dictionary Json) :
    (o.filter (keeps .field) ++ o.filter (keeps .blob)).Perm (o.filter fun m => isExtension m.1) := by
  have hsplit := List.filter_append_perm (fun m => decide (m.2.kind = .field))
    (o.filter fun m => isExtension m.1)
  have hother : ∀ m : String × Json,
      (!decide (m.2.kind = .field)) = decide (m.2.kind = .blob) := by
    intro m
    cases m.2.kind <;> rfl
  simp only [List.filter_filter, hother] at hsplit
  exact hsplit

theorem kind_of_mem_keeps {kind : FieldKind} {m : String × Json} (h : m ∈ o.filter (keeps kind)) :
    m.2.kind = kind := by
  have hkeeps := (List.mem_filter.1 h).2
  simp only [keeps, Bool.and_eq_true, decide_eq_true_eq] at hkeeps
  exact hkeeps.1

/-- **What an object decodes to.** The errors have the keys of the members whose values do not fit,
in ascending order, each once. Every attribute but the time is read off the member with its key,
whatever the other members are, and has its default without a value that fits. Of the two keys of
the time the later one is asked first. All other members that are not silent are kept as they are:
once, as a field when the value has no parts or is the empty list and as a blob otherwise. -/
theorem decode_members (h : Sorted o) :
    let r := (decode o).1
    let errors := (decode o).2
    (errors.map FieldError.key = keys (o.filter fun m => !fits m.1 m.2) ∧
      (errors.map FieldError.key).Pairwise fun a b => Text.precedes a.toList b.toList = true) ∧
    (r.hostname = valueAt "hostname" text? "" o ∧
      r.name = valueAt "name" text? "" o ∧
      r.topic = valueAt "topic" text? "" o ∧
      r.scope = valueAt "scope" text? "" o ∧
      r.message = valueAt "msg" text? "" o ∧
      r.pid = valueAt "pid" word? 0 o ∧
      r.tid = valueAt "tid" word? 0 o ∧
      r.level = valueAt "level" level? .info o ∧
      r.time = ((find? "timestamp" o).bind time?).or ((find? "time" o).bind time?)) ∧
    ((r.fields ++ r.blobs).Perm (o.filter fun m => isExtension m.1) ∧
      (∀ m ∈ r.fields, m.2.isComposite = false ∨ m.2 = .list []) ∧
      ∀ m ∈ r.blobs, ¬(m.2.isComposite = false ∨ m.2 = .list [])) := by
  simp only
  have hordered : (keys (o.filter fun m => !fits m.1 m.2)).Pairwise
      fun a b => Text.precedes a.toList b.toList = true :=
    List.Pairwise.map _ (fun _ _ hab => hab) (List.Pairwise.filter _ h)
  rw [keys_decode, fst_decode h]
  refine ⟨⟨rfl, hordered⟩, ⟨rfl, rfl, rfl, rfl, rfl, rfl, rfl, rfl, rfl⟩, perm_keeps o,
    fun m hm => ?_, fun m hm => ?_⟩
  · exact kind_eq_field_iff.1 (kind_of_mem_keeps hm)
  · rw [← kind_eq_field_iff, kind_of_mem_keeps hm]
    simp

/-- A process id that is no number does not keep the host name from being read, nor does a bad
`timestamp` keep the time of `time` from being taken. -/
theorem decode_members_bad_timestamp :
    let millis : Json := .number (.whole ⟨1500, by decide, by decide⟩)
    let o : Dictionary Json := [("hostname", .string "web"), ("pid", .string "12"),
      ("tags", .list [.null]), ("time", millis), ("timestamp", .bool true), ("v", .null)]
    Sorted o ∧ (decode o).2.map FieldError.key = ["pid", "timestamp"] ∧
      (decode o).1.hostname = "web" ∧ (decode o).1.pid = 0 ∧
      (decode o).1.time = some ⟨1, 500000000, by decide⟩ ∧
      ((decode o).1.fields ++ (decode o).1.blobs).Perm [("tags", .list [.null])] := by
  intro millis o
  have hsorted : Sorted o := by
    unfold Sorted
    decide
  obtain ⟨⟨hkeys, -⟩, ⟨hhostname, -, -, -, -, hpid, -, -, htime⟩, hextensions, -, -⟩ :=
    decode_members hsorted
  exact ⟨hsorted, hkeys.trans (by decide +kernel), hhostname, hpid, htime.trans (by decide +kernel),
    hextensions⟩

end Object

end Record

end LogLens
