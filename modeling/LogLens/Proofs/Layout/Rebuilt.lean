import LogLens.Layout.Line
import LogLens.Proofs.Json.NormalNumber
import LogLens.Proofs.Record.Ids
import LogLens.Proofs.Time.Rfc3339

/-!
# Records that are read off their rebuilt objects

A record that comes from no line is written as an object that is put together again from its
attributes and extensions. Decoding that object gives the record back, whole milliseconds of its time
aside.

That is so for records that an object can describe: their extensions lie under keys of their own and
in the dictionary of their kind, their ids are integers that binary64 holds, and their time is one
that a timestamp or a number of milliseconds names. The rebuilt object then holds under the key of
each attribute what that attribute is, or nothing for a default, and under every other key the
extension with that key.

## Main results

* `recoverable_decode` — a decoded record is one that an object can describe.
* `find?_attributeMembers`, `mem_rebuilt` — what a rebuilt object holds.
* `decode_rebuilt`, `decode_rebuilt_of_parse`, `decode_object` — decoding a rebuilt object gives the
  record back.
-/

namespace LogLens

open Dictionary

namespace Record

/-! ## Records that an object can describe -/

/-- The record holds what an object can say. -/
structure Recoverable (r : Record) : Prop where
  sorted : ∀ kind, Sorted (kept kind r)
  keeps : ∀ kind, ∀ m ∈ kept kind r, keeps kind m = true
  nodup_keys : (keys (r.fields ++ r.blobs)).Nodup
  pid : Survives r.pid
  tid : Survives r.tid
  time : ∀ t, r.time = some t → t.EndsMinute
  source : r.source = ""

theorem endsMinute_time? {value : Json} {t : Instant} (h : time? value = some t) :
    t.EndsMinute := by
  cases value with
  | number n => exact Instant.endsMinute_ofMillis? h
  | string s =>
      rw [time?] at h
      cases hread : Rfc3339.read s.toList with
      | error e => rw [hread] at h; cases h
      | ok t' =>
          rw [hread] at h
          obtain rfl := Option.some.inj h
          exact Rfc3339.endsMinute_read hread
  | _ => cases h

section Decoded

variable {o : Dictionary Json}

/-- What holds of a default and of every value that is read holds of the value at a key. -/
theorem valueAt_of {α : Type} {P : α → Prop} {key : String} {read? : Json → Option α}
    {default : α} (hdefault : P default)
    (hread : ∀ value a, (key, value) ∈ o → read? value = some a → P a) :
    P (valueAt key read? default o) := by
  unfold valueAt
  cases hfind : find? key o with
  | none => exact hdefault
  | some value =>
      cases hvalue : read? value with
      | none => simpa [hvalue] using hdefault
      | some a => simpa [hvalue] using hread value a (mem_of_find? hfind) hvalue

theorem survives_valueAt (hnumbers : ∀ m ∈ o, ∀ n, m.2 = .number n → n.InNormalForm)
    (key : String) : Survives (valueAt key word? 0 o) := by
  refine valueAt_of survives_zero fun value id hmem hread => ?_
  cases value with
  | number n =>
      obtain rfl := Option.some.inj hread
      exact survives_wordOf (hnumbers _ hmem n rfl)
  | _ => cases hread

/-- A record that an object describes can be described by one. -/
theorem recoverable_decode (h : Sorted o)
    (hnumbers : ∀ m ∈ o, ∀ n, m.2 = .number n → n.InNormalForm) :
    (decode o).1.Recoverable := by
  have hkept := kept_decode h
  refine
    { sorted := fun kind => ?_
      keeps := fun kind m hm => ?_
      nodup_keys := ?_
      pid := ?_
      tid := ?_
      time := fun t ht => ?_
      source := source_decode }
  · rw [hkept]
    exact List.Pairwise.filter _ h
  · rw [hkept] at hm
    exact (List.mem_filter.1 hm).2
  · have hextensions : Sorted (o.filter fun m => isExtension m.1) := List.Pairwise.filter _ h
    rw [fst_decode h]
    exact (keys_perm (perm_keeps o)).nodup_iff.2 hextensions.nodup_keys
  · rw [fst_decode h]
    exact survives_valueAt hnumbers "pid"
  · rw [fst_decode h]
    exact survives_valueAt hnumbers "tid"
  · rw [time_decode h] at ht
    rcases Option.or_eq_some_iff.1 ht with hstamp | ⟨-, htime⟩
    · obtain ⟨value, -, hvalue⟩ := Option.bind_eq_some_iff.1 hstamp
      exact endsMinute_time? hvalue
    · obtain ⟨value, -, hvalue⟩ := Option.bind_eq_some_iff.1 htime
      exact endsMinute_time? hvalue

end Decoded

end Record

namespace Layout

open Record

/-! ## What a rebuilt object holds -/

section Members

variable (key other value : String) (id : Int64) (members : Dictionary Json)

theorem find?_textMember :
    find? key (textMember other value members) =
      if key = other ∧ value ≠ "" then some (.string value) else find? key members := by
  unfold textMember
  by_cases hvalue : value = ""
  · simp [hvalue]
  · simp [hvalue, find?_insert]

theorem find?_wordMember :
    find? key (wordMember other id members) =
      if key = other ∧ 0 < id.toInt then some (.number (.whole (Whole.ofInt64 id)))
      else find? key members := by
  unfold wordMember
  by_cases hid : 0 < id.toInt
  · simp [hid, find?_insert]
  · simp [hid]

end Members

theorem sorted_attributeMembers (r : Record) : Sorted (attributeMembers r) := by
  have htext (key value : String) {members : Dictionary Json} (h : Sorted members) :
      Sorted (textMember key value members) := by
    unfold textMember
    split
    · exact h
    · exact sorted_insert _ _ h
  have hword (key : String) (id : Int64) {members : Dictionary Json} (h : Sorted members) :
      Sorted (wordMember key id members) := by
    unfold wordMember
    split
    · exact sorted_insert _ _ h
    · exact h
  unfold attributeMembers
  refine sorted_insert _ _ (hword _ _ (hword _ _ (htext _ _ (htext _ _ (htext _ _ (htext _ _
    (sorted_insert _ _ ?_)))))))
  cases r.time with
  | none => exact sorted_nil
  | some t => exact sorted_insert _ _ sorted_nil

section Rebuilt

variable {r : Record}

theorem find?_attributeMembers (r : Record) (key : String) :
    find? key (attributeMembers r) =
      if key = "msg" then some (.string r.message)
      else if key = "tid" ∧ 0 < r.tid.toInt then some (.number (.whole (Whole.ofInt64 r.tid)))
      else if key = "pid" ∧ 0 < r.pid.toInt then some (.number (.whole (Whole.ofInt64 r.pid)))
      else if key = "scope" ∧ r.scope ≠ "" then some (.string r.scope)
      else if key = "topic" ∧ r.topic ≠ "" then some (.string r.topic)
      else if key = "hostname" ∧ r.hostname ≠ "" then some (.string r.hostname)
      else if key = "name" ∧ r.name ≠ "" then some (.string r.name)
      else if key = "level" then some (levelNumber r.level)
      else if key = "time" then r.time.map fun t => .string (Rfc3339.write 3 t)
      else none := by
  cases htime : r.time <;>
    simp [attributeMembers, htime, find?_insert, find?_wordMember, find?_textMember, find?]

/-- The members of attributes have the keys of attributes. -/
theorem find?_attributeMembers_of_isExtension (r : Record) {key : String}
    (h : isExtension key = true) : find? key (attributeMembers r) = none := by
  rw [find?_attributeMembers]
  simp [isExtension, attributeKeys, textKeys, wordKeys, timeKeys] at h
  simp [h]

theorem isExtension_of_mem (h : r.Recoverable) {key : String}
    (hkey : key ∈ keys (r.fields ++ r.blobs)) : isExtension key = true := by
  obtain ⟨m, hm, rfl⟩ := List.mem_map.1 hkey
  have hkeeps : ∃ kind, keeps kind m = true := by
    rcases List.mem_append.1 hm with hfield | hblob
    · exact ⟨.field, h.keeps .field m hfield⟩
    · exact ⟨.blob, h.keeps .blob m hblob⟩
  obtain ⟨kind, hkind⟩ := hkeeps
  exact (Bool.and_eq_true_iff.1 hkind).2

theorem find?_rebuilt (h : r.Recoverable) (key : String) :
    find? key (rebuilt r) =
      if isExtension key then find? key (r.fields ++ r.blobs) else find? key (attributeMembers r) := by
  have hreverse : find? key (r.fields ++ r.blobs).reverse = find? key (r.fields ++ r.blobs) :=
    (find?_perm (List.reverse_perm _).symm h.nodup_keys key).symm
  rw [rebuilt, find?_foldl, hreverse]
  split
  · next hextension => rw [find?_attributeMembers_of_isExtension r hextension, Option.or_none]
  · next hextension =>
      rw [find?_eq_none_iff.2 (mt (isExtension_of_mem h) hextension), Option.none_or]

theorem sorted_rebuilt (r : Record) : Sorted (rebuilt r) :=
  sorted_foldl _ (sorted_attributeMembers r)

/-- The extensions of a rebuilt object are those of the record. -/
theorem filter_rebuilt (h : r.Recoverable) (kind : FieldKind) :
    (rebuilt r).filter (keeps kind) = kept kind r := by
  have hsorted : Sorted ((rebuilt r).filter (keeps kind)) :=
    List.Pairwise.filter _ (sorted_rebuilt r)
  refine hsorted.eq_of_mem_iff (h.sorted kind) fun m => ?_
  have hrebuilt : isExtension m.1 = true → (m ∈ rebuilt r ↔ m ∈ r.fields ++ r.blobs) := by
    intro hextension
    rw [← find?_eq_some_iff (sorted_rebuilt r).nodup_keys, find?_rebuilt h, if_pos hextension,
      find?_eq_some_iff h.nodup_keys]
  rw [List.mem_filter]
  constructor
  · rintro ⟨hmem, hkeeps⟩
    obtain ⟨hkind, hextension⟩ := Bool.and_eq_true_iff.1 hkeeps
    have hother : ∀ other, m ∈ kept other r → m ∈ kept kind r := by
      intro other hm
      have hsame := (Bool.and_eq_true_iff.1 (h.keeps other m hm)).1
      rwa [← of_decide_eq_true hkind, of_decide_eq_true hsame]
    rcases List.mem_append.1 ((hrebuilt hextension).1 hmem) with hfield | hblob
    · exact hother .field hfield
    · exact hother .blob hblob
  · intro hmem
    have hkeeps := h.keeps kind m hmem
    refine ⟨(hrebuilt (Bool.and_eq_true_iff.1 hkeeps).2).2 ?_, hkeeps⟩
    cases kind with
    | field => exact List.mem_append_left _ hmem
    | blob => exact List.mem_append_right _ hmem

/-! ## Reading it again -/

theorem valueAt_text {members : Dictionary Json} {key value : String}
    (h : find? key members = if value ≠ "" then some (.string value) else none) :
    valueAt key text? "" members = value := by
  rw [valueAt, h]
  by_cases hvalue : value = "" <;> simp [hvalue, text?]

theorem valueAt_word {members : Dictionary Json} {key : String} {id : Int64} (hid : 0 ≤ id.toInt)
    (hsurvives : Survives id)
    (h : find? key members =
      if 0 < id.toInt then some (.number (.whole (Whole.ofInt64 id))) else none) :
    valueAt key word? 0 members = id := by
  rw [valueAt, h]
  by_cases hpositive : 0 < id.toInt
  · rw [if_pos hpositive]
    refine Int64.toInt_inj.1 ?_
    exact (toInt_wordOf _).trans hsurvives
  · rw [if_neg hpositive]
    have hzero : id.toInt = (0 : Int64).toInt := by
      have hvalue : (0 : Int64).toInt = 0 := rfl
      omega
    exact (Int64.toInt_inj.1 hzero).symm

theorem level?_levelNumber (level : Level) : level? (levelNumber level) = some level := by
  have hsmall : level.number.natAbs < 2 ^ 53 := by cases level <;> decide
  have hvalue : ((Whole.ofInt? level.number).getD default).value = level.number := by
    cases level <;> rfl
  have hclamped : Binary64.clamped level.number = level.number := by
    cases level <;> rfl
  have htruncated := Binary64.truncated_ofInt_short (Binary64.isShort_of_lt hsmall)
    (Nat.lt_trans hsmall (by decide))
  rw [levelNumber, level?, Number.toBinary64, hvalue, htruncated, hclamped, Level.ofNumber_number]

/-- The years that timestamps write with four digits. -/
def HasShortYear (t : Instant) : Prop :=
  0 ≤ (Clockface.of 0 t).date.year ∧ (Clockface.of 0 t).date.year ≤ 9999

theorem time?_write {t : Instant} (hleap : t.EndsMinute) (hyear : HasShortYear t) :
    time? (.string (Rfc3339.write 3 t)) = some t.wholeMillis := by
  rw [time?, Rfc3339.read_write hleap hyear]
  rfl

variable (h : r.Recoverable) (hpid : 0 ≤ r.pid.toInt) (htid : 0 ≤ r.tid.toInt)
  (hyear : ∀ t, r.time = some t → HasShortYear t)

include h hpid htid hyear in
theorem described_rebuilt :
    described (rebuilt r) = { r with time := r.time.map Instant.wholeMillis } := by
  have hfind (key : String) (hkey : isExtension key = false) :
      find? key (rebuilt r) = find? key (attributeMembers r) := by
    rw [find?_rebuilt h, hkey]
    rfl
  refine Record.ext ?_ ?_ ?_ ?_ ?_ ?_ ?_ ?_ ?_ (filter_rebuilt h .field) (filter_rebuilt h .blob)
    h.source.symm
  · change ((find? "timestamp" (rebuilt r)).bind time?).or ((find? "time" (rebuilt r)).bind time?) =
      r.time.map Instant.wholeMillis
    rw [hfind _ (by decide), hfind _ (by decide)]
    cases htime : r.time with
    | none => simp [find?_attributeMembers, htime]
    | some t => simp [find?_attributeMembers, htime, time?_write (h.time t htime) (hyear t htime)]
  · change valueAt "level" level? .info (rebuilt r) = r.level
    rw [valueAt, hfind _ (by decide)]
    simp [find?_attributeMembers, level?_levelNumber]
  · exact valueAt_text (by rw [hfind _ (by decide)]; simp [find?_attributeMembers])
  · exact valueAt_text (by rw [hfind _ (by decide)]; simp [find?_attributeMembers])
  · exact valueAt_word hpid h.pid (by rw [hfind _ (by decide)]; simp [find?_attributeMembers])
  · exact valueAt_word htid h.tid (by rw [hfind _ (by decide)]; simp [find?_attributeMembers])
  · exact valueAt_text (by rw [hfind _ (by decide)]; simp [find?_attributeMembers])
  · exact valueAt_text (by rw [hfind _ (by decide)]; simp [find?_attributeMembers])
  · change valueAt "msg" text? "" (rebuilt r) = r.message
    rw [valueAt, hfind _ (by decide)]
    simp [find?_attributeMembers, text?]

omit h hpid htid hyear in
theorem fits_of_isExtension {key : String} (hkey : isExtension key = true) (value : Json) :
    fits key value = true := by
  simp [isExtension, attributeKeys] at hkey
  simp [fits, hkey]

include h hyear in
/-- The values of a rebuilt object fit. -/
theorem fits_rebuilt : ∀ m ∈ rebuilt r, fits m.1 m.2 = true := by
  rintro ⟨key, value⟩ hmem
  have hfind := (find?_eq_some_iff (sorted_rebuilt r).nodup_keys).2 hmem
  rw [find?_rebuilt h] at hfind
  split at hfind
  · next hextension => exact fits_of_isExtension hextension value
  · rw [find?_attributeMembers] at hfind
    dsimp only
    by_cases htime : key = "time"
    · subst htime
      simp only [String.reduceEq, if_false, false_and, if_true] at hfind
      obtain ⟨t, ht, rfl⟩ := Option.map_eq_some_iff.1 hfind
      simp [fits, textKeys, wordKeys, timeKeys, time?_write (h.time t ht) (hyear t ht)]
    · split_ifs at hfind <;> obtain rfl := Option.some.inj hfind
      all_goals simp_all [fits, textKeys, wordKeys, text?, word?, level?_levelNumber]

include h hpid htid hyear in
/-- Decoding a rebuilt object gives the record back, with whole milliseconds. -/
theorem decode_rebuilt :
    decode (rebuilt r) = ({ r with time := r.time.map Instant.wholeMillis }, []) := by
  have hrecord := (fst_decode (sorted_rebuilt r)).trans (described_rebuilt h hpid htid hyear)
  have herrors : (decode (rebuilt r)).2 = [] := by
    have hnone : (rebuilt r).filter (fun m => !fits m.1 m.2) = [] :=
      List.filter_eq_nil_iff.2 fun m hm => by simp [fits_rebuilt h hyear m hm]
    refine List.map_eq_nil_iff.1 ((keys_decode (rebuilt r)).trans ?_)
    rw [hnone]
    rfl
  rw [← hrecord, ← herrors]

/-- What a text denotes is an object of this kind, so nothing more is asked of a record that was read
from a text. -/
theorem decode_rebuilt_of_parse {text : String} {o : Dictionary Json}
    (hparse : Json.parse text = .ok (.object o)) (hr : (decode o).1 = r) (hpid : 0 ≤ r.pid.toInt)
    (htid : 0 ≤ r.tid.toInt) (hyear : ∀ t, r.time = some t → HasShortYear t) :
    decode (rebuilt r) = ({ r with time := r.time.map Instant.wholeMillis }, []) := by
  obtain ⟨hsorted, hnumbers⟩ := Json.members_of_parse hparse
  exact decode_rebuilt (hr ▸ recoverable_decode hsorted hnumbers) hpid htid hyear

end Rebuilt

/-- **What the JSON forms of a decoded record say.** A record that an object describes is written by
both JSON forms as an object that describes the same record, without errors and with whole
milliseconds, when its ids are not negative and its time has a year of four digits. -/
theorem decode_object {o : Dictionary Json} (hsorted : Sorted o)
    (hnumbers : ∀ m ∈ o, ∀ n, m.2 = .number n → n.InNormalForm)
    {r : Record} (hr : (decode o).1 = r) (hpid : 0 ≤ r.pid.toInt) (htid : 0 ≤ r.tid.toInt)
    (hyear : ∀ t, r.time = some t → HasShortYear t) :
    ∃ members, object r = .object members ∧
      (∀ view : View, view.mode = .json → render view r = Json.indented 0 (.object members)) ∧
      (∀ view : View, view.mode = .bunyan → render view r = Json.compact (.object members)) ∧
      decode members = ({ r with time := r.time.map Instant.wholeMillis }, []) := by
  have hrecoverable : r.Recoverable := hr ▸ recoverable_decode hsorted hnumbers
  have hobject : object r = .object (rebuilt r) := by
    rw [object, hrecoverable.source]
    rfl
  refine ⟨rebuilt r, hobject, fun view hmode => ?_, fun view hmode => ?_,
    decode_rebuilt hrecoverable hpid htid hyear⟩
  · simp only [render, hmode, hobject]
  · simp only [render, hmode, hobject]

/-- A leap second, a level by name and an extension of each kind. -/
theorem decode_object_leap_second :
    let o : Dictionary Json := [("level", .string "warn"), ("msg", .string "up"),
      ("pid", .number (.whole ⟨12, by decide, by decide⟩)), ("tags", .list [.null]),
      ("time", .string "2016-12-31T23:59:60.123456Z"), ("user", .bool true), ("v", .null)]
    ∃ members, object (decode o).1 = .object members ∧
      decode members = ({ (decode o).1 with
        time := some ⟨1483228799, 1123000000, by decide⟩ }, []) := by
  intro o
  have hsorted : Sorted o := by
    unfold Sorted
    decide
  have hnumbers : ∀ m ∈ o, ∀ n, m.2 = .number n → n.InNormalForm := by
    intro m hm n hn
    simp only [o, List.mem_cons, List.not_mem_nil, or_false] at hm
    rcases hm with rfl | rfl | rfl | rfl | rfl | rfl | rfl <;> cases hn
    trivial
  have htime : (decode o).1.time = some ⟨1483228799, 1123456000, by decide⟩ := by
    decide +kernel
  have hyear : ∀ t, (decode o).1.time = some t → HasShortYear t := by
    intro t ht
    obtain rfl := Option.some.inj (htime.symm.trans ht)
    unfold HasShortYear
    decide
  obtain ⟨members, hobject, -, -, hdecode⟩ :=
    decode_object hsorted hnumbers rfl (by decide +kernel) (by decide +kernel) hyear
  rw [htime] at hdecode
  exact ⟨members, hobject, hdecode⟩

end Layout

end LogLens
