import LogLens.Proofs.Record.Members

/-!
# Extension values that are stored one after the other

Storing an extension value replaces the value of its key in the dictionary of its kind and leaves
the other dictionary alone. So after any number of values each of the two dictionaries holds, under
every key, the last value of its own kind (`find?_kept_stored`), whatever came under that key of the
other kind before or after.

The value that was stored last under a key is therefore always there, but it need not be the only
one. It is when all values that were stored under the key are of one kind, and it is not when they
are of two: an earlier value of the other kind stays, and where the later one is a blob the earlier
field is what the key stands for. The members of an object have keys of their own, so a record that
was decoded has one value for each key.

## Main results

* `find?_kept_stored` — what each of the dictionaries holds under a key.
* `lookup_stored` — the text that a key stands for.
* `hasOnly_decode` — a record that was decoded has one value for each key.
* `stored_hasOnly_iff` — when the value that was stored last is the only one of its key.
* `stored_two_kinds` — a field that hides the blob that was stored after it.
-/

namespace LogLens

open Dictionary

/-- The text of an extension value as its kind is shown in comparisons. -/
def Json.extensionText (v : Json) : String :=
  match v.kind with
  | .field => v.plainText
  | .blob => v.compactText

namespace Record

/-- The record after extension values that are stored one after the other. -/
def stored (entries : List (String × Json)) (r : Record) : Record :=
  entries.foldl (fun r e => r.insert e.1 e.2) r

/-- The entries whose values are of a kind. -/
def ofKind (kind : FieldKind) (entries : List (String × Json)) : List (String × Json) :=
  entries.filter fun e => decide (e.2.kind = kind)

/-- A key has one extension value: the dictionary of its kind holds it, no other dictionary holds
anything under the key, and the key stands for its text. -/
structure HasOnly (r : Record) (key : String) (value : Json) : Prop where
  held : find? key (kept value.kind r) = some value
  alone : ∀ kind, kind ≠ value.kind → find? key (kept kind r) = none
  text : r.lookup key = value.extensionText

/-- What the key stands for follows from what the dictionaries hold. -/
theorem hasOnly_of_alone {r : Record} {key : String} {value : Json}
    (hheld : find? key (kept value.kind r) = some value)
    (halone : ∀ kind, kind ≠ value.kind → find? key (kept kind r) = none) :
    HasOnly r key value := by
  refine ⟨hheld, halone, ?_⟩
  unfold lookup Json.extensionText
  cases hkind : value.kind with
  | field =>
      have hfield : find? key r.fields = some value := by
        rw [hkind] at hheld
        exact hheld
      simp only [hfield]
  | blob =>
      have hfield : find? key r.fields = none := halone .field (by rw [hkind]; decide)
      have hblob : find? key r.blobs = some value := by
        rw [hkind] at hheld
        exact hheld
      simp only [hfield, hblob]

/-! ## The two dictionaries -/

theorem mem_ofKind {kind : FieldKind} {entries : List (String × Json)} {e : String × Json} :
    e ∈ ofKind kind entries ↔ e ∈ entries ∧ e.2.kind = kind := by
  simp [ofKind]

theorem ofKind_cons (kind : FieldKind) (e : String × Json) (entries : List (String × Json)) :
    ofKind kind (e :: entries) =
      if e.2.kind = kind then e :: ofKind kind entries else ofKind kind entries := by
  simp only [ofKind, List.filter_cons, decide_eq_true_eq]

/-- One value changes the dictionary of its kind only. -/
theorem kept_insert (kind : FieldKind) (key : String) (value : Json) (r : Record) :
    kept kind (r.insert key value) =
      if value.kind = kind then (kept kind r).insert key value else kept kind r := by
  unfold insert
  cases hvalue : value.kind <;> cases kind <;> rfl

/-- Each dictionary stores the values of its kind. -/
theorem kept_stored (kind : FieldKind) (entries : List (String × Json)) (r : Record) :
    kept kind (stored entries r) =
      (ofKind kind entries).foldl (fun d e => d.insert e.1 e.2) (kept kind r) := by
  induction entries generalizing r with
  | nil => rfl
  | cons e entries ih =>
      show kept kind (stored entries (r.insert e.1 e.2)) = _
      rw [ih, kept_insert, ofKind_cons]
      split <;> rfl

/-- Each dictionary holds the last value of its kind under a key. -/
theorem find?_kept_stored (kind : FieldKind) (key : String) (entries : List (String × Json)) :
    find? key (kept kind (stored entries {})) = find? key (ofKind kind entries).reverse := by
  have hempty : kept kind {} = [] := by cases kind <;> rfl
  rw [kept_stored, hempty]
  exact find?_ofEntries key (ofKind kind entries)

/-- Values of a kind under a key are there exactly when the dictionary of the kind has the key. -/
theorem find?_kept_stored_eq_none_iff {kind : FieldKind} {key : String}
    {entries : List (String × Json)} :
    find? key (kept kind (stored entries {})) = none ↔
      ∀ e ∈ entries, e.1 = key → e.2.kind ≠ kind := by
  rw [find?_kept_stored, find?_eq_none_iff]
  simp only [keys, List.mem_map, List.mem_reverse, mem_ofKind, not_exists, not_and]
  constructor
  · intro h e he hkey hkind
    exact h e ⟨he, hkind⟩ hkey
  · intro h e he hkey
    exact h e he.1 hkey he.2

section Last

variable {key : String} {value : Json} {entries : List (String × Json)}

/-- The value that was stored last is held where its kind belongs. -/
theorem find?_kept_stored_last (h : find? key entries.reverse = some value) :
    find? key (kept value.kind (stored entries {})) = some value := by
  have htakes : decide (value.kind = value.kind) = true := decide_eq_true rfl
  rw [find?_kept_stored, ofKind, ← List.filter_reverse]
  exact find?_filter h htakes

/-- A key stands for the last field that was stored under it, and without one for the last value. -/
theorem lookup_stored (h : find? key entries.reverse = some value) :
    (stored entries {}).lookup key =
      ((find? key (ofKind .field entries).reverse).getD value).extensionText := by
  have hlast := find?_kept_stored_last h
  have hfields : find? key (stored entries {}).fields = find? key (ofKind .field entries).reverse :=
    find?_kept_stored .field key entries
  rw [lookup, hfields]
  cases hfield : find? key (ofKind .field entries).reverse with
  | some other =>
      have hother : other.kind = .field :=
        (mem_ofKind.1 (List.mem_reverse.1 (mem_of_find? hfield))).2
      simp only [Option.getD_some, Json.extensionText, hother]
  | none =>
      have hkind : value.kind = .blob := by
        cases hvalue : value.kind with
        | blob => rfl
        | field =>
            rw [hvalue, find?_kept_stored, hfield] at hlast
            cases hlast
      have hblob : find? key (stored entries {}).blobs = some value := by
        rw [hkind] at hlast
        exact hlast
      simp only [hblob, Option.getD_none, Json.extensionText, hkind]

/-- The value that was stored last is the only one of its key when no value of the other kind was
stored under the key. -/
theorem hasOnly_iff (h : find? key entries.reverse = some value) :
    HasOnly (stored entries {}) key value ↔ ∀ e ∈ entries, e.1 = key → e.2.kind = value.kind := by
  constructor
  · intro hone e he hkey
    by_contra hkind
    exact find?_kept_stored_eq_none_iff.1 (hone.alone e.2.kind hkind) e he hkey rfl
  · intro hkinds
    have halone : ∀ kind, kind ≠ value.kind → find? key (kept kind (stored entries {})) = none := by
      intro kind hkind
      refine find?_kept_stored_eq_none_iff.2 fun e he hkey heq => hkind ?_
      rw [← heq, hkinds e he hkey]
    exact hasOnly_of_alone (find?_kept_stored_last h) halone

end Last

/-- A record that was decoded has one value for the key of each extension. -/
theorem hasOnly_decode {o : Dictionary Json} (h : Sorted o) {m : String × Json} (hm : m ∈ o)
    (hextension : isExtension m.1 = true) : HasOnly (decode o).1 m.1 m.2 := by
  have hfind : find? m.1 o = some m.2 := (find?_eq_some_iff h.nodup_keys).2 hm
  refine hasOnly_of_alone ?_ fun kind hkind => ?_
  · have hkeeps : keeps m.2.kind (m.1, m.2) = true := by simp [keeps, hextension]
    rw [kept_decode h]
    exact find?_filter hfind hkeeps
  · rw [kept_decode h, find?_eq_none_iff]
    intro hmem
    obtain ⟨other, hother, hkey⟩ := List.mem_map.1 hmem
    have hfind' : find? other.1 o = some other.2 :=
      (find?_eq_some_iff h.nodup_keys).2 (List.mem_of_mem_filter hother)
    rw [hkey, hfind, Option.some.injEq] at hfind'
    apply hkind
    rw [hfind', kind_of_mem_keeps hother]

/-- **What is left of extension values that are stored one after the other.** Under every key each
dictionary holds the last value of its kind. For a key under which something was stored this keeps
the value that was stored last, where its kind belongs, and the key stands for its last field, or for
the last value when it has no field. That last value is the only one of the key exactly when all
values that were stored under the key are of its kind. -/
theorem stored_hasOnly_iff (entries : List (String × Json)) :
    (∀ kind key, find? key (kept kind (stored entries {})) =
      find? key (ofKind kind entries).reverse) ∧
    ∀ key ∈ keys entries, ∃ value, find? key entries.reverse = some value ∧
      find? key (kept value.kind (stored entries {})) = some value ∧
      (stored entries {}).lookup key =
        ((find? key (ofKind .field entries).reverse).getD value).extensionText ∧
      (HasOnly (stored entries {}) key value ↔
        ∀ e ∈ entries, e.1 = key → e.2.kind = value.kind) := by
  refine ⟨fun kind key => find?_kept_stored kind key entries, fun key hkey => ?_⟩
  have hmem : key ∈ keys entries.reverse := (keys_perm (List.reverse_perm entries)).mem_iff.2 hkey
  obtain ⟨value, hvalue⟩ := Option.ne_none_iff_exists'.1 (mt find?_eq_none_iff.1 (not_not.2 hmem))
  exact ⟨value, hvalue, find?_kept_stored_last hvalue, lookup_stored hvalue, hasOnly_iff hvalue⟩

/-- A text that is stored after a number under the same key, with a blob of another key between
them. -/
theorem stored_hasOnly_iff_same_kind :
    let one : Json := .number (.whole ⟨1, by decide, by decide⟩)
    let entries := [("k", one), ("tags", .list [one]), ("k", .string "b")]
    "k" ∈ keys entries ∧ HasOnly (stored entries {}) "k" (.string "b") := by
  intro one entries
  have hmem : "k" ∈ keys entries := by decide
  obtain ⟨-, hkeys⟩ := stored_hasOnly_iff entries
  obtain ⟨value, hvalue, -, -, hone⟩ := hkeys "k" hmem
  have hlast : find? "k" entries.reverse = some (.string "b") := rfl
  obtain rfl : Json.string "b" = value := Option.some.inj (hlast.symm.trans hvalue)
  refine ⟨hmem, hone.2 ?_⟩
  simp [entries, one, Json.kind]

/-- A blob that is stored after a number under the same key. The number stays, and it is what the
key stands for. -/
theorem stored_two_kinds :
    let one : Json := .number (.whole ⟨1, by decide, by decide⟩)
    let two : Json := .object [("a", .number (.whole ⟨2, by decide, by decide⟩))]
    let entries := [("k", one), ("k", two)]
    let r := stored entries {}
    find? "k" entries.reverse = some two ∧ find? "k" r.fields = some one ∧
      find? "k" r.blobs = some two ∧ r.lookup "k" = "1" ∧
      two.extensionText = "\x7b\"a\":2\x7d" ∧ ¬HasOnly r "k" two := by
  intro one two entries r
  have hlast : find? "k" entries.reverse = some two := rfl
  refine ⟨hlast, rfl, rfl, by decide +kernel, by decide +kernel, fun hone => ?_⟩
  have hkind : one.kind = two.kind := (hasOnly_iff hlast).1 hone ("k", one) (by simp [entries]) rfl
  cases hkind

end Record

end LogLens
