import LogLens.Record.Basic
import Mathlib.Data.List.Nodup

/-!
# Dictionaries from entries

A dictionary is determined by what it holds under each key, because the order of its entries is
fixed: two sorted lists of entries in which every key is found with the same value are the same
list. What `ofEntries` holds under a key is the last of the values that were stored under it, so
neither the order of entries with different keys nor an entry that a later one overrides can be told
from the result. The entries of a dictionary give that dictionary back.

## Main results

* `Sorted.ext` — sorted dictionaries that hold the same values are equal.
* `find?_ofEntries` — the last value stored under a key is the one that is found.
* `ofEntries_perm`, `ofEntries_overridden`, `ofEntries_of_sorted` — what the result does not depend
  on, and when it is the entries themselves.
-/

namespace LogLens.Dictionary

variable {β : Type}

/-! ## Order -/

theorem sorted_nil : Sorted ([] : Dictionary β) := List.Pairwise.nil

/-- An entry that precedes all others is put in front of them. -/
theorem sorted_cons {entry : String × β} {d : Dictionary β} :
    Sorted (entry :: d) ↔
      (∀ other ∈ d, Text.precedes entry.1.toList other.1.toList = true) ∧ Sorted d :=
  List.pairwise_cons

theorem sorted_insert (key : String) (value : β) {d : Dictionary β} (h : Sorted d) :
    Sorted (insert key value d) := by
  induction d with
  | nil => exact List.pairwise_singleton _ _
  | cons entry rest ih =>
      obtain ⟨hfirst, hrest⟩ := sorted_cons.1 h
      unfold insert
      split
      · next hkey =>
          subst hkey
          exact sorted_cons.2 ⟨hfirst, hrest⟩
      · next hne =>
          split
          · next hbefore =>
              refine sorted_cons.2 ⟨fun other hother => ?_, h⟩
              rcases List.mem_cons.1 hother with rfl | hother
              · exact hbefore
              · exact Text.precedes_trans hbefore (hfirst other hother)
          · next hnot =>
              refine sorted_cons.2 ⟨fun other hother => ?_, ih hrest⟩
              rcases mem_insert hother with rfl | hother
              · have hdiffer : key.toList ≠ entry.1.toList := fun e => hne (String.toList_inj.1 e)
                exact Text.precedes_total _ _ hdiffer (by simpa using hnot)
              · exact hfirst other hother

/-- Entries stored in a sorted dictionary one after the other leave it sorted. -/
theorem sorted_foldl (entries : List (String × β)) {d : Dictionary β} (h : Sorted d) :
    Sorted (entries.foldl (fun d entry => insert entry.1 entry.2 d) d) := by
  induction entries generalizing d with
  | nil => exact h
  | cons entry entries ih =>
      rw [List.foldl_cons]
      exact ih (sorted_insert entry.1 entry.2 h)

theorem sorted_ofEntries (entries : List (String × β)) : Sorted (ofEntries entries) :=
  sorted_foldl entries sorted_nil

/-- The keys of a sorted dictionary are distinct. -/
theorem Sorted.nodup_keys {d : Dictionary β} (h : Sorted d) : (keys d).Nodup := by
  refine List.Pairwise.map _ (fun a b hab heq => ?_) h
  rw [heq, Text.precedes_irrefl] at hab
  cases hab

/-! ## Finding -/

theorem find?_append (key : String) (a b : Dictionary β) :
    find? key (a ++ b) = (find? key a).or (find? key b) := by
  induction a with
  | nil => simp [find?]
  | cons entry a ih =>
      rw [List.cons_append, find?, find?]
      split
      · rfl
      · exact ih

theorem find?_singleton (key : String) (entry : String × β) :
    find? key [entry] = if key = entry.1 then some entry.2 else none := rfl

theorem find?_insert (key other : String) (value : β) (d : Dictionary β) :
    find? key (insert other value d) = if key = other then some value else find? key d := by
  split
  · next h => rw [h, find?_insert_self]
  · next h => exact find?_insert_ne h value d

theorem find?_eq_none_iff {key : String} {d : Dictionary β} :
    find? key d = none ↔ key ∉ keys d := by
  induction d with
  | nil => simp [find?, keys]
  | cons entry d ih =>
      have hkeys : keys (entry :: d) = entry.1 :: keys d := rfl
      rw [find?, hkeys, List.mem_cons, not_or, ← ih]
      split <;> simp_all

/-- What is found is an entry. -/
theorem mem_of_find? {key : String} {value : β} {d : Dictionary β} (h : find? key d = some value) :
    (key, value) ∈ d := by
  induction d with
  | nil => cases h
  | cons entry d ih =>
      rw [find?] at h
      split at h
      · next hkey =>
          obtain rfl := Option.some.inj h
          exact hkey ▸ List.mem_cons_self
      · exact List.mem_cons_of_mem _ (ih h)

/-- With distinct keys, what is an entry is found. -/
theorem find?_eq_some_iff {key : String} {value : β} {d : Dictionary β} (h : (keys d).Nodup) :
    find? key d = some value ↔ (key, value) ∈ d := by
  refine ⟨mem_of_find?, fun hmem => ?_⟩
  induction d with
  | nil => cases hmem
  | cons entry d ih =>
      obtain ⟨hfirst, hrest⟩ := List.nodup_cons.1 h
      rcases List.mem_cons.1 hmem with rfl | hmem
      · exact if_pos rfl
      · have hkey : key ≠ entry.1 := by
          rintro rfl
          exact hfirst (List.mem_map.2 ⟨_, hmem, rfl⟩)
        rw [find?, if_neg hkey]
        exact ih hrest hmem

/-- A filter keeps the first value of a key when it takes that value. -/
theorem find?_filter {p : String × β → Bool} {key : String} {value : β} {d : Dictionary β}
    (h : find? key d = some value) (hp : p (key, value) = true) :
    find? key (d.filter p) = some value := by
  induction d with
  | nil => cases h
  | cons entry d ih =>
      rw [find?] at h
      split at h
      · next hkey =>
          obtain rfl := Option.some.inj h
          rw [hkey] at hp
          have hentry : p entry = true := hp
          rw [List.filter_cons_of_pos hentry, find?, if_pos hkey]
      · next hkey =>
          rw [List.filter_cons]
          split
          · rw [find?, if_neg hkey]
            exact ih h
          · exact ih h

theorem keys_perm {d d' : Dictionary β} (h : d.Perm d') : (keys d).Perm (keys d') := h.map _

/-- Where keys are distinct, the order of the entries plays no part in what is found. -/
theorem find?_perm {d d' : Dictionary β} (h : d.Perm d') (hd : (keys d).Nodup) (key : String) :
    find? key d = find? key d' := by
  have hd' : (keys d').Nodup := (keys_perm h).nodup_iff.1 hd
  refine Option.ext fun value => ?_
  rw [find?_eq_some_iff hd, find?_eq_some_iff hd', h.mem_iff]

/-- Sorted dictionaries with the same entries are equal. -/
theorem Sorted.eq_of_mem_iff {d d' : Dictionary β} (h : Sorted d) (h' : Sorted d')
    (hmem : ∀ entry, entry ∈ d ↔ entry ∈ d') : d = d' := by
  have hperm : d.Perm d' :=
    (List.perm_ext_iff_of_nodup (h.nodup_keys.of_map _) (h'.nodup_keys.of_map _)).2 hmem
  refine hperm.eq_of_pairwise (fun a b _ _ hab hba => ?_) h h'
  have hself := Text.precedes_trans hab hba
  rw [Text.precedes_irrefl] at hself
  cases hself

/-- Sorted dictionaries that hold the same values are equal. -/
theorem Sorted.ext {d d' : Dictionary β} (h : Sorted d) (h' : Sorted d')
    (hfind : ∀ key, find? key d = find? key d') : d = d' := by
  refine h.eq_of_mem_iff h' ?_
  rintro ⟨key, value⟩
  rw [← find?_eq_some_iff h.nodup_keys, ← find?_eq_some_iff h'.nodup_keys, hfind]

/-! ## Storing entries one after the other -/

theorem find?_foldl (key : String) (entries : List (String × β)) (d : Dictionary β) :
    find? key (entries.foldl (fun d entry => insert entry.1 entry.2 d) d) =
      (find? key entries.reverse).or (find? key d) := by
  induction entries generalizing d with
  | nil => rfl
  | cons entry entries ih =>
      rw [List.foldl_cons, ih, List.reverse_cons, find?_append, Option.or_assoc, find?_singleton,
        find?_insert]
      by_cases hkey : key = entry.1
      · rw [if_pos hkey, if_pos hkey, Option.some_or]
      · rw [if_neg hkey, if_neg hkey, Option.none_or]

/-- The last value stored under a key is the one that is found. -/
theorem find?_ofEntries (key : String) (entries : List (String × β)) :
    find? key (ofEntries entries) = find? key entries.reverse := by
  rw [ofEntries, find?_foldl, find?, Option.or_none]

/-- The dictionary of some entries is that of others when the last values of all keys agree. -/
theorem ofEntries_eq_iff {entries entries' : List (String × β)} :
    ofEntries entries = ofEntries entries' ↔
      ∀ key, find? key entries.reverse = find? key entries'.reverse := by
  constructor
  · intro h key
    rw [← find?_ofEntries, h, find?_ofEntries]
  · intro h
    refine (sorted_ofEntries entries).ext (sorted_ofEntries entries') fun key => ?_
    rw [find?_ofEntries, find?_ofEntries, h]

/-- The order of entries with distinct keys plays no part. -/
theorem ofEntries_perm {entries entries' : List (String × β)} (h : entries.Perm entries')
    (hkeys : (keys entries).Nodup) : ofEntries entries = ofEntries entries' := by
  refine ofEntries_eq_iff.2 fun key => ?_
  have hreverse : entries.reverse.Perm entries'.reverse :=
    (List.reverse_perm _).trans (h.trans (List.reverse_perm _).symm)
  refine find?_perm hreverse ?_ key
  exact (keys_perm (List.reverse_perm entries)).nodup_iff.2 hkeys

/-- An entry whose key a later entry has too plays no part. -/
theorem ofEntries_overridden (earlier : List (String × β)) {entry : String × β}
    {later : List (String × β)} (h : entry.1 ∈ keys later) :
    ofEntries (earlier ++ entry :: later) = ofEntries (earlier ++ later) := by
  refine ofEntries_eq_iff.2 fun key => ?_
  rw [List.reverse_append, List.reverse_append, List.reverse_cons, find?_append, find?_append,
    find?_append, find?_singleton]
  by_cases hkey : key = entry.1
  · subst hkey
    have hmem : entry.1 ∈ keys later.reverse := by simpa [keys] using h
    obtain ⟨value, hvalue⟩ := Option.ne_none_iff_exists'.1 (mt find?_eq_none_iff.1 (not_not.2 hmem))
    simp only [hvalue, Option.some_or]
  · rw [if_neg hkey, Option.or_none]

/-- The entries of a dictionary give that dictionary. -/
theorem ofEntries_of_sorted {d : Dictionary β} (h : Sorted d) : ofEntries d = d := by
  refine (sorted_ofEntries d).ext h fun key => ?_
  rw [find?_ofEntries]
  have hkeys : (keys d.reverse).Nodup := (keys_perm (List.reverse_perm d)).nodup_iff.2 h.nodup_keys
  exact find?_perm (List.reverse_perm d) hkeys key

/-- Every entry of the result was stored. -/
theorem mem_ofEntries {entries : List (String × β)} {entry : String × β}
    (h : entry ∈ ofEntries entries) : entry ∈ entries := by
  obtain ⟨key, value⟩ := entry
  rw [← find?_eq_some_iff (sorted_ofEntries entries).nodup_keys, find?_ofEntries] at h
  exact List.mem_reverse.1 (mem_of_find? h)

end LogLens.Dictionary
