import LogLens.Proofs.Json.Grammar

/-!
# Rearranged texts

A text is rearranged by steps that move its parts about: the members of an object change places,
when their keys are distinct; a member is added before another one with the same key, whose value
then stands; the space between parts changes. Every step may be taken at any depth, and any number
of steps one after the other. What a rearranged text denotes is what the text denoted.

## Main results

* `Rearranged.canonical_eq` — the canonical form does not change.
* `parse_rearranged` — a rearranged text that is accepted denotes the same value.
-/

namespace LogLens.Json

/-- The keys of some members. -/
def Spelling.names (members : List (Label × Spelling)) : List String :=
  members.map fun m => m.1.key.name

/-- The second spelling comes from the first one by moving its parts about. -/
inductive Rearranged : Spelling → Spelling → Prop
  | refl (w : Spelling) : Rearranged w w
  | symm {w w' : Spelling} : Rearranged w w' → Rearranged w' w
  | trans {w w' w'' : Spelling} : Rearranged w w' → Rearranged w' w'' → Rearranged w w''
  /-- Members with distinct keys change places. -/
  | permuted (inside : Space) {members members' : List (Label × Spelling)} :
      members.Perm members' → (Spelling.names members).Nodup →
        Rearranged (.object inside members) (.object inside members')
  /-- A member is added somewhere before one with the same key. -/
  | overridden (inside : Space) (earlier later : List (Label × Spelling)) (l : Label)
      (w : Spelling) : l.key.name ∈ Spelling.names later →
        Rearranged (.object inside (earlier ++ later)) (.object inside (earlier ++ (l, w) :: later))
  /-- The space around a value changes. -/
  | spaced (before after : Space) (w : Spelling) : Rearranged w (.spaced before w after)
  /-- The parts of an item are moved about, and the space in the list changes. -/
  | item (inside inside' : Space) (earlier later : List Spelling) {w w' : Spelling} :
      Rearranged w w' →
        Rearranged (.list inside (earlier ++ w :: later)) (.list inside' (earlier ++ w' :: later))
  /-- The parts of a member are moved about, and the space in the object changes. -/
  | member (inside inside' : Space) (earlier later : List (Label × Spelling)) {l l' : Label}
      {w w' : Spelling} : l.key.name = l'.key.name → Rearranged w w' →
        Rearranged (.object inside (earlier ++ (l, w) :: later))
          (.object inside' (earlier ++ (l', w') :: later))

/-- The canonical members of a spelled object. -/
def Spelling.canonicalValues (members : List (Label × Spelling)) : List (String × Json) :=
  members.map fun m => (m.1.key.name, m.2.value.canonical)

theorem canonical_value_list (inside : Space) (items : List Spelling) :
    (Spelling.list inside items).value.canonical =
      list (items.map fun w => w.value.canonical) := by
  rw [Spelling.value, Spelling.itemValues_eq, canonical_list, List.map_map]
  rfl

theorem canonical_value_object (inside : Space) (members : List (Label × Spelling)) :
    (Spelling.object inside members).value.canonical =
      object (Dictionary.ofEntries (Spelling.canonicalValues members)) := by
  rw [Spelling.value, Spelling.memberValues_eq, canonical_object, List.map_map]
  rfl

theorem keys_canonicalValues (members : List (Label × Spelling)) :
    Dictionary.keys (Spelling.canonicalValues members) = Spelling.names members := by
  rw [Dictionary.keys, Spelling.canonicalValues, List.map_map]
  rfl

/-- A rearranged text has the canonical form that the text has. -/
theorem Rearranged.canonical_eq {w w' : Spelling} (h : Rearranged w w') :
    w.value.canonical = w'.value.canonical := by
  induction h with
  | refl w => rfl
  | symm _ ih => exact ih.symm
  | trans _ _ ih ih' => exact ih.trans ih'
  | permuted inside hperm hkeys =>
      rw [canonical_value_object, canonical_value_object]
      refine congrArg object (Dictionary.ofEntries_perm (hperm.map _) ?_)
      rwa [← keys_canonicalValues] at hkeys
  | overridden inside earlier later l w hmem =>
      rw [← keys_canonicalValues] at hmem
      rw [canonical_value_object, canonical_value_object]
      simp only [Spelling.canonicalValues, List.map_append, List.map_cons]
      exact congrArg object (Dictionary.ofEntries_overridden _ hmem).symm
  | spaced before after w => rfl
  | item inside inside' earlier later _ ih =>
      rw [canonical_value_list, canonical_value_list]
      simp only [List.map_append, List.map_cons, ih]
  | member inside inside' earlier later hname _ ih =>
      rw [canonical_value_object, canonical_value_object]
      simp only [Spelling.canonicalValues, List.map_append, List.map_cons, hname, ih]

/-- What an accepted text denotes can be told from any spelling of it. -/
theorem parse_spelling {w : Spelling} {text : String} {v : Json} (htext : w.text = text.toList)
    (h : parse text = .ok v) : w.value.canonical = v := by
  obtain ⟨w', htext', hvalue, -⟩ := parse_eq_ok_iff.1 h
  rw [← hvalue, Spelling.value_unique (htext.trans htext'.symm)]

/-- A rearranged text that is accepted denotes the same value. -/
theorem parse_rearranged {w w' : Spelling} (h : Rearranged w w') {text text' : String} {v v' : Json}
    (htext : w.text = text.toList) (htext' : w'.text = text'.toList) (hparse : parse text = .ok v)
    (hparse' : parse text' = .ok v') : v' = v := by
  rw [← parse_spelling htext hparse, ← parse_spelling htext' hparse', h.canonical_eq]

end LogLens.Json
