import LogLens.Json.Basic
import LogLens.Proofs.Text.Dictionary

/-!
# Values and their parts

Lists and objects hold values, so what is to be shown of every value is shown of a list when it
holds of its items and of an object when it holds of the values of its members; `Json.induct` is
that principle. Four measures of a value are used beside it: how deep its brackets nest, whether a
null is in it, and which numbers and which texts are, at any depth.

The canonical form drops members and reorders them, so it nests no deeper. It is taken once: the
canonical form of a canonical form is that form.

## Main results

* `canonical_canonical` — a canonical form is its own canonical form.
* `nesting_canonical_le` — the canonical form does not nest deeper.
-/

namespace LogLens

/-- Whether a number is whole. -/
def Number.isWhole : Number → Bool
  | whole _ => true
  | real _ => false

namespace Json

/-- Every value has a property that lists have when their items do and objects when the values of
their members do. -/
@[elab_as_elim, induction_eliminator]
theorem induct {P : Json → Prop} (null : P .null) (bool : ∀ b, P (.bool b))
    (number : ∀ n, P (.number n)) (string : ∀ s, P (.string s))
    (list : ∀ items, (∀ v ∈ items, P v) → P (.list items))
    (object : ∀ members, (∀ m ∈ members, P m.2) → P (.object members)) : ∀ v, P v
  | .null => null
  | .bool b => bool b
  | .number n => number n
  | .string s => string s
  | .list items => list items fun v _ => induct null bool number string list object v
  | .object members => object members fun m _ => induct null bool number string list object m.2
  decreasing_by
    · next hmem =>
        have hsize := List.sizeOf_lt_of_mem hmem
        simp only [Json.list.sizeOf_spec]
        omega
    · next hmem =>
        have hsize := List.sizeOf_lt_of_mem hmem
        have hvalue : sizeOf m.2 < sizeOf m := by
          cases m
          simp only [Prod.mk.sizeOf_spec]
          omega
        simp only [Json.object.sizeOf_spec]
        omega

/-! ## The canonical form -/

theorem canonicalItems_eq (items : List Json) : canonicalItems items = items.map canonical := by
  induction items with
  | nil => rfl
  | cons v rest ih => rw [canonicalItems, ih, List.map_cons]

theorem canonicalMembers_eq (members : List (String × Json)) :
    canonicalMembers members = members.map fun m => (m.1, m.2.canonical) := by
  induction members with
  | nil => rfl
  | cons m rest ih => rw [canonicalMembers, ih, List.map_cons]

theorem canonical_list (items : List Json) :
    (list items).canonical = list (items.map canonical) := by
  rw [canonical, canonicalItems_eq]

theorem canonical_object (members : List (String × Json)) :
    (object members).canonical =
      object (Dictionary.ofEntries (members.map fun m => (m.1, m.2.canonical))) := by
  rw [canonical, canonicalMembers_eq]

/-- The canonical form of an object has only canonical forms of its members. -/
theorem mem_canonical_members {members : List (String × Json)} {m : String × Json}
    (h : m ∈ Dictionary.ofEntries (members.map fun m => (m.1, m.2.canonical))) :
    ∃ source ∈ members, m = (source.1, source.2.canonical) := by
  obtain ⟨source, hsource, rfl⟩ := List.mem_map.1 (Dictionary.mem_ofEntries h)
  exact ⟨source, hsource, rfl⟩

/-- A canonical form is its own canonical form. -/
theorem canonical_canonical (v : Json) : v.canonical.canonical = v.canonical := by
  induction v with
  | list items ih =>
      rw [canonical_list, canonical_list, List.map_map]
      exact congrArg list (List.map_congr_left ih)
  | object members ih =>
      rw [canonical_object, canonical_object]
      have hsame : ∀ m ∈ Dictionary.ofEntries (members.map fun m => (m.1, m.2.canonical)),
          (m.1, m.2.canonical) = m := by
        intro m hm
        obtain ⟨source, hsource, rfl⟩ := mem_canonical_members hm
        exact Prod.ext rfl (ih source hsource)
      rw [List.map_congr_left hsame, List.map_id',
        Dictionary.ofEntries_of_sorted (Dictionary.sorted_ofEntries _)]
  | _ => rfl

/-! ## Nesting -/

mutual

/-- How deep the brackets of a value nest. -/
def nesting : Json → Nat
  | list items => nestingItems items + 1
  | object members => nestingMembers members + 1
  | _ => 0

/-- The deepest nesting of some values. -/
def nestingItems : List Json → Nat
  | [] => 0
  | v :: rest => max (nesting v) (nestingItems rest)

/-- The deepest nesting of the values of some members. -/
def nestingMembers : List (String × Json) → Nat
  | [] => 0
  | (_, v) :: rest => max (nesting v) (nestingMembers rest)

end

theorem nestingItems_le_iff {items : List Json} {depth : Nat} :
    nestingItems items ≤ depth ↔ ∀ v ∈ items, v.nesting ≤ depth := by
  induction items with
  | nil => simp [nestingItems]
  | cons v rest ih => rw [nestingItems, Nat.max_le, ih, List.forall_mem_cons]

theorem nestingMembers_le_iff {members : List (String × Json)} {depth : Nat} :
    nestingMembers members ≤ depth ↔ ∀ m ∈ members, m.2.nesting ≤ depth := by
  induction members with
  | nil => simp [nestingMembers]
  | cons m rest ih => rw [nestingMembers, Nat.max_le, ih, List.forall_mem_cons]

theorem nesting_list_le_iff {items : List Json} {depth : Nat} :
    (list items).nesting ≤ depth + 1 ↔ ∀ v ∈ items, v.nesting ≤ depth := by
  rw [nesting, Nat.add_le_add_iff_right, nestingItems_le_iff]

theorem nesting_object_le_iff {members : List (String × Json)} {depth : Nat} :
    (object members).nesting ≤ depth + 1 ↔ ∀ m ∈ members, m.2.nesting ≤ depth := by
  rw [nesting, Nat.add_le_add_iff_right, nestingMembers_le_iff]

/-- The canonical form does not nest deeper. -/
theorem nesting_canonical_le (v : Json) : v.canonical.nesting ≤ v.nesting := by
  induction v with
  | list items ih =>
      rw [canonical_list, nesting.eq_1 items, nesting_list_le_iff]
      intro v hv
      obtain ⟨source, hsource, rfl⟩ := List.mem_map.1 hv
      exact Nat.le_trans (ih source hsource) (nestingItems_le_iff.1 (Nat.le_refl _) source hsource)
  | object members ih =>
      rw [canonical_object, nesting.eq_2 members, nesting_object_le_iff]
      intro m hm
      obtain ⟨source, hsource, rfl⟩ := mem_canonical_members hm
      exact Nat.le_trans (ih source hsource)
        (nestingMembers_le_iff.1 (Nat.le_refl _) source hsource)
  | _ => exact Nat.le_refl _

/-! ## Nulls -/

mutual

/-- Whether a null is in a value, at any depth. -/
def hasNull : Json → Bool
  | null => true
  | list items => hasNullItem items
  | object members => hasNullMember members
  | _ => false

/-- Whether a null is in one of some values. -/
def hasNullItem : List Json → Bool
  | [] => false
  | v :: rest => hasNull v || hasNullItem rest

/-- Whether a null is in the value of one of some members. -/
def hasNullMember : List (String × Json) → Bool
  | [] => false
  | (_, v) :: rest => hasNull v || hasNullMember rest

end

theorem hasNull_list_eq_false_iff {items : List Json} :
    (list items).hasNull = false ↔ ∀ v ∈ items, v.hasNull = false := by
  rw [hasNull]
  induction items with
  | nil => simp [hasNullItem]
  | cons v rest ih => rw [hasNullItem, Bool.or_eq_false_iff, ih, List.forall_mem_cons]

theorem hasNull_object_eq_false_iff {members : List (String × Json)} :
    (object members).hasNull = false ↔ ∀ m ∈ members, m.2.hasNull = false := by
  rw [hasNull]
  induction members with
  | nil => simp [hasNullMember]
  | cons m rest ih => rw [hasNullMember, Bool.or_eq_false_iff, ih, List.forall_mem_cons]

/-! ## Numbers -/

mutual

/-- The numbers in a value, at any depth. -/
def numbers : Json → List Number
  | number n => [n]
  | list items => numbersOfItems items
  | object members => numbersOfMembers members
  | _ => []

/-- The numbers in some values. -/
def numbersOfItems : List Json → List Number
  | [] => []
  | v :: rest => numbers v ++ numbersOfItems rest

/-- The numbers in the values of some members. -/
def numbersOfMembers : List (String × Json) → List Number
  | [] => []
  | (_, v) :: rest => numbers v ++ numbersOfMembers rest

end

theorem mem_numbers_list {items : List Json} {n : Number} :
    n ∈ (list items).numbers ↔ ∃ v ∈ items, n ∈ v.numbers := by
  rw [numbers]
  induction items with
  | nil => simp [numbersOfItems]
  | cons v rest ih => simp [numbersOfItems, ih]

theorem mem_numbers_object {members : List (String × Json)} {n : Number} :
    n ∈ (object members).numbers ↔ ∃ m ∈ members, n ∈ m.2.numbers := by
  rw [numbers]
  induction members with
  | nil => simp [numbersOfMembers]
  | cons m rest ih => simp [numbersOfMembers, ih]

/-! ## Texts -/

mutual

/-- The texts in a value, at any depth, the keys of members among them. -/
def texts : Json → List String
  | string s => [s]
  | list items => textsOfItems items
  | object members => textsOfMembers members
  | _ => []

/-- The texts in some values. -/
def textsOfItems : List Json → List String
  | [] => []
  | v :: rest => texts v ++ textsOfItems rest

/-- The keys of some members and the texts in their values. -/
def textsOfMembers : List (String × Json) → List String
  | [] => []
  | (k, v) :: rest => k :: texts v ++ textsOfMembers rest

end

theorem forall_texts_list {P : String → Prop} {items : List Json} :
    (∀ s ∈ (list items).texts, P s) ↔ ∀ v ∈ items, ∀ s ∈ v.texts, P s := by
  rw [texts]
  induction items with
  | nil => simp [textsOfItems]
  | cons v rest ih => rw [textsOfItems, List.forall_mem_append, ih, List.forall_mem_cons]

theorem forall_texts_object {P : String → Prop} {members : List (String × Json)} :
    (∀ s ∈ (object members).texts, P s) ↔ ∀ m ∈ members, P m.1 ∧ ∀ s ∈ m.2.texts, P s := by
  rw [texts]
  induction members with
  | nil => simp [textsOfMembers]
  | cons m rest ih =>
      rw [textsOfMembers, List.cons_append, List.forall_mem_cons, List.forall_mem_append, ih,
        List.forall_mem_cons, and_assoc]

end Json

end LogLens
