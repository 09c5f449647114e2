/-!
# Dictionaries ordered by key

A dictionary keeps one value for each text key and lists its entries in ascending order of the
keys. The order is that of the code points, first difference first; on UTF-8 text it is also the
order of the bytes. Because the order of the entries is fixed, two dictionaries with the same
entries are the same list, whatever the order in which the entries were stored.

`insert` keeps the order and replaces the value of a key that is already there; `find?` is the view
that the rest of the library uses.

## Main results

* `find?_insert_self`, `find?_insert_ne` — storing is a functional update of one key.
* `precedes_irrefl`, `precedes_trans`, `precedes_total` — the order of the keys is a strict total
  order.
-/

namespace LogLens

namespace Text

/-- The order of texts: the first difference decides by code point, and a proper beginning comes
before the text that it begins. -/
def precedes : List Char → List Char → Bool
  | [], [] => false
  | [], _ :: _ => true
  | _ :: _, [] => false
  | c :: cs, d :: ds => if c = d then precedes cs ds else decide (c.toNat < d.toNat)

theorem precedes_irrefl (cs : List Char) : precedes cs cs = false := by
  induction cs with
  | nil => rfl
  | cons c cs ih => simp [precedes, ih]

theorem toNat_injective {c d : Char} (h : c.toNat = d.toNat) : c = d :=
  Char.ext (UInt32.toNat_inj.1 h)

theorem precedes_total (cs ds : List Char) (h : cs ≠ ds) (hn : precedes cs ds = false) :
    precedes ds cs = true := by
  induction cs generalizing ds with
  | nil => cases ds <;> simp_all [precedes]
  | cons c cs ih =>
    cases ds with
    | nil => rfl
    | cons d ds =>
      by_cases hcd : c = d
      · subst hcd
        simp only [precedes, ↓reduceIte] at hn ⊢
        exact ih ds (by simpa using h) hn
      · have hne : c.toNat ≠ d.toNat := fun e => hcd (toNat_injective e)
        simp only [precedes, hcd, Ne.symm hcd, ↓reduceIte, decide_eq_false_iff_not,
          decide_eq_true_eq] at hn ⊢
        omega

theorem precedes_trans {as bs cs : List Char} (hab : precedes as bs = true)
    (hbc : precedes bs cs = true) : precedes as cs = true := by
  induction as generalizing bs cs with
  | nil =>
    cases bs with
    | nil => simp [precedes] at hab
    | cons b bs => cases cs <;> simp_all [precedes]
  | cons a as ih =>
    cases bs with
    | nil => simp [precedes] at hab
    | cons b bs =>
      cases cs with
      | nil => simp [precedes] at hbc
      | cons c cs =>
        by_cases h₁ : a = b
        · subst h₁
          by_cases h₂ : a = c
          · subst h₂
            simp only [precedes, ↓reduceIte] at hab hbc ⊢
            exact ih hab hbc
          · simpa [precedes, h₂] using hbc
        · by_cases h₂ : b = c
          · subst h₂
            simpa [precedes, h₁] using hab
          · simp only [precedes, h₁, h₂, ↓reduceIte, decide_eq_true_eq] at hab hbc
            have h₃ : a ≠ c := by rintro rfl; omega
            simp only [precedes, h₃, ↓reduceIte, decide_eq_true_eq]
            omega

end Text

/-- Entries in ascending order of their keys, one for each key. -/
abbrev Dictionary (β : Type) := List (String × β)

namespace Dictionary

variable {β : Type}

/-- Stores `value` under `key`, in place of the value that the key had. -/
def insert (key : String) (value : β) : Dictionary β → Dictionary β
  | [] => [(key, value)]
  | (k, v) :: rest =>
    if key = k then (key, value) :: rest
    else if Text.precedes key.toList k.toList then (key, value) :: (k, v) :: rest
    else (k, v) :: insert key value rest

/-- The value stored under `key`. -/
def find? (key : String) : Dictionary β → Option β
  | [] => none
  | (k, v) :: rest => if key = k then some v else find? key rest

/-- The keys, in ascending order. -/
def keys (d : Dictionary β) : List String := d.map (·.1)

/-- The dictionary that results from storing the entries one after the other. -/
def ofEntries (entries : List (String × β)) : Dictionary β :=
  entries.foldl (fun d entry => insert entry.1 entry.2 d) []

/-- Every entry's key precedes the keys of all later entries. -/
def Sorted (d : Dictionary β) : Prop :=
  d.Pairwise fun a b => Text.precedes a.1.toList b.1.toList = true

theorem find?_insert_self (key : String) (value : β) (d : Dictionary β) :
    find? key (insert key value d) = some value := by
  induction d with
  | nil => simp [insert, find?]
  | cons entry rest ih =>
    unfold insert
    split
    · simp [find?]
    · split
      · simp [find?]
      · next h _ => simp [find?, h, ih]

theorem find?_insert_ne {key other : String} (h : other ≠ key) (value : β) (d : Dictionary β) :
    find? other (insert key value d) = find? other d := by
  induction d with
  | nil => simp [insert, find?, h]
  | cons entry rest ih =>
    unfold insert
    split
    · next hk => subst hk; simp [find?, h]
    · split
      · simp [find?, h]
      · simp only [find?, ih]

end Dictionary

end LogLens
