import LogLens.Proofs.Condition.Step
import LogLens.Proofs.List

/-!
# Conditions without grouping

A condition in which no operand of `&&` and `||` begins with `!` or a parenthesis is read in
conjunctive normal form. Its table has one row for each part between the occurrences of `&&`, and in
a row one piece for each part between the occurrences of `||`. Each piece is a comparison or has an
error; the condition is the conjunction, from right to left, of the disjunctions of the comparisons
of each row, and an error is that of the first piece that has one.

The reader does not build the table. It cuts at the first `&&`, and reads each side from its
beginning; that this comes to the same is shown once for a chain of parts (`read_eq_ok_of_parts`,
`read_eq_error_of_parts`), which is used for the pieces of a row and for the rows of the table.

## Main results

* `comparison_cases` — a single piece compares or fails.
* `ofText_ungrouped` — what is read from a condition without grouping, and when it holds.
-/

namespace LogLens.Condition

open Text (cutAt? parts trim FirstAt)

/-! ## Single pieces -/

/-- A piece says that two operands are equal, those around its first `==`, or else that the operand
before its first `=~` has a match of the pattern after it. -/
inductive Compares (piece : List Char) : Condition → Prop where
  | equals {left right : List Char} (h : FirstAt ['=', '='] piece left right) :
    Compares piece (.equals (Operand.read (trim left)) (Operand.read (trim right)))
  | matched {left right : List Char} {p : Pattern} (hequals : ¬['=', '='] <:+: piece)
    (h : FirstAt ['=', '~'] piece left right) (hp : Operand.read (trim right) = .pattern p) :
    Compares piece (.matched (Operand.read (trim left)) p)

/-- A piece says nothing: what follows its first `=~` is no pattern, or it has no operator. -/
inductive Fails (piece : List Char) : FilterError → Prop where
  | operand {left right : List Char} {other : Operand} (hequals : ¬['=', '='] <:+: piece)
    (h : FirstAt ['=', '~'] piece left right) (hother : Operand.read (trim right) = other)
    (hpattern : ∀ p, other ≠ .pattern p) : Fails piece (.patternExpected other.display)
  | malformed (hequals : ¬['=', '='] <:+: piece) (hmatches : ¬['=', '~'] <:+: piece) :
    Fails piece (.malformed (String.ofList piece))

/-- A piece compares or fails. -/
theorem comparison_cases (piece : List Char) :
    (∃ c, comparison piece = .ok c ∧ Compares piece c) ∨
      ∃ e, comparison piece = .error e ∧ Fails piece e := by
  rw [comparison]
  cases hequals : cutAt? ['=', '='] piece with
  | some sides => exact .inl ⟨_, rfl, .equals (Text.cutAt?_eq_some_iff.1 hequals)⟩
  | none =>
      have hnone := Text.cutAt?_eq_none_iff.1 hequals
      cases hmatches : cutAt? ['=', '~'] piece with
      | none => exact .inr ⟨_, rfl, .malformed hnone (Text.cutAt?_eq_none_iff.1 hmatches)⟩
      | some sides =>
          have hfirst := Text.cutAt?_eq_some_iff.1 hmatches
          simp only
          cases hright : Operand.read (trim sides.2) with
          | pattern p => exact .inl ⟨_, rfl, .matched hnone hfirst hright⟩
          | _ => exact .inr ⟨_, rfl, .operand hnone hfirst hright (fun p h => by cases h)⟩

theorem Compares.comparison_eq {piece : List Char} {c : Condition} (h : Compares piece c) :
    comparison piece = .ok c := by
  cases h with
  | equals h => rw [comparison, Text.cutAt?_eq_some_iff.2 h]
  | matched hequals h hp =>
      rw [comparison, Text.cutAt?_eq_none_iff.2 hequals, Text.cutAt?_eq_some_iff.2 h]
      simp only [hp]

theorem Fails.comparison_eq {piece : List Char} {e : FilterError} (h : Fails piece e) :
    comparison piece = .error e := by
  cases h with
  | operand hequals h hother hpattern =>
      rw [comparison, Text.cutAt?_eq_none_iff.2 hequals, Text.cutAt?_eq_some_iff.2 h]
      simp only [hother]
  | malformed hequals hmatches =>
      rw [comparison, Text.cutAt?_eq_none_iff.2 hequals, Text.cutAt?_eq_none_iff.2 hmatches]

/-! ## Chains -/

/-- Conditions in order, linked from right to left. -/
def nested? (link : Condition → Condition → Condition) : List Condition → Option Condition
  | [] => none
  | [c] => some c
  | c :: d :: rest => (nested? link (d :: rest)).map (link c)

theorem nested?_cons {link : Condition → Condition → Condition} {cs : List Condition}
    {t : Condition} (h : nested? link cs = some t) (c : Condition) :
    nested? link (c :: cs) = some (link c t) := by
  cases cs with
  | nil => cases h
  | cons d rest => rw [nested?, h, Option.map_some]

section Chain

variable {m n : Char} {link : Condition → Condition → Condition} {Q : List Char → Prop}
  (hstep : ∀ text left right, Q text → cutAt? [m, n] text = some (left, right) →
    Q right ∧ read text = linked link (read left) (read right))
include hstep

/-- When every part is read, so is the text. -/
theorem read_eq_ok_of_parts {text : List Char} (hQ : Q text) {cs : List Condition}
    (h : List.Forall₂ (fun part c => read part = .ok c) (parts m n text) cs) :
    ∃ t, nested? link cs = some t ∧ read text = .ok t := by
  induction text using Text.cutInduction m n generalizing cs with
  | whole text hnone =>
      rw [Text.parts_of_cutAt?_eq_none hnone, List.forall₂_cons_left_iff] at h
      obtain ⟨c, rest, hc, hrest, rfl⟩ := h
      obtain rfl := List.forall₂_nil_left_iff.1 hrest
      exact ⟨c, rfl, hc⟩
  | cut text left right hcut ih =>
      rw [Text.parts_of_cutAt?_eq_some hcut, List.forall₂_cons_left_iff] at h
      obtain ⟨c, rest, hc, hrest, rfl⟩ := h
      obtain ⟨hright, hread⟩ := hstep text left right hQ hcut
      obtain ⟨t, hnested, ht⟩ := ih hright hrest
      exact ⟨link c t, nested?_cons hnested c, by rw [hread, hc, ht, linked_ok]⟩

/-- The first error of a part is the error of the text. -/
theorem read_eq_error_of_parts {text : List Char} (hQ : Q text) {before after : List (List Char)}
    {part : List Char} {e : FilterError} (hparts : parts m n text = before ++ part :: after)
    (hbefore : ∀ p ∈ before, ∃ c, read p = .ok c) (hpart : read part = .error e) :
    read text = .error e := by
  induction text using Text.cutInduction m n generalizing before with
  | whole text hnone =>
      rw [Text.parts_of_cutAt?_eq_none hnone, eq_comm, List.append_eq_singleton_iff] at hparts
      rcases hparts with ⟨-, hpart'⟩ | ⟨-, hpart'⟩
      · rwa [← (List.cons.inj hpart').1]
      · cases hpart'
  | cut text left right hcut ih =>
      rw [Text.parts_of_cutAt?_eq_some hcut] at hparts
      obtain ⟨hright, hread⟩ := hstep text left right hQ hcut
      cases before with
      | nil =>
          rw [hread, (List.cons.inj hparts).1, hpart, linked_error_left]
      | cons first before =>
          rw [List.cons_append, List.cons.injEq] at hparts
          obtain ⟨rfl, hparts⟩ := hparts
          obtain ⟨⟨c, hc⟩, hbefore⟩ := List.forall_mem_cons.1 hbefore
          rw [hread, hc, ih hright hparts hbefore, linked_error_right]

end Chain

/-! ## Texts without grouping -/

/-- A text that begins with no parenthesis and no `!`, apart from blank characters. -/
def Ungrouped (text : List Char) : Prop :=
  (trim text).head? ≠ some '!' ∧ (trim text).head? ≠ some '('

theorem Ungrouped.isOpen {text : List Char} (h : Ungrouped text) : Open text := by
  refine ⟨Option.eq_none_iff_forall_ne_some.2 fun inner hinner => h.2 ?_, h.1⟩
  rw [unwrapped?_eq_some hinner]
  rfl

/-- What follows a mark does not decide how a text begins. -/
theorem Ungrouped.append {left : List Char} (h : Ungrouped left) {m : Char}
    (hblank : Text.isBlank m = false) (hnot : m ≠ '!') (hparen : m ≠ '(') (rest : List Char) :
    Ungrouped (left ++ m :: rest) := by
  have hmark : (m :: rest).find? (fun c => !Text.isBlank c) = some m :=
    List.find?_cons_of_pos (by simp [hblank])
  simp only [Ungrouped, Text.head?_trim, List.find?_append, hmark] at h ⊢
  cases hfirst : left.find? (fun c => !Text.isBlank c) with
  | none => simp [hnot, hparen]
  | some c => simpa [hfirst] using h

/-- A text begins as the first of its parts does. -/
theorem ungrouped_of_parts {m n : Char} (hblank : Text.isBlank m = false) (hnot : m ≠ '!')
    (hparen : m ≠ '(') {text : List Char} (h : ∀ part ∈ parts m n text, Ungrouped part) :
    Ungrouped text := by
  cases hcut : cutAt? [m, n] text with
  | none => exact h text (by rw [Text.parts_of_cutAt?_eq_none hcut]; exact List.mem_cons_self)
  | some sides =>
      obtain ⟨left, right⟩ := sides
      have hleft : Ungrouped left :=
        h left (by rw [Text.parts_of_cutAt?_eq_some hcut]; exact List.mem_cons_self)
      rw [Text.cutAt?_eq_some hcut, List.append_assoc]
      exact hleft.append hblank hnot hparen _

/-- A row: there is no `&&` in it and no grouping in its pieces. -/
structure Row (row : List Char) : Prop where
  no_and : cutAt? ['&', '&'] row = none
  pieces : ∀ piece ∈ parts '|' '|' row, Ungrouped piece

namespace Row

variable {row : List Char}

theorem ungrouped (h : Row row) : Ungrouped row :=
  ungrouped_of_parts (by decide) (by decide) (by decide) h.pieces

/-- A piece of a row is a comparison. -/
theorem read_piece (h : Row row) {piece : List Char} (hpiece : piece ∈ parts '|' '|' row) :
    read piece = comparison (trim piece) :=
  read_single (h.pieces piece hpiece).isOpen
    (Text.cutAt?_eq_none_of_infix (Text.infix_of_mem_parts hpiece) h.no_and)
    (Text.cutAt?_of_mem_parts hpiece)

/-- The first `||` of a row cuts it into a piece and a row. -/
theorem step (row left right : List Char) (h : Row row)
    (hor : cutAt? ['|', '|'] row = some (left, right)) :
    Row right ∧ read row = linked .either (read left) (read right) := by
  have hsuffix : right <:+ row := ⟨left ++ ['|', '|'], (Text.cutAt?_eq_some hor).symm⟩
  have hpieces := h.pieces
  rw [Text.parts_of_cutAt?_eq_some hor] at hpieces
  have hright : Row right :=
    ⟨Text.cutAt?_eq_none_of_infix hsuffix.isInfix h.no_and, (List.forall_mem_cons.1 hpieces).2⟩
  exact ⟨hright, read_either h.ungrouped.isOpen h.no_and hor⟩

/-- A row of comparisons is their disjunction. -/
theorem read_eq_ok (h : Row row) {cs : List Condition}
    (hcs : List.Forall₂ Compares ((parts '|' '|' row).map trim) cs) :
    ∃ t, nested? .either cs = some t ∧ read row = .ok t := by
  refine read_eq_ok_of_parts step h ?_
  have hpieces : ∀ piece ∈ parts '|' '|' row, read piece = comparison (trim piece) :=
    fun piece hpiece => h.read_piece hpiece
  rw [List.forall₂_map_left_iff] at hcs
  generalize parts '|' '|' row = pieces at hcs hpieces
  induction hcs with
  | nil => exact .nil
  | cons hc _ ih =>
      obtain ⟨hpiece, hrest⟩ := List.forall_mem_cons.1 hpieces
      exact .cons (by rw [hpiece, hc.comparison_eq]) (ih hrest)

/-- The first error of a piece is the error of the row. -/
theorem read_eq_error (h : Row row) {before after : List (List Char)} {piece : List Char}
    {e : FilterError} (hparts : (parts '|' '|' row).map trim = before ++ piece :: after)
    (hbefore : ∀ p ∈ before, ∃ c, Compares p c) (hpiece : Fails piece e) :
    read row = .error e := by
  obtain ⟨front, rest, hfront, rfl, hrest⟩ := List.map_eq_append_iff.1 hparts
  obtain ⟨part, back, rfl, rfl, -⟩ := List.map_eq_cons_iff.1 hrest
  refine read_eq_error_of_parts step h hfront (fun p hp => ?_) ?_
  · obtain ⟨c, hc⟩ := hbefore (trim p) (List.mem_map_of_mem hp)
    exact ⟨c, by rw [h.read_piece (by simp [hfront, hp]), hc.comparison_eq]⟩
  · rw [h.read_piece (by simp [hfront]), hpiece.comparison_eq]

end Row

/-! ## The table -/

/-- The trimmed pieces between the occurrences of `||` in each part between those of `&&`. -/
def table (text : List Char) : List (List (List Char)) :=
  (parts '&' '&' text).map fun row => (parts '|' '|' row).map trim

/-- The conjunction of the disjunctions of some rows, in order and linked from right to left. -/
def normalForm? (rows : List (List Condition)) : Option Condition :=
  (rows.mapM (nested? .either)).bind (nested? .both)

/-- All rows of a text are rows without grouping. -/
def Rows (text : List Char) : Prop := ∀ row ∈ parts '&' '&' text, Row row

theorem rows_of_table {text : List Char}
    (h : ∀ row ∈ table text, ∀ piece ∈ row, piece.head? ≠ some '!' ∧ piece.head? ≠ some '(') :
    Rows text := fun _ hrow =>
  ⟨Text.cutAt?_of_mem_parts hrow, fun _ hpiece =>
    h _ (List.mem_map_of_mem hrow) _ (List.mem_map_of_mem hpiece)⟩

/-- The first `&&` cuts a text into a row and the others. -/
theorem Rows.step (text left right : List Char) (h : Rows text)
    (hand : cutAt? ['&', '&'] text = some (left, right)) :
    Rows right ∧ read text = linked .both (read left) (read right) := by
  have hopen : Open text :=
    (ungrouped_of_parts (by decide) (by decide) (by decide) fun row hrow =>
      (h row hrow).ungrouped).isOpen
  refine ⟨fun row hrow => h row ?_, read_both hopen hand⟩
  rw [Text.parts_of_cutAt?_eq_some hand]
  exact List.mem_cons_of_mem left hrow

/-- Rows of comparisons are read row by row. -/
theorem exists_alternatives {rows : List (List Char)} (hrows : ∀ row ∈ rows, Row row)
    {css : List (List Condition)}
    (h : List.Forall₂ (fun row => List.Forall₂ Compares ((parts '|' '|' row).map trim)) rows css) :
    ∃ ts, css.mapM (nested? .either) = some ts ∧
      List.Forall₂ (fun row t => read row = .ok t) rows ts := by
  induction h with
  | nil => exact ⟨[], rfl, .nil⟩
  | cons hcs _ ih =>
      obtain ⟨hrow, hrest⟩ := List.forall_mem_cons.1 hrows
      obtain ⟨t, hnested, hread⟩ := hrow.read_eq_ok hcs
      obtain ⟨ts, hts, hreads⟩ := ih hrest
      exact ⟨t :: ts, by simp [List.mapM_cons, hnested, hts], .cons hread hreads⟩

/-- A table of comparisons is read as its normal form. -/
theorem Rows.read_eq_ok {text : List Char} (h : Rows text) {rows : List (List Condition)}
    (hrows : List.Forall₂ (List.Forall₂ Compares) (table text) rows) :
    ∃ t, normalForm? rows = some t ∧ read text = .ok t := by
  rw [table, List.forall₂_map_left_iff] at hrows
  obtain ⟨ts, hts, hreads⟩ := exists_alternatives h hrows
  obtain ⟨t, hnested, hread⟩ := read_eq_ok_of_parts Rows.step h hreads
  exact ⟨t, by rw [normalForm?, hts, Option.bind_some, hnested], hread⟩

/-- A place in the pieces of all rows is a place in one of the rows. -/
theorem exists_row {α : Type} {rows : List (List α)} {before after : List α} {a : α}
    (h : rows.flatten = before ++ a :: after) :
    ∃ done front back todo, rows = done ++ (front ++ a :: back) :: todo ∧
      before = done.flatten ++ front := by
  induction rows generalizing before with
  | nil => simp at h
  | cons row rest ih =>
      rw [List.flatten_cons, List.append_eq_append_iff] at h
      rcases h with ⟨front, rfl, hrest⟩ | ⟨back, hrow, hback⟩
      · obtain ⟨done, front, back, todo, rfl, rfl⟩ := ih hrest
        exact ⟨row :: done, front, back, todo, rfl, by simp⟩
      · cases back with
        | nil =>
            obtain ⟨done, front, back, todo, rfl, hdone⟩ := @ih [] hback.symm
            refine ⟨row :: done, front, back, todo, rfl, ?_⟩
            rw [List.flatten_cons, List.append_assoc, ← hdone, hrow, List.append_nil,
              List.append_nil]
        | cons b back =>
            obtain ⟨rfl, -⟩ := List.cons.inj hback
            exact ⟨[], before, back, rest, by simp [hrow], by simp⟩

/-- The first error of a piece is the error of the text. -/
theorem Rows.read_eq_error {text : List Char} (h : Rows text) {before after : List (List Char)}
    {piece : List Char} {e : FilterError} (htable : (table text).flatten = before ++ piece :: after)
    (hbefore : ∀ p ∈ before, ∃ c, Compares p c) (hpiece : Fails piece e) :
    read text = .error e := by
  obtain ⟨done, front, back, todo, hplace, rfl⟩ := exists_row htable
  obtain ⟨doneRows, rest, hrows, rfl, hrest⟩ := List.map_eq_append_iff.1 hplace
  obtain ⟨row, todoRows, rfl, hrow, -⟩ := List.map_eq_cons_iff.1 hrest
  refine read_eq_error_of_parts Rows.step h hrows (fun other hother => ?_) ?_
  · have hpieces : ∀ p ∈ (parts '|' '|' other).map trim, ∃ c, Compares p c := fun p hp =>
      hbefore p
        (List.mem_append_left front (List.mem_flatten_of_mem (List.mem_map_of_mem hother) hp))
    obtain ⟨cs, hcs⟩ := exists_forall₂ hpieces
    obtain ⟨t, -, ht⟩ := (h other (by simp [hrows, hother])).read_eq_ok hcs
    exact ⟨t, ht⟩
  · exact (h row (by simp [hrows])).read_eq_error hrow
      (fun p hp => hbefore p (List.mem_append_right _ hp)) hpiece

/-- All pieces compare, or one is the first that fails. -/
theorem compares_or_fails (pieces : List (List Char)) :
    (∀ piece ∈ pieces, ∃ c, Compares piece c) ∨
      ∃ before piece after e, pieces = before ++ piece :: after ∧
        (∀ p ∈ before, ∃ c, Compares p c) ∧ Fails piece e := by
  rcases forall_or_first (fun piece => ∃ c, Compares piece c) pieces with
    hall | ⟨before, piece, after, rfl, hbefore, hpiece⟩
  · exact .inl hall
  · rcases comparison_cases piece with ⟨c, -, hc⟩ | ⟨e, -, he⟩
    · exact absurd ⟨c, hc⟩ hpiece
    · exact .inr ⟨before, piece, after, e, rfl, hbefore, he⟩

/-! ## When a normal form holds -/

section Holds

variable {r : Record} {t : Condition}

theorem holds_either {cs : List Condition} (h : nested? .either cs = some t) :
    t.holds r = true ↔ ∃ c ∈ cs, c.holds r = true := by
  fun_induction nested? Condition.either cs generalizing t with
  | case1 => cases h
  | case2 c =>
      obtain rfl := Option.some.inj h
      simp
  | case3 c d rest ih =>
      obtain ⟨u, hu, rfl⟩ := Option.map_eq_some_iff.1 h
      simp only [holds, Bool.or_eq_true, ih hu, List.mem_cons, exists_eq_or_imp]

theorem holds_both {cs : List Condition} (h : nested? .both cs = some t) :
    t.holds r = true ↔ ∀ c ∈ cs, c.holds r = true := by
  fun_induction nested? Condition.both cs generalizing t with
  | case1 => cases h
  | case2 c =>
      obtain rfl := Option.some.inj h
      simp
  | case3 c d rest ih =>
      obtain ⟨u, hu, rfl⟩ := Option.map_eq_some_iff.1 h
      simp only [holds, Bool.and_eq_true, ih hu, List.mem_cons, forall_eq_or_imp]

/-- A normal form holds when some alternative of each row does. -/
theorem holds_normalForm? {rows : List (List Condition)} (h : normalForm? rows = some t) :
    t.holds r = true ↔ ∀ row ∈ rows, ∃ c ∈ row, c.holds r = true := by
  obtain ⟨ts, hts, ht⟩ := Option.bind_eq_some_iff.1 h
  rw [holds_both ht]
  clear h ht
  induction rows generalizing ts with
  | nil =>
      obtain rfl : [] = ts := Option.some.inj hts
      simp
  | cons row rest ih =>
      simp only [List.mapM_cons, Option.bind_eq_bind, Option.bind_eq_some_iff] at hts
      obtain ⟨u, hu, us, hus, heq⟩ := hts
      obtain rfl : u :: us = ts := Option.some.inj heq
      rw [List.forall_mem_cons, List.forall_mem_cons, holds_either hu, ih us hus]

end Holds

/-- **A condition without grouping is read in conjunctive normal form.** When no piece of its table
begins with `!` or a parenthesis, then either every piece compares, and what is read is the normal
form of these comparisons, which holds for a record when each row has an alternative that does; or
there is a first piece that fails, and its error is the error of the condition. -/
theorem ofText_ungrouped (text : String)
    (hpieces : ∀ row ∈ table text.toList, ∀ piece ∈ row,
      piece.head? ≠ some '!' ∧ piece.head? ≠ some '(') :
    (∀ rows, List.Forall₂ (List.Forall₂ Compares) (table text.toList) rows →
      ∃ t, normalForm? rows = some t ∧ ofText text = .ok t ∧
        ∀ r, t.holds r = true ↔ ∀ row ∈ rows, ∃ c ∈ row, c.holds r = true) ∧
    (∀ before piece after e, (table text.toList).flatten = before ++ piece :: after →
      (∀ p ∈ before, ∃ c, Compares p c) → Fails piece e → ofText text = .error e) ∧
    ((∃ rows, List.Forall₂ (List.Forall₂ Compares) (table text.toList) rows) ∨
      ∃ before piece after e, (table text.toList).flatten = before ++ piece :: after ∧
        (∀ p ∈ before, ∃ c, Compares p c) ∧ Fails piece e) := by
  have hrows : Rows text.toList := rows_of_table hpieces
  refine ⟨fun rows h => ?_, fun before piece after e => hrows.read_eq_error, ?_⟩
  · obtain ⟨t, hform, hread⟩ := hrows.read_eq_ok h
    exact ⟨t, hform, hread, fun r => holds_normalForm? hform⟩
  · rcases compares_or_fails (table text.toList).flatten with hall | hfirst
    · exact .inl (exists_forall₂ fun row hrow => exists_forall₂ fun piece hpiece =>
        hall piece (List.mem_flatten_of_mem hrow hpiece))
    · exact .inr hfirst

/-- Of three ampersands the third begins the next piece: here the left operand of a comparison, and
there a piece that is none. -/
theorem ofText_ungrouped_three_ampersands :
    let read := "a == b || c == d &&& == e"
    let failed := "a == b || c == d &&& e"
    let same (left right : String) := equals (.constant left) (.constant right)
    table read.toList = [["a == b".toList, "c == d".toList], ["& == e".toList]] ∧
      ofText read = .ok (.both (.either (same "a" "b") (same "c" "d")) (same "&" "e")) ∧
      table failed.toList = [["a == b".toList, "c == d".toList], ["& e".toList]] ∧
      ofText failed = .error (.malformed "& e") := by
  intro read failed same
  have htable : table read.toList = [["a == b".toList, "c == d".toList], ["& == e".toList]] := by
    decide +kernel
  have htable' : table failed.toList = [["a == b".toList, "c == d".toList], ["& e".toList]] := by
    decide +kernel
  have hpieces : ∀ row ∈ table read.toList, ∀ piece ∈ row,
      piece.head? ≠ some '!' ∧ piece.head? ≠ some '(' := by
    rw [htable]
    decide +kernel
  have hpieces' : ∀ row ∈ table failed.toList, ∀ piece ∈ row,
      piece.head? ≠ some '!' ∧ piece.head? ≠ some '(' := by
    rw [htable']
    decide +kernel
  have hfirst : FirstAt ['=', '='] "a == b".toList "a ".toList " b".toList :=
    Text.cutAt?_eq_some_iff.1 (by decide +kernel)
  have hsecond : FirstAt ['=', '='] "c == d".toList "c ".toList " d".toList :=
    Text.cutAt?_eq_some_iff.1 (by decide +kernel)
  have hthird : FirstAt ['=', '='] "& == e".toList "& ".toList " e".toList :=
    Text.cutAt?_eq_some_iff.1 (by decide +kernel)
  have hfails : Fails "& e".toList (.malformed (String.ofList "& e".toList)) :=
    .malformed (by decide +kernel) (by decide +kernel)
  rw [String.ofList_toList] at hfails
  obtain ⟨hok, -⟩ := ofText_ungrouped read hpieces
  obtain ⟨-, herror, -⟩ := ofText_ungrouped failed hpieces'
  rw [htable] at hok
  rw [htable'] at herror
  refine ⟨htable, ?_, htable', herror ["a == b".toList, "c == d".toList] "& e".toList [] _ rfl ?_
    hfails⟩
  · obtain ⟨t, hform, hread, -⟩ := hok _
      (.cons (.cons (.equals hfirst) (.cons (.equals hsecond) .nil))
        (.cons (.cons (.equals hthird) .nil) .nil))
    rw [hread, ← Option.some.inj hform]
    rfl
  · simp only [List.mem_cons, List.not_mem_nil, or_false, forall_eq_or_imp, forall_eq]
    exact ⟨⟨_, .equals hfirst⟩, ⟨_, .equals hsecond⟩⟩

end LogLens.Condition
