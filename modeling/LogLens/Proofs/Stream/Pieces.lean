import LogLens.Stream.Lines
import Mathlib.Data.List.DropRight

/-!
# The pieces of an input

What the reading loop finds one line at a time can be said at once: cut the input at its line feeds,
take one carriage return off the end of each piece, and drop the pieces that are then empty. The
last piece is what follows the last line feed, so it drops out where the input ends with one. Of an
input that fails after its last byte only the part up to the last line feed is ever seen.

## Main results

* `pieces_append` — the pieces of an input that is cut after a line feed are those of both parts.
* `readLine_line`, `readLine_ended`, `readLine_failed` — what each outcome of a reading says about
  what can be read.
* `mem_pieces` — what a piece never holds.
-/

namespace LogLens.Stream

/-- A piece without one carriage return at its end. -/
def dropReturn (piece : List UInt8) : List UInt8 :=
  if piece.getLast? = some carriageReturn then piece.dropLast else piece

/-- The pieces of an input that count. -/
def pieces (bytes : List UInt8) : List (List UInt8) :=
  ((bytes.splitOn lineFeed).map dropReturn).filter fun piece => !piece.isEmpty

/-- The piece of a line, if it counts. -/
def pieceOf (line : List UInt8) : List (List UInt8) :=
  if dropReturn line = [] then [] else [dropReturn line]

/-- The longest beginning of an input that ends with a line feed, or nothing. -/
def finished (bytes : List UInt8) : List UInt8 := bytes.rdropWhile fun b => b != lineFeed

/-- The part of an input that can be read when the input fails so after its last byte. -/
def readable (failure : Option IoFailure) (bytes : List UInt8) : List UInt8 :=
  match failure with
  | none => bytes
  | some _ => finished bytes

/-- Nothing, or bytes that end with a line feed. -/
def EndsLine (bytes : List UInt8) : Prop := bytes = [] ∨ bytes.getLast? = some lineFeed

theorem withoutReturn_eq (line : List UInt8) : withoutReturn line = dropReturn line := by
  fun_induction withoutReturn line with
  | case1 => rfl
  | case2 => rfl
  | case3 b hb => simp [dropReturn, hb]
  | case4 b c bs ih =>
      rw [ih]
      simp only [dropReturn, List.getLast?_cons_cons, List.dropLast_cons_cons]
      split <;> rfl

/-! ## Cutting -/

/-- Nothing, or bytes whose last one is a line feed. -/
theorem endsLine_iff {bytes : List UInt8} :
    EndsLine bytes ↔ bytes = [] ∨ ∃ before, bytes = before ++ [lineFeed] := by
  rw [EndsLine, List.getLast?_eq_some_iff]

theorem pieces_feed (a b : List UInt8) :
    pieces (a ++ lineFeed :: b) = pieces a ++ pieces b := by
  simp only [pieces, List.splitOn_append_cons_self, List.map_append, List.filter_append]

theorem pieces_nil : pieces [] = [] := by
  rfl

/-- The pieces of an input that is cut after a line feed are those of both parts. -/
theorem pieces_append {a : List UInt8} (ha : EndsLine a) (b : List UInt8) :
    pieces (a ++ b) = pieces a ++ pieces b := by
  rcases endsLine_iff.1 ha with rfl | ⟨before, rfl⟩
  · rw [pieces_nil, List.nil_append, List.nil_append]
  · rw [List.append_assoc, List.singleton_append, pieces_feed, pieces_feed, pieces_nil,
      List.append_nil]

example : pieces [97, 13, 10, 13, 10, 98, 13, 13] = [[97], [98, 13]] := by decide

/-- Without a line feed there is at most one piece. -/
theorem pieces_of_not_mem {line : List UInt8} (h : lineFeed ∉ line) :
    pieces line = pieceOf line := by
  rw [pieces, List.splitOn_eq_singleton h, pieceOf]
  by_cases hempty : dropReturn line = [] <;> simp [hempty]

/-- No piece of a split contains what was split on. -/
theorem not_mem_of_mem_splitOn {bytes piece : List UInt8} (h : piece ∈ bytes.splitOn lineFeed) :
    lineFeed ∉ piece := by
  induction bytes generalizing piece with
  | nil => simp_all
  | cons b bs ih =>
      rw [List.splitOn_cons_eq_if_modifyHead] at h
      obtain ⟨head, tail, hsplit⟩ := List.exists_cons_of_ne_nil (List.splitOn_ne_nil lineFeed bs)
      rw [hsplit] at h ih
      split at h
      · rcases List.mem_cons.1 h with rfl | h
        · simp
        · exact ih h
      · next hb =>
          rw [List.modifyHead_cons] at h
          rcases List.mem_cons.1 h with rfl | h
          · have hhead := ih List.mem_cons_self
            simp only [List.mem_cons, not_or]
            exact ⟨fun e => hb (by simp [e]), hhead⟩
          · exact ih (List.mem_cons_of_mem _ h)

/-- A piece is not empty, and no line feed is in it. -/
theorem mem_pieces {bytes piece : List UInt8} (h : piece ∈ pieces bytes) :
    piece ≠ [] ∧ lineFeed ∉ piece := by
  obtain ⟨hmem, hne⟩ := List.mem_filter.1 h
  obtain ⟨raw, hraw, rfl⟩ := List.mem_map.1 hmem
  refine ⟨by simpa using hne, fun hfeed => not_mem_of_mem_splitOn hraw ?_⟩
  unfold dropReturn at hfeed
  split at hfeed
  · exact List.dropLast_subset _ hfeed
  · exact hfeed

/-! ## What can be read -/

theorem finished_append_feed (line rest : List UInt8) :
    finished (line ++ lineFeed :: rest) = line ++ lineFeed :: finished rest := by
  induction rest using List.reverseRecOn with
  | nil => simp [finished]
  | append_singleton rest b ih =>
      have hassoc : line ++ lineFeed :: (rest ++ [b]) = (line ++ lineFeed :: rest) ++ [b] := by simp
      unfold finished at ih ⊢
      rw [hassoc, List.rdropWhile_concat, List.rdropWhile_concat, ih]
      split
      · rfl
      · exact hassoc.symm

theorem finished_of_not_mem {bytes : List UInt8} (h : lineFeed ∉ bytes) : finished bytes = [] := by
  rw [finished, List.rdropWhile_eq_nil_iff]
  intro b hb
  have hne : b ≠ lineFeed := fun e => h (e ▸ hb)
  simpa using hne

theorem readable_append_feed (failure : Option IoFailure) (line rest : List UInt8) :
    readable failure (line ++ lineFeed :: rest) = line ++ lineFeed :: readable failure rest := by
  cases failure with
  | none => rfl
  | some _ => exact finished_append_feed line rest

/-- The bytes of one line, with its line feed; the last line may lack it, and then nothing comes
after it. -/
def IsLine (line after : List UInt8) : Prop :=
  (∃ content, line = content ++ [lineFeed] ∧ lineFeed ∉ content) ∨
    (line ≠ [] ∧ lineFeed ∉ line ∧ after = [])

theorem IsLine.ne_nil {line after : List UInt8} (h : IsLine line after) : line ≠ [] := by
  rcases h with ⟨content, rfl, -⟩ | ⟨hne, -, -⟩
  · simp
  · exact hne

/-- A line is followed by another one only when a line feed ends it. -/
theorem IsLine.endsLine {line after : List UInt8} (h : IsLine line after) (hafter : after ≠ []) :
    EndsLine line := by
  rcases h with ⟨content, rfl, -⟩ | ⟨-, -, hnil⟩
  · exact endsLine_iff.2 (.inr ⟨content, rfl⟩)
  · exact absurd hnil hafter

/-- A line and any part of what comes after it have their pieces one after the other. -/
theorem IsLine.pieces_append {line part rest : List UInt8} (h : IsLine line (part ++ rest)) :
    pieces (line ++ part) = pieces line ++ pieces part := by
  by_cases hpart : part = []
  · simp [hpart, pieces_nil]
  · exact Stream.pieces_append (h.endsLine (by simp [hpart])) part

/-- A line before another stop: what comes before the stop still ends with a line feed, and the
pieces of the line come first. -/
theorem IsLine.extend {raw before line after : List UInt8}
    (h : IsLine raw (before ++ line ++ after)) (hbefore : EndsLine before) (hline : line ≠ []) :
    EndsLine (raw ++ before) ∧ pieces (raw ++ before) = pieces raw ++ pieces before ∧
      pieces (raw ++ before ++ line) = pieces raw ++ pieces (before ++ line) := by
  have hraw : EndsLine raw := h.endsLine (by simp [hline])
  refine ⟨?_, Stream.pieces_append hraw before, ?_⟩
  · rcases endsLine_iff.1 hbefore with rfl | ⟨start, rfl⟩
    · rwa [List.append_nil]
    · exact endsLine_iff.2 (.inr ⟨raw ++ start, by rw [List.append_assoc]⟩)
  · rw [List.append_assoc]
    exact Stream.pieces_append hraw (before ++ line)

theorem readLine_append (failure : Option IoFailure) {content : List UInt8}
    (h : lineFeed ∉ content) (after : List UInt8) :
    readLine failure (content ++ lineFeed :: after) = .line content after := by
  simp only [readLine, firstLine?_append h]

/-- Without a line feed only an input that does not fail has a line left. -/
theorem readLine_of_not_mem (failure : Option IoFailure) {bytes : List UInt8}
    (h : lineFeed ∉ bytes) :
    readLine failure bytes =
      match failure with
      | some e => .failed e
      | none => if bytes = [] then .ended else .line bytes [] := by
  cases failure <;> simp [readLine, firstLine?_eq_none h]

/-- A reading that finds a line takes that line off what can be read. -/
theorem readLine_line {failure : Option IoFailure} {bytes line rest : List UInt8}
    (h : readLine failure bytes = .line line rest) :
    ∃ raw, readable failure bytes = raw ++ readable failure rest ∧
      IsLine raw (readable failure rest) ∧
      pieces raw = pieceOf line := by
  by_cases hmem : lineFeed ∈ bytes
  · obtain ⟨content, after, rfl, hcontent⟩ := List.eq_append_cons_of_mem hmem
    rw [readLine_append failure hcontent, Reading.line.injEq] at h
    obtain ⟨rfl, rfl⟩ := h
    refine ⟨content ++ [lineFeed], ?_, .inl ⟨content, rfl, hcontent⟩, ?_⟩
    · rw [readable_append_feed, List.append_assoc, List.singleton_append]
    · rw [pieces_feed, pieces_nil, List.append_nil, pieces_of_not_mem hcontent]
  · rw [readLine_of_not_mem failure hmem] at h
    cases failure with
    | some e => simp at h
    | none =>
        by_cases hempty : bytes = []
        · simp [hempty] at h
        · simp only [hempty, if_false, Reading.line.injEq] at h
          obtain ⟨rfl, rfl⟩ := h
          exact ⟨bytes, by simp [readable], .inr ⟨hempty, hmem, rfl⟩, pieces_of_not_mem hmem⟩

/-- The piece of a line, if it counts, comes before the pieces of what is left. -/
theorem pieces_readable {failure : Option IoFailure} {bytes line rest : List UInt8}
    (h : readLine failure bytes = .line line rest) :
    pieces (readable failure bytes) = pieceOf line ++ pieces (readable failure rest) := by
  obtain ⟨raw, hread, hraw, hpieces⟩ := readLine_line h
  have hsplit : IsLine raw (readable failure rest ++ []) := by rwa [List.append_nil]
  rw [hread, hsplit.pieces_append, hpieces]

/-- Only an input that does not fail has an end, and nothing is left of it there. -/
theorem readLine_ended {failure : Option IoFailure} {bytes : List UInt8}
    (h : readLine failure bytes = .ended) : failure = none ∧ bytes = [] := by
  by_cases hmem : lineFeed ∈ bytes
  · obtain ⟨content, after, rfl, hcontent⟩ := List.eq_append_cons_of_mem hmem
    rw [readLine_append failure hcontent] at h
    cases h
  · rw [readLine_of_not_mem failure hmem] at h
    cases failure with
    | some e => cases h
    | none =>
        by_cases hempty : bytes = []
        · exact ⟨rfl, hempty⟩
        · simp [hempty] at h

/-- An input fails only when no whole line is left of it. -/
theorem readLine_failed {failure : Option IoFailure} {bytes : List UInt8} {e : IoFailure}
    (h : readLine failure bytes = .failed e) : failure = some e ∧ readable failure bytes = [] := by
  by_cases hmem : lineFeed ∈ bytes
  · obtain ⟨content, after, rfl, hcontent⟩ := List.eq_append_cons_of_mem hmem
    rw [readLine_append failure hcontent] at h
    cases h
  · rw [readLine_of_not_mem failure hmem] at h
    cases failure with
    | some e' =>
        cases h
        exact ⟨rfl, finished_of_not_mem hmem⟩
    | none =>
        simp only at h
        split at h <;> cases h

end LogLens.Stream
