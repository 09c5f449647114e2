import LogLens.Proofs.Json.OneLine
import LogLens.Proofs.Json.Roundtrip
import LogLens.Proofs.Stream.Denoted

/-!
# Reading the output of the compact JSON form again

A run without a filter in the mode `bunyan` writes for each record the compact text of its object
and for every other piece the piece itself, each on a line of its own. When this output is read
again, its pieces are these texts one by one: none of them has a line feed in it or a carriage
return at its end. The text of a record denotes the object that the record was read from, so a
second run cannot tell it from the first input, whatever its filter and its view are.

Two things would spoil this and are excluded. A line that ends with two carriage returns loses one
of them each time it is read, and a real number may be written in another way than it was read.

## Main results

* `pieces_resent` — the pieces of the output are the texts that were written.
* `run_bunyan` — a second run writes and counts what a run over the first input does.
-/

namespace LogLens.Stream

open Json (compactText)

/-- What is written for a piece without a filter in the mode `bunyan`. -/
def resent (piece : List UInt8) : List UInt8 :=
  match recordOf? piece with
  | some (r, _) => Text.encode (compactText (Layout.object r))
  | none => piece

/-- No line of an input ends with two carriage returns. -/
def ReturnsSingly (bytes : List UInt8) : Prop :=
  ∀ line ∈ bytes.splitOn lineFeed, ¬[carriageReturn, carriageReturn] <:+ line

/-- The numbers in the object of a piece, when it is a record. -/
def recordNumbers (piece : List UInt8) : List Number :=
  match Text.decode? piece with
  | none => []
  | some text =>
    match Json.parse text with
    | .ok (.object members) => (Json.object members).numbers
    | _ => []

/-- All numbers in the records of an input are whole. -/
def NumbersWhole (bytes : List UInt8) : Prop :=
  ∀ piece ∈ pieces bytes, ∀ n ∈ recordNumbers piece, n.isWhole = true

/-! ## What is written -/

theorem resent_of_denotes {piece : List UInt8} {members : List (String × Json)}
    (h : Denotes piece members) : resent piece = Text.encode (compactText (.object members)) := by
  obtain ⟨text, hparse, hrecord⟩ := recordOf?_of_denotes h
  simp only [resent, hrecord, Layout.object_of_parse hparse]

/-- A piece is a line of some object, or it is no record. -/
theorem denotes_or_no_record (piece : List UInt8) :
    (∃ members, Denotes piece members) ∨ recordOf? piece = none := by
  cases h : recordOf? piece with
  | none => exact .inr rfl
  | some d =>
      obtain ⟨text, members, hline, hparse, -⟩ := recordOf?_eq_some_iff.1 h
      exact .inl ⟨members, text, hline, hparse⟩

theorem resent_of_no_record {piece : List UInt8} (h : recordOf? piece = none) :
    resent piece = piece := by
  simp only [resent, h]

theorem rendered_bunyan (zone : DisplayZone) (colors : Bool) (piece : List UInt8) :
    rendered .all ⟨.bunyan, zone, colors⟩ piece = resent piece ++ [lineFeed] := by
  unfold rendered resent
  cases recordOf? piece with
  | none => rfl
  | some d => rfl

/-! ## The pieces of what is written -/

/-- A text that keeps to one line: it is a piece of every output in which it is a line. -/
def KeepsLine (piece : List UInt8) : Prop :=
  piece ≠ [] ∧ lineFeed ∉ piece ∧ piece.getLast? ≠ some carriageReturn

theorem KeepsLine.pieces {piece : List UInt8} (h : KeepsLine piece) : pieces piece = [piece] := by
  obtain ⟨hne, hfeed, hreturn⟩ := h
  rw [pieces_of_not_mem hfeed, pieceOf, dropReturn, if_neg hreturn, if_neg hne]

theorem pieces_lines {ps : List (List UInt8)} (h : ∀ p ∈ ps, KeepsLine p) :
    pieces (ps.flatMap fun p => p ++ [lineFeed]) = ps := by
  induction ps with
  | nil => exact pieces_nil
  | cons p ps ih =>
      obtain ⟨hp, hps⟩ := List.forall_mem_cons.1 h
      rw [List.flatMap_cons, List.append_assoc, List.singleton_append, pieces_feed, hp.pieces,
        ih hps]
      rfl

/-- Without lines that end with two carriage returns no piece ends with one. -/
theorem keepsLine_of_mem {bytes piece : List UInt8} (hreturns : ReturnsSingly bytes)
    (h : piece ∈ pieces bytes) : KeepsLine piece := by
  obtain ⟨hne, hfeed⟩ := mem_pieces h
  refine ⟨hne, hfeed, fun hlast => ?_⟩
  obtain ⟨line, hline, rfl⟩ := List.mem_map.1 (List.mem_filter.1 h).1
  unfold dropReturn at hlast
  split at hlast
  · next hreturn =>
      obtain ⟨start, rfl⟩ := List.getLast?_eq_some_iff.1 hreturn
      rw [List.dropLast_concat] at hlast
      obtain ⟨start, rfl⟩ := List.getLast?_eq_some_iff.1 hlast
      exact hreturns _ hline ⟨start, by simp⟩
  · next hreturn => exact hreturn hlast

/-- The compact text of an object keeps to one line. -/
theorem keepsLine_compactText (members : List (String × Json)) :
    KeepsLine (Text.encode (compactText (.object members))) := by
  obtain ⟨start, hstart⟩ := List.getLast?_eq_some_iff.1 (Json.getLast?_compact_object members)
  have hbytes : Text.encode (compactText (.object members)) =
      start.flatMap String.utf8EncodeChar ++ [125] := by
    rw [compactText, Text.encode_ofList, hstart, List.flatMap_append]
    rfl
  refine ⟨?_, ?_, ?_⟩
  · simp [hbytes]
  · have hnone := Json.not_mem_compact (.object members)
    rwa [Text.mem_encode_iff (c := '\n') (by decide) rfl, compactText, String.toList_ofList]
  · rw [hbytes, List.getLast?_concat]
    decide

theorem keepsLine_resent {bytes piece : List UInt8} (hreturns : ReturnsSingly bytes)
    (h : piece ∈ pieces bytes) : KeepsLine (resent piece) := by
  rcases denotes_or_no_record piece with ⟨members, hdenotes⟩ | hnone
  · rw [resent_of_denotes hdenotes]
    exact keepsLine_compactText members
  · rw [resent_of_no_record hnone]
    exact keepsLine_of_mem hreturns h

/-- The pieces of the output are the texts that were written. -/
theorem pieces_resent {bytes : List UInt8} (hreturns : ReturnsSingly bytes) (zone : DisplayZone)
    (colors : Bool) :
    pieces (run .all ⟨.bunyan, zone, colors⟩ { bytes := bytes } {}).output =
      (pieces bytes).map resent := by
  have houtput : (run .all ⟨.bunyan, zone, colors⟩ { bytes := bytes } {}).output =
      ((pieces bytes).map resent).flatMap fun p => p ++ [lineFeed] := by
    rw [run_unlimited, List.flatMap_map]
    exact List.flatMap_congr fun piece _ => rendered_bunyan zone colors piece
  rw [houtput]
  refine pieces_lines fun p hp => ?_
  obtain ⟨piece, hpiece, rfl⟩ := List.mem_map.1 hp
  exact keepsLine_resent hreturns hpiece

/-! ## The second run -/

theorem recordNumbers_of_denotes {piece : List UInt8} {members : List (String × Json)}
    (h : Denotes piece members) : recordNumbers piece = (Json.object members).numbers := by
  obtain ⟨text, rfl, hparse⟩ := h
  simp only [recordNumbers, Text.decode?_encode, hparse]

section Again

variable {bytes piece : List UInt8}

/-- What was written for a record denotes the object of the record. -/
theorem denotes_resent (hwhole : NumbersWhole bytes) (h : piece ∈ pieces bytes)
    {members : List (String × Json)} (hdenotes : Denotes piece members) :
    Denotes (resent piece) members := by
  have hnumbers := hwhole piece h
  rw [recordNumbers_of_denotes hdenotes] at hnumbers
  have hresent := resent_of_denotes hdenotes
  obtain ⟨text, -, hparse⟩ := hdenotes
  exact ⟨compactText (.object members), hresent.symm,
    Json.parse_compactText_of_parse hparse hnumbers⟩

/-- What was written for a piece is rendered as the piece is. -/
theorem rendered_resent (hwhole : NumbersWhole bytes) (h : piece ∈ pieces bytes) (filter : Filter)
    (view : View) : rendered filter view (resent piece) = rendered filter view piece := by
  rcases denotes_or_no_record piece with ⟨members, hdenotes⟩ | hnone
  · exact rendered_of_denotes (denotes_resent hwhole h hdenotes) hdenotes filter view
  · rw [resent_of_no_record hnone]

/-- What was written for a piece is counted as the piece is. -/
theorem tally_resent (hwhole : NumbersWhole bytes) (h : piece ∈ pieces bytes) (filter : Filter) :
    tally filter [resent piece] = tally filter [piece] := by
  rcases denotes_or_no_record piece with ⟨members, hdenotes⟩ | hnone
  · have hsame := ofLine_of_denotes (denotes_resent hwhole h hdenotes) hdenotes filter {}
    rw [← count_ofLine filter {}, ← count_ofLine filter {}, hsame]
  · rw [resent_of_no_record hnone]

theorem tally_map_resent (hwhole : NumbersWhole bytes) (filter : Filter) {ps : List (List UInt8)}
    (hps : ∀ p ∈ ps, p ∈ pieces bytes) : tally filter (ps.map resent) = tally filter ps := by
  induction ps with
  | nil => rfl
  | cons p ps ih =>
      obtain ⟨hp, hrest⟩ := List.forall_mem_cons.1 hps
      have hcons : p :: ps = [p] ++ ps := rfl
      rw [hcons, List.map_append, tally_append, tally_append, ih hrest, List.map_singleton,
        tally_resent hwhole hp]

/-- A run over the output writes and returns what a run over the input does. -/
theorem run_resent (hreturns : ReturnsSingly bytes) (hwhole : NumbersWhole bytes)
    (zone : DisplayZone) (colors : Bool) (filter : Filter) (view : View) :
    let mid := (run .all ⟨.bunyan, zone, colors⟩ { bytes := bytes } {}).output
    let again := run filter view { bytes := mid } {}
    let once := run filter view { bytes := bytes } {}
    again.output = once.output ∧ again.returned = once.returned := by
  intro mid again once
  have hmid : pieces mid = (pieces bytes).map resent := pieces_resent hreturns zone colors
  obtain ⟨houtput, hreturned, -⟩ := (run_pieces filter view).1 mid
  obtain ⟨houtput', hreturned', -⟩ := (run_pieces filter view).1 bytes
  constructor
  · rw [houtput, houtput', hmid, List.flatMap_map]
    exact List.flatMap_congr fun piece hpiece => rendered_resent hwhole hpiece filter view
  · rw [hreturned, hreturned', hmid, tally_map_resent hwhole filter fun p hp => hp]

end Again

/-- **The mode `bunyan` is transparent.** Of an input in which no line ends with two carriage
returns and all numbers in records are whole, a run without a filter in the mode `bunyan` makes an
output from which every later run writes and counts the same as from the input itself. In particular
such a run gives its own output back. -/
theorem run_bunyan (filter : Filter) (view : View) (zone : DisplayZone) (colors : Bool)
    (bytes : List UInt8) (hreturns : ReturnsSingly bytes) (hwhole : NumbersWhole bytes) :
    let bunyan := fun input => run .all ⟨.bunyan, zone, colors⟩ { bytes := input } {}
    let mid := (bunyan bytes).output
    (run filter view { bytes := mid } {}).output = (run filter view { bytes := bytes } {}).output ∧
      (run filter view { bytes := mid } {}).returned =
        (run filter view { bytes := bytes } {}).returned ∧
      (bunyan mid).output = mid := by
  intro bunyan mid
  obtain ⟨houtput, hreturned⟩ := run_resent hreturns hwhole zone colors filter view
  obtain ⟨hidempotent, -⟩ := run_resent hreturns hwhole zone colors .all ⟨.bunyan, zone, colors⟩
  exact ⟨houtput, hreturned, hidempotent⟩

/-- An object with space in it and a carriage return after it, and a text. -/
theorem run_bunyan_object_then_text :
    let input := [123, 34, 98, 34, 58, 32, 49, 44, 34, 97, 34, 58, 50, 125, 13, 10, 120, 10]
    let mid := (run .all ⟨.bunyan, .utc, false⟩ { bytes := input } {}).output
    ReturnsSingly input ∧ NumbersWhole input ∧
      (run .all {} { bytes := mid } {}).output = (run .all {} { bytes := input } {}).output := by
  intro input mid
  have hreturns : ReturnsSingly input := by
    unfold ReturnsSingly
    decide +kernel
  have hwhole : NumbersWhole input := by
    unfold NumbersWhole
    decide +kernel
  exact ⟨hreturns, hwhole, (run_bunyan .all {} .utc false input hreturns hwhole).1⟩

end LogLens.Stream
