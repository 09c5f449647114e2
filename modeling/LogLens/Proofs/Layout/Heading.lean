import LogLens.Layout.Line
import LogLens.Proofs.Json.OneLine
import LogLens.Proofs.Time.Rfc3339
import Mathlib.Data.List.Basic

/-!
# The heading of a record

Where no text of a record has a line break in it, the long and the short form break lines only in
front of blobs and inside of them, and each such line begins with the blanks to the column of blobs.
The first line of the record, its heading, never begins so: it begins with a time, a color or the
label of a level. The simple form is its heading alone. So headings can be told from all other lines
of an output.

What a writer adds to a text is checked piece by piece: `Inset n` holds of a text when each of its
line breaks has `n` blanks behind it, and it holds of two texts one after the other when it holds of
both.

## Main results

* `Inset.lines` — the lines of such a text, its heading aside, begin with the blanks.
* `inset_block` — so it is with blocks, at any depth.
* `hasHeading_render` — the lines of a record in a form for reading.
-/

namespace LogLens

namespace Text

/-! ## Lines that begin with blanks -/

/-- The first line of a text. -/
def heading (text : List Char) : List Char := text.takeWhile (· != '\n')

/-- Behind each line break of a text there are at least `n` blanks. -/
def Inset (n : Nat) : List Char → Prop
  | [] => True
  | c :: cs => (c = '\n' → List.replicate n ' ' <+: cs) ∧ Inset n cs

variable {n : Nat} {text other : List Char}

theorem inset_nil : Inset n [] := trivial

theorem Inset.append (h : Inset n text) (hother : Inset n other) : Inset n (text ++ other) := by
  induction text with
  | nil => exact hother
  | cons c cs ih =>
      refine ⟨fun hc => ?_, ih h.2⟩
      exact (h.1 hc).trans (List.prefix_append cs other)

theorem inset_of_not_mem (h : '\n' ∉ text) : Inset n text := by
  induction text with
  | nil => trivial
  | cons c cs ih =>
      rw [List.mem_cons, not_or] at h
      exact ⟨fun hc => absurd hc.symm h.1, ih h.2⟩

theorem not_mem_blanks (n : Nat) : '\n' ∉ List.replicate n ' ' := fun h =>
  absurd (List.eq_of_mem_replicate h) (by decide)

theorem inset_newLine {indent : Nat} (h : n ≤ indent) : Inset n (Json.newLine indent) := by
  refine ⟨fun _ => ⟨List.replicate (indent - n) ' ', ?_⟩, inset_of_not_mem (not_mem_blanks indent)⟩
  rw [← List.replicate_add, Nat.add_sub_cancel' h]

theorem heading_append (h : '\n' ∉ text) : heading (text ++ other) = text ++ heading other := by
  refine List.takeWhile_append_of_pos fun c hc => ?_
  have hne : c ≠ '\n' := fun e => h (e ▸ hc)
  simpa using hne

theorem heading_of_not_mem (h : '\n' ∉ text) : heading text = text := by
  have hself : heading (text ++ []) = text ++ heading [] := heading_append h
  rwa [List.append_nil, show heading [] = [] from rfl, List.append_nil] at hself

/-- The lines of a text are its heading and others, which begin with the blanks. -/
theorem Inset.lines (h : Inset n text) :
    ∃ rest, text.splitOn '\n' = heading text :: rest ∧
      ∀ line ∈ rest, List.replicate n ' ' <+: line := by
  induction text with
  | nil => exact ⟨[], rfl, by simp⟩
  | cons c cs ih =>
      obtain ⟨rest, hlines, hrest⟩ := ih h.2
      rw [List.splitOn_cons_eq_if_modifyHead, hlines]
      by_cases hc : c = '\n'
      · subst hc
        refine ⟨heading cs :: rest, by simp [heading], ?_⟩
        rw [List.forall_mem_cons]
        refine ⟨?_, hrest⟩
        obtain ⟨after, rfl⟩ := h.1 rfl
        rw [heading_append (not_mem_blanks n)]
        exact List.prefix_append _ _
      · exact ⟨rest, by simp [heading, hc], hrest⟩

end Text

namespace Layout

open Text
open Json (newLine plain_number)

/-! ## Blocks -/

theorem plain_shown? {number : Number} {shown : String} (h : number.shown? = some shown) :
    Plain shown.toList := by
  cases number with
  | whole n =>
      obtain rfl := Option.some.inj h
      exact plain_intText n.value
  | real x =>
      rw [Number.shown?] at h
      split at h
      · obtain rfl := Option.some.inj h
        unfold Binary64.shown
        split
        · split
          · exact plain_intText _
          · exact NumberStyle.plain.plain_text _
        · exact NumberStyle.plain.plain_text _
      · cases h

theorem plain_numberText (number : Number) : Plain (numberText number) := by
  unfold numberText
  split
  · next hshown => exact plain_shown? hshown
  · rw [plain_append]
    exact ⟨by decide, plain_number number⟩

theorem not_mem_of_plain {text : List Char} (h : Plain text) : '\n' ∉ text := h.not_mem (by decide)

section Block

variable {n indent : Nat}

theorem inset_inlineItems {items : List Json} (h : ∀ v ∈ items, Inset n (block indent v)) :
    Inset n (inlineItems indent items) := by
  induction items with
  | nil => exact inset_of_not_mem (by simp [inlineItems])
  | cons v rest ih =>
      obtain ⟨hv, hrest⟩ := List.forall_mem_cons.1 h
      have hseparator : Inset n [',', ' '] := inset_of_not_mem (by decide)
      exact (hseparator.append hv).append (ih hrest)

theorem inset_blockItems (hindent : n ≤ indent) {items : List Json}
    (h : ∀ v ∈ items, Inset n (block (indent + 2) v)) : Inset n (blockItems indent items) := by
  have hclose : Inset n [']'] := inset_of_not_mem (by decide)
  have hcomma : Inset n [','] := inset_of_not_mem (by decide)
  induction items with
  | nil => exact (inset_newLine hindent).append hclose
  | cons v rest ih =>
      obtain ⟨hv, hrest⟩ := List.forall_mem_cons.1 h
      exact ((hcomma.append (inset_newLine (Nat.le_add_right_of_le hindent))).append hv).append
        (ih hrest)

theorem inset_label {key : String} (h : '\n' ∉ key.toList) : Inset n (label key) :=
  inset_of_not_mem (by simp [label, h])

theorem inset_blockMembers (hindent : n ≤ indent) {members : List (String × Json)}
    (h : ∀ m ∈ members, '\n' ∉ m.1.toList ∧ Inset n (block (indent + 2) m.2)) :
    Inset n (blockMembers indent members) := by
  have hclose : Inset n ['}'] := inset_of_not_mem (by decide)
  have hcomma : Inset n [','] := inset_of_not_mem (by decide)
  induction members with
  | nil => exact (inset_newLine hindent).append hclose
  | cons m rest ih =>
      obtain ⟨⟨hkey, hm⟩, hrest⟩ := List.forall_mem_cons.1 h
      have hline := inset_newLine (Nat.le_add_right_of_le hindent : n ≤ indent + 2)
      exact (((hcomma.append hline).append (inset_label hkey)).append hm).append (ih hrest)

end Block

/-- The lines of a block begin with the blanks to its column, when no text in it has a line break. -/
theorem inset_block {n : Nat} (v : Json) (h : ∀ s ∈ v.texts, '\n' ∉ s.toList) :
    ∀ indent, n ≤ indent → Inset n (block indent v) := by
  induction v with
  | null => exact fun _ _ => inset_of_not_mem (by simp [block])
  | bool b => cases b <;> exact fun _ _ => inset_of_not_mem (by simp [block])
  | number number => exact fun _ _ => inset_of_not_mem (not_mem_of_plain (plain_numberText number))
  | string s =>
      have hs : '\n' ∉ s.toList := h s (List.mem_singleton.2 rfl)
      exact fun _ _ => inset_of_not_mem (by simp [block, hs])
  | list items ih =>
      intro indent hindent
      rw [Json.forall_texts_list] at h
      have hopen : Inset n ['['] := inset_of_not_mem (by decide)
      have hdeeper : n ≤ indent + 2 := Nat.le_add_right_of_le hindent
      cases items with
      | nil => exact inset_of_not_mem (by simp [block])
      | cons v rest =>
          obtain ⟨hv, hrest⟩ := List.forall_mem_cons.1 (fun v hv => ih v hv (h v hv))
          rw [block]
          split
          · exact (hopen.append (hv indent hindent)).append
              (inset_inlineItems fun v hmem => hrest v hmem indent hindent)
          · exact ((hopen.append (inset_newLine hdeeper)).append (hv _ hdeeper)).append
              (inset_blockItems hindent fun v hmem => hrest v hmem _ hdeeper)
  | object members ih =>
      intro indent hindent
      rw [Json.forall_texts_object] at h
      have hopen : Inset n ['{'] := inset_of_not_mem (by decide)
      have hdeeper : n ≤ indent + 2 := Nat.le_add_right_of_le hindent
      cases members with
      | nil => exact inset_of_not_mem (by simp [block])
      | cons m rest =>
          obtain ⟨hm, hrest⟩ := List.forall_mem_cons.1
            (fun m hm => And.intro (h m hm).1 (ih m hm (h m hm).2))
          rw [block]
          exact (((hopen.append (inset_newLine hdeeper)).append (inset_label hm.1)).append
            (hm.2 _ hdeeper)).append
            (inset_blockMembers hindent fun m hmem => ⟨(hrest m hmem).1, (hrest m hmem).2 _ hdeeper⟩)

/-! ## Field values -/

theorem not_mem_fieldItems {items : List Json} (h : ∀ v ∈ items, '\n' ∉ fieldValue v) :
    '\n' ∉ fieldItems items := by
  induction items with
  | nil => simp [fieldItems]
  | cons v rest ih =>
      obtain ⟨hv, hrest⟩ := List.forall_mem_cons.1 h
      simp [fieldItems, hv, ih hrest]

/-- A field value is on one line. -/
theorem not_mem_fieldValue (v : Json) (h : ∀ s ∈ v.texts, '\n' ∉ s.toList) :
    '\n' ∉ fieldValue v := by
  induction v with
  | null => simp [fieldValue, block]
  | bool b => cases b <;> simp [fieldValue, block]
  | number number =>
      rw [fieldValue, block]
      exact not_mem_of_plain (plain_numberText number)
  | string s => exact h s (List.mem_singleton.2 rfl)
  | list items ih =>
      rw [Json.forall_texts_list] at h
      cases items with
      | nil => simp [fieldValue]
      | cons v rest =>
          obtain ⟨hv, hrest⟩ := List.forall_mem_cons.1 (fun v hv => ih v hv (h v hv))
          simp [fieldValue, hv, not_mem_fieldItems hrest]
  | object members =>
      simp [fieldValue, marker, Json.not_mem_compact]

/-! ## The line of a record -/

theorem plain_padded (width n : Nat) : Plain (Clockface.padded width n) := by
  unfold Clockface.padded
  rw [plain_append]
  refine ⟨fun c hc => ?_, plain_toDigits n⟩
  rw [List.eq_of_mem_replicate hc]
  decide

theorem plain_clockface_timeText (digits : Nat) (c : Clockface) : Plain (c.timeText digits) := by
  simp [Clockface.timeText, plain_padded]

theorem plain_dateText (c : Clockface) : Plain c.dateText := by
  have hsign : 0x20 ≤ (if c.date.year < 0 then '-' else '+').toNat := by
    split <;> decide
  have hyear : Plain (Clockface.yearText c.date.year) := by
    unfold Clockface.yearText
    split
    · exact plain_padded 4 _
    · exact plain_cons.2 ⟨hsign, plain_padded 4 _⟩
  simp [Clockface.dateText, plain_padded, hyear]

theorem plain_offsetText (offset : Int) : Plain (Clockface.offsetText offset) := by
  have hsign : 0x20 ≤ (if offset < 0 then '-' else '+').toNat := by
    split <;> decide
  simp [Clockface.offsetText, plain_padded, hsign]

theorem plain_timeText (view : View) (t : Instant) : Plain (timeText view t) := by
  unfold timeText
  split
  · cases view.zone.isUtc <;> simp [plain_clockface_timeText]
  · cases view.zone.isUtc <;> simp [plain_clockface_timeText, plain_dateText, plain_offsetText]

theorem not_mem_reopened {opening : List Char} (hopening : '\n' ∉ opening) {text : List Char}
    (h : '\n' ∉ text) : '\n' ∉ reopened opening text := by
  fun_induction reopened opening text with
  | case1 rest ih =>
      simp only [List.mem_cons, not_or] at h
      have hreset : '\n' ∉ resetSequence := by decide
      simp [hreset, hopening, ih h.2.2.2.2]
  | case2 c rest _ ih =>
      rw [List.mem_cons, not_or] at h ⊢
      exact ⟨h.1, ih h.2⟩
  | case3 => exact h

theorem not_mem_paint (colors : Bool) (ink : Ink) {text : String} (h : '\n' ∉ text.toList) :
    '\n' ∉ paint colors ink text := by
  unfold paint
  split
  · have hopening : '\n' ∉ escapeSequence (inkNumber ink) := by cases ink <;> decide
    have hreset : '\n' ∉ resetSequence := by decide
    simp [painted, hopening, hreset, not_mem_reopened hopening h]
  · exact h

end Layout

/-- The texts of a record: those of its attributes, the keys of its extensions and the texts in
their values. -/
def Record.texts (r : Record) : List String :=
  [r.name, r.hostname, r.topic, r.scope, r.message] ++
    (r.fields ++ r.blobs).flatMap fun m => m.1 :: m.2.texts

/-- No text of a record has a line break in it. -/
def Record.Unbroken (r : Record) : Prop := ∀ s ∈ r.texts, '\n' ∉ s.toList

namespace Layout

open Text

theorem forall_extension {r : Record} (h : r.Unbroken) :
    ∀ m ∈ r.fields ++ r.blobs, '\n' ∉ m.1.toList ∧ ∀ s ∈ m.2.texts, '\n' ∉ s.toList := by
  intro m hm
  have hmem : ∀ s ∈ m.1 :: m.2.texts, s ∈ r.texts := fun s hs =>
    List.mem_append_right _ (List.mem_flatMap.2 ⟨m, hm, hs⟩)
  exact ⟨h _ (hmem _ List.mem_cons_self), fun s hs => h s (hmem s (List.mem_cons_of_mem _ hs))⟩

theorem not_mem_fieldEntries {fields : Dictionary Json}
    (h : ∀ m ∈ fields, '\n' ∉ m.1.toList ∧ ∀ s ∈ m.2.texts, '\n' ∉ s.toList) :
    '\n' ∉ fieldEntries fields := by
  induction fields with
  | nil => simp [fieldEntries]
  | cons m rest ih =>
      obtain ⟨⟨hkey, hvalue⟩, hrest⟩ := List.forall_mem_cons.1 h
      simp [fieldEntries, hkey, not_mem_fieldValue m.2 hvalue, ih hrest]

theorem inset_blobPart {blobs : Dictionary Json}
    (h : ∀ m ∈ blobs, '\n' ∉ m.1.toList ∧ ∀ s ∈ m.2.texts, '\n' ∉ s.toList) :
    Inset blobIndent (blobPart blobs) := by
  induction blobs with
  | nil => exact inset_nil
  | cons m rest ih =>
      obtain ⟨⟨hkey, hvalue⟩, hrest⟩ := List.forall_mem_cons.1 h
      have hline : Inset blobIndent (Json.newLine blobIndent) := inset_newLine (Nat.le_refl _)
      have hcolon : Inset blobIndent [':', ' '] := inset_of_not_mem (by decide)
      have hblock := inset_block m.2 hvalue blobIndent (Nat.le_refl _)
      exact ((hline.append (inset_of_not_mem hkey)).append (hcolon.append hblock)).append (ih hrest)

/-- The line of a record in the long and the short form, without its blobs. -/
def ownLine (view : View) (r : Record) : List Char :=
  header view r ++ ':' :: ' ' :: topicPart view r ++ messageText view r ++ fieldPart r

theorem full_eq (view : View) (r : Record) : full view r = ownLine view r ++ blobPart r.blobs := rfl

theorem not_mem_levelText (view : View) (level : Level) : '\n' ∉ levelText view level :=
  not_mem_paint _ _ (by cases level <;> decide)

theorem not_mem_header {r : Record} (view : View) (hname : '\n' ∉ r.name.toList)
    (hhostname : '\n' ∉ r.hostname.toList) : '\n' ∉ header view r := by
  have htime : '\n' ∉ timePart view r := by
    unfold timePart
    cases r.time with
    | none => simp
    | some t => simp [not_mem_of_plain (plain_timeText view t)]
  have hpid := not_mem_of_plain (plain_intText r.pid.toInt)
  have horigin : '\n' ∉ origin view r := by
    unfold origin
    split
    · split <;> simp [hname]
    · split <;> split <;> simp [hname, hhostname, hpid]
  simp [header, htime, horigin, not_mem_levelText]

theorem not_mem_ownLine {r : Record} (h : r.Unbroken) (view : View) : '\n' ∉ ownLine view r := by
  have hname : '\n' ∉ r.name.toList := h _ (by simp [Record.texts])
  have hhostname : '\n' ∉ r.hostname.toList := h _ (by simp [Record.texts])
  have htopic : '\n' ∉ r.topic.toList := h _ (by simp [Record.texts])
  have hscope : '\n' ∉ r.scope.toList := h _ (by simp [Record.texts])
  have hmessage : '\n' ∉ r.message.toList := h _ (by simp [Record.texts])
  have htopicPart : '\n' ∉ topicPart view r := by
    unfold topicPart
    split
    · simp
    · split <;> simp [not_mem_paint _ _ htopic, not_mem_paint _ _ hscope]
  have hfields : '\n' ∉ fieldPart r := by
    have hentries := not_mem_fieldEntries fun m hm =>
      forall_extension h m (List.mem_append_left r.blobs hm)
    simp [fieldPart, hentries, not_mem_of_plain (plain_intText r.tid.toInt)]
  simp [ownLine, not_mem_header view hname hhostname, htopicPart, messageText,
    not_mem_paint _ _ hmessage, hfields]

/-! ## The heading -/

/-- Whether a line begins with four blanks, as many as there are before a blob. -/
def isBelow (line : List Char) : Bool := [' ', ' ', ' ', ' '].isPrefixOf line

theorem isBelow_iff {line : List Char} :
    isBelow line = true ↔ List.replicate blobIndent ' ' <+: line :=
  List.isPrefixOf_iff_prefix

/-- A text that begins with something else than two blanks has a heading that is not taken for a line
below. -/
theorem isBelow_heading {text : List Char} (h : ¬[' ', ' '] <+: text) :
    isBelow (heading text) = false := by
  have htwo : [' ', ' '] <+: List.replicate blobIndent ' ' := by decide
  refine Bool.eq_false_iff.2 fun hbelow => h ?_
  exact (htwo.trans (isBelow_iff.1 hbelow)).trans (List.takeWhile_prefix _)

theorem not_blank_levelText (view : View) (level : Level) (rest : List Char) :
    ¬[' ', ' '] <+: levelText view level ++ rest := by
  unfold levelText paint
  split
  · simp [painted, escapeSequence]
  · cases level <;> simp [Level.label]

/-- A time begins with a bracket or a digit. -/
theorem not_blank_timeText (view : View) (t : Instant) (rest : List Char) :
    ¬[' ', ' '] <+: timeText view t ++ rest := by
  unfold timeText
  split
  · obtain ⟨hour, hhour⟩ : ∃ hour, (view.zone.clockface t).hour = hour := ⟨_, rfl⟩
    have hdigits := Clockface.isDigit_padded 2 hour
    have hlength := Clockface.le_length_padded 2 hour
    simp only [Clockface.timeText, hhour, List.append_assoc]
    cases hpadded : Clockface.padded 2 hour with
    | nil => simp [hpadded] at hlength
    | cons c cs =>
        have hc : c.isDigit = true := hdigits c (hpadded ▸ List.mem_cons_self)
        have hblank : ' ' ≠ c := by
          rintro rfl
          exact absurd hc (by decide)
        simp [hblank]
  · simp

theorem not_blank_header (view : View) (r : Record) (rest : List Char) :
    ¬[' ', ' '] <+: header view r ++ rest := by
  unfold header timePart
  cases r.time with
  | none =>
      rw [List.nil_append, List.append_assoc]
      exact not_blank_levelText view r.level _
  | some t =>
      simp only [List.append_assoc]
      exact not_blank_timeText view t _

/-- The lines of a text are its heading and lines below. -/
def HasHeading (text : List Char) : Prop :=
  isBelow (heading text) = false ∧
    ∃ below, text.splitOn '\n' = heading text :: below ∧ ∀ line ∈ below, isBelow line = true

/-- The long and the short form have one line of their own, and every line below begins with the
blanks to the column of blobs. -/
theorem hasHeading_full {r : Record} (h : r.Unbroken) (view : View) : HasHeading (full view r) := by
  have hinset : Inset blobIndent (full view r) := by
    rw [full_eq]
    exact (inset_of_not_mem (not_mem_ownLine h view)).append
      (inset_blobPart fun m hm => forall_extension h m (List.mem_append_right r.fields hm))
  have hstart : ¬[' ', ' '] <+: full view r := by
    simp only [full, List.append_assoc]
    exact not_blank_header view r _
  obtain ⟨below, hlines, hbelow⟩ := hinset.lines
  exact ⟨isBelow_heading hstart, below, hlines, fun line hline => isBelow_iff.2 (hbelow line hline)⟩

theorem not_mem_simple {r : Record} (h : r.Unbroken) (view : View) : '\n' ∉ simple view r := by
  have hmessage : '\n' ∉ r.message.toList := h _ (by simp [Record.texts])
  simp [simple, not_mem_levelText, messageText, not_mem_paint _ _ hmessage]

/-- The simple form is a heading and nothing below. -/
theorem hasHeading_simple {r : Record} (h : r.Unbroken) (view : View) :
    HasHeading (simple view r) := by
  have hone := not_mem_simple h view
  have hstart : ¬[' ', ' '] <+: simple view r := by
    simp only [simple, List.append_assoc]
    exact not_blank_levelText view r.level _
  refine ⟨isBelow_heading hstart, [], ?_, by simp⟩
  rw [List.splitOn_eq_singleton hone, heading_of_not_mem hone]

/-- Every form for reading has a heading. -/
theorem hasHeading_render {r : Record} (h : r.Unbroken) {view : View}
    (hmode : view.mode.isJson = false) : HasHeading (render view r) := by
  unfold render
  cases hview : view.mode with
  | long => exact hasHeading_full h view
  | short => exact hasHeading_full h view
  | simple => exact hasHeading_simple h view
  | json => rw [hview] at hmode; cases hmode
  | bunyan => rw [hview] at hmode; cases hmode

end Layout

end LogLens
