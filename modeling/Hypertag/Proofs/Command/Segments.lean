import Hypertag.Command.Run
import Hypertag.Proofs.Json.RoundTrip
import Hypertag.Proofs.Text.Quoting

/-!
# The output of a split template

Either format writes the segments one after the other, each behind a mark that its place decides, in a
way that tells where its text ends. So the output determines the segments.
-/

namespace Hypertag.Command

open Template (Segment SegmentKind segmentsOf)

/-! ## Frames -/

/-- Texts in a row, each written between a mark of its place and an end. -/
def framed (mark : Nat → Text) (write : Text → Text) (ending : Text) : Nat → List Text → Text
  | _, [] => []
  | index, t :: rest => mark index ++ write t ++ ending ++ framed mark write ending (index + 1) rest

def Separable (write : Text → Text) : Prop :=
  ∀ ⦃t u rest more : Text⦄, write t ++ rest = write u ++ more → t = u ∧ rest = more

section Frames

variable {mark : Nat → Text} {write : Text → Text} {ending last : Text}

/-- Where the last frame ends shows when no mark begins as the rest does. -/
theorem framed_inj (hwrite : Separable write) (hlast : ∀ index rest, mark index ++ rest ≠ last)
    {a b : List Text} {index : Nat}
    (h : framed mark write ending index a ++ last = framed mark write ending index b ++ last) :
    a = b := by
  -- The index goes up along with both lists, so the marks agree as long as both go on.
  induction a generalizing b index with
  | nil =>
      cases b with
      | nil => rfl
      | cons u b =>
          simp only [framed, List.nil_append, List.append_assoc] at h
          exact absurd h.symm (hlast index _)
  | cons t a ih =>
      cases b with
      | nil =>
          simp only [framed, List.nil_append, List.append_assoc] at h
          exact absurd h (hlast index _)
      | cons u b =>
          simp only [framed, List.append_assoc] at h
          obtain ⟨rfl, hrest⟩ := hwrite (List.append_cancel_left h)
          rw [ih (List.append_cancel_left hrest)]

end Frames

def segmentsFrom (index : Nat) (texts : List Text) : List Segment :=
  (texts.zipIdx index).map fun (text, index) => ⟨.ofIndex index, text, index⟩

theorem segmentsFrom_cons (index : Nat) (t : Text) (rest : List Text) :
    segmentsFrom index (t :: rest) = ⟨.ofIndex index, t, index⟩ :: segmentsFrom (index + 1) rest :=
  rfl

/-! ## Lines -/

def lineMark (index : Nat) : Text :=
  '[' :: Text.ofNat index ++ "] " ++ (SegmentKind.ofIndex index).name ++ ": "

theorem flatMap_segmentLine (index : Nat) (texts : List Text) :
    (segmentsFrom index texts).flatMap segmentLine =
      framed lineMark Text.quoted ['\n'] index texts := by
  induction texts generalizing index with
  | nil => rfl
  | cons t rest ih =>
      rw [segmentsFrom_cons, List.flatMap_cons, ih, framed]
      rfl

theorem separable_quoted : Separable Text.quoted := fun _ _ _ _ h => Text.quoted_append_inj h

def segmentBody (s : Segment) : Text :=
  '[' :: Text.ofNat s.index ++ "] " ++ s.kind.name ++ ": " ++ s.text.quoted

/-- Nothing ends the line of a segment before its end. -/
theorem segmentBody_oneLine (s : Segment) : ∀ c ∈ segmentBody s, c ∉ Text.lineBoundaries := by
  have hdigits : ∀ c ∈ Text.ofNat s.index, c ∉ Text.lineBoundaries := by
    intro c hc
    exact Text.notMem_lineBoundaries_of_isDigit (Nat.isDigit_of_mem_toDigits (by decide) (by decide) hc)
  have hkind : ∀ c ∈ s.kind.name, c ∉ Text.lineBoundaries := by
    apply Text.notMem_lineBoundaries_of_all
    cases s.kind <;> decide
  have hquoted : ∀ c ∈ s.text.quoted, c ∉ Text.lineBoundaries := fun c hc =>
    Text.notMem_lineBoundaries_of_isPrintable (Text.isPrintable_quoted s.text c hc)
  intro c hc
  simp only [segmentBody, List.cons_append, List.mem_cons, List.mem_append] at hc
  rcases hc with rfl | (((hc | hc) | hc) | hc) | hc
  · decide
  · exact hdigits c hc
  · exact Text.notMem_lineBoundaries_of_all (by decide) c hc
  · exact hkind c hc
  · exact Text.notMem_lineBoundaries_of_all (by decide) c hc
  · exact hquoted c hc

/-! ## Documents -/

open Json (emit emitItems emitEntries emitKey keyText? keyText lineBreak newLine writeString
  ofText_append)

def documentMark (index : Nat) : Text :=
  '\x7b' :: lineBreak 2 ++ keyText .unicode "index" ++ Text.ofInt index ++
    ',' :: lineBreak 2 ++ keyText .unicode "kind" ++
      writeString .unicode (SegmentKind.ofIndex index).name ++
    ',' :: lineBreak 2 ++ keyText .unicode "text"

def documentEnd : Text := lineBreak 1 ++ ['\x7d']

theorem emit_segmentDocument (index : Nat) (t : Text) :
    emit .unicode 1 (segmentDocument ⟨.ofIndex index, t, index⟩) =
      .ofText (documentMark index ++ writeString .unicode t ++ documentEnd) := by
  have hcolon : ": ".toList = [':', ' '] := rfl
  rw [segmentDocument, emit, emit, emitEntries, emitEntries, emitEntries, emit, emit]
  simp only [emitKey, keyText?, newLine, Option.isSome_some, if_true, ofText_append]
  apply congrArg Json.Emission.ofText
  simp only [documentMark, documentEnd, keyText, lineBreak, hcolon, Nat.reduceAdd, List.append_assoc,
    List.cons_append, List.nil_append]

/-- The comma before an item, and what stands before its text. -/
def itemMark (index : Nat) : Text := ',' :: lineBreak 1 ++ documentMark index

theorem emitItems_segments (index : Nat) (texts : List Text) :
    emitItems .unicode 1 ((segmentsFrom index texts).map segmentDocument) =
      .ofText (framed itemMark (writeString .unicode) documentEnd index texts) := by
  induction texts generalizing index with
  | nil => rfl
  | cons t rest ih =>
      rw [segmentsFrom_cons, List.map_cons, emitItems, emit_segmentDocument, ih]
      simp only [newLine, ofText_append]
      apply congrArg Json.Emission.ofText
      simp only [framed, itemMark, lineBreak, List.append_assoc, List.cons_append, List.nil_append]

/-- The document of some segments, from the mark of the first one on. -/
theorem segmentsOutput_json (t : Text) (rest : List Text) :
    segmentsOutput .json (segmentsFrom 0 (t :: rest)) =
      '[' :: lineBreak 1 ++ documentMark 0 ++ (writeString .unicode t ++ (documentEnd ++
        (framed itemMark (writeString .unicode) documentEnd 1 rest ++
          (lineBreak 0 ++ [']', '\n'])))) := by
  have hwritten : Json.write .unicode (.list ((segmentsFrom 0 (t :: rest)).map segmentDocument)) =
      .ofText ('[' :: lineBreak 1 ++ documentMark 0 ++ (writeString .unicode t ++ (documentEnd ++
        (framed itemMark (writeString .unicode) documentEnd 1 rest ++ (lineBreak 0 ++ [']']))))) := by
    rw [segmentsFrom_cons, List.map_cons, Json.write, emit, emit_segmentDocument, emitItems_segments]
    simp only [newLine, ofText_append]
    apply congrArg Json.Emission.ofText
    simp only [lineBreak, Nat.zero_add, List.append_assoc, List.cons_append, List.nil_append]
  rw [segmentsOutput, hwritten, Json.Emission.ofText]
  simp only [List.append_assoc, List.cons_append, List.nil_append]

theorem separable_writeString (alphabet : Json.Alphabet) : Separable (writeString alphabet) :=
  fun _ _ _ _ h => Json.writeString_append_inj h

/-! ## Outputs -/

theorem segmentsOutput_text_inj {a b : List Text}
    (h : segmentsOutput .text (segmentsOf a) = segmentsOutput .text (segmentsOf b)) : a = b := by
  have hframed : framed lineMark Text.quoted ['\n'] 0 a ++ [] =
      framed lineMark Text.quoted ['\n'] 0 b ++ [] := by
    rw [List.append_nil, List.append_nil, ← flatMap_segmentLine, ← flatMap_segmentLine]
    exact h
  apply framed_inj separable_quoted _ hframed
  intro index rest hempty
  cases hempty

theorem segmentsOutput_json_inj {a b : List Text} (ha : a ≠ []) (hb : b ≠ [])
    (h : segmentsOutput .json (segmentsOf a) = segmentsOutput .json (segmentsOf b)) : a = b := by
  obtain ⟨t, a, rfl⟩ := List.exists_cons_of_ne_nil ha
  obtain ⟨u, b, rfl⟩ := List.exists_cons_of_ne_nil hb
  have hwritten : segmentsOutput .json (segmentsFrom 0 (t :: a)) =
      segmentsOutput .json (segmentsFrom 0 (u :: b)) := h
  rw [segmentsOutput_json, segmentsOutput_json] at hwritten
  obtain ⟨rfl, hrest⟩ := separable_writeString .unicode (List.append_cancel_left hwritten)
  have htail : a = b := by
    apply framed_inj (separable_writeString .unicode) _ (List.append_cancel_left hrest)
    intro index rest hcomma
    cases hcomma
  rw [htail]

/-- The output of one or more segments determines them. -/
theorem segmentsOutput_inj (format : OutputFormat) {a b : List Text} (ha : a ≠ []) (hb : b ≠ [])
    (h : segmentsOutput format (segmentsOf a) = segmentsOutput format (segmentsOf b)) : a = b := by
  cases format with
  | text => exact segmentsOutput_text_inj h
  | json => exact segmentsOutput_json_inj ha hb h

end Hypertag.Command
