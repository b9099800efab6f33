import Mathlib.Data.List.Basic

/-!
# Texts of whole lines, in UTF-8

A text is sent in chunks, a chunk for a line, and what arrives is put together
and split again.
-/

namespace OrderFlow

/-- A line with its newline, encoded. -/
def lineBytes (line : List Char) : ByteArray :=
  (String.ofList (line ++ ['\n'])).toByteArray

/-- The chunks as one text. -/
def joined (chunks : List ByteArray) : ByteArray :=
  chunks.foldr (· ++ ·) .empty

/-- The lines of a text; `none` if the last one does not end. -/
def lines? : List Char → Option (List (List Char))
  | [] => some []
  | c :: text =>
      if c = '\n' then (lines? text).map ([] :: ·)
      else
        match lines? text with
        | some (line :: lines) => some ((c :: line) :: lines)
        | _ => none

theorem lines?_line {line : List Char} (hline : '\n' ∉ line)
    {text : List Char} {lines : List (List Char)}
    (htext : lines? text = some lines) :
    lines? (line ++ '\n' :: text) = some (line :: lines) := by
  induction line with
  | nil => simp [lines?, htext]
  | cons c line ih =>
      rw [List.mem_cons, not_or] at hline
      rw [List.cons_append, lines?, if_neg (Ne.symm hline.1), ih hline.2]

theorem joined_lineBytes (lines : List (List Char)) :
    joined (lines.map lineBytes) =
      (lines.flatMap fun line => line ++ ['\n']).utf8Encode := by
  induction lines with
  | nil => simp [joined]
  | cons line lines ih =>
      rw [List.flatMap_cons, List.utf8Encode_append, ← ih, ← String.toByteArray_ofList]
      rfl

/-- Lines without newlines of their own arrive as they were sent. -/
theorem lines_arrive {lines : List (List Char)}
    (hlines : ∀ line ∈ lines, '\n' ∉ line) :
    ((joined (lines.map lineBytes)).utf8Decode?.bind fun text =>
      lines? text.toList) = some lines := by
  rw [joined_lineBytes, List.utf8Decode?_utf8Encode, Option.bind_some]
  induction lines with
  | nil => rfl
  | cons line lines ih =>
      rw [List.forall_mem_cons] at hlines
      have hrest := lines?_line hlines.1 (ih hlines.2)
      simpa using hrest

end OrderFlow
