/-
**Cutting lines into pieces of a fixed width.**

`pieces width line` cuts a line into consecutive pieces of `width` elements; an empty line is one
empty piece and no piece but the only one of a line is empty. A `Sheet` is what a typewriter with
that width holds after some keys: the rows it has finished and the row it is on.

* `write_rows`: typing a text element by element gives the pieces of the text;
* `writeLines_rows`: typing lines, with a carriage return between two, gives all their pieces.
-/

import Mathlib.Data.List.Flatten

namespace Pieces

variable {α : Type}

/-- The consecutive pieces of `width` elements of a line. -/
def pieces (width : Nat) (line : List α) : List (List α) :=
  if width = 0 ∨ line.length ≤ width then [line]
  else line.take width :: pieces width (line.drop width)
termination_by line.length
decreasing_by
  rw [List.length_drop]
  omega

theorem pieces_short {width : Nat} {line : List α} (short : line.length ≤ width) :
    pieces width line = [line] := by
  rw [pieces, if_pos (Or.inr short)]

/-- A full piece is cut off when more follows. -/
theorem pieces_append {width : Nat} (wide : 0 < width) {first rest : List α}
    (full : first.length = width) (more : rest ≠ []) :
    pieces width (first ++ rest) = first :: pieces width rest := by
  have long : 0 < rest.length := List.length_pos_iff.mpr more
  rw [pieces, if_neg (by rw [List.length_append]; omega), ← full, List.take_left, List.drop_left]

/-- The rows finished and the row being typed. -/
structure Sheet (α : Type) where
  done : List (List α)
  current : List α

namespace Sheet

def rows (s : Sheet α) : List (List α) := s.done ++ [s.current]

/-- A key: at the end of a full row, a new row is begun first. -/
def put (width : Nat) (s : Sheet α) (c : α) : Sheet α :=
  if s.current.length = width then ⟨s.done ++ [s.current], [c]⟩ else ⟨s.done, s.current ++ [c]⟩

def newline (s : Sheet α) : Sheet α := ⟨s.done ++ [s.current], []⟩

def write (width : Nat) (s : Sheet α) (text : List α) : Sheet α := text.foldl (put width) s

/-- Lines typed with a new line between two. -/
def writeLines (width : Nat) (s : Sheet α) : List (List α) → Sheet α
  | [] => s
  | [line] => s.write width line
  | line :: next :: lines => ((s.write width line).newline).writeLines width (next :: lines)

theorem put_width {width : Nat} (wide : 0 < width) {s : Sheet α} (fits : s.current.length ≤ width)
    (c : α) : (s.put width c).current.length ≤ width := by
  unfold put
  split
  · exact wide
  · rw [List.length_append, List.length_singleton]
    omega

/-- **Typing a text gives its pieces.** -/
theorem write_rows {width : Nat} (wide : 0 < width) {s : Sheet α} (fits : s.current.length ≤ width)
    (text : List α) : (s.write width text).rows = s.done ++ pieces width (s.current ++ text) := by
  induction text generalizing s with
  | nil => rw [List.append_nil, pieces_short fits, write, List.foldl_nil, rows]
  | cons c text ih =>
      have tail := ih (put_width wide fits c)
      rw [write, List.foldl_cons]
      refine tail.trans ?_
      unfold put
      by_cases full : s.current.length = width
      · rw [if_pos full, pieces_append wide full (List.cons_ne_nil c text), List.append_assoc]
        rfl
      · rw [if_neg full, List.append_assoc]
        rfl

/-- **Typing lines gives the pieces of all of them.** -/
theorem writeLines_rows {width : Nat} (wide : 0 < width) (done : List (List α))
    {lines : List (List α)} (some : lines ≠ []) :
    (writeLines width ⟨done, []⟩ lines).rows = done ++ lines.flatMap (pieces width) := by
  induction lines generalizing done with
  | nil => exact absurd rfl some
  | cons line lines ih =>
      have typed := write_rows wide (s := ⟨done, []⟩) (Nat.zero_le width) line
      rw [List.nil_append] at typed
      cases lines with
      | nil =>
          rw [List.flatMap_singleton]
          exact typed
      | cons next lines =>
          have head : (line :: next :: lines).flatMap (pieces width) =
              pieces width line ++ (next :: lines).flatMap (pieces width) := List.flatMap_cons
          rw [writeLines, newline, head, ← List.append_assoc]
          refine (ih _ (List.cons_ne_nil next lines)).trans ?_
          exact congrArg (fun rows => rows ++ (next :: lines).flatMap (pieces width)) typed

end Sheet

end Pieces
