/-
**Pages of text, and the lines above them.**

A `Page` is a screenful of cells. What is written on one is a region of it in one cell (`fill`); the
lines between two margins move up by one (`scrollUp`). A `Backlog` is the last lines that have
left a page, no more than `capacity`, and how far above the page the view is; the two bounds are
fields, so that every operation keeps them.

* `line_getElem?`: the lines in view are a window of those kept and the page's.
-/

import Mathlib.Data.Fintype.Basic
import Mathlib.Data.List.OfFn
import Tab5RemoteTerminal.Library.Ring

abbrev Line (cols : Nat) (α : Type) := Fin cols → α

abbrev Page (rows cols : Nat) (α : Type) := Fin rows → Line cols α

/-- The lines that scroll. -/
structure Margins (rows : Nat) where
  top : Fin rows
  bottom : Fin rows
  ordered : top < bottom
deriving DecidableEq, Repr

@[ext] theorem Margins.ext {rows : Nat} {one two : Margins rows} (top : one.top = two.top)
    (bottom : one.bottom = two.bottom) : one = two := by
  cases one
  cases two
  cases top
  cases bottom
  rfl

namespace Page

variable {rows cols : Nat} {α : Type}

/-- The cells of the region become `a`. -/
def fill (page : Page rows cols α) (region : Fin rows → Fin cols → Prop)
    [∀ r c, Decidable (region r c)] (a : α) : Page rows cols α :=
  fun r c => if region r c then a else page r c

/-- The lines between the margins move up by one, and the last is filled. -/
def scrollUp (page : Page rows cols α) (margins : Margins rows) (a : α) : Page rows cols α :=
  fun r c =>
    if inside : margins.top ≤ r ∧ r < margins.bottom then
      page ⟨r + 1, Nat.lt_of_le_of_lt inside.2 margins.bottom.isLt⟩ c
    else if r = margins.bottom then a
    else page r c

end Page

structure Backlog (capacity : Nat) (ρ : Type) where
  lines : List ρ
  few : lines.length ≤ capacity
  /-- How many lines above the page the view begins. -/
  back : Nat
  within : back ≤ lines.length

namespace Backlog

variable {capacity rows cols : Nat} {ρ α : Type}

def empty (capacity : Nat) (ρ : Type) : Backlog capacity ρ := ⟨[], Nat.zero_le _, 0, Nat.le_refl _⟩

/-- A line that leaves the page; the view, if it is not on the page, stays with its lines. -/
def push (s : Backlog capacity ρ) (line : ρ) : Backlog capacity ρ where
  lines := (s.lines ++ [line]).rtake capacity
  few := by
    rw [Ring.length_rtake]
    exact Nat.min_le_left _ _
  back := if s.back = 0 then 0 else min (s.back + 1) ((s.lines ++ [line]).rtake capacity).length
  within := by
    split
    · exact Nat.zero_le _
    · exact Nat.min_le_right _ _

@[simp] theorem lines_push (s : Backlog capacity ρ) (line : ρ) :
    (s.push line).lines = (s.lines ++ [line]).rtake capacity := rfl

theorem back_push (s : Backlog capacity ρ) (line : ρ) :
    (s.push line).back = if s.back = 0 then 0 else min (s.back + 1) (s.push line).lines.length := rfl

/-- The view moves up by `delta` lines, as far as there are any. -/
def scroll (s : Backlog capacity ρ) (delta : Int) : Backlog capacity ρ :=
  { s with
    back := min (s.back + delta).toNat s.lines.length
    within := Nat.min_le_right _ _ }

/-- The line in view at row `r`. -/
def line (s : Backlog capacity (Line cols α)) (page : Page rows cols α) (r : Fin rows) :
    Line cols α :=
  (s.lines ++ List.ofFn page).get
    ⟨s.lines.length - s.back + r, by
      rw [List.length_append, List.length_ofFn]
      omega⟩

theorem line_getElem? (s : Backlog capacity (Line cols α)) (page : Page rows cols α)
    (r : Fin rows) :
    (s.lines ++ List.ofFn page)[s.lines.length - s.back + r]? = some (s.line page r) :=
  List.getElem?_eq_getElem _

end Backlog
