/-
**Viewing never changes the session.**

Scrolling the viewport and rendering are hidden from everything but the view itself: the offset,
the record of the last pass and the scratch buffer (`AgreeButView`). The offset is written by
`push_scrollback` and read back there and in rendering only, so it never flows into the rest
(`Terminal.Projection`), and a run can be purged of both (`viewing_invisible`).
-/

import Tab5RemoteTerminal.Terminal.Projection

namespace Tab5

open Unwinding

/-- The second terminal is the first one with another view. -/
def AgreeButView (t u : Terminal) : Prop :=
  u = { t with
    scrollOffset := u.scrollOffset
    renderedScrollOffset := u.renderedScrollOffset
    renderedGrid := u.renderedGrid
    renderedCursorRow := u.renderedCursorRow
    renderedCursorCol := u.renderedCursorCol
    renderedCursorVisible := u.renderedCursorVisible
    textScratch := u.textScratch }

/-- All of a terminal but its view. -/
def wholeSession : Projection where
  grid := id
  hidden := id
  history := id
  grid_write _ _ _ := rfl
  hidden_hidden _ := rfl
  hidden_grid _ := rfl
  grid_cleared _ := rfl
  history_history _ := rfl
  history_pushed _ _ _ := rfl

theorem wholeSession_view (t : Terminal) : AgreeButView t (wholeSession.view t) := by
  obtain ⟨grid, _⟩ := t
  cases grid with
  | mainGrid => rfl
  | altGrid => rfl

theorem AgreeButView.symm {t u : Terminal} (agree : AgreeButView t u) : AgreeButView u t := by
  unfold AgreeButView at agree ⊢
  rw [agree]

theorem AgreeButView.trans {t u v : Terminal} (one : AgreeButView t u)
    (two : AgreeButView u v) : AgreeButView t v := by
  unfold AgreeButView at one two ⊢
  rw [two, one]

theorem agreeButView_of_view {t u : Terminal} (same : wholeSession.view t = wholeSession.view u) :
    AgreeButView t u := by
  have first := wholeSession_view t
  have second := (wholeSession_view u).symm
  rw [same] at first
  exact first.trans second

/-- A byte of a `terminal_feed`. -/
def Op.isFeed : Op → Bool
  | .feed _ => true
  | .scroll _ => false
  | .render => false

/-- Scrolling and rendering are hidden. -/
theorem step_hidden (t : Terminal) {op : Op} (viewing : op.isFeed = false) :
    wholeSession.view (op.step t) = wholeSession.view t := by
  cases op with
  | feed c => cases viewing
  | scroll deltaLines => rfl
  | render =>
      obtain ⟨_, _, _, _, _, _, rendered⟩ := terminalRender_fst t
      rw [Op.step, rendered]
      rfl

theorem step_respects {op : Op} (feeding : op.isFeed = true) :
    Respects wholeSession.view fun t => op.step t := by
  cases op with
  | feed c => exact (wholeSession.termPutc_absorbs c).respects
  | scroll deltaLines => cases feeding
  | render => cases feeding

/-- **Viewing never changes the session**: a run ends as the run of its bytes alone does, but for
the view. -/
theorem viewing_invisible (ops : List Op) :
    AgreeButView (Run.after Op.step terminalCreate ops)
      (Run.after Op.step terminalCreate (ops.filter Op.isFeed)) := by
  have anything : Run.Meets Op.step (fun _ _ => True) terminalCreate ops :=
    Run.meets_of_forall (fun _ _ _ => trivial) terminalCreate
  exact agreeButView_of_view (purge (fun _ => step_respects)
    (fun t _ viewing _ => step_hidden t viewing) rfl anything)

end Tab5
