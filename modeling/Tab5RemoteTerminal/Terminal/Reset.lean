/-
**Full reset.**

`ESC c` runs `term_reset_state` and clears the active grid, as `terminal_create` does for a terminal
of zeros. It leaves the choice of the screen and the saved cursor alone.

* `Drawn`: the projection to what can still be drawn: the cells of the active grid, those of the
  main grid, and every field of the state that is not the scrollback's or the view's;
* `reset_drawn`: with the main screen active and the saved cursor of a fresh terminal, nothing of
  the past is left in it;
* `reset_iff`: and in no other state, since a text can read both.
-/

import Tab5RemoteTerminal.Terminal.Invariant
import Tab5RemoteTerminal.Terminal.Projection

namespace Tab5

/-! ### What a reset should leave the same -/

/-- Two terminals that show the same and go on the same. -/
structure ActsAlike (t u : Terminal) : Prop where
  cells : ∀ i, t.activeGrid.load i = u.activeGrid.load i
  cursor : t.curRow = u.curRow ∧ t.curCol = u.curCol
  pendingWrap : t.pendingWrap = u.pendingWrap
  rendition : t.curFg = u.curFg ∧ t.curBg = u.curBg ∧ t.curAttrs = u.curAttrs
  region : t.scrollTop = u.scrollTop ∧ t.scrollBottom = u.scrollBottom
  modes : t.cursorVisible = u.cursorVisible ∧ t.appCursorKeys = u.appCursorKeys
  altActive : t.altActive = u.altActive
  parser : t.state = u.state ∧ t.csiBuf = u.csiBuf ∧ t.csiPrivate = u.csiPrivate

/-- What DECSC saves. -/
structure SavedState where
  row : Int
  col : Int
  fg : UInt8
  bg : UInt8
  attrs : UInt8
deriving DecidableEq

def savedState (t : Terminal) : SavedState :=
  ⟨t.savedRow, t.savedCol, t.savedFg, t.savedBg, t.savedAttrs⟩

/-! ### The projection -/

/-- A grid without the record of accesses outside it. -/
def bareGrid (g : Grid) : Grid := ⟨g.cells, false⟩

theorem bareGrid_eq {g h : Grid} (same : SameCells g h) : bareGrid g = bareGrid h :=
  congrArg (fun cells => (⟨cells, false⟩ : Grid)) same

/-- Cleared grids have the same cells. -/
theorem gridClearAll_sameCells (g h : Grid) (fg bg : UInt8) :
    SameCells (gridClearAll g fg bg) (gridClearAll h fg bg) := by
  funext k
  rw [← Block.load_val, ← Block.load_val, (gridClearAll_spec g fg bg).2 k (by omega) (by omega),
    (gridClearAll_spec h fg bg).2 k (by omega) (by omega)]

/-- What can still be drawn. -/
def drawn : Projection where
  grid := bareGrid
  hidden _ := allocated.altGrid
  history _ := (allocated.scrollback, allocated.scrollbackHead, allocated.scrollbackCount)
  grid_write _ cellWise _ := bareGrid_eq (cellWise _ _ rfl)
  hidden_hidden _ := rfl
  hidden_grid _ := rfl
  grid_cleared _ := bareGrid_eq (gridClearAll_sameCells _ _ _ _)
  history_history _ := rfl
  history_pushed _ _ _ := rfl

theorem actsAlike_of_drawn {t u : Terminal} (same : drawn.view t = drawn.view u) :
    ActsAlike t u := by
  have kept : ∀ {α : Type} (field : Terminal → α), (∀ t, field (drawn.view t) = field t) →
      field t = field u := fun field keeps => drawn.kept field keeps same
  refine ⟨fun i => ?_, ⟨?_, ?_⟩, ?_, ⟨?_, ?_, ?_⟩, ⟨?_, ?_⟩, ⟨?_, ?_⟩, ?_, ⟨?_, ?_, ?_⟩⟩
  · refine kept (fun t => t.activeGrid.load i) fun t => ?_
    rw [drawn.view_activeGrid]
    rfl
  · exact kept Terminal.curRow fun _ => rfl
  · exact kept Terminal.curCol fun _ => rfl
  · exact kept Terminal.pendingWrap fun _ => rfl
  · exact kept Terminal.curFg fun _ => rfl
  · exact kept Terminal.curBg fun _ => rfl
  · exact kept Terminal.curAttrs fun _ => rfl
  · exact kept Terminal.scrollTop fun _ => rfl
  · exact kept Terminal.scrollBottom fun _ => rfl
  · exact kept Terminal.cursorVisible fun _ => rfl
  · exact kept Terminal.appCursorKeys fun _ => rfl
  · exact kept Terminal.altActive fun _ => rfl
  · exact kept Terminal.state fun _ => rfl
  · exact kept Terminal.csiBuf fun _ => rfl
  · exact kept Terminal.csiPrivate fun _ => rfl

/-! ### ESC c -/

/-- `ESC c`. -/
def fullReset : List UInt8 := [0x1B, 0x63]

theorem terminalFeed_fullReset {t : Terminal} (normal : t.state = .normal) :
    terminalFeed t fullReset = resetScreen { t with state := .normal } := by
  rw [fullReset, terminalFeed_cons, termPutc_escape normal]
  rfl

/-- **Nothing of the past is left** on the main screen, if the saved cursor is a fresh one. -/
theorem reset_drawn {t : Terminal} (ok : Buffered t) (normal : t.state = .normal)
    (onMain : t.altActive = false) (saved : savedState t = savedState terminalCreate) :
    drawn.view (terminalFeed t fullReset) = drawn.view terminalCreate := by
  have pointer : t.grid = .mainGrid := by
    cases grid : t.grid with
    | mainGrid => rfl
    | altGrid =>
        rw [ok.gridPtr.mp grid] at onMain
        cases onMain
  have cells : bareGrid (gridClearAll t.mainGrid defaultFg defaultBg) =
      bareGrid terminalCreate.mainGrid := by
    rw [terminalCreate_mainGrid]
    exact bareGrid_eq (gridClearAll_sameCells _ _ _ _)
  obtain ⟨row, col, fg, bg, attrs⟩ := SavedState.mk.inj saved
  rw [terminalFeed_fullReset normal]
  calc drawn.view (resetScreen { t with state := .normal })
      = { drawn.view terminalCreate with
          mainGrid := bareGrid (gridClearAll t.mainGrid defaultFg defaultBg)
          savedRow := t.savedRow
          savedCol := t.savedCol
          savedFg := t.savedFg
          savedBg := t.savedBg
          savedAttrs := t.savedAttrs
          altActive := t.altActive
          grid := t.grid } := by
        simp only [resetScreen, Terminal.setActiveGrid, Terminal.activeGrid, termResetState, pointer]
        rfl
    _ = drawn.view terminalCreate := by
        rw [cells, row, col, fg, bg, attrs, onMain, pointer]
        rfl

theorem fullReset_altActive {t : Terminal} (normal : t.state = .normal) :
    (terminalFeed t fullReset).altActive = t.altActive := by
  obtain ⟨_, _, reset⟩ := resetScreen_touches { t with state := .normal }
  rw [terminalFeed_fullReset normal, reset]
  rfl

/-- `ESC 8`. -/
def restoreCursor : List UInt8 := [0x1B, 0x38]

/-- After a full reset, DECRC restores what was saved before it. -/
theorem fullReset_restores {t : Terminal} (normal : t.state = .normal) :
    let after := terminalFeed t (fullReset ++ restoreCursor)
    (⟨after.curRow, after.curCol, after.curFg, after.curBg, after.curAttrs⟩ : SavedState) =
      savedState t := by
  obtain ⟨_, _, reset⟩ := resetScreen_touches { t with state := .normal }
  rw [terminalFeed_append, terminalFeed_fullReset normal, reset]
  rfl

/-- **When a full reset is one**: from then on the terminal acts like a fresh one exactly if the
main screen was active and the saved cursor is that of a fresh terminal. -/
theorem reset_iff (ops : List Op)
    (normal : (Run.after Op.step terminalCreate ops).state = .normal) :
    (∀ w, ActsAlike (terminalFeed (Run.after Op.step terminalCreate ops) (fullReset ++ w))
        (terminalFeed terminalCreate w)) ↔
      (Run.after Op.step terminalCreate ops).altActive = false ∧
        savedState (Run.after Op.step terminalCreate ops) = savedState terminalCreate := by
  have ok := buffered_after ops
  generalize Run.after Op.step terminalCreate ops = t at normal ok ⊢
  constructor
  · intro alike
    have same := alike restoreCursor
    have first := fullReset_altActive normal
    have restored := fullReset_restores normal
    have fresh := fullReset_restores (t := terminalCreate) rfl
    have active := (alike []).altActive
    rw [List.append_nil] at active
    refine ⟨first.symm.trans active, ?_⟩
    rw [← restored, same.cursor.1, same.cursor.2, same.rendition.1, same.rendition.2.1,
      same.rendition.2.2]
    rfl
  · rintro ⟨onMain, saved⟩ w
    rw [terminalFeed_append]
    exact actsAlike_of_drawn (drawn.feed (reset_drawn ok normal onMain saved) w)

theorem reset_iff_text :
    ActsAlike (terminalFeed (Run.after Op.step terminalCreate [.feed 0x41]) (fullReset ++ [0x42]))
      (terminalFeed terminalCreate [0x42]) :=
  (reset_iff [.feed 0x41] (by decide +kernel)).mpr (by decide +kernel) [0x42]

/-- The cursor saved before the reset comes back. -/
theorem reset_fails :
    ¬ ∀ (ops : List Op) (w : List UInt8), (Run.after Op.step terminalCreate ops).state = .normal →
      ActsAlike (terminalFeed (Run.after Op.step terminalCreate ops) (fullReset ++ w))
        (terminalFeed terminalCreate w) := by
  intro alike
  have column := (alike ([0x41, 0x1B, 0x37].map .feed) restoreCursor (by decide +kernel)).cursor.2
  exact absurd column (by decide +kernel)

end Tab5
