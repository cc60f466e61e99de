/-
**The feed path reads neither the view nor what is hidden.**

A `Projection` forgets part of a terminal: always the viewport and the record of the last pass,
and as much of the grids' contents and of the scrollback as its three functions say. Every function
of the feed path absorbs it (`termPutc_absorbs`): what is left after the function is what is left
after it from the projected terminal. So two terminals with the same projection keep it, whatever
is fed to both (`Projection.feed`).
-/

import Tab5RemoteTerminal.Library.Unwinding
import Tab5RemoteTerminal.Terminal.Frame

namespace Tab5

open CLoop Unwinding

/-! ### Projections -/

/-- Two grids with the same cells. -/
def SameCells (g h : Grid) : Prop := g.cells = h.cells

/-- A function of grids that sees nothing of them but their cells. -/
def CellWise (f : Grid → Grid) : Prop := ∀ g h, SameCells g h → SameCells (f g) (f h)

/-- `scrollback`, `scrollback_head` and `scrollback_count`. -/
abbrev Scrollback := Block scrollbackCells TermCell × Int × Int

/-- `push_scrollback`, on these three. -/
def pushed (history : Scrollback) (g : Grid) (row : Int) : Scrollback :=
  (history.1.copy (history.2.1 * termCols) g row termCols, (history.2.1 + 1).tmod scrollbackLines,
    if history.2.2 < scrollbackLines then history.2.2 + 1 else history.2.2)

/-- What is kept of the grids that can be shown without being cleared before, of the alternate grid
while it is not active, and of the scrollback. -/
structure Projection where
  grid : Grid → Grid
  hidden : Grid → Grid
  history : Scrollback → Scrollback
  grid_write : ∀ f, CellWise f → ∀ g, grid (f (grid g)) = grid (f g)
  hidden_hidden : ∀ g, hidden (hidden g) = hidden g
  hidden_grid : ∀ g, hidden (grid g) = hidden g
  grid_cleared : ∀ g, grid (gridClearAll (hidden g) defaultFg defaultBg) =
    grid (gridClearAll g defaultFg defaultBg)
  history_history : ∀ h, history (history h) = history h
  history_pushed : ∀ h g row, history (pushed (history h) (grid g) row) = history (pushed h g row)

namespace Projection

variable (p : Projection)

/-- What is left of a terminal. -/
def view (t : Terminal) : Terminal :=
  let history := p.history (t.scrollback, t.scrollbackHead, t.scrollbackCount)
  { t with
    mainGrid := p.grid t.mainGrid
    altGrid := match t.grid with
      | .mainGrid => p.hidden t.altGrid
      | .altGrid => p.grid t.altGrid
    scrollback := history.1
    scrollbackHead := history.2.1
    scrollbackCount := history.2.2
    scrollOffset := allocated.scrollOffset
    renderedScrollOffset := allocated.renderedScrollOffset
    renderedGrid := allocated.renderedGrid
    renderedCursorRow := allocated.renderedCursorRow
    renderedCursorCol := allocated.renderedCursorCol
    renderedCursorVisible := allocated.renderedCursorVisible
    textScratch := allocated.textScratch }

theorem grid_grid (g : Grid) : p.grid (p.grid g) = p.grid g :=
  p.grid_write id (fun _ _ same => same) g

theorem view_view (t : Terminal) : p.view (p.view t) = p.view t := by
  cases pointer : t.grid <;>
    simp [view, pointer, p.grid_grid, p.hidden_hidden, p.history_history]

theorem view_activeGrid (t : Terminal) : (p.view t).activeGrid = p.grid t.activeGrid := by
  cases pointer : t.grid <;> simp [view, Terminal.activeGrid, pointer]

theorem view_setActiveGrid (t : Terminal) (g : Grid) :
    p.view (t.setActiveGrid g) = (p.view t).setActiveGrid (p.grid g) := by
  cases pointer : t.grid <;> simp [view, Terminal.setActiveGrid, pointer]

/-- Two terminals with the same projection agree on what it keeps. -/
theorem kept {α : Type} (field : Terminal → α) (keeps : ∀ t, field (p.view t) = field t)
    {t u : Terminal} (same : p.view t = p.view u) : field t = field u := by
  rw [← keeps t, same, keeps]

theorem absorbs_of_commutes {op : Terminal → Terminal}
    (commutes : ∀ t, p.view (op t) = op (p.view t)) : Absorbs p.view op := by
  intro t
  rw [commutes, p.view_view, commutes]

end Projection

/-! ### Functions of cells -/

theorem SameCells.load {g h : Grid} (same : SameCells g h) : g.load = h.load :=
  congrArg (fun cells => Block.load ⟨cells, false⟩) same

theorem CellWise.store (i : Int) (cell : TermCell) : CellWise fun g => g.store i cell := by
  intro g h same
  funext k
  show (if (k.val : Int) = i then cell else g.cells k) = if (k.val : Int) = i then cell else h.cells k
  rw [show g.cells = h.cells from same]

theorem CellWise.cellClearRange (row colFrom colTo : Int) (fg bg : UInt8) :
    CellWise fun g => cellClearRange g row colFrom colTo fg bg :=
  fun _ _ same => forLoop_relates _ _ same fun _ => CellWise.store _ _

theorem CellWise.clearRows (lo hi : Int) (fg bg : UInt8) :
    CellWise (forLoop lo hi fun r g => Tab5.cellClearRange g r 0 (termCols - 1) fg bg) :=
  fun _ _ same => forLoop_relates _ _ same fun r => CellWise.cellClearRange r _ _ fg bg

theorem CellWise.copyRow (target start len : Int) :
    CellWise fun g => g.copy target g start len := by
  intro g h same
  funext k
  show (if target ≤ (k.val : Int) ∧ (k.val : Int) < target + len
    then g.load (start + (k - target)) else g.cells k) = _
  rw [same.load, show g.cells = h.cells from same]
  rfl

theorem CellWise.moveRowsUp (top bottom : Int) : CellWise fun g => moveRowsUp g top bottom :=
  fun _ _ same => forLoop_relates _ _ same fun _ => CellWise.copyRow _ _ _

theorem CellWise.comp {first second : Grid → Grid} (one : CellWise first)
    (two : CellWise second) : CellWise fun g => second (first g) :=
  fun g h same => two _ _ (one g h same)

/-! ### The feed path -/

namespace Projection

variable (p : Projection)

/-- A write to the active grid, which the fields a projection keeps determine. -/
theorem absorbs_write {f : Terminal → Grid → Grid} (cellWise : ∀ t, CellWise (f t))
    (kept : ∀ t, f (p.view t) = f t) : Absorbs p.view fun t => t.setActiveGrid (f t t.activeGrid) := by
  intro t
  rw [view_setActiveGrid, view_setActiveGrid, view_view, view_activeGrid, kept,
    p.grid_write _ (cellWise t)]

/-- What the projection leaves of another scrollback. -/
theorem view_history (t : Terminal) (h : Scrollback) (offset : Int) :
    p.view { t with
      scrollback := h.1
      scrollbackHead := h.2.1
      scrollbackCount := h.2.2
      scrollOffset := offset } =
    { p.view t with
      scrollback := (p.history h).1
      scrollbackHead := (p.history h).2.1
      scrollbackCount := (p.history h).2.2 } := rfl

theorem pushScrollback_absorbs (row : Int) : Absorbs p.view fun t => pushScrollback t row := by
  intro t
  show p.view (pushScrollback (p.view t) row) = p.view (pushScrollback t row)
  by_cases active : t.altActive = true
  · have activeView : (p.view t).altActive = true := active
    rw [pushScrollback, pushScrollback, if_pos active, if_pos activeView, view_view]
  · have activeView : ¬ (p.view t).altActive = true := active
    have same := p.history_pushed (t.scrollback, t.scrollbackHead, t.scrollbackCount) t.activeGrid
      row
    rw [← p.view_activeGrid] at same
    rw [pushScrollback, pushScrollback, if_neg active, if_neg activeView]
    have first := p.view_history (p.view t) (pushed (p.history
      (t.scrollback, t.scrollbackHead, t.scrollbackCount)) (p.view t).activeGrid row)
    have second := p.view_history t (pushed
      (t.scrollback, t.scrollbackHead, t.scrollbackCount) t.activeGrid row)
    refine (first _).trans (Eq.trans ?_ (second _).symm)
    rw [same, view_view]

theorem termScrollRegionUp_absorbs (top bottom : Int) :
    Absorbs p.view fun t => termScrollRegionUp t top bottom := by
  have push : Absorbs p.view fun t =>
      if top = 0 ∧ bottom = termRows - 1 then pushScrollback t 0 else t :=
    Absorbs.ite (fun _ => Iff.rfl) (p.pushScrollback_absorbs 0) p.view_view
  refine push.comp (p.absorbs_write (f := fun t g =>
    cellClearRange (moveRowsUp g top bottom) bottom 0 (termCols - 1) t.curFg t.curBg) ?_ ?_)
  · exact fun t => (CellWise.moveRowsUp top bottom).comp (CellWise.cellClearRange _ _ _ _ _)
  · exact fun t => rfl

theorem termLineFeed_absorbs : Absorbs p.view termLineFeed := by
  intro t
  show p.view (termLineFeed (p.view t)) = p.view (termLineFeed t)
  by_cases bottom : t.curRow = t.scrollBottom
  · have bottomView : (p.view t).curRow = (p.view t).scrollBottom := bottom
    rw [termLineFeed, termLineFeed, if_pos bottom, if_pos bottomView]
    exact p.termScrollRegionUp_absorbs t.scrollTop t.scrollBottom t
  · have bottomView : ¬ (p.view t).curRow = (p.view t).scrollBottom := bottom
    rw [termLineFeed, termLineFeed, if_neg bottom, if_neg bottomView]
    have down : Absorbs p.view fun t => { t with curRow := t.curRow + 1 } :=
      p.absorbs_of_commutes fun _ => rfl
    have stay : Absorbs p.view fun t => t := p.view_view
    have next : Absorbs p.view fun t =>
        if t.curRow < termRows - 1 then { t with curRow := t.curRow + 1 } else t :=
      Absorbs.ite (fun _ => Iff.rfl) down stay
    exact next t

theorem autowrap_absorbs : Absorbs p.view autowrap := by
  have home : Absorbs p.view fun t => { t with curCol := 0 } := p.absorbs_of_commutes fun _ => rfl
  have clear : Absorbs p.view fun t => { t with pendingWrap := false } :=
    p.absorbs_of_commutes fun _ => rfl
  have stay : Absorbs p.view fun t => t := p.view_view
  exact Absorbs.ite (fun _ => Iff.rfl) ((home.comp p.termLineFeed_absorbs).comp clear) stay

theorem putCell_absorbs (c : UInt8) : Absorbs p.view fun t => putCell t c := by
  have write := p.absorbs_write (f := fun t g =>
    g.store (cellIndex t.curRow t.curCol) (printedCell t c)) (fun t => CellWise.store _ _)
    fun t => rfl
  have pend : Absorbs p.view fun t => { t with pendingWrap := true } :=
    p.absorbs_of_commutes fun _ => rfl
  have advance : Absorbs p.view fun t => { t with curCol := wrap32 (t.curCol + 1) } :=
    p.absorbs_of_commutes fun _ => rfl
  have next : Absorbs p.view fun t => if t.curCol = termCols - 1 then { t with pendingWrap := true }
      else { t with curCol := wrap32 (t.curCol + 1) } :=
    Absorbs.ite (fun _ => Iff.rfl) pend advance
  exact write.comp next

theorem termPutcPrint_absorbs (c : UInt8) : Absorbs p.view fun t => termPutcPrint t c :=
  p.autowrap_absorbs.comp (p.putCell_absorbs c)

theorem termEraseInLine_absorbs (mode : Int) : Absorbs p.view fun t => termEraseInLine t mode := by
  have clear : ∀ low high : Terminal → Int, (∀ t, low (p.view t) = low t) →
      (∀ t, high (p.view t) = high t) → Absorbs p.view fun t => t.setActiveGrid
        (cellClearRange t.activeGrid t.curRow (low t) (high t) t.curFg t.curBg) := by
    intro low high lowKept highKept
    refine p.absorbs_write (f := fun t g =>
      cellClearRange g t.curRow (low t) (high t) t.curFg t.curBg) ?_ ?_
    · exact fun t => CellWise.cellClearRange _ _ _ _ _
    · intro t
      rw [lowKept, highKept]
      rfl
  unfold termEraseInLine
  dsimp only
  split
  · exact clear (fun _ => 0) (fun t => t.curCol) (fun _ => rfl) fun _ => rfl
  split
  · exact clear (fun _ => 0) (fun _ => termCols - 1) (fun _ => rfl) fun _ => rfl
  · exact clear (fun t => t.curCol) (fun _ => termCols - 1) (fun _ => rfl) fun _ => rfl

theorem termEraseInDisplay_absorbs (mode : Int) :
    Absorbs p.view fun t => termEraseInDisplay t mode := by
  have rows := CellWise.clearRows
  have cells := CellWise.cellClearRange
  unfold termEraseInDisplay
  dsimp only
  split
  · refine p.absorbs_write (f := fun t g => cellClearRange (forLoop 0 t.curRow
      (fun r g => cellClearRange g r 0 (termCols - 1) t.curFg t.curBg) g) t.curRow 0 t.curCol
      t.curFg t.curBg) ?_ fun _ => rfl
    exact fun t => (rows _ _ _ _).comp (cells _ _ _ _ _)
  split
  · refine p.absorbs_write (f := fun t g => gridClearAll g t.curFg t.curBg) ?_ fun _ => rfl
    exact fun t => rows _ _ _ _
  · refine p.absorbs_write (f := fun t g => forLoop (t.curRow + 1) termRows
      (fun r g => cellClearRange g r 0 (termCols - 1) t.curFg t.curBg)
      (cellClearRange g t.curRow t.curCol (termCols - 1) t.curFg t.curBg)) ?_ fun _ => rfl
    exact fun t => (cells _ _ _ _ _).comp (rows _ _ _ _)

theorem csiFinal_absorbs (params : List Int) (final : UInt8) :
    Absorbs p.view fun t => csiFinal t params final := by
  unfold csiFinal
  split
  case h_7 => exact p.termEraseInDisplay_absorbs _
  case h_8 => exact p.termEraseInLine_absorbs _
  all_goals exact p.absorbs_of_commutes fun _ => rfl

/-- The alternate screen is shown, cleared. -/
theorem showAlt_absorbs : Absorbs p.view fun t =>
    { t with grid := .altGrid, altGrid := gridClearAll t.altGrid defaultFg defaultBg } := by
  intro t
  have cleared := p.grid_write _ (CellWise.clearRows 0 termRows defaultFg defaultBg) t.altGrid
  cases pointer : t.grid with
  | mainGrid => simp [view, pointer, p.grid_grid, p.history_history, p.grid_cleared]
  | altGrid =>
      simp only [view, pointer, p.grid_grid, p.history_history]
      rw [show p.grid (gridClearAll (p.grid t.altGrid) _ _) = _ from cleared]
      rfl

theorem showMain_absorbs : Absorbs p.view fun t => { t with grid := .mainGrid } := by
  intro t
  cases pointer : t.grid with
  | mainGrid => simp [view, pointer, p.grid_grid, p.history_history, p.hidden_hidden]
  | altGrid => simp [view, pointer, p.grid_grid, p.history_history, p.hidden_grid]

theorem setAltScreen_absorbs (mode : Int) (enable : Bool) :
    Absorbs p.view fun t => setAltScreen t mode enable := by
  have enter : Absorbs p.view fun t => { t with
      altActive := true
      savedRow := if mode = 1049 then t.curRow else t.savedRow
      savedCol := if mode = 1049 then t.curCol else t.savedCol
      curRow := 0
      curCol := 0 } := p.absorbs_of_commutes fun _ => rfl
  have leave : Absorbs p.view fun t => { t with
      altActive := false
      curRow := if mode = 1049 then t.savedRow else t.curRow
      curCol := if mode = 1049 then t.savedCol else t.curCol } := p.absorbs_of_commutes fun _ => rfl
  have stay : Absorbs p.view fun t => t := p.view_view
  exact Absorbs.ite (fun _ => Iff.rfl) (p.showAlt_absorbs.comp enter)
    (Absorbs.ite (fun _ => Iff.rfl) (p.showMain_absorbs.comp leave) stay)

theorem termSetPrivateMode_absorbs (mode : Int) (enable : Bool) :
    Absorbs p.view fun t => termSetPrivateMode t mode enable := by
  unfold termSetPrivateMode
  split
  · exact p.absorbs_of_commutes fun _ => rfl
  split
  · exact p.absorbs_of_commutes fun _ => rfl
  split
  · exact p.setAltScreen_absorbs mode enable
  · exact p.view_view

theorem setPrivateModes_absorbs (params : List Int) (enable : Bool) :
    Absorbs p.view fun t => setPrivateModes t params enable :=
  Absorbs.foldl p.view_view (fun _ => p.termSetPrivateMode_absorbs _ enable) params

theorem termDispatchCsi_absorbs (final : UInt8) :
    Absorbs p.view fun t => termDispatchCsi t final := by
  intro t
  have clear : Absorbs p.view fun t => { t with pendingWrap := false } :=
    p.absorbs_of_commutes fun _ => rfl
  have stay : Absorbs p.view fun t => t := p.view_view
  have modes : Absorbs p.view fun u => if final = 0x68 ∨ final = 0x6C
      then setPrivateModes u (csiParams t) (final = 0x68) else u :=
    Absorbs.ite (fun _ => Iff.rfl) (p.setPrivateModes_absorbs _ _) stay
  have dispatch : Absorbs p.view fun u => if u.csiPrivate
      then if final = 0x68 ∨ final = 0x6C then setPrivateModes u (csiParams t) (final = 0x68) else u
      else csiFinal u (csiParams t) final :=
    Absorbs.ite (fun _ => Iff.rfl) modes (p.csiFinal_absorbs (csiParams t) final)
  exact clear.comp dispatch t

/-! ### One byte -/

theorem termResetState_absorbs : Absorbs p.view termResetState :=
  p.absorbs_of_commutes fun _ => rfl

theorem resetScreen_absorbs : Absorbs p.view resetScreen :=
  p.termResetState_absorbs.comp (p.absorbs_write
    (f := fun _ g => gridClearAll g defaultFg defaultBg) (fun _ => CellWise.clearRows _ _ _ _)
    fun _ => rfl)

theorem termPutcEsc_absorbs (c : UInt8) : Absorbs p.view fun t => termPutcEsc t c := by
  have normal : Absorbs p.view fun t => { t with state := .normal } :=
    p.absorbs_of_commutes fun _ => rfl
  unfold termPutcEsc
  dsimp only
  split
  · exact p.absorbs_of_commutes fun _ => rfl
  split
  · exact p.absorbs_of_commutes fun _ => rfl
  split
  · exact p.absorbs_of_commutes fun _ => rfl
  split
  · exact p.absorbs_of_commutes fun _ => rfl
  split
  · exact p.absorbs_of_commutes fun _ => rfl
  split
  · exact normal.comp p.resetScreen_absorbs
  · exact normal

theorem termPutcCsi_absorbs (c : UInt8) : Absorbs p.view fun t => termPutcCsi t c := by
  have mark : Absorbs p.view fun t => { t with csiPrivate := true } :=
    p.absorbs_of_commutes fun _ => rfl
  have collect : Absorbs p.view fun t => { t with csiBuf := t.csiBuf ++ [c] } :=
    p.absorbs_of_commutes fun _ => rfl
  have normal : Absorbs p.view fun t => { t with state := .normal } :=
    p.absorbs_of_commutes fun _ => rfl
  have stay : Absorbs p.view fun t => t := p.view_view
  have room : Absorbs p.view fun t =>
      if t.csiBuf.length < csiBufLen - 1 then { t with csiBuf := t.csiBuf ++ [c] } else t :=
    Absorbs.ite (fun _ => Iff.rfl) collect stay
  have dispatch := normal.comp (p.termDispatchCsi_absorbs c)
  exact Absorbs.ite (fun _ => Iff.rfl) mark (Absorbs.ite (fun _ => Iff.rfl) room dispatch)

theorem termPutcNormal_absorbs (c : UInt8) : Absorbs p.view fun t => termPutcNormal t c := by
  have clear : Absorbs p.view fun t => { t with pendingWrap := false } :=
    p.absorbs_of_commutes fun _ => rfl
  unfold termPutcNormal
  split
  · exact p.absorbs_of_commutes fun _ => rfl
  split
  · exact p.absorbs_of_commutes fun _ => rfl
  split
  · exact clear.comp p.termLineFeed_absorbs
  split
  · exact p.absorbs_of_commutes fun _ => rfl
  split
  · exact p.absorbs_of_commutes fun _ => rfl
  split
  · exact p.termPutcPrint_absorbs c
  · exact p.view_view

/-- **One byte** leaves what it leaves of the projected terminal. -/
theorem termPutc_absorbs (c : UInt8) : Absorbs p.view fun t => termPutc t c := by
  intro t
  have parser : (p.view t).state = t.state := rfl
  show p.view (termPutc (p.view t) c) = p.view (termPutc t c)
  unfold termPutc
  rw [parser]
  split
  · exact p.termPutcEsc_absorbs c t
  · have normal : Absorbs p.view fun t => { t with state := .normal } :=
      p.absorbs_of_commutes fun _ => rfl
    exact normal t
  · exact p.termPutcCsi_absorbs c t
  · have normal : Absorbs p.view fun t => { t with state := .normal } :=
      p.absorbs_of_commutes fun _ => rfl
    have stay : Absorbs p.view fun t => t := p.view_view
    have osc : Absorbs p.view fun t =>
        if c = 0x07 ∨ c = 0x1B then { t with state := .normal } else t :=
      Absorbs.ite (fun _ => Iff.rfl) normal stay
    exact osc t
  · exact p.termPutcNormal_absorbs c t

/-- **Two terminals with the same projection** keep it, whatever is fed to both. -/
theorem feed {t u : Terminal} (same : p.view t = p.view u) (data : List UInt8) :
    p.view (terminalFeed t data) = p.view (terminalFeed u data) :=
  respects_after (fun c => (p.termPutc_absorbs c).respects) same data

end Projection

end Tab5
