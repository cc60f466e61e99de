/-
**The code's terminal is the screen.**

`Presents` says which screen a terminal is, array by array and field by field: the cells of a grid by
row and column, the rows of the ring buffer oldest first, C integers as the numbers they are. Each
function of `main/terminal.c` does to the terminal what the screen's own operation does to the screen
(`Presents.lineFeed` to `Presents.perform`), and one byte of a stream, scroll or render is one step of
a `Monitor` (`Realises.step`).
-/

import Tab5RemoteTerminal.Terminal.Erase
import Tab5RemoteTerminal.Terminal.History
import Tab5RemoteTerminal.Terminal.Screen

namespace Tab5

open CLoop

/-! ### The relation -/

def gridPage (g : Grid) : Page 42 80 TermCell := fun r c => g.load (r * 80 + c)

/-- The terminal is this screen. -/
structure Presents (t : Terminal) (s : TextScreen) : Prop where
  main : gridPage t.mainGrid = s.main
  alt : gridPage t.altGrid = s.alt
  onAlt : t.altActive = s.onAlt
  row : t.curRow = s.cursor.row
  col : t.curCol = s.cursor.col
  wrapPending : t.pendingWrap = s.wrapPending
  pen : (⟨t.curFg, t.curBg, t.curAttrs⟩ : Rendition) = s.pen
  savedRow : t.savedRow = s.saved.row
  savedCol : t.savedCol = s.saved.col
  savedPen : (⟨t.savedFg, t.savedBg, t.savedAttrs⟩ : Rendition) = s.savedPen
  top : t.scrollTop = s.margins.top
  bottom : t.scrollBottom = s.margins.bottom
  cursorVisible : t.cursorVisible = s.cursorVisible
  appCursorKeys : t.appCursorKeys = s.appCursorKeys
  lines : ringRows t = s.scrollback.lines.map List.ofFn
  back : t.scrollOffset = s.scrollback.back
  buffered : Buffered t

variable {t : Terminal} {s : TextScreen}

/-! ### Cells -/

theorem gridRow_gridPage (g : Grid) (r : Fin 42) : gridRow g r = List.ofFn (gridPage g r) := by
  apply List.ext_getElem?
  intro c
  rw [List.getElem?_ofFn]
  split
  · exact gridRow_getElem? g r ‹c < 80›
  · exact List.getElem?_eq_none (by rw [gridRow_length]; omega)

/-- A region of an array is a region of the page. -/
theorem gridPage_painted {g h : Grid} {region : Set Int} {cell : TermCell}
    (painted : g.Painted region cell h) {area : Fin 42 → Fin 80 → Prop}
    [∀ r c, Decidable (area r c)]
    (same : ∀ (r : Fin 42) (c : Fin 80), (r * 80 + c : Int) ∈ region ↔ area r c) :
    gridPage h = (gridPage g).fill area cell := by
  funext r c
  have low : (0 : Int) ≤ r * 80 + c := by omega
  have high : (r * 80 + c : Int) < gridCells := by
    unfold gridCells
    omega
  show h.load (r * 80 + c) = if area r c then cell else g.load (r * 80 + c)
  by_cases inside : area r c
  · rw [if_pos inside, painted.inside _ low high ((same r c).mpr inside)]
  · rw [if_neg inside, painted.outside _ low high (mt (same r c).mp inside)]

/-- A scroll. -/
theorem gridPage_scrolled (g : Grid) (margins : Margins 42) (fg bg : UInt8) :
    gridPage (cellClearRange (moveRowsUp g margins.top margins.bottom) margins.bottom 0
      (termCols - 1) fg bg) = (gridPage g).scrollUp margins (blankCell fg bg) := by
  funext r c
  have ordered : margins.top.val < margins.bottom.val := margins.ordered
  have last : (margins.bottom.val : Int) < termRows := by
    unfold termRows
    omega
  show Block.load _ (r * 80 + c) = _
  rw [scrolledGrid_load g (by omega) (by omega) last fg bg (by omega) (by unfold gridCells; omega)]
  unfold Page.scrollUp
  by_cases moved : margins.top ≤ r ∧ r < margins.bottom
  · have rows : margins.top.val ≤ r.val ∧ r.val < margins.bottom.val := moved
    rw [if_pos (by omega), dif_pos moved]
    show g.load _ = g.load (((r.val + 1 : Nat) : Int) * 80 + c)
    congr 1
    push_cast
    ring
  · have rows : ¬ (margins.top.val ≤ r.val ∧ r.val < margins.bottom.val) := moved
    rw [if_neg (by omega), dif_neg moved]
    by_cases here : r = margins.bottom
    · rw [if_pos here, if_pos (by rw [here]; omega)]
    · have other : r.val ≠ margins.bottom.val := fun same => here (Fin.ext same)
      rw [if_neg here, if_neg (by omega)]
      rfl

namespace Presents

theorem onScreen (p : Presents t s) : OnScreen t.curRow t.curCol := by
  rw [p.row, p.col]
  unfold OnScreen termRows termCols
  omega

theorem blank (p : Presents t s) : blankCell t.curFg t.curBg = s.blank := by
  unfold TextScreen.blank
  rw [← p.pen]

theorem grid (p : Presents t s) : t.grid = if s.onAlt then .altGrid else .mainGrid := by
  have ptr := p.buffered.gridPtr
  rw [p.onAlt] at ptr
  cases onAlt : s.onAlt with
  | true => exact ptr.mpr onAlt
  | false =>
      cases here : t.grid with
      | mainGrid => rfl
      | altGrid => cases onAlt.symm.trans (ptr.mp here)

theorem page (p : Presents t s) : gridPage t.activeGrid = s.page := by
  unfold Terminal.activeGrid TextScreen.page
  rw [p.grid]
  cases s.onAlt with
  | true => exact p.alt
  | false => exact p.main

/-- The active grid is written. -/
theorem setPage (p : Presents t s) {g : Grid} {page : Page 42 80 TermCell}
    (same : gridPage g = page) : Presents (t.setActiveGrid g) (s.setPage page) := by
  have ptr := p.grid
  unfold Terminal.setActiveGrid
  split
  · have onMain : ¬ s.onAlt = true := fun onAlt => by
      rw [if_pos onAlt] at ptr
      cases ptr.symm.trans ‹t.grid = .mainGrid›
    rw [TextScreen.setPage, if_neg onMain]
    exact { p with main := same, buffered := { p.buffered with } }
  · have onAlt : s.onAlt = true := by
      by_contra onMain
      rw [if_neg onMain] at ptr
      cases ptr.symm.trans ‹t.grid = .altGrid›
    rw [TextScreen.setPage, if_pos onAlt]
    exact { p with alt := same, buffered := { p.buffered with } }

/-- A region of the active grid is erased. -/
theorem erase (p : Presents t s) {g : Grid} {region : Set Int}
    (painted : t.activeGrid.Painted region (blankCell t.curFg t.curBg) g)
    {area : Fin 42 → Fin 80 → Prop} [∀ r c, Decidable (area r c)]
    (same : ∀ (r : Fin 42) (c : Fin 80), (r * 80 + c : Int) ∈ region ↔ area r c) :
    Presents (t.setActiveGrid g) (s.erase area) := by
  refine p.setPage ?_
  rw [gridPage_painted painted same, p.page, p.blank]

/-! ### Characters -/

/-- A line that leaves the main page. -/
theorem push (p : Presents t s) (onMain : s.onAlt = false) :
    Presents (pushScrollback t 0) { s with scrollback := s.scrollback.push (s.main 0) } := by
  have main : t.altActive = false := p.onAlt.trans onMain
  have page : gridPage t.activeGrid = s.main := by
    rw [p.page, TextScreen.page, if_neg (by rw [onMain]; exact Bool.false_ne_true)]
  have first : gridRow t.activeGrid 0 = List.ofFn (s.main 0) := by
    rw [← page]
    exact gridRow_gridPage t.activeGrid 0
  have lines : ringRows (pushScrollback t 0) =
      (s.scrollback.push (s.main 0)).lines.map List.ofFn := by
    rw [Backlog.lines_push, ringRows_pushScrollback p.buffered main, p.lines, first, List.rtake,
      List.rtake,
      List.map_drop, List.map_append, List.map_singleton, List.length_append, List.length_append,
      List.length_map, List.length_singleton, List.length_singleton]
  have buffered := p.buffered.pushScrollback 0
  have count : ((s.scrollback.push (s.main 0)).lines.length : Int) =
      (pushScrollback t 0).scrollbackCount := by
    rw [← ringRows_length buffered, lines, List.length_map]
  have back : (pushScrollback t 0).scrollOffset = (s.scrollback.push (s.main 0)).back := by
    have offset : (pushScrollback t 0).scrollOffset =
        if t.scrollOffset > 0 then
          if t.scrollOffset + 1 > (pushScrollback t 0).scrollbackCount then
            (pushScrollback t 0).scrollbackCount
          else t.scrollOffset + 1
        else t.scrollOffset := by
      rw [pushScrollback, if_neg (by rw [main]; exact Bool.false_ne_true)]
    rw [offset, ← count, p.back, Backlog.back_push]
    by_cases live : s.scrollback.back = 0
    · rw [if_neg (by omega), if_pos live, live]
    · rw [if_pos (by omega), if_neg live, Nat.cast_min]
      split <;> omega
  obtain ⟨_, _, _, _, pushed⟩ := pushScrollback_touches t 0
  rw [pushed] at lines back buffered ⊢
  exact { p with lines, back, buffered }

theorem atBottom (p : Presents t s) :
    t.curRow = t.scrollBottom ↔ s.cursor.row = s.margins.bottom := by
  rw [p.row, p.bottom, Fin.ext_iff]
  omega

theorem wholePage (p : Presents t s) :
    (t.scrollTop = 0 ∧ t.scrollBottom = termRows - 1) ↔ s.margins = fullMargins := by
  rw [p.top, p.bottom, Margins.ext_iff, Fin.ext_iff, Fin.ext_iff]
  unfold termRows fullMargins
  dsimp only
  omega

/-- The lines between the margins move up, on any terminal whose active grid is the page. -/
theorem scrolled (p : Presents t s) {page : Page 42 80 TermCell}
    (isPage : gridPage t.activeGrid = page) (margins : Margins 42) {blank : TermCell}
    (isBlank : blankCell t.curFg t.curBg = blank) :
    Presents (t.setActiveGrid (cellClearRange (moveRowsUp t.activeGrid margins.top margins.bottom)
      margins.bottom 0 (termCols - 1) t.curFg t.curBg)) (s.setPage (page.scrollUp margins blank)) := by
  refine p.setPage ?_
  rw [gridPage_scrolled, isPage, isBlank]

/-- **A line feed.** -/
theorem lineFeed (p : Presents t s) : Presents (termLineFeed t) s.lineFeed := by
  unfold termLineFeed TextScreen.lineFeed
  by_cases bottom : s.cursor.row = s.margins.bottom
  · rw [if_pos (p.atBottom.mpr bottom), if_pos bottom, termScrollRegionUp]
    by_cases full : s.margins = fullMargins
    · rw [if_pos (p.wholePage.mpr full), p.top, p.bottom]
      by_cases onMain : s.onAlt = false
      · rw [if_pos ⟨full, onMain⟩]
        have page : gridPage (pushScrollback t 0).activeGrid = s.page := by
          rw [pushScrollback_activeGrid, p.page]
        have blank : blankCell (pushScrollback t 0).curFg (pushScrollback t 0).curBg = s.blank := by
          obtain ⟨_, _, _, _, pushed⟩ := pushScrollback_touches t 0
          rw [pushed, ← p.blank]
        exact (p.push onMain).scrolled page s.margins blank
      · have onAlt : t.altActive = true := by
          rw [p.onAlt]
          simpa using onMain
        rw [if_neg fun both => onMain both.2, pushScrollback, if_pos onAlt]
        exact p.scrolled p.page s.margins p.blank
    · rw [if_neg (mt p.wholePage.mp full), if_neg fun both => full both.1, p.top, p.bottom]
      exact p.scrolled p.page s.margins p.blank
  · rw [if_neg (mt p.atBottom.mp bottom), if_neg bottom]
    have row := p.row
    by_cases below : s.cursor.row.val + 1 < 42
    · rw [if_pos (by unfold termRows; omega), dif_pos below]
      refine { p with row := ?_, buffered := { p.buffered with } }
      show t.curRow + 1 = ((s.cursor.row.val + 1 : Nat) : Int)
      omega
    · rw [if_neg (by unfold termRows; omega), dif_neg below]
      exact p

/-- The wrap that is pending. -/
theorem wrap (p : Presents t s) : Presents (autowrap t) s.wrap := by
  unfold autowrap TextScreen.wrap
  by_cases pending : s.wrapPending = true
  · rw [if_pos (p.wrapPending.trans pending), if_pos pending]
    have home : Presents { t with curCol := 0 } { s with cursor := ⟨s.cursor.row, 0⟩ } :=
      { p with col := rfl, buffered := { p.buffered with } }
    have fed := home.lineFeed
    exact { fed with wrapPending := rfl, buffered := { fed.buffered with } }
  · rw [if_neg (by rwa [p.wrapPending]), if_neg pending]
    exact p

/-- **A character** at the cursor. -/
theorem put (p : Presents t s) (c : UInt8) : Presents (putCell t c) (s.put c) := by
  have pen : printedCell t c = ⟨c, s.pen.fg, s.pen.bg, s.pen.attrs⟩ := by
    rw [printedCell, ← p.pen]
  have stored : gridPage (t.activeGrid.store (cellIndex t.curRow t.curCol) (printedCell t c)) =
      s.page.fill (fun r col => r = s.cursor.row ∧ col = s.cursor.col)
        ⟨c, s.pen.fg, s.pen.bg, s.pen.attrs⟩ := by
    funext r col
    show Block.load _ (r * 80 + col) = if _ then _ else s.page r col
    rw [Block.load_store _ _ _ _ (by omega) (by unfold gridCells; omega), p.onScreen.index.1,
      p.row, p.col, pen, ← p.page]
    refine ite_congr (propext ?_) (fun _ => rfl) fun _ => rfl
    show _ ↔ r = s.cursor.row ∧ col = s.cursor.col
    rw [Fin.ext_iff, Fin.ext_iff]
    omega
  have written := p.setPage stored
  unfold putCell TextScreen.put
  dsimp only
  generalize t.setActiveGrid _ = t' at written ⊢
  generalize s.setPage _ = s' at written ⊢
  have col := written.col
  by_cases right : s'.cursor.col.val + 1 < 80
  · rw [if_neg (by unfold termCols; omega), dif_pos right]
    refine { written with col := ?_, buffered := { written.buffered with } }
    show wrap32 (t'.curCol + 1) = ((s'.cursor.col.val + 1 : Nat) : Int)
    rw [CLoop.wrap32_of_range (by omega) (by omega)]
    omega
  · rw [if_pos (by unfold termCols; omega), dif_neg right]
    exact { written with wrapPending := rfl, buffered := { written.buffered with } }

/-- **A byte outside every sequence.** -/
theorem char (p : Presents t s) (c : UInt8) : Presents (termPutcNormal t c) (s.char c) := by
  have col := p.col
  unfold termPutcNormal TextScreen.char
  by_cases escape : c = 0x1B
  · subst escape
    exact { p with buffered := { p.buffered with } }
  rw [if_neg escape]
  split
  · exact { p with col := rfl, wrapPending := rfl, buffered := { p.buffered with } }
  split
  · have clear : Presents { t with pendingWrap := false } { s with wrapPending := false } :=
      { p with wrapPending := rfl, buffered := { p.buffered with } }
    exact clear.lineFeed
  split
  · refine { p with col := ?_, wrapPending := rfl, buffered := { p.buffered with } }
    show (if t.curCol > 0 then t.curCol - 1 else t.curCol) = ((s.cursor.col.val - 1 : Nat) : Int)
    split <;> omega
  split
  · refine { p with col := ?_, wrapPending := rfl, buffered := { p.buffered with } }
    have stop : t.curCol.tdiv 8 = ((s.cursor.col.val / 8 : Nat) : Int) := by
      rw [col, Int.tdiv_eq_ediv_of_nonneg (by omega)]
      rfl
    show (if wrap32 ((t.curCol.tdiv 8 + 1) * 8) > 80 - 1 then 80 - 1
        else wrap32 ((t.curCol.tdiv 8 + 1) * 8)) =
      ((min ((s.cursor.col.val / 8 + 1) * 8) 79 : Nat) : Int)
    rw [stop, CLoop.wrap32_of_range (by omega) (by omega)]
    generalize s.cursor.col.val / 8 = stops
    split <;> omega
  split
  · exact p.wrap.put c
  · exact p

/-! ### Control sequences -/

/-- CUU, CUD, CUF and CUB. -/
theorem cursorUp (p : Presents t s) {n : Nat} (count : n < 2147483648) :
    Presents
      { t with
        curRow := if wrap32 (t.curRow - n) < t.scrollTop then t.scrollTop
          else wrap32 (t.curRow - n) }
      (s.cursorUp n) := by
  have row := p.row
  have top := p.top
  refine { p with row := ?_, buffered := { p.buffered with } }
  show (if wrap32 (t.curRow - n) < t.scrollTop then t.scrollTop else wrap32 (t.curRow - n)) =
    ((max (s.cursor.row.val - n) s.margins.top.val : Nat) : Int)
  rw [CLoop.wrap32_of_range (by omega) (by omega), Nat.cast_max]
  split <;> omega

theorem cursorDown (p : Presents t s) {n : Nat} (fits : t.curRow + n < 2147483648) :
    Presents
      { t with
        curRow := if wrap32 (t.curRow + n) > t.scrollBottom then t.scrollBottom
          else wrap32 (t.curRow + n) }
      (s.cursorDown n) := by
  have row := p.row
  have bottom := p.bottom
  refine { p with row := ?_, buffered := { p.buffered with } }
  show (if wrap32 (t.curRow + n) > t.scrollBottom then t.scrollBottom else wrap32 (t.curRow + n)) =
    ((min (s.cursor.row.val + n) s.margins.bottom.val : Nat) : Int)
  rw [CLoop.wrap32_of_range (by omega) fits, Nat.cast_min]
  split <;> omega

theorem cursorRight (p : Presents t s) {n : Nat} (fits : t.curCol + n < 2147483648) :
    Presents
      { t with
        curCol := if wrap32 (t.curCol + n) > termCols - 1 then termCols - 1
          else wrap32 (t.curCol + n) }
      (s.cursorRight n) := by
  have col := p.col
  refine { p with col := ?_, buffered := { p.buffered with } }
  show (if wrap32 (t.curCol + n) > 80 - 1 then 80 - 1 else wrap32 (t.curCol + n)) =
    ((min (s.cursor.col.val + n) 79 : Nat) : Int)
  rw [CLoop.wrap32_of_range (by omega) fits]
  split <;> omega

theorem cursorLeft (p : Presents t s) {n : Nat} (count : n < 2147483648) :
    Presents
      { t with curCol := if wrap32 (t.curCol - n) < 0 then 0 else wrap32 (t.curCol - n) }
      (s.cursorLeft n) := by
  have col := p.col
  refine { p with col := ?_, buffered := { p.buffered with } }
  show (if wrap32 (t.curCol - n) < 0 then 0 else wrap32 (t.curCol - n)) =
    ((s.cursor.col.val - n : Nat) : Int)
  rw [CLoop.wrap32_of_range (by omega) (by omega)]
  split <;> omega

/-- A number of the sequence, less one. -/
theorem paramMinus1_nonneg {fallback : Int} (params : List Int) (i : Nat) (low : 0 ≤ fallback) :
    0 ≤ paramMinus1 params i fallback := by
  unfold paramMinus1
  split
  · split <;> omega
  · exact low

theorem clampTo_min {n x : Int} (low : 0 ≤ x) (positive : 0 < n) :
    clampTo n x = ((min x.toNat (n.toNat - 1) : Nat) : Int) := by
  unfold clampTo
  rw [if_neg (by omega)]
  split <;> omega

/-- CUP. -/
theorem moveTo (p : Presents t s) {row col : Int} (rowLow : 0 ≤ row) (colLow : 0 ≤ col) :
    Presents { t with curRow := clampTo termRows row, curCol := clampTo termCols col }
      (s.moveTo row.toNat col.toNat) :=
  { p with
    row := clampTo_min rowLow (by decide)
    col := clampTo_min colLow (by decide)
    buffered := { p.buffered with } }

/-- The three cases of an erase command. -/
def eraseMode (mode : Int) (all : Prop) [Decidable all] : EraseMode :=
  if mode = 1 then .one else if all then .two else .zero

/-- **ED.** -/
theorem eraseInDisplay (p : Presents t s) (mode : Int) :
    Presents (termEraseInDisplay t mode) (s.eraseInDisplay mode) := by
  have row := p.row
  have col := p.col
  have same : termEraseInDisplay t mode =
      termEraseInDisplay t (eraseMode mode (mode = 2 ∨ mode = 3)).number := by
    unfold eraseMode termEraseInDisplay
    dsimp only
    split
    · rfl
    split
    · rfl
    · rfl
  obtain ⟨g, erased, painted⟩ :=
    eraseInDisplay_paints p.onScreen (eraseMode mode (mode = 2 ∨ mode = 3))
  rw [same, erased]
  unfold TextScreen.eraseInDisplay
  unfold eraseMode at painted
  split_ifs at painted ⊢
  · refine p.erase painted fun r c => ?_
    show (True ∧ (r.val * 80 + c.val : Int) ≤ EraseCommand.cursorCell t) ↔
      r < s.cursor.row ∨ r = s.cursor.row ∧ c ≤ s.cursor.col
    rw [true_and, EraseCommand.cursorCell, Fin.lt_def, Fin.le_def, Fin.ext_iff]
    omega
  · exact p.erase painted fun r c => iff_of_true ⟨trivial, trivial⟩ trivial
  · refine p.erase painted fun r c => ?_
    show (True ∧ EraseCommand.cursorCell t ≤ (r.val * 80 + c.val : Int)) ↔
      s.cursor.row < r ∨ r = s.cursor.row ∧ s.cursor.col ≤ c
    rw [true_and, EraseCommand.cursorCell, Fin.lt_def, Fin.le_def, Fin.ext_iff]
    omega

/-- **EL.** -/
theorem eraseInLine (p : Presents t s) (mode : Int) :
    Presents (termEraseInLine t mode) (s.eraseInLine mode) := by
  have row := p.row
  have col := p.col
  have same : termEraseInLine t mode = termEraseInLine t (eraseMode mode (mode = 2)).number := by
    unfold eraseMode termEraseInLine
    dsimp only
    split
    · rfl
    split
    · rfl
    · rfl
  obtain ⟨g, erased, painted⟩ := eraseInLine_paints p.onScreen (eraseMode mode (mode = 2))
  rw [same, erased]
  unfold TextScreen.eraseInLine
  unfold eraseMode at painted
  split_ifs at painted ⊢
  · refine p.erase painted fun r c => ?_
    show ((t.curRow * 80 ≤ (r.val * 80 + c.val : Int) ∧
        (r.val * 80 + c.val : Int) < t.curRow * 80 + 80) ∧
        (r.val * 80 + c.val : Int) ≤ EraseCommand.cursorCell t) ↔
      r = s.cursor.row ∧ c ≤ s.cursor.col
    rw [EraseCommand.cursorCell, Fin.le_def, Fin.ext_iff]
    omega
  · refine p.erase painted fun r c => ?_
    show ((t.curRow * 80 ≤ (r.val * 80 + c.val : Int) ∧
        (r.val * 80 + c.val : Int) < t.curRow * 80 + 80) ∧ True) ↔ r = s.cursor.row
    rw [and_true, Fin.ext_iff]
    omega
  · refine p.erase painted fun r c => ?_
    show ((t.curRow * 80 ≤ (r.val * 80 + c.val : Int) ∧
        (r.val * 80 + c.val : Int) < t.curRow * 80 + 80) ∧
        EraseCommand.cursorCell t ≤ (r.val * 80 + c.val : Int)) ↔
      r = s.cursor.row ∧ s.cursor.col ≤ c
    rw [EraseCommand.cursorCell, Fin.le_def, Fin.ext_iff]
    omega

/-- SGR. -/
theorem setPen (p : Presents t s) (params : List Int) :
    Presents (termApplySgr t params) (s.setPen params) := by
  unfold termApplySgr TextScreen.setPen
  rw [← p.pen]
  exact { p with pen := rfl, buffered := { p.buffered with } }

/-- DECSTBM. -/
theorem setMargins (p : Presents t s) (params : List Int) :
    Presents (setScrollRegion t params)
      (s.setMargins (paramMinus1 params 0 0).toNat (paramMinus1 params 1 41).toNat) := by
  have topLow := paramMinus1_nonneg params 0 (le_refl 0)
  have bottomLow : 0 ≤ paramMinus1 params 1 41 := paramMinus1_nonneg params 1 (by decide)
  have isTop : (if paramMinus1 params 0 0 < 0 then 0 else paramMinus1 params 0 0) =
      ((paramMinus1 params 0 0).toNat : Int) := by
    rw [if_neg (by omega)]
    omega
  have isBottom : (if paramMinus1 params 1 41 ≥ 42 then 42 - 1 else paramMinus1 params 1 41) =
      ((min (paramMinus1 params 1 41).toNat 41 : Nat) : Int) := by
    rw [Nat.cast_min]
    split <;> omega
  generalize (paramMinus1 params 0 0).toNat = top at isTop ⊢
  have region : setScrollRegion t params =
      let region : Int × Int :=
        if (top : Int) < (min (paramMinus1 params 1 41).toNat 41 : Nat) then
          (top, (min (paramMinus1 params 1 41).toNat 41 : Nat))
        else (0, 41)
      { t with scrollTop := region.1, scrollBottom := region.2, curRow := region.1, curCol := 0 } := by
    dsimp only
    rw [← isTop, ← isBottom]
    rfl
  rw [region]
  unfold TextScreen.setMargins
  by_cases ordered : top < min (paramMinus1 params 1 41).toNat 41
  · rw [if_pos (Int.ofNat_lt.mpr ordered), dif_pos ordered]
    exact { p with row := rfl, col := rfl, top := rfl, bottom := rfl, buffered := { p.buffered with } }
  · rw [if_neg (mt Int.ofNat_lt.mp ordered), dif_neg ordered]
    exact { p with row := rfl, col := rfl, top := rfl, bottom := rfl, buffered := { p.buffered with } }

/-- The alternate screen. -/
theorem setAlt (p : Presents t s) (mode : Int) (enable : Bool) :
    Presents (setAltScreen t mode enable) (s.setAlt mode enable) := by
  unfold setAltScreen TextScreen.setAlt
  rw [← p.onAlt]
  split
  · have cleared : gridPage (gridClearAll t.altGrid defaultFg defaultBg) =
        fun _ _ => blankCell defaultFg defaultBg := by
      funext r c
      exact (gridClearAll_spec t.altGrid defaultFg defaultBg).2 _ (by omega)
        (by unfold gridCells; omega)
    refine { p with
      alt := cleared
      onAlt := rfl
      row := rfl
      col := rfl
      savedRow := ?_
      savedCol := ?_
      buffered := { p.buffered with gridPtr := iff_of_true rfl rfl } }
    · show (if mode = 1049 then t.curRow else t.savedRow) = _
      split
      · exact p.row
      · exact p.savedRow
    · show (if mode = 1049 then t.curCol else t.savedCol) = _
      split
      · exact p.col
      · exact p.savedCol
  split
  · refine { p with
      onAlt := rfl
      row := ?_
      col := ?_
      buffered := { p.buffered with gridPtr := by simp } }
    · show (if mode = 1049 then t.savedRow else t.curRow) = _
      split
      · exact p.savedRow
      · exact p.row
    · show (if mode = 1049 then t.savedCol else t.curCol) = _
      split
      · exact p.savedCol
      · exact p.col
  · exact p

theorem setMode (p : Presents t s) (mode : Int) (enable : Bool) :
    Presents (termSetPrivateMode t mode enable) (s.setMode mode enable) := by
  unfold termSetPrivateMode TextScreen.setMode
  split
  · exact { p with appCursorKeys := rfl, buffered := { p.buffered with } }
  split
  · exact { p with cursorVisible := rfl, buffered := { p.buffered with } }
  split
  · exact p.setAlt mode enable
  · exact p

theorem setModes (p : Presents t s) (params : List Int) (enable : Bool) :
    Presents (setPrivateModes t params enable)
      (params.foldl (fun s p => s.setMode (if p < 0 then 0 else p) enable) s) := by
  unfold setPrivateModes
  induction params generalizing t s with
  | nil => exact p
  | cons param params ih => exact ih (p.setMode _ enable)

/-- **A control sequence without private marker.** -/
theorem control (p : Presents t s) {params : List Int}
    (range : ∀ p ∈ params, -2147483648 ≤ p ∧ p < 2147483648) {final : UInt8}
    (fits : FinalFits t params final) :
    Presents (csiFinal t params final) (s.control params final) := by
  have count := firstParamOr1_range range
  have nat : ((firstParamOr1 params).toNat : Int) = firstParamOr1 params := by omega
  have low (i : Nat) : 0 ≤ paramMinus1 params i 0 := paramMinus1_nonneg params i (le_refl 0)
  unfold csiFinal
  split
  · rw [← nat]
    exact p.cursorUp (by omega)
  · have sum := fits.1 rfl
    rw [← nat] at sum ⊢
    exact p.cursorDown sum
  · have sum := fits.2 rfl
    rw [← nat] at sum ⊢
    exact p.cursorRight sum
  · rw [← nat]
    exact p.cursorLeft (by omega)
  · exact p.moveTo (low 0) (low 1)
  · exact p.moveTo (low 0) (low 1)
  · exact p.eraseInDisplay _
  · exact p.eraseInLine _
  · exact p.setPen params
  · exact p.setMargins params
  · unfold TextScreen.control
    split
    all_goals first | contradiction | exact p

/-! ### Commands -/

/-- RIS. -/
theorem reset (p : Presents t s) : Presents (resetScreen t) s.reset := by
  have home : Presents (termResetState t)
      { s with
        cursor := ⟨0, 0⟩
        wrapPending := false
        pen := defaultRendition
        margins := fullMargins
        cursorVisible := true
        appCursorKeys := false } :=
    { p with
      row := rfl
      col := rfl
      wrapPending := rfl
      pen := rfl
      top := rfl
      bottom := rfl
      cursorVisible := rfl
      appCursorKeys := rfl
      buffered := { p.buffered with } }
  refine home.setPage ?_
  funext r c
  exact (gridClearAll_spec _ defaultFg defaultBg).2 _ (by omega) (by unfold gridCells; omega)

end Presents

/-- A CUD or CUF of the command has a sum that is an int. -/
def Command.Fits (t : Terminal) : Command → Prop
  | .csi isPrivate params final =>
      (∀ p ∈ params, -2147483648 ≤ p ∧ p < 2147483648) ∧
        (isPrivate = false → FinalFits t params final)
  | _ => True

/-- **A command** does to the screen what the screen's own operation does. -/
theorem Presents.perform (p : Presents t s) {cmd : Command} (fits : cmd.Fits t) :
    Presents (cmd.perform t) (s.perform cmd) := by
  cases cmd with
  | char c => exact p.char c
  | saveCursor =>
      exact { p with
        savedRow := p.row
        savedCol := p.col
        savedPen := p.pen
        buffered := { p.buffered with } }
  | restoreCursor =>
      exact { p with
        row := p.savedRow
        col := p.savedCol
        pen := p.savedPen
        buffered := { p.buffered with } }
  | fullReset => exact p.reset
  | csi isPrivate params final =>
      have clear : Presents { t with pendingWrap := false } { s with wrapPending := false } :=
        { p with wrapPending := rfl, buffered := { p.buffered with } }
      cases isPrivate with
      | false => exact clear.control fits.1 (fits.2 rfl)
      | true =>
          unfold Command.perform TextScreen.perform
          dsimp only
          rw [if_pos rfl, if_pos rfl]
          split
          · exact clear.setModes params _
          · exact clear
  | osc text => exact p

/-- The relation does not see the parser. -/
theorem presents_bare : Presents (bare t) s ↔ Presents t s :=
  ⟨fun p => { p with buffered := { p.buffered with } },
    fun p => { p with buffered := { p.buffered with } }⟩

/-! ### What is seen -/

theorem Presents.screenRows (p : Presents t s) :
    screenRows t = (List.ofFn s.page).map List.ofFn := by
  apply List.ext_getElem?
  intro r
  rw [List.getElem?_map, List.getElem?_ofFn]
  by_cases inside : r < 42
  · rw [screenRows_getElem? t inside, dif_pos inside, Option.map_some, ← p.page]
    exact congrArg some (gridRow_gridPage t.activeGrid ⟨r, inside⟩)
  · rw [dif_neg inside, Option.map_none]
    exact List.getElem?_eq_none (by rw [screenRows_length]; omega)

/-- **The rows in view.** -/
theorem Presents.rowCells (p : Presents t s) (r : Fin 42) :
    rowCells t (displayRow t r) = List.ofFn (s.cell r) := by
  have shown := rowCells_displayRow p.buffered (by omega : (0 : Int) ≤ r)
    (by unfold termRows; omega)
  have count : (s.scrollback.lines.length : Int) = t.scrollbackCount := by
    rw [← ringRows_length p.buffered, p.lines, List.length_map]
  have within := s.scrollback.within
  have place : (t.scrollbackCount - t.scrollOffset + r).toNat =
      s.scrollback.lines.length - s.scrollback.back + r := by
    rw [← count, p.back]
    omega
  rw [place, p.lines, p.screenRows, ← List.map_append, List.getElem?_map,
    Backlog.line_getElem?] at shown
  exact (Option.some.inj shown).symm

theorem Presents.displayedCell (p : Presents t s) (r : Fin 42) (c : Fin 80) :
    displayedCell t r c = s.cell r c := by
  rw [Tab5.displayedCell, p.rowCells, List.getD_eq_getElem?_getD, List.getElem?_ofFn, dif_pos c.isLt]
  rfl

/-- **The canvas to be shown is the picture.** -/
theorem Presents.picture (p : Presents t s) : shown t = s.picture := by
  funext r c
  have cursor : ((t.cursorVisible = true ∧ t.scrollOffset = 0) ∧ t.curRow = r.val ∧
      t.curCol = c.val) ↔
      (s.cursorVisible = true ∧ s.scrollback.back = 0) ∧ s.cursor = ⟨r, c⟩ := by
    have here : s.cursor = ⟨r, c⟩ ↔ s.cursor.row = r ∧ s.cursor.col = c := Cursor.ext_iff
    rw [p.cursorVisible, p.back, p.row, p.col, here, Fin.ext_iff, Fin.ext_iff]
    refine and_congr (and_congr Iff.rfl ?_) (and_congr ?_ ?_)
    all_goals omega
  rw [Tab5.shown, TextScreen.picture, p.displayedCell]
  refine congrArg (CanvasCell.mk _) ?_
  exact ite_congr (propext cursor) (fun _ => rfl) fun _ => rfl

/-! ### Runs -/

/-- The terminal is the screen, and its parser the one in front of it. -/
structure Realises (t : Terminal) (m : Monitor) : Prop where
  presents : Presents t m.screen
  parsing : ∃ oscText, Parsing.of t oscText = m.parsing

/-- No sum of a CUD, a CUF or a scroll leaves the 32-bit range. -/
def SumsFit (t : Terminal) : Op → Prop
  | .feed c => NoOverflow t (.feed c)
  | .scroll deltaLines =>
      -2147483648 ≤ t.scrollOffset + deltaLines ∧ t.scrollOffset + deltaLines < 2147483648
  | .render => True

/-- What a byte completes is nothing, or one command whose sums fit. -/
theorem completes_fits {t : Terminal} {oscText : List UInt8} {c : UInt8}
    (fits : NoOverflow t (.feed c)) :
    (Parsing.of t oscText).completes c = [] ∨
      ∃ cmd : Command, cmd.Fits t ∧ (Parsing.of t oscText).completes c = [cmd] := by
  unfold Parsing.of
  cases parser : t.state with
  | normal =>
      unfold Parsing.completes
      dsimp only
      split
      · exact .inl rfl
      · exact .inr ⟨.char c, trivial, rfl⟩
  | esc =>
      unfold Parsing.completes
      dsimp only
      split
      · exact .inr ⟨.saveCursor, trivial, rfl⟩
      split
      · exact .inr ⟨.restoreCursor, trivial, rfl⟩
      split
      · exact .inr ⟨.fullReset, trivial, rfl⟩
      · exact .inl rfl
  | escCharset => exact .inl rfl
  | csi =>
      unfold Parsing.completes
      dsimp only
      split
      · exact .inl rfl
      · exact .inr ⟨.csi t.csiPrivate (csiParams t) c, ⟨params_range t, fits parser⟩, rfl⟩
  | osc =>
      unfold Parsing.completes
      dsimp only
      split
      · exact .inr ⟨.osc oscText, trivial, rfl⟩
      · exact .inl rfl

namespace Realises

variable {m : Monitor}

theorem feed (d : Realises t m) {c : UInt8} (fits : NoOverflow t (.feed c)) :
    Realises (termPutc t c) (m.step (.feed c)) := by
  obtain ⟨oscText, parsing⟩ := d.parsing
  have next := Listener.putc_parsing ⟨t, oscText⟩ c
  have said := putc_bare ⟨t, oscText⟩ c
  have performed : Presents (((Parsing.of t oscText).completes c).foldl Command.perform t)
      (((Parsing.of t oscText).completes c).foldl TextScreen.perform m.screen) := by
    rcases @completes_fits t oscText c fits with none | ⟨cmd, cmdFits, one⟩
    · rw [none]
      exact d.presents
    · rw [one]
      exact d.presents.perform cmdFits
  refine ⟨?_, _, next.trans (congrArg (Parsing.step · c) parsing)⟩
  rw [parsing] at performed
  refine presents_bare.mp ?_
  show Presents (bare (termPutc t c)) _
  have same : bare (termPutc t c) = bare ((m.parsing.completes c).foldl Command.perform t) := by
    rw [← parsing]
    exact said
  rw [same]
  exact presents_bare.mpr performed

theorem scroll (d : Realises t m) {deltaLines : Int}
    (low : -2147483648 ≤ t.scrollOffset + deltaLines)
    (high : t.scrollOffset + deltaLines < 2147483648) :
    Realises (terminalScroll t deltaLines) (m.step (.scroll deltaLines)) where
  presents := by
    have p := d.presents
    have back := p.back
    have within := m.screen.scrollback.within
    have count : (m.screen.scrollback.lines.length : Int) = t.scrollbackCount := by
      rw [← ringRows_length p.buffered, p.lines, List.length_map]
    refine { p with back := ?_, buffered := p.buffered.scroll deltaLines }
    show (terminalScroll t deltaLines).scrollOffset =
      ((min (m.screen.scrollback.back + deltaLines).toNat m.screen.scrollback.lines.length : Nat) : Int)
    unfold terminalScroll
    dsimp only
    rw [CLoop.wrap32_of_range low high, ← count, Nat.cast_min]
    split <;> split <;> omega
  parsing := d.parsing

theorem render (d : Realises t m) : Realises (terminalRender t).1 m := by
  obtain ⟨_, _, _, _, _, _, same⟩ := terminalRender_fst t
  rw [same]
  exact ⟨{ d.presents with buffered := { d.presents.buffered with } }, d.parsing⟩

/-- **One operation** of the terminal is one step of the monitor. -/
theorem step (d : Realises t m) {op : Op} (fits : SumsFit t op) :
    Realises (op.step t) (m.step op) := by
  cases op with
  | feed c => exact d.feed fits
  | scroll deltaLines => exact d.scroll fits.1 fits.2
  | render => exact d.render

theorem after (d : Realises t m) {ops : List Op} (fits : Run.Meets Op.step SumsFit t ops) :
    Realises (Run.after Op.step t ops) (Run.after Monitor.step m ops) := by
  induction ops generalizing t m with
  | nil => exact d
  | cons op ops ih => exact ih (d.step fits.1) fits.2

end Realises

theorem terminalCreate_realises : Realises terminalCreate .new where
  presents :=
    { main := by
        funext r c
        rw [gridPage, terminalCreate_mainGrid]
        exact (gridClearAll_spec _ defaultFg defaultBg).2 _ (by omega) (by unfold gridCells; omega)
      alt := by
        funext r c
        rw [gridPage, terminalCreate_altGrid]
        exact (gridClearAll_spec _ defaultFg defaultBg).2 _ (by omega) (by unfold gridCells; omega)
      onAlt := rfl
      row := rfl
      col := rfl
      wrapPending := rfl
      pen := rfl
      savedRow := rfl
      savedCol := rfl
      savedPen := rfl
      top := rfl
      bottom := rfl
      cursorVisible := rfl
      appCursorKeys := rfl
      lines := terminalCreate_ring
      back := rfl
      buffered := terminalCreate_buffered }
  parsing := ⟨[], rfl⟩

/-- **The terminal is the screen it is for.** After any bytes, scrolls and renders, as long as no sum
of a CUD, a CUF or a scroll overflows: the arrays, the ring buffer and the C integers hold the pages,
the lines and the cursor of the screen that has performed the same commands; `display_row` finds its
rows in view; and after a render, whatever the canvas held at first, the canvas is its picture. -/
theorem terminal_is_screen (memory : Canvas) (ops : List Op)
    (fits : Run.Meets Op.step SumsFit terminalCreate ops) :
    let w := Run.after Widget.step ⟨terminalCreate, memory⟩ ops
    let m := Run.after Monitor.step .new ops
    Realises w.terminal m ∧
      (∀ r : Fin 42, rowCells w.terminal (displayRow w.terminal r) = List.ofFn (m.screen.cell r)) ∧
      ∀ before, ops = before ++ [.render] → w.canvas = m.screen.picture := by
  intro w m
  have realises : Realises w.terminal m := by
    have terminal : w.terminal = Run.after Op.step terminalCreate ops :=
      Widget.after_terminal ⟨terminalCreate, memory⟩ ops
    rw [terminal]
    exact terminalCreate_realises.after fits
  refine ⟨realises, realises.presents.rowCells, ?_⟩
  rintro before rfl
  have keeps (t : Terminal) (op : Op) (inv : Invariant t) (fit : SumsFit t op) :
      Invariant (op.step t) := by
    refine (step_invariant_iff inv op).mpr ?_
    cases op with
    | feed c => exact fit
    | scroll deltaLines => trivial
    | render => trivial
  have invs := (Run.always_of_meets keeps terminalCreate_invariant fits).shorter
    (List.prefix_append before [.render])
  have unseen : Tracks terminalCreate memory := fun rendered => absurd rendered (by decide)
  have tracks := Widget.run_tracks (w := ⟨terminalCreate, memory⟩) invs unseen
  have inv := invs.last
  rw [← Widget.after_terminal ⟨terminalCreate, memory⟩] at inv
  obtain ⟨painted, same, _⟩ := terminalRender_shown inv.cursor inv.view.1 tracks
  have last : w = (Run.after Widget.step ⟨terminalCreate, memory⟩ before).step .render :=
    Run.after_append _ _ before [.render]
  rw [← realises.presents.picture, last]
  exact painted.trans same.symm

/-- A letter in reverse: on the canvas, it is black on grey. -/
theorem terminal_is_screen_reverse :
    (Run.after Widget.step ⟨terminalCreate, blankCanvas⟩
      [.feed 0x1B, .feed 0x5B, .feed 0x37, .feed 0x6D, .feed 0x41, .render]).canvas 0 0 =
        ⟨⟨0x41, 0x000000, 0xE5E5E5⟩, none⟩ := by
  have plain {t : Terminal} {c : UInt8} (down : c ≠ 0x42) (right : c ≠ 0x43) :
      SumsFit t (.feed c) :=
    fun _ _ => ⟨fun same => absurd same down, fun same => absurd same right⟩
  have drawn := (terminal_is_screen blankCanvas
    [.feed 0x1B, .feed 0x5B, .feed 0x37, .feed 0x6D, .feed 0x41, .render]
    ⟨plain (by decide) (by decide), plain (by decide) (by decide), plain (by decide) (by decide),
      plain (by decide) (by decide), plain (by decide) (by decide), trivial, trivial⟩).2.2
    [.feed 0x1B, .feed 0x5B, .feed 0x37, .feed 0x6D, .feed 0x41] rfl
  rw [drawn]
  decide +kernel

end Tab5
