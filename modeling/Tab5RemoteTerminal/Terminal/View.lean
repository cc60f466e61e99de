/-
**What is displayed** (`main/terminal.c`, lines 196 to 228 and 589 to 706).

`terminalScroll` moves the viewport, `displayRow` finds the cells behind a screen row, and
`terminalRender` redraws the rows that differ from the shadow of the last pass. Drawing is a list
of `Draw`s, one for each `lv_draw_rect` / `lv_draw_label` pair, in order; what LVGL makes of them
is `Terminal.Canvas`'s subject.

`Op` is one call of the terminal's interface, with `terminal_feed` cut into its bytes
(`terminalFeed_eq_run`), and `Op.step` what it does to the terminal.
-/

import Tab5RemoteTerminal.Library.Run
import Tab5RemoteTerminal.Terminal.Parser

namespace Tab5

open CLoop

/-! ### The viewport -/

def terminalScroll (t : Terminal) (deltaLines : Int) : Terminal :=
  let newOffset := wrap32 (t.scrollOffset + deltaLines)
  let newOffset := if newOffset < 0 then 0 else newOffset
  let newOffset := if newOffset > t.scrollbackCount then t.scrollbackCount else newOffset
  { t with scrollOffset := newOffset }

/-- A `const term_cell_t *`: the array it points into and the index of its first cell. -/
inductive RowPtr where
  | scrollback (i : Int)
  | grid (i : Int)
deriving DecidableEq, Repr

/-- The row pointed at lies inside its array. -/
def RowPtr.Within : RowPtr → Prop
  | .scrollback i => Block.Within scrollbackCells i termCols
  | .grid i => Block.Within gridCells i termCols

def displayRow (t : Terminal) (screenRow : Int) : RowPtr :=
  let logical := (t.scrollbackCount - t.scrollOffset) + screenRow
  if logical < t.scrollbackCount then
    let newestIndex := (t.scrollbackHead - 1 + scrollbackLines).tmod scrollbackLines
    let offsetFromNewest := (t.scrollbackCount - 1) - logical
    let phys := (newestIndex - offsetFromNewest + scrollbackLines).tmod scrollbackLines
    .scrollback (phys * termCols)
  else
    .grid ((logical - t.scrollbackCount) * termCols)

/-- The cells of a row. -/
abbrev Row := List TermCell

/-- The cells a row pointer points at. -/
def rowCells (t : Terminal) : RowPtr → Row
  | .scrollback i => t.scrollback.slice i 80
  | .grid i => t.activeGrid.slice i 80

/-- `memcpy(&rendered[r * TERM_COLS], row, TERM_COLS * sizeof(term_cell_t))`. -/
def copyRow (t : Terminal) (rendered : Grid) (r : Int) : RowPtr → Grid
  | .scrollback i => rendered.copy (r * termCols) t.scrollback i termCols
  | .grid i => rendered.copy (r * termCols) t.activeGrid i termCols

/-- `row_unchanged`, against the shadow grid as it is now. -/
def rowUnchanged (t : Terminal) (rendered : Grid) (r : Int) : Bool :=
  rowCells t (displayRow t r) = rendered.slice (r * termCols) 80

/-! ### Drawing -/

/-- An `lv_area_t`, in pixels, bounds included. -/
structure Area where
  x1 : Int
  y1 : Int
  x2 : Int
  y2 : Int
deriving DecidableEq, Repr

/-- One `lv_draw_rect` / `lv_draw_label` pair: its area, the palette indices of the two colours,
and the label's text, the scratch slice from `textPos`. -/
structure Draw where
  area : Area
  bgIdx : UInt8
  fgIdx : UInt8
  textPos : Int
  text : List UInt8
  /-- Drawn by the cursor block, after the rows. -/
  cursor : Bool
deriving DecidableEq, Repr

/-- What one pass of `terminal_render` carries along. -/
structure Pass where
  renderedGrid : Grid
  textScratch : Block (gridCells + 1) UInt8
  scratchPos : Int
  draws : List Draw

/-- `(ch == '\0') ? ' ' : ch`. -/
def textByte (ch : UInt8) : UInt8 := if ch = 0 then 0x20 else ch

/-- Cells drawn in one run. -/
def sameRendition (first next : TermCell) : Bool :=
  next.fg = first.fg && next.bg = first.bg && next.attrs = first.attrs

/-- `TERM_CHAR_W` and `TERM_CHAR_H`. -/
def charSize : Int := 16

/-- The area of `len` cells of row `r` from column `c`. -/
def runArea (r c len : Int) : Area :=
  ⟨c * charSize, r * charSize, (c + len) * charSize - 1, (r + 1) * charSize - 1⟩

/-- The loop that fills a slice of the scratch buffer. -/
def writeText (scratch : Block (gridCells + 1) UInt8) : Int → List UInt8 →
    Block (gridCells + 1) UInt8
  | _, [] => scratch
  | pos, ch :: text => writeText (scratch.store pos ch) (pos + 1) text

/-- The palette indices of a cell's text and background. -/
def cellColours (cell : TermCell) : UInt8 × UInt8 :=
  if cell.attrs &&& attrReverse ≠ 0 then (cell.bg, cell.fg) else (cell.fg, cell.bg)

/-- The length of the run that starts at the first of the cells. -/
def runLength (first : TermCell) (rest : List TermCell) : Nat :=
  1 + (rest.takeWhile (sameRendition first)).length

/-- One pair drawn: the text goes to the next free slice of the scratch buffer. -/
def Pass.draw (p : Pass) (area : Area) (fgIdx bgIdx : UInt8) (text : List UInt8)
    (cursor : Bool) : Pass :=
  let scratch := writeText p.textScratch p.scratchPos text
  { p with
    textScratch := scratch
    scratchPos := p.scratchPos + text.length
    draws := p.draws ++
      [⟨area, bgIdx, fgIdx, p.scratchPos, scratch.slice p.scratchPos text.length, cursor⟩] }

/-- `while (c < TERM_COLS)`: the runs of row `r` from column `c`, whose remaining cells are given.
A run takes at least one cell, so as many rounds as cells suffice. -/
def drawRuns (r : Int) : (rounds : Nat) → (c : Int) → List TermCell → Pass → Pass
  | 0, _, _, p => p
  | _ + 1, _, [], p => p
  | rounds + 1, c, first :: rest, p =>
      let runLen := runLength first rest
      let run := (first :: rest).take runLen
      drawRuns r rounds (c + runLen) ((first :: rest).drop runLen)
        (p.draw (runArea r c runLen) (cellColours first).1 (cellColours first).2
          (run.map fun cell => textByte cell.ch) false)

/-- A row redrawn: the shadow takes its cells, then its runs are drawn. -/
def renderRow (t : Terminal) (r : Int) (p : Pass) : Pass :=
  let src := displayRow t r
  drawRuns r 80 0 (rowCells t src) { p with renderedGrid := copyRow t p.renderedGrid r src }

/-- The rows of one pass: those that may differ from what is on the canvas. -/
def renderRows (t : Terminal) (scrollChanged : Bool) (p : Pass) : Pass :=
  forLoop 0 termRows (fun r p =>
    if !scrollChanged && r ≠ t.curRow && r ≠ t.renderedCursorRow && rowUnchanged t p.renderedGrid r
    then p else renderRow t r p) p

/-- The cursor block. -/
def renderCursor (t : Terminal) (p : Pass) : Pass :=
  let cell := t.activeGrid.load (cellIndex t.curRow t.curCol)
  p.draw (runArea t.curRow t.curCol 1) cell.bg cell.fg [textByte cell.ch] true

def showCursor (t : Terminal) : Bool := t.cursorVisible && t.scrollOffset = 0

/-- `any_row_changed`: whether anything visible changed since the last pass. -/
def anythingChanged (t : Terminal) : Bool :=
  t.curRow ≠ t.renderedCursorRow || t.curCol ≠ t.renderedCursorCol ||
    showCursor t ≠ t.renderedCursorVisible || t.scrollOffset ≠ t.renderedScrollOffset ||
    (List.range 42).any fun r => !rowUnchanged t t.renderedGrid r

/-- `terminal_render`: the terminal after the pass, and what was drawn. -/
def terminalRender (t : Terminal) : Terminal × List Draw :=
  if anythingChanged t then
    let p := renderRows t (t.scrollOffset ≠ t.renderedScrollOffset)
      ⟨t.renderedGrid, t.textScratch, 0, []⟩
    let p := if showCursor t then renderCursor t p else p
    ({ t with
      renderedGrid := p.renderedGrid
      textScratch := p.textScratch
      renderedCursorRow := t.curRow
      renderedCursorCol := t.curCol
      renderedCursorVisible := showCursor t
      renderedScrollOffset := t.scrollOffset }, p.draws)
  else (t, [])

/-! ### The interface as a machine -/

/-- One byte of a `terminal_feed`, a `terminal_scroll`, a `terminal_render`. -/
inductive Op where
  | feed (c : UInt8)
  | scroll (deltaLines : Int)
  | render
deriving DecidableEq, Repr

def Op.step (t : Terminal) : Op → Terminal
  | .feed c => termPutc t c
  | .scroll deltaLines => terminalScroll t deltaLines
  | .render => (terminalRender t).1

theorem terminalFeed_eq_run (t : Terminal) (data : List UInt8) :
    terminalFeed t data = Run.after Op.step t (data.map .feed) := by
  rw [Run.after, List.foldl_map]
  rfl

/-- A run of bytes is one of the machine. -/
theorem always_feed {good : Terminal → Prop} {t : Terminal} {data : List UInt8}
    (all : Run.Always termPutc good t data) : Run.Always Op.step good t (data.map .feed) := by
  induction data generalizing t with
  | nil => exact Run.always_nil.mpr all.first
  | cons c data ih =>
      obtain ⟨here, rest⟩ := Run.always_cons.mp all
      exact Run.always_cons.mpr ⟨here, ih rest⟩

/-- The last pass is the only part of the terminal a render changes. -/
theorem terminalRender_fst (t : Terminal) :
    ∃ rendered scratch row col visible offset, (terminalRender t).1 =
      { t with
        renderedGrid := rendered
        textScratch := scratch
        renderedCursorRow := row
        renderedCursorCol := col
        renderedCursorVisible := visible
        renderedScrollOffset := offset } := by
  unfold terminalRender
  split
  · exact ⟨_, _, _, _, _, _, rfl⟩
  · exact ⟨t.renderedGrid, t.textScratch, t.renderedCursorRow, t.renderedCursorCol,
      t.renderedCursorVisible, t.renderedScrollOffset, rfl⟩

end Tab5
