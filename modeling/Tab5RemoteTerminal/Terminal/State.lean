/-
**The terminal's data model** (`main/terminal.c`, `main/terminal.h`).

The record of `struct terminal`, its constants, and the two ways a fresh state is made:
`terminalCreate` and `termResetState`. C `int` fields are integers; where a sum can leave the
32-bit range the code wraps it (`wrap32`). The cell arrays are `Block`s, so an index outside one
of them is recorded in its `fault`. The canvas object and its pixel buffer belong to LVGL and are
modelled where drawing is (`Terminal.Canvas`).
-/

import Tab5RemoteTerminal.Library.Block
import Tab5RemoteTerminal.Library.CLoop

namespace Tab5

open CLoop

/-! ### Constants -/

def termCols : Int := 80
def termRows : Int := 42
def csiBufLen : Nat := 64
def scrollbackLines : Int := 300

def defaultFg : UInt8 := 7
def defaultBg : UInt8 := 0

def attrBold : UInt8 := 0x01
def attrUnderl : UInt8 := 0x02
def attrReverse : UInt8 := 0x04

/-- `TERM_ROWS * TERM_COLS`. -/
abbrev gridCells : Nat := 3360

/-- `SCROLLBACK_LINES * TERM_COLS`. -/
abbrev scrollbackCells : Nat := 24000

/-- Classic xterm 16-color palette. -/
def PALETTE : List UInt32 :=
  [0x000000, 0xCD0000, 0x00CD00, 0xCDCD00,
   0x0000EE, 0xCD00CD, 0x00CDCD, 0xE5E5E5,
   0x7F7F7F, 0xFF0000, 0x00FF00, 0xFFFF00,
   0x5C5CFF, 0xFF00FF, 0x00FFFF, 0xFFFFFF]

/-! ### Cells and grids -/

structure TermCell where
  ch : UInt8
  fg : UInt8
  bg : UInt8
  attrs : UInt8
deriving DecidableEq, Repr

/-- A calloc'd cell. -/
instance : Inhabited TermCell := ⟨⟨0, 0, 0, 0⟩⟩

abbrev Grid := Block gridCells TermCell

/-- `row * TERM_COLS + col`, in C ints. -/
def cellIndex (row col : Int) : Int := wrap32 (wrap32 (row * termCols) + col)

/-- The parser states of `term_state_t`. -/
inductive TermState where
  | normal
  | esc
  | escCharset
  | csi
  | osc
deriving DecidableEq, Repr

/-- Which of the two grids the `grid` pointer points at. -/
inductive GridPtr where
  | mainGrid
  | altGrid
deriving DecidableEq, Repr

structure Terminal where
  grid : GridPtr
  mainGrid : Grid
  altGrid : Grid
  altActive : Bool
  curRow : Int
  curCol : Int
  curFg : UInt8
  curBg : UInt8
  curAttrs : UInt8
  cursorVisible : Bool
  savedRow : Int
  savedCol : Int
  savedFg : UInt8
  savedBg : UInt8
  savedAttrs : UInt8
  scrollTop : Int
  scrollBottom : Int
  pendingWrap : Bool
  scrollback : Block scrollbackCells TermCell
  scrollbackHead : Int
  scrollbackCount : Int
  scrollOffset : Int
  renderedScrollOffset : Int
  state : TermState
  /-- The `csi_len` bytes collected so far. -/
  csiBuf : List UInt8
  csiPrivate : Bool
  appCursorKeys : Bool
  renderedGrid : Grid
  renderedCursorRow : Int
  renderedCursorCol : Int
  renderedCursorVisible : Bool
  textScratch : Block (gridCells + 1) UInt8

namespace Terminal

/-- The grid the `grid` pointer points at. -/
def activeGrid (t : Terminal) : Grid :=
  match t.grid with
  | .mainGrid => t.mainGrid
  | .altGrid => t.altGrid

/-- A write through the `grid` pointer. -/
def setActiveGrid (t : Terminal) (g : Grid) : Terminal :=
  match t.grid with
  | .mainGrid => { t with mainGrid := g }
  | .altGrid => { t with altGrid := g }

end Terminal

/-! ### Clearing -/

/-- A cell as `cell_clear_range` leaves it. -/
def blankCell (fg bg : UInt8) : TermCell := ⟨0x20, fg, bg, 0⟩

def cellClearRange (grid : Grid) (row colFrom colTo : Int) (fg bg : UInt8) : Grid :=
  forLoop colFrom (min (colTo + 1) termCols)
    (fun c g => g.store (cellIndex row c) (blankCell fg bg)) grid

def gridClearAll (grid : Grid) (fg bg : UInt8) : Grid :=
  forLoop 0 termRows (fun r g => cellClearRange g r 0 (termCols - 1) fg bg) grid

/-! ### Fresh states -/

def termResetState (t : Terminal) : Terminal :=
  { t with
    curRow := 0
    curCol := 0
    curFg := defaultFg
    curBg := defaultBg
    curAttrs := 0
    cursorVisible := true
    scrollTop := 0
    scrollBottom := termRows - 1
    appCursorKeys := false
    state := .normal
    csiBuf := []
    csiPrivate := false
    pendingWrap := false }

/-- `terminal_create` up to `term_reset_state`: zeroed memory, and a shadow grid of 0xFF bytes. The
scratch buffer is malloc'd; nothing reads a byte of it before writing it. -/
def allocated : Terminal where
  grid := .mainGrid
  mainGrid := Block.filled _ default
  altGrid := Block.filled _ default
  altActive := false
  curRow := 0
  curCol := 0
  curFg := 0
  curBg := 0
  curAttrs := 0
  cursorVisible := false
  savedRow := 0
  savedCol := 0
  savedFg := 0
  savedBg := 0
  savedAttrs := 0
  scrollTop := 0
  scrollBottom := 0
  pendingWrap := false
  scrollback := Block.filled _ default
  scrollbackHead := 0
  scrollbackCount := 0
  scrollOffset := 0
  renderedScrollOffset := -1
  state := .normal
  csiBuf := []
  csiPrivate := false
  appCursorKeys := false
  renderedGrid := Block.filled _ ⟨0xFF, 0xFF, 0xFF, 0xFF⟩
  renderedCursorRow := -1
  renderedCursorCol := -1
  renderedCursorVisible := false
  textScratch := Block.filled _ 0

/-- `terminal_create`, with its allocations succeeding. -/
def terminalCreate : Terminal :=
  let t := termResetState allocated
  { t with
    mainGrid := gridClearAll t.mainGrid defaultFg defaultBg
    altGrid := gridClearAll t.altGrid defaultFg defaultBg }

/-! ### What clearing does to a cell -/

/-- The index of a cell on the grid: no C int overflows. -/
theorem cellIndex_eq {row col : Int} (rowLow : -1 ≤ row) (rowHigh : row ≤ termRows)
    (colLow : 0 ≤ col) (colHigh : col ≤ termCols) : cellIndex row col = row * 80 + col := by
  unfold termRows at rowHigh
  unfold termCols at colHigh
  have product : wrap32 (row * 80) = row * 80 := wrap32_of_range (by omega) (by omega)
  rw [cellIndex, termCols, product, wrap32_of_range (by omega) (by omega)]

/-- A row and a column of the screen. -/
def OnScreen (row col : Int) : Prop := (0 ≤ row ∧ row < termRows) ∧ 0 ≤ col ∧ col < termCols

instance (row col : Int) : Decidable (OnScreen row col) := by
  unfold OnScreen; infer_instance

theorem OnScreen.index {row col : Int} (on : OnScreen row col) :
    cellIndex row col = row * 80 + col ∧ 0 ≤ row * 80 + col ∧ row * 80 + col < gridCells := by
  obtain ⟨⟨rowLow, rowHigh⟩, colLow, colHigh⟩ := on
  refine ⟨cellIndex_eq (by omega) (by omega) colLow (by omega), ?_⟩
  unfold termRows at rowHigh
  unfold termCols at colHigh
  unfold gridCells
  omega

/-- A grid after cells of row `row` were cleared from column `colFrom` on, up to column `col`. -/
def ClearedTo (before : Grid) (row colFrom : Int) (fg bg : UInt8) (col : Int) (after : Grid) :
    Prop :=
  after.fault = before.fault ∧ ∀ i : Int, 0 ≤ i → i < gridCells →
    after.load i = if row * 80 + colFrom ≤ i ∧ i < row * 80 + col then blankCell fg bg
      else before.load i

/-- **`cell_clear_range`, cell by cell**, for a row of the screen and a first column on it. -/
theorem cellClearRange_spec (g : Grid) {row colFrom : Int} (colTo : Int) (fg bg : UInt8)
    (rowIn : 0 ≤ row ∧ row < termRows) (colIn : 0 ≤ colFrom)
    (ordered : colFrom ≤ min (colTo + 1) termCols) :
    ClearedTo g row colFrom fg bg (min (colTo + 1) termCols)
      (cellClearRange g row colFrom colTo fg bg) := by
  unfold cellClearRange
  refine forLoop_rule _ g (fun c h => ClearedTo g row colFrom fg bg c h) ordered ⟨rfl, ?_⟩ ?_
  · intro i _ _
    rw [if_neg (by omega)]
  · rintro c h low high ⟨fault, cells⟩
    have on : OnScreen row c := ⟨rowIn, by omega, by omega⟩
    obtain ⟨index, indexLow, indexHigh⟩ := on.index
    refine ⟨?_, fun i iLow iHigh => ?_⟩
    · rw [Block.store_fault _ _ (by rw [index]; exact ⟨indexLow, by omega⟩), fault]
    · rw [Block.load_store _ _ _ _ iLow iHigh, index, cells i iLow iHigh]
      by_cases here : i = row * 80 + c
      · rw [if_pos here, if_pos (by omega)]
      · rw [if_neg here]
        by_cases before : row * 80 + colFrom ≤ i ∧ i < row * 80 + c
        · rw [if_pos before, if_pos (by omega)]
        · rw [if_neg before, if_neg (by omega)]

/-- A whole row cleared. -/
theorem cellClearRange_row (g : Grid) {row : Int} (fg bg : UInt8)
    (rowIn : 0 ≤ row ∧ row < termRows) :
    ClearedTo g row 0 fg bg termCols (cellClearRange g row 0 (termCols - 1) fg bg) := by
  have spec := cellClearRange_spec g (termCols - 1) fg bg rowIn le_rfl (by unfold termCols; omega)
  rwa [show min (termCols - 1 + 1) termCols = termCols by unfold termCols; omega] at spec

/-- The cells from index `lo` up to index `hi`. -/
def cellSpan (lo hi : Int) : Set Int := {i | lo ≤ i ∧ i < hi}

@[simp] theorem mem_cellSpan {lo hi i : Int} : i ∈ cellSpan lo hi ↔ lo ≤ i ∧ i < hi := Iff.rfl

theorem ClearedTo.painted {g h : Grid} {row colFrom col : Int} {fg bg : UInt8}
    (cleared : ClearedTo g row colFrom fg bg col h) :
    g.Painted (cellSpan (row * 80 + colFrom) (row * 80 + col)) (blankCell fg bg) h where
  fault := cleared.1
  inside i low high member := (cleared.2 i low high).trans (if_pos member)
  outside i low high absent := (cleared.2 i low high).trans (if_neg absent)

/-- A loop over rows of the screen that clears them. -/
theorem clearRows_painted (g : Grid) {lo hi : Int} (fg bg : UInt8) (low : 0 ≤ lo)
    (ordered : lo ≤ hi) (high : hi ≤ termRows) :
    g.Painted (cellSpan (lo * 80) (hi * 80)) (blankCell fg bg)
      (forLoop lo hi (fun r g => cellClearRange g r 0 (termCols - 1) fg bg) g) := by
  refine forLoop_rule _ g
    (fun r h => g.Painted (cellSpan (lo * 80) (r * 80)) (blankCell fg bg) h) ordered ?_ ?_
  · refine Block.Painted.empty.of_region fun i _ _ => ?_
    simp only [mem_cellSpan, Set.mem_empty_iff_false, false_iff]
    omega
  · intro r h above below painted
    have rowIn : 0 ≤ r ∧ r < termRows := by omega
    have row := (cellClearRange_row h fg bg rowIn).painted
    refine (painted.union row).of_region fun i _ _ => ?_
    simp only [mem_cellSpan, termCols, Set.mem_union]
    omega

/-- **`grid_clear_all`**: every cell blank, and no access outside the grid. -/
theorem gridClearAll_spec (g : Grid) (fg bg : UInt8) :
    (gridClearAll g fg bg).fault = g.fault ∧
      ∀ i : Int, 0 ≤ i → i < gridCells → (gridClearAll g fg bg).load i = blankCell fg bg := by
  have painted := clearRows_painted g fg bg le_rfl (by decide) (le_refl termRows)
  refine ⟨painted.fault, fun i low high => painted.inside i low high ?_⟩
  rw [mem_cellSpan]
  unfold termRows
  unfold gridCells at high
  omega

end Tab5
