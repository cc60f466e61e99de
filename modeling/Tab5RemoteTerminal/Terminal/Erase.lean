/-
**Erase commands clear exactly their region.**

ED and EL paint a region of the active grid with blanks in the current colours. The region of each
(`EraseCommand.region`) is a set of cells in reading order, before or after the cursor; the loops of
`term_erase_in_display` and `term_erase_in_line` paint it (`eraseInDisplay_paints`,
`eraseInLine_paints`) and nothing else changes (`terminalFeed_erase`). The laws of `erase_exact` are
those of painted regions: painting twice is painting once, and the regions before and after the
cursor make up the screen.
-/

import Tab5RemoteTerminal.Terminal.Control
import Tab5RemoteTerminal.Terminal.Rows

namespace Tab5

open CLoop

/-! ### The commands -/

inductive EraseScope where
  | display
  | line
deriving DecidableEq, Repr

/-- The parameter of an erase command: missing, 0, 1 or 2. -/
inductive EraseMode where
  | missing
  | zero
  | one
  | two
deriving DecidableEq, Repr

structure EraseCommand where
  scope : EraseScope
  mode : EraseMode
deriving DecidableEq, Repr

def EraseScope.final : EraseScope → UInt8
  | .display => 0x4A -- 'J'
  | .line => 0x4B -- 'K'

def EraseMode.params : EraseMode → List UInt8
  | .missing => []
  | .zero => [0x30]
  | .one => [0x31]
  | .two => [0x32]

namespace EraseCommand

def bytes (cmd : EraseCommand) : List UInt8 := csiSequence cmd.mode.params cmd.scope.final

/-- The cursor's cell, counted in reading order. -/
def cursorCell (t : Terminal) : Int := t.curRow * 80 + t.curCol

/-- The cells of the screen, or of the cursor's row. -/
def scopeCells (t : Terminal) : EraseScope → Set Int
  | .display => Set.univ
  | .line => cellSpan (t.curRow * 80) (t.curRow * 80 + 80)

/-- The cells at or after the cursor, at or before it, or all. -/
def modeCells (t : Terminal) : EraseMode → Set Int
  | .missing | .zero => {i | cursorCell t ≤ i}
  | .one => {i | i ≤ cursorCell t}
  | .two => Set.univ

/-- The cells a command blanks. -/
def region (cmd : EraseCommand) (t : Terminal) : Set Int :=
  scopeCells t cmd.scope ∩ modeCells t cmd.mode

end EraseCommand

open EraseCommand

/-- The grid that is not shown. -/
def Terminal.inactiveGrid (t : Terminal) : Grid :=
  match t.grid with
  | .mainGrid => t.altGrid
  | .altGrid => t.mainGrid

/-- The region is blank in the current colours, and nothing else differs. -/
structure Erased (t : Terminal) (region : Set Int) (after : Terminal) : Prop where
  blank : ∀ i : Int, 0 ≤ i → i < gridCells → i ∈ region →
    after.activeGrid.load i = blankCell t.curFg t.curBg
  others : ∀ i : Int, 0 ≤ i → i < gridCells → i ∉ region →
    after.activeGrid.load i = t.activeGrid.load i
  inactive : after.inactiveGrid = t.inactiveGrid
  screen : after.grid = t.grid ∧ after.altActive = t.altActive
  scrollback : SameBuffer t after
  cursor : after.curRow = t.curRow ∧ after.curCol = t.curCol
  pendingWrap : after.pendingWrap = false

/-! ### What the loops paint -/

section

variable {t : Terminal}

/-- `cell_clear_range` up to a column of the row. -/
theorem cellClearRange_paints (g : Grid) {row colFrom colTo : Int} (fg bg : UInt8)
    (rowIn : 0 ≤ row ∧ row < termRows) (low : 0 ≤ colFrom) (ordered : colFrom ≤ colTo)
    (high : colTo < termCols) :
    g.Painted (cellSpan (row * 80 + colFrom) (row * 80 + (colTo + 1))) (blankCell fg bg)
      (cellClearRange g row colFrom colTo fg bg) := by
  have last : min (colTo + 1) termCols = colTo + 1 := by omega
  have cleared := cellClearRange_spec g colTo fg bg rowIn low (by omega)
  rw [last] at cleared
  exact cleared.painted

/-- The mode as `term_dispatch_csi` reads it. -/
def EraseMode.number : EraseMode → Int
  | .missing | .zero => 0
  | .one => 1
  | .two => 2

theorem EraseMode.firstParam_params (mode : EraseMode) :
    firstParam (parseParams 16 mode.params) = mode.number := by
  cases mode <;> decide

/-- **ED.** -/
theorem eraseInDisplay_paints (cursor : OnScreen t.curRow t.curCol) (mode : EraseMode) :
    ∃ g, termEraseInDisplay t mode.number = t.setActiveGrid g ∧
      t.activeGrid.Painted (region ⟨.display, mode⟩ t) (blankCell t.curFg t.curBg) g := by
  obtain ⟨row, colLow, colHigh⟩ := cursor
  have screen : ∀ i : Int, i ∈ region ⟨.display, mode⟩ t ↔ i ∈ modeCells t mode := fun i =>
    and_iff_right trivial
  -- From the cursor on: the rest of its row, then the rows below.
  have toEnd : t.activeGrid.Painted {i | cursorCell t ≤ i} (blankCell t.curFg t.curBg)
      (forLoop (t.curRow + 1) termRows
        (fun r g => cellClearRange g r 0 (termCols - 1) t.curFg t.curBg)
        (cellClearRange t.activeGrid t.curRow t.curCol (termCols - 1) t.curFg t.curBg)) := by
    have first := cellClearRange_paints t.activeGrid t.curFg t.curBg row colLow
      (by omega : t.curCol ≤ termCols - 1) (by omega)
    have rows := clearRows_painted (cellClearRange t.activeGrid t.curRow t.curCol (termCols - 1)
      t.curFg t.curBg) t.curFg t.curBg (by omega : 0 ≤ t.curRow + 1) (by omega) le_rfl
    refine (first.union rows).of_region fun i low high => ?_
    show (_ ∧ _ ∨ _ ∧ _) ↔ cursorCell t ≤ i
    unfold cursorCell termCols termRows at *
    unfold gridCells at high
    omega
  cases mode with
  | missing => exact ⟨_, rfl, toEnd.of_region fun i _ _ => (screen i).symm⟩
  | zero => exact ⟨_, rfl, toEnd.of_region fun i _ _ => (screen i).symm⟩
  | one =>
      refine ⟨_, rfl, ?_⟩
      have rows := clearRows_painted t.activeGrid t.curFg t.curBg le_rfl row.1 row.2.le
      have last := cellClearRange_paints (forLoop 0 t.curRow
        (fun r g => cellClearRange g r 0 (termCols - 1) t.curFg t.curBg) t.activeGrid)
        t.curFg t.curBg row le_rfl colLow colHigh
      refine (rows.union last).of_region fun i low high => ?_
      rw [screen i]
      show (_ ∧ _ ∨ _ ∧ _) ↔ i ≤ cursorCell t
      unfold cursorCell termRows at *
      omega
  | two =>
      refine ⟨_, rfl, ?_⟩
      have all := clearRows_painted t.activeGrid t.curFg t.curBg le_rfl (by decide) (le_refl termRows)
      refine all.of_region fun i low high => ?_
      rw [screen i, mem_cellSpan]
      unfold termRows
      unfold gridCells at high
      exact iff_of_true (by omega) trivial

/-- **EL.** -/
theorem eraseInLine_paints (cursor : OnScreen t.curRow t.curCol) (mode : EraseMode) :
    ∃ g, termEraseInLine t mode.number = t.setActiveGrid g ∧
      t.activeGrid.Painted (region ⟨.line, mode⟩ t) (blankCell t.curFg t.curBg) g := by
  obtain ⟨row, colLow, colHigh⟩ := cursor
  have painted : ∀ {colFrom colTo : Int}, 0 ≤ colFrom → colFrom ≤ colTo → colTo < termCols →
      (∀ i, i ∈ cellSpan (t.curRow * 80 + colFrom) (t.curRow * 80 + (colTo + 1)) ↔
        i ∈ region ⟨.line, mode⟩ t) →
      t.activeGrid.Painted (region ⟨.line, mode⟩ t) (blankCell t.curFg t.curBg)
        (cellClearRange t.activeGrid t.curRow colFrom colTo t.curFg t.curBg) :=
    fun low ordered high same => (cellClearRange_paints t.activeGrid t.curFg t.curBg row low ordered
      high).of_region fun i _ _ => same i
  cases mode with
  | missing =>
      refine ⟨_, rfl, painted colLow (by omega) (by omega) fun i => ?_⟩
      show (_ ∧ _) ↔ (_ ∧ _) ∧ cursorCell t ≤ i
      unfold cursorCell termCols
      omega
  | zero =>
      refine ⟨_, rfl, painted colLow (by omega) (by omega) fun i => ?_⟩
      show (_ ∧ _) ↔ (_ ∧ _) ∧ cursorCell t ≤ i
      unfold cursorCell termCols
      omega
  | one =>
      refine ⟨_, rfl, painted le_rfl colLow colHigh fun i => ?_⟩
      show (_ ∧ _) ↔ (_ ∧ _) ∧ i ≤ cursorCell t
      unfold cursorCell
      unfold termCols at colHigh
      omega
  | two =>
      refine ⟨_, rfl, painted le_rfl (by omega) (by omega) fun i => ?_⟩
      show (_ ∧ _) ↔ (_ ∧ _) ∧ True
      rw [and_true]
      unfold termCols
      omega

/-! ### The commands as they are fed -/

/-- **An erase command** writes its region of the active grid, and clears the pending wrap. -/
theorem terminalFeed_erase (normal : t.state = .normal) (cursor : OnScreen t.curRow t.curCol)
    (cmd : EraseCommand) :
    ∃ g, terminalFeed t cmd.bytes = (atFinal t cmd.mode.params).setActiveGrid g ∧
      t.activeGrid.Painted (cmd.region t) (blankCell t.curFg t.curBg) g := by
  obtain ⟨scope, mode⟩ := cmd
  have fields : mode.params.all isParam = true := by cases mode <;> decide
  have short : mode.params.length ≤ csiBufLen - 1 := by cases mode <;> decide
  have notParam : isParam scope.final = false := by cases scope <;> decide
  have notMark : scope.final ≠ 0x3F := by cases scope <;> decide
  rw [bytes, terminalFeed_csiSequence normal fields short notParam notMark]
  have cursor' : OnScreen (atFinal t mode.params).curRow (atFinal t mode.params).curCol := cursor
  cases scope with
  | display =>
      show ∃ g, termEraseInDisplay (atFinal t mode.params) _ = _ ∧ _
      rw [mode.firstParam_params]
      exact eraseInDisplay_paints cursor' mode
  | line =>
      show ∃ g, termEraseInLine (atFinal t mode.params) _ = _ ∧ _
      rw [mode.firstParam_params]
      exact eraseInLine_paints cursor' mode

/-- Two writes to the active grid, with a sequence read in between. -/
theorem atFinal_setActiveGrid (t : Terminal) (params params' : List UInt8) (g g' : Grid) :
    (atFinal ((atFinal t params).setActiveGrid g) params').setActiveGrid g' =
      (atFinal t params').setActiveGrid g' := by
  cases pointer : t.grid <;> simp [atFinal, Terminal.setActiveGrid, pointer]

theorem erased_of_painted {params : List UInt8} {region : Set Int} {g : Grid}
    (painted : t.activeGrid.Painted region (blankCell t.curFg t.curBg) g) :
    Erased t region ((atFinal t params).setActiveGrid g) := by
  obtain ⟨main, alt, same⟩ := setActiveGrid_touches (atFinal t params) g
  refine ⟨fun i low high member => ?_, fun i low high absent => ?_, ?_, ?_, ?_, ?_, ?_⟩
  · rw [activeGrid_setActiveGrid]
    exact painted.inside i low high member
  · rw [activeGrid_setActiveGrid]
    exact painted.outside i low high absent
  · cases pointer : t.grid <;>
      simp [Terminal.inactiveGrid, Terminal.setActiveGrid, atFinal, pointer]
  all_goals rw [same]
  · exact ⟨rfl, rfl⟩
  · exact ⟨rfl, rfl, rfl⟩
  · exact ⟨rfl, rfl⟩
  · rfl

/-- What the parser has collected is left over from the last sequence. -/
def sansParams (t : Terminal) : Terminal := { t with csiBuf := [] }

/-- **Two erase commands** one after the other blank both regions. -/
theorem terminalFeed_erase_erase (normal : t.state = .normal)
    (cursor : OnScreen t.curRow t.curCol) (first second : EraseCommand) :
    ∃ g, terminalFeed t (first.bytes ++ second.bytes) =
        (atFinal t second.mode.params).setActiveGrid g ∧
      t.activeGrid.Painted (first.region t ∪ second.region t) (blankCell t.curFg t.curBg) g := by
  obtain ⟨g, fed, painted⟩ := terminalFeed_erase normal cursor first
  obtain ⟨main, alt, same⟩ := setActiveGrid_touches (atFinal t first.mode.params) g
  have normal' : ((atFinal t first.mode.params).setActiveGrid g).state = .normal := by
    rw [same]
    rfl
  have cursor' : OnScreen ((atFinal t first.mode.params).setActiveGrid g).curRow
      ((atFinal t first.mode.params).setActiveGrid g).curCol := by
    rw [same]
    exact cursor
  obtain ⟨g', fed', painted'⟩ := terminalFeed_erase normal' cursor' second
  rw [activeGrid_setActiveGrid] at painted'
  have region' : second.region ((atFinal t first.mode.params).setActiveGrid g) =
      second.region t := by
    rw [same]
    rfl
  have colours : blankCell ((atFinal t first.mode.params).setActiveGrid g).curFg
      ((atFinal t first.mode.params).setActiveGrid g).curBg = blankCell t.curFg t.curBg := by
    rw [same]
    rfl
  rw [region', colours] at painted'
  refine ⟨g', ?_, painted.union painted'⟩
  rw [terminalFeed_append, fed, fed', atFinal_setActiveGrid]

/-- **Erase commands clear exactly their region**; up to the cursor and then from it on is the
whole screen; and any of them twice is the same as once. -/
theorem erase_exact (t : Terminal) (normal : t.state = .normal)
    (cursor : OnScreen t.curRow t.curCol) :
    (∀ cmd : EraseCommand, Erased t (cmd.region t) (terminalFeed t cmd.bytes)) ∧
      (∀ mode : EraseMode, mode = .missing ∨ mode = .zero →
        sansParams (terminalFeed t ((⟨.display, .one⟩ : EraseCommand).bytes ++
            (⟨.display, mode⟩ : EraseCommand).bytes)) =
          sansParams (terminalFeed t (⟨.display, .two⟩ : EraseCommand).bytes)) ∧
      ∀ cmd : EraseCommand,
        terminalFeed t (cmd.bytes ++ cmd.bytes) = terminalFeed t cmd.bytes := by
  refine ⟨fun cmd => ?_, fun mode fromCursor => ?_, fun cmd => ?_⟩
  · obtain ⟨g, fed, painted⟩ := terminalFeed_erase normal cursor cmd
    rw [fed]
    exact erased_of_painted painted
  · obtain ⟨g, fed, painted⟩ :=
      terminalFeed_erase_erase normal cursor ⟨.display, .one⟩ ⟨.display, mode⟩
    obtain ⟨g', fed', painted'⟩ := terminalFeed_erase normal cursor ⟨.display, .two⟩
    have whole : t.activeGrid.Painted (region ⟨.display, .two⟩ t) (blankCell t.curFg t.curBg) g := by
      refine painted.of_region fun i _ _ => iff_of_true ?_ ⟨trivial, trivial⟩
      rcases le_total i (cursorCell t) with before | behind
      · exact Or.inl ⟨trivial, before⟩
      · refine Or.inr ⟨trivial, ?_⟩
        rcases fromCursor with rfl | rfl
        · exact behind
        · exact behind
    rw [fed, fed', whole.unique painted']
    cases pointer : t.grid <;> simp [sansParams, atFinal, Terminal.setActiveGrid, pointer]
  · obtain ⟨g, fed, painted⟩ := terminalFeed_erase_erase normal cursor cmd cmd
    obtain ⟨g', fed', painted'⟩ := terminalFeed_erase normal cursor cmd
    rw [Set.union_self] at painted
    rw [fed, fed', painted.unique painted']

end

/-- The rest of the first row after a `A` on it. -/
theorem erase_exact_line :
    Erased (terminalFeed terminalCreate [0x41])
      (region ⟨.line, .zero⟩ (terminalFeed terminalCreate [0x41]))
      (terminalFeed (terminalFeed terminalCreate [0x41]) (⟨.line, .zero⟩ : EraseCommand).bytes) :=
  (erase_exact (terminalFeed terminalCreate [0x41]) (by decide +kernel) (by decide +kernel)).1
    ⟨.line, .zero⟩

end Tab5
