/-
**The local echo of the keys that print nothing** (`main/session_ui.c`, lines 119 to 155).

The echo of an arrow key, of Delete and of Escape feeds the terminal the bytes that are meant for the
remote. In the normal cursor key mode these are control sequences the terminal performs: an arrow
moves the cursor (`plain_arrow`), Delete and Escape change nothing on the screen. In the application
mode an arrow is `ESC O` and a letter. The terminal knows no `ESC O`, so it drops these two bytes and
prints the letter (`application_arrow`).

`echoQuiet_iff`: an echoed arrow goes unnoticed only where its letter stands already and the cursor
ends where the arrow would have taken it.
-/

import Tab5RemoteTerminal.Session.Keys
import Tab5RemoteTerminal.Terminal.AltScreen
import Tab5RemoteTerminal.Terminal.Cells
import Tab5RemoteTerminal.Terminal.Leaks
import Tab5RemoteTerminal.Terminal.Projection
import Tab5RemoteTerminal.Terminal.Resync

namespace Tab5

open CLoop

/-! ### The keys -/

inductive Arrow where
  | up
  | down
  | right
  | left
deriving DecidableEq, Repr

def Arrow.code : Arrow → UInt32
  | .up => lvKeyUp
  | .down => lvKeyDown
  | .right => lvKeyRight
  | .left => lvKeyLeft

/-- The last byte of the arrow's sequence, in either mode. -/
def Arrow.letter : Arrow → UInt8
  | .up => 0x41
  | .down => 0x42
  | .right => 0x43
  | .left => 0x44

/-- The keys whose echo should print nothing. -/
inductive SilentKey where
  | arrow (a : Arrow)
  | del
  | esc
deriving DecidableEq, Repr

def SilentKey.code : SilentKey → UInt32
  | .arrow a => a.code
  | .del => lvKeyDel
  | .esc => lvKeyEsc

/-- The terminal in one of the two cursor key modes. -/
def inMode (t : Terminal) (app : Bool) : Terminal := { t with appCursorKeys := app }

/-- No cell of either grid is different. -/
def SameGrids (t after : Terminal) : Prop :=
  SameCells after.mainGrid t.mainGrid ∧ SameCells after.altGrid t.altGrid

/-- What the echo of such a key should be: it draws nothing, the parser is back in its normal state,
and the cursor does not depend on the mode. -/
structure EchoQuiet (t : Terminal) (key : SilentKey) : Prop where
  cells : ∀ app, SameGrids t (localEchoFeed (inMode t app) key.code)
  normal : ∀ app, (localEchoFeed (inMode t app) key.code).state = .normal
  cursor : cursorAt (localEchoFeed (inMode t true) key.code) =
    cursorAt (localEchoFeed (inMode t false) key.code)

/-! ### Where the cursor goes -/

/-- Where an arrow takes the cursor. -/
def arrowTarget (t : Terminal) : Arrow → Position
  | .up => (max (t.curRow - 1) t.scrollTop, t.curCol)
  | .down => (min (t.curRow + 1) t.scrollBottom, t.curCol)
  | .right => (t.curRow, min (t.curCol + 1) (termCols - 1))
  | .left => (t.curRow, max (t.curCol - 1) 0)

/-- Where a printed byte is written. -/
def writePosition (t : Terminal) : Position :=
  if t.pendingWrap then (nextRow t, 0) else cursorAt t

/-- Where it leaves the cursor. -/
def letterTarget (t : Terminal) : Position :=
  ((writePosition t).1, min ((writePosition t).2 + 1) (termCols - 1))

/-! ### The exact condition -/

/-- Scrolling the region up changes no cell, the first one of its last row apart: every row is the
same as the next, and the last one is blank from the second column on. -/
structure ScrollsInPlace (t : Terminal) : Prop where
  rows : ∀ i : Int, t.scrollTop * 80 ≤ i → i < t.scrollBottom * 80 →
    t.activeGrid.load (i + 80) = t.activeGrid.load i
  blank : ∀ col : Int, 1 ≤ col → col < termCols →
    t.activeGrid.load (t.scrollBottom * 80 + col) = blankCell t.curFg t.curBg

/-- A letter that is on the screen already, where it would be printed. -/
structure AlreadyDrawn (t : Terminal) (letter : UInt8) : Prop where
  cell : t.activeGrid.load ((writePosition t).1 * 80 + (writePosition t).2) = printedCell t letter
  scroll : t.pendingWrap = true → t.curRow = t.scrollBottom → ScrollsInPlace t

/-- The key is no arrow, or its letter can be printed without a trace. -/
def Unnoticed (t : Terminal) : SilentKey → Prop
  | .arrow a => arrowTarget t a = letterTarget t ∧ AlreadyDrawn t a.letter
  | .del => True
  | .esc => True

/-! ### What is fed -/

section Fed

variable {t : Terminal}

/-- The final byte of an arrow's control sequence. -/
theorem csiFinal_arrow (cursor : OnScreen t.curRow t.curCol) (a : Arrow) :
    csiFinal t [] a.letter =
      { t with curRow := (arrowTarget t a).1, curCol := (arrowTarget t a).2 } := by
  obtain ⟨⟨rowLow, rowHigh⟩, colLow, colHigh⟩ := cursor
  unfold termRows at rowHigh
  unfold termCols at colHigh
  have one : firstParamOr1 [] = 1 := rfl
  cases a with
  | up =>
      have row : (if wrap32 (t.curRow - firstParamOr1 []) < t.scrollTop then t.scrollTop
          else wrap32 (t.curRow - firstParamOr1 [])) = max (t.curRow - 1) t.scrollTop := by
        rw [one, wrap32_of_range (by omega) (by omega)]
        split <;> omega
      exact congrArg (fun row => { t with curRow := row }) row
  | down =>
      have row : (if wrap32 (t.curRow + firstParamOr1 []) > t.scrollBottom then t.scrollBottom
          else wrap32 (t.curRow + firstParamOr1 [])) = min (t.curRow + 1) t.scrollBottom := by
        rw [one, wrap32_of_range (by omega) (by omega)]
        split <;> omega
      exact congrArg (fun row => { t with curRow := row }) row
  | right =>
      have col : (if wrap32 (t.curCol + firstParamOr1 []) > termCols - 1 then termCols - 1
          else wrap32 (t.curCol + firstParamOr1 [])) = min (t.curCol + 1) (termCols - 1) := by
        rw [one, wrap32_of_range (by omega) (by omega)]
        split <;> omega
      exact congrArg (fun col => { t with curCol := col }) col
  | left =>
      have col : (if wrap32 (t.curCol - firstParamOr1 []) < 0 then 0
          else wrap32 (t.curCol - firstParamOr1 [])) = max (t.curCol - 1) 0 := by
        rw [one, wrap32_of_range (by omega) (by omega)]
        split <;> omega
      exact congrArg (fun col => { t with curCol := col }) col

/-- In the normal mode the cursor moves, and that is all. -/
theorem plain_arrow (normal : t.state = .normal) (cursor : OnScreen t.curRow t.curCol) (a : Arrow) :
    localEchoFeed (inMode t false) a.code =
      { atFinal (inMode t false) [] with
        curRow := (arrowTarget t a).1
        curCol := (arrowTarget t a).2 } := by
  have bytes : localEcho false a.code = csiSequence [] a.letter := by cases a <;> decide
  have noParam : isParam a.letter = false ∧ a.letter ≠ 0x3F := by cases a <;> decide
  have ready : (inMode t false).state = .normal := normal
  have onScreen : OnScreen (atFinal (inMode t false) []).curRow
    (atFinal (inMode t false) []).curCol := cursor
  calc localEchoFeed (inMode t false) a.code
      = terminalFeed (inMode t false) (csiSequence [] a.letter) :=
        congrArg (terminalFeed (inMode t false)) bytes
    _ = csiFinal (atFinal (inMode t false) []) [] a.letter :=
        terminalFeed_csiSequence ready rfl (by decide) noParam.1 noParam.2
    _ = _ := csiFinal_arrow onScreen a

/-- In the application mode the letter is printed. -/
theorem application_arrow (normal : t.state = .normal) (a : Arrow) :
    localEchoFeed (inMode t true) a.code = termPutcPrint (inMode t true) a.letter := by
  have bytes : localEcho true a.code = [0x1B, 0x4F, a.letter] := by cases a <;> decide
  have printable : isPrintable a.letter = true := by cases a <;> decide
  have ready : (inMode t true).state = .normal := normal
  calc localEchoFeed (inMode t true) a.code
      = terminalFeed (inMode t true) [0x1B, 0x4F, a.letter] :=
        congrArg (terminalFeed (inMode t true)) bytes
    _ = terminalFeed (inMode t true) [a.letter] := terminalFeed_unknown ready (by decide) _
    _ = termPutcPrint (inMode t true) a.letter := termPutc_print ready printable

/-- Delete is a control sequence nobody knows. -/
theorem echo_del (normal : t.state = .normal) (app : Bool) :
    localEchoFeed (inMode t app) lvKeyDel = atFinal (inMode t app) [0x33] := by
  have ready : (inMode t app).state = .normal := normal
  calc localEchoFeed (inMode t app) lvKeyDel
      = terminalFeed (inMode t app) (csiSequence [0x33] 0x7E) := rfl
    _ = csiFinal (atFinal (inMode t app) [0x33]) (parseParams 16 [0x33]) 0x7E :=
        terminalFeed_csiSequence ready (by decide) (by decide) (by decide) (by decide)
    _ = atFinal (inMode t app) [0x33] := rfl

end Fed

/-! ### The grid that is not shown -/

/-- The grid the `grid` pointer does not point at. -/
def otherGrid (t : Terminal) : Grid :=
  match t.grid with
  | .mainGrid => t.altGrid
  | .altGrid => t.mainGrid

theorem otherGrid_setActiveGrid (t : Terminal) (g : Grid) :
    otherGrid (t.setActiveGrid g) = otherGrid t := by
  unfold Terminal.setActiveGrid otherGrid
  cases t.grid <;> rfl

theorem otherGrid_lineFeed (t : Terminal) : otherGrid (termLineFeed t) = otherGrid t := by
  unfold termLineFeed
  split
  · unfold termScrollRegionUp
    rw [otherGrid_setActiveGrid]
    split
    · obtain ⟨_, _, _, _, pushed⟩ := pushScrollback_touches t 0
      rw [pushed]
      rfl
    · rfl
  · split <;> rfl

theorem otherGrid_print (t : Terminal) (c : UInt8) : otherGrid (termPutcPrint t c) = otherGrid t := by
  have wrapped : otherGrid (autowrap t) = otherGrid t := by
    unfold autowrap
    split
    · exact otherGrid_lineFeed { t with curCol := 0 }
    · rfl
  have put : otherGrid (putCell (autowrap t) c) = otherGrid (autowrap t) := by
    unfold putCell
    dsimp only
    split
    · exact otherGrid_setActiveGrid _ _
    · exact otherGrid_setActiveGrid _ _
  exact put.trans wrapped

/-- So only the active grid can differ. -/
theorem sameGrids_iff {t after : Terminal} (grid : after.grid = t.grid)
    (other : otherGrid after = otherGrid t) :
    SameGrids t after ↔ SameCells after.activeGrid t.activeGrid := by
  unfold SameGrids Terminal.activeGrid
  unfold otherGrid at other
  rw [grid] at other ⊢
  cases on : t.grid with
  | mainGrid =>
      rw [on] at other
      exact ⟨And.left, fun same => ⟨same, congrArg Block.cells other⟩⟩
  | altGrid =>
      rw [on] at other
      exact ⟨And.right, fun same => ⟨congrArg Block.cells other, same⟩⟩

theorem sameCells_iff {g h : Grid} :
    SameCells g h ↔ ∀ i : Int, 0 ≤ i → i < gridCells → g.load i = h.load i := by
  constructor
  · intro same i _ _
    rw [same.load]
  · intro loads
    funext k
    rw [← Block.load_val, ← Block.load_val]
    exact loads k (by omega) (by omega)

/-! ### What the letter does -/

section Printed

variable {t : Terminal}

/-- **A line feed, cell by cell.** -/
theorem termLineFeed_load (region : ValidRegion t) {i : Int} (low : 0 ≤ i) (high : i < gridCells) :
    (termLineFeed t).activeGrid.load i =
      if t.curRow = t.scrollBottom then
        if t.scrollTop * 80 ≤ i ∧ i < t.scrollBottom * 80 then t.activeGrid.load (i + 80)
        else if t.scrollBottom * 80 ≤ i ∧ i < t.scrollBottom * 80 + 80 then
          blankCell t.curFg t.curBg
        else t.activeGrid.load i
      else t.activeGrid.load i := by
  obtain ⟨top, ordered, bottom⟩ := region
  unfold termLineFeed
  split
  · rw [termScrollRegionUp_activeGrid,
      scrolledGrid_load _ top (le_of_lt ordered) (by omega) _ _ low high]
  · split <;> rfl

/-- The byte is written where the wrap, if one is pending, puts it. -/
theorem cursorAt_autowrap (row : t.curRow < termRows) : cursorAt (autowrap t) = writePosition t := by
  unfold writePosition
  by_cases wrap : t.pendingWrap = true
  · have home : (termLineFeed { t with curCol := 0 }).curRow = nextRow t := termLineFeed_nextRow row
    have down : (autowrap t).curRow = nextRow t := by rw [autowrap_of_pending wrap, home]
    rw [if_pos wrap, cursorAt, down, autowrap_curCol wrap]
  · rw [if_neg wrap, autowrap_of_not_pending (by simpa using wrap)]

theorem cursorAt_print (cursor : OnScreen t.curRow t.curCol) (c : UInt8) :
    cursorAt (termPutcPrint t c) = letterTarget t := by
  obtain ⟨_, colLow, colHigh⟩ := autowrap_onScreen cursor
  obtain ⟨_, _, _, _, put⟩ := putCell_touches (autowrap t) c
  have row : (termPutcPrint t c).curRow = (autowrap t).curRow := by rw [termPutcPrint, put]
  have col : (termPutcPrint t c).curCol = min ((autowrap t).curCol + 1) (termCols - 1) := by
    rw [termPutcPrint, putCell_curCol]
    unfold termCols at colHigh ⊢
    split
    · omega
    · rw [wrap32_of_range (by omega) (by omega)]
      omega
  rw [letterTarget, ← cursorAt_autowrap cursor.1.2, cursorAt, row, col, cursorAt]

/-- **A printed byte, cell by cell.** -/
theorem termPutcPrint_load (cursor : OnScreen t.curRow t.curCol) (c : UInt8) {i : Int} (low : 0 ≤ i) (high : i < gridCells) :
    (termPutcPrint t c).activeGrid.load i =
      if i = (writePosition t).1 * 80 + (writePosition t).2 then printedCell t c
      else if t.pendingWrap = true then (termLineFeed { t with curCol := 0 }).activeGrid.load i
      else t.activeGrid.load i := by
  obtain ⟨index, _, _⟩ := (autowrap_onScreen cursor).index
  have cell : printedCell (autowrap t) c = printedCell t c := by
    obtain ⟨_, _, _, _, _, _, _, _, _, same⟩ := autowrap_touches t
    rw [same]
    rfl
  have wrapped : (autowrap t).activeGrid.load i =
      if t.pendingWrap = true then (termLineFeed { t with curCol := 0 }).activeGrid.load i
      else t.activeGrid.load i := by
    unfold autowrap
    split <;> rfl
  rw [termPutcPrint, putCell_activeGrid, index, Block.load_store _ _ _ _ low high, cell, wrapped,
    ← cursorAt_autowrap cursor.1.2]
  rfl

/-- The position of a byte printed after a wrap at the bottom of the region. -/
theorem writePosition_bottom (wrap : t.pendingWrap = true) (bottom : t.curRow = t.scrollBottom) :
    (writePosition t).1 * 80 + (writePosition t).2 = t.scrollBottom * 80 := by
  rw [writePosition, if_pos wrap, nextRow, if_pos (Or.inl bottom), bottom, add_zero]

/-- At the bottom of the region the wrap's line feed changes no cell but the one written exactly if
the region scrolls in place. -/
theorem scrollsInPlace_iff (region : ValidRegion t) (bottom : t.curRow = t.scrollBottom) :
    (∀ i : Int, 0 ≤ i → i < gridCells → i ≠ t.scrollBottom * 80 →
      (termLineFeed { t with curCol := 0 }).activeGrid.load i = t.activeGrid.load i) ↔
      ScrollsInPlace t := by
  have fed : ∀ i : Int, 0 ≤ i → i < gridCells →
      (termLineFeed { t with curCol := 0 }).activeGrid.load i =
        if t.scrollTop * 80 ≤ i ∧ i < t.scrollBottom * 80 then t.activeGrid.load (i + 80)
        else if t.scrollBottom * 80 ≤ i ∧ i < t.scrollBottom * 80 + 80 then
          blankCell t.curFg t.curBg
        else t.activeGrid.load i := by
    intro i low high
    have cell := termLineFeed_load (t := { t with curCol := 0 }) region low high
    rwa [if_pos bottom] at cell
  obtain ⟨top, ordered, last⟩ := region
  unfold termRows at last
  constructor
  · intro same
    refine ⟨fun i low high => ?_, fun col low high => ?_⟩
    · have kept := same i (by omega) (by unfold gridCells; omega) (by omega)
      rwa [fed _ (by omega) (by unfold gridCells; omega), if_pos ⟨low, high⟩] at kept
    · unfold termCols at high
      have kept := same (t.scrollBottom * 80 + col) (by omega) (by unfold gridCells; omega) (by omega)
      rw [fed _ (by omega) (by unfold gridCells; omega), if_neg (by omega), if_pos (by omega)] at kept
      exact kept.symm
  · rintro ⟨rows, blank⟩ i low high other
    rw [fed i low high]
    split
    · exact rows i (by omega) (by omega)
    split
    · have column := blank (i - t.scrollBottom * 80) (by omega) (by unfold termCols; omega)
      rw [add_sub_cancel] at column
      exact column.symm
    · rfl

/-- **A printed byte changes no cell** exactly if it is there already. -/
theorem drawn_iff (region : ValidRegion t) (cursor : OnScreen t.curRow t.curCol) (c : UInt8) :
    SameCells (termPutcPrint t c).activeGrid t.activeGrid ↔ AlreadyDrawn t c := by
  rw [sameCells_iff]
  constructor
  · intro same
    refine ⟨?_, fun wrap bottom => (scrollsInPlace_iff region bottom).mp ?_⟩
    · have on : OnScreen (autowrap t).curRow (autowrap t).curCol := autowrap_onScreen cursor
      have place := cursorAt_autowrap cursor.1.2
      obtain ⟨_, low, high⟩ := on.index
      have written := same _ low high
      rw [termPutcPrint_load cursor c low high, if_pos (by rw [← place]; rfl)] at written
      rw [← place]
      exact written.symm
    · intro i low high other
      have kept := same i low high
      rwa [termPutcPrint_load cursor c low high, writePosition_bottom wrap bottom, if_neg other,
        if_pos wrap] at kept
  · rintro ⟨cell, scroll⟩ i low high
    rw [termPutcPrint_load cursor c low high]
    by_cases here : i = (writePosition t).1 * 80 + (writePosition t).2
    · rw [if_pos here, here, cell]
    rw [if_neg here]
    by_cases wrap : t.pendingWrap = true
    swap
    · rw [if_neg wrap]
    rw [if_pos wrap]
    by_cases bottom : t.curRow = t.scrollBottom
    · rw [writePosition_bottom wrap bottom] at here
      exact (scrollsInPlace_iff region bottom).mpr (scroll wrap bottom) i low high here
    · rw [termLineFeed_load (t := { t with curCol := 0 }) region low high]
      exact if_neg bottom

end Printed

/-! ### When the echo draws nothing -/

section Echo

variable {t : Terminal}

theorem alreadyDrawn_inMode {c : UInt8} {app : Bool} :
    AlreadyDrawn (inMode t app) c ↔ AlreadyDrawn t c :=
  ⟨fun drawn => ⟨drawn.cell, fun wrap bottom =>
      ⟨(drawn.scroll wrap bottom).rows, (drawn.scroll wrap bottom).blank⟩⟩,
    fun drawn => ⟨drawn.cell, fun wrap bottom =>
      ⟨(drawn.scroll wrap bottom).rows, (drawn.scroll wrap bottom).blank⟩⟩⟩

/-- A letter printed in the application mode. -/
theorem sameGrids_print (region : ValidRegion t) (cursor : OnScreen t.curRow t.curCol) (c : UInt8) :
    SameGrids t (termPutcPrint (inMode t true) c) ↔ AlreadyDrawn t c := by
  have pointer : (termPutcPrint (inMode t true) c).grid = t.grid := by
    obtain ⟨_, _, _, _, _, _, _, _, _, same⟩ := termPutcPrint_touches (inMode t true) c
    rw [same]
    rfl
  have other : otherGrid (termPutcPrint (inMode t true) c) = otherGrid t := otherGrid_print _ c
  have drawn : SameCells (termPutcPrint (inMode t true) c).activeGrid t.activeGrid ↔
      AlreadyDrawn (inMode t true) c := drawn_iff (t := inMode t true) region cursor c
  exact (sameGrids_iff pointer other).trans (drawn.trans alreadyDrawn_inMode)

/-- **When the echo of an arrow, of Delete or of Escape draws nothing**: the key is no arrow, or its
letter stands already where it would be printed, and the cursor ends where the arrow takes it. -/
theorem echoQuiet_iff (normal : t.state = .normal) (cursor : OnScreen t.curRow t.curCol)
    (region : ValidRegion t) (key : SilentKey) : EchoQuiet t key ↔ Unnoticed t key := by
  cases key with
  | arrow a =>
      have plain := plain_arrow normal cursor a
      have application := application_arrow normal a
      have arrived : cursorAt (localEchoFeed (inMode t false) a.code) = arrowTarget t a := by
        rw [plain]
        rfl
      have printed : cursorAt (localEchoFeed (inMode t true) a.code) = letterTarget t := by
        rw [application]
        exact cursorAt_print (t := inMode t true) cursor a.letter
      have drawn := sameGrids_print region cursor a.letter
      rw [← application] at drawn
      constructor
      · intro quiet
        exact ⟨arrived.symm.trans (quiet.cursor.symm.trans printed), drawn.mp (quiet.cells true)⟩
      · rintro ⟨sameTarget, already⟩
        refine ⟨?_, ?_, printed.trans (sameTarget.symm.trans arrived.symm)⟩
        · rintro (_ | _)
          · show SameGrids t (localEchoFeed (inMode t false) a.code)
            rw [plain]
            exact ⟨rfl, rfl⟩
          · exact drawn.mpr already
        · rintro (_ | _)
          · show (localEchoFeed (inMode t false) a.code).state = .normal
            rw [plain]
            rfl
          · show (localEchoFeed (inMode t true) a.code).state = .normal
            obtain ⟨_, _, _, _, _, _, _, _, _, same⟩ :=
              termPutcPrint_touches (inMode t true) a.letter
            rw [application, same]
            exact normal
  | del =>
      refine iff_of_true ⟨fun app => ?_, fun app => ?_, ?_⟩ trivial
      · show SameGrids t (localEchoFeed (inMode t app) lvKeyDel)
        rw [echo_del normal]
        exact ⟨rfl, rfl⟩
      · show (localEchoFeed (inMode t app) lvKeyDel).state = .normal
        rw [echo_del normal]
        rfl
      · show cursorAt (localEchoFeed (inMode t true) lvKeyDel) =
          cursorAt (localEchoFeed (inMode t false) lvKeyDel)
        rw [echo_del normal, echo_del normal]
        rfl
  | esc => exact iff_of_true ⟨fun _ => ⟨rfl, rfl⟩, fun _ => normal, rfl⟩ trivial

end Echo

/-- The cursor on a printed C: there the Right key goes unnoticed. -/
theorem echoQuiet_iff_drawn :
    EchoQuiet (terminalFeed terminalCreate [0x43, 0x08]) (.arrow .right) :=
  (echoQuiet_iff (t := terminalFeed terminalCreate [0x43, 0x08]) (by decide +kernel)
    (by decide +kernel) (by decide +kernel) (.arrow .right)).mpr
    ⟨by decide +kernel, by decide +kernel, fun wrap => absurd wrap (by decide +kernel)⟩

/-- In the application mode the Up key prints an A. -/
theorem echoQuiet_fails : ¬ ∀ (t : Terminal) (key : SilentKey), t.state = .normal →
    OnScreen t.curRow t.curCol → ValidRegion t → EchoQuiet t key := by
  intro quiet
  have cells := (quiet terminalCreate (.arrow .up) rfl (by decide) (by decide)).cells true
  have first := sameCells_iff.mp cells.1 0 (by decide) (by decide)
  exact absurd first (by decide +kernel)

end Tab5
