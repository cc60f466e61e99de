/-
**The representation invariant of the terminal.**

`Invariant t` bounds every field that is used as an index: the cursor, the saved cursor, the scroll
region, the ring buffer's head, the viewport offset, the length of the CSI buffer and every colour.

* `step_invariant_iff`: from a state with the invariant, one operation keeps it exactly when it is
  not a CUD or CUF whose sum leaves the 32-bit range (`NoOverflow`). The clamps of
  `term_dispatch_csi` come after the addition, so a sum that wraps is negative and passes them.
* `Invariant.displayRow_within`, `Invariant.draw_colours`: with the invariant, the reads of
  `display_row` and `terminal_render` are in bounds too; the writes are by `noFault`.
-/

import Tab5RemoteTerminal.Terminal.Buffers

namespace Tab5

open CLoop

/-! ### The invariant -/

/-- Both colour indices of a cell are indices into `PALETTE`. -/
def CellColours (cell : TermCell) : Prop := cell.fg < 16 ∧ cell.bg < 16

/-- All cells of an array have palette colours. -/
def ColoursOk {n : Nat} (block : Block n TermCell) : Prop := ∀ i, CellColours (block.load i)

structure Invariant (t : Terminal) : Prop where
  cursor : OnScreen t.curRow t.curCol
  saved : OnScreen t.savedRow t.savedCol
  region : 0 ≤ t.scrollTop ∧ t.scrollTop < t.scrollBottom ∧ t.scrollBottom ≤ termRows - 1
  head : 0 ≤ t.scrollbackHead ∧ t.scrollbackHead < scrollbackLines
  view : 0 ≤ t.scrollOffset ∧ t.scrollOffset ≤ t.scrollbackCount ∧
    t.scrollbackCount ≤ scrollbackLines
  csiLen : t.csiBuf.length ≤ csiBufLen - 1
  gridPtr : t.grid = .altGrid ↔ t.altActive = true
  curColours : t.curFg < 16 ∧ t.curBg < 16
  savedColours : t.savedFg < 16 ∧ t.savedBg < 16
  mainColours : ColoursOk t.mainGrid
  altColours : ColoursOk t.altGrid
  scrollbackColours : ColoursOk t.scrollback
  noFault : t.mainGrid.fault = false ∧ t.altGrid.fault = false ∧ t.scrollback.fault = false

theorem Invariant.buffered {t : Terminal} (inv : Invariant t) : Buffered t :=
  ⟨inv.head, inv.view, inv.gridPtr⟩

/-! ### Clearing and moving rows -/

theorem blankCell_colours {fg bg : UInt8} (colours : fg < 16 ∧ bg < 16) :
    CellColours (blankCell fg bg) := colours

theorem ColoursOk.cellClearRange {g : Grid} (ok : ColoursOk g) (row colFrom colTo : Int)
    {fg bg : UInt8} (colours : fg < 16 ∧ bg < 16) :
    ColoursOk (cellClearRange g row colFrom colTo fg bg) :=
  forLoop_preserves _ _ _ g ColoursOk ok fun _ h _ _ holds =>
    Block.load_store_of_all CellColours h _ _ holds (blankCell_colours colours)

theorem cellClearRange_fault (g : Grid) {row colFrom : Int} (colTo : Int) (fg bg : UInt8)
    (rowIn : 0 ≤ row ∧ row < termRows) (colIn : 0 ≤ colFrom) :
    (cellClearRange g row colFrom colTo fg bg).fault = g.fault := by
  refine forLoop_preserves _ _ _ g (fun h => h.fault = g.fault) rfl fun c h low high same => ?_
  have on : OnScreen row c := ⟨rowIn, by omega, by omega⟩
  obtain ⟨index, indexLow, indexHigh⟩ := on.index
  rw [Block.store_fault _ _ (by rw [index]; exact ⟨indexLow, by omega⟩), same]

theorem ColoursOk.gridClearAll {g : Grid} (ok : ColoursOk g) {fg bg : UInt8}
    (colours : fg < 16 ∧ bg < 16) : ColoursOk (gridClearAll g fg bg) :=
  forLoop_preserves _ _ _ g ColoursOk ok fun r _ _ _ holds => holds.cellClearRange r 0 _ colours

theorem ColoursOk.moveRowsUp {g : Grid} (ok : ColoursOk g) (top bottom : Int) :
    ColoursOk (moveRowsUp g top bottom) :=
  forLoop_preserves _ _ _ g ColoursOk ok fun _ h _ _ holds =>
    Block.load_copy_of_all CellColours h _ h _ _ holds holds

/-- The first cell of a row of the screen, and the row behind it, lie inside the grid. -/
theorem row_within {row : Int} (rowIn : 0 ≤ row ∧ row < termRows) :
    Block.Within gridCells (cellIndex row 0) termCols := by
  unfold termRows at rowIn
  rw [cellIndex_eq (by omega) (by unfold termRows; omega) le_rfl (by unfold termCols; omega)]
  unfold Block.Within gridCells termCols
  omega

theorem moveRowsUp_fault (g : Grid) {top bottom : Int} (low : 0 ≤ top) (high : bottom < termRows) :
    (moveRowsUp g top bottom).fault = g.fault := by
  refine forLoop_preserves _ _ _ g (fun h => h.fault = g.fault) rfl fun r h rLow rHigh same => ?_
  rw [Block.copy_fault _ _ (row_within ⟨by omega, by omega⟩) (row_within ⟨by omega, by omega⟩), same]

section Steps

variable {t : Terminal}

/-! ### Writes to the active grid -/

theorem Invariant.activeColours (inv : Invariant t) : ColoursOk t.activeGrid := by
  unfold Terminal.activeGrid
  split
  · exact inv.mainColours
  · exact inv.altColours

theorem Invariant.activeFault (inv : Invariant t) : t.activeGrid.fault = false := by
  unfold Terminal.activeGrid
  split
  · exact inv.noFault.1
  · exact inv.noFault.2.1

theorem Invariant.setActiveGrid (inv : Invariant t) {g : Grid} (colours : ColoursOk g)
    (fault : g.fault = false) : Invariant (t.setActiveGrid g) := by
  unfold Terminal.setActiveGrid
  split
  · exact { inv with mainColours := colours, noFault := ⟨fault, inv.noFault.2⟩ }
  · exact { inv with altColours := colours, noFault := ⟨inv.noFault.1, fault, inv.noFault.2.2⟩ }

theorem Invariant.clear (inv : Invariant t) {row colFrom : Int} (colTo : Int)
    (rowIn : 0 ≤ row ∧ row < termRows) (colIn : 0 ≤ colFrom) {g : Grid} (colours : ColoursOk g)
    (fault : g.fault = false) :
    Invariant (t.setActiveGrid (cellClearRange g row colFrom colTo t.curFg t.curBg)) :=
  inv.setActiveGrid (colours.cellClearRange row colFrom colTo inv.curColours)
    ((cellClearRange_fault g colTo _ _ rowIn colIn).trans fault)

/-! ### Scrolling -/

theorem Invariant.pushScrollback (inv : Invariant t) : Invariant (pushScrollback t 0) := by
  have kept := inv.buffered.pushScrollback 0
  unfold Tab5.pushScrollback at kept ⊢
  split
  · exact inv
  · rename_i onMain
    rw [if_neg onMain] at kept
    obtain ⟨headLow, headHigh⟩ := inv.head
    unfold scrollbackLines at headHigh
    have target : Block.Within scrollbackCells (t.scrollbackHead * termCols) termCols := by
      unfold Block.Within scrollbackCells termCols
      omega
    have origin : Block.Within gridCells 0 termCols := by
      unfold Block.Within gridCells termCols
      omega
    have fault := (Block.copy_fault t.scrollback t.activeGrid target origin).trans inv.noFault.2.2
    have colours := Block.load_copy_of_all CellColours t.scrollback (t.scrollbackHead * termCols)
      t.activeGrid 0 termCols inv.scrollbackColours inv.activeColours
    exact { inv with
      head := kept.head
      view := kept.view
      scrollbackColours := colours
      noFault := ⟨inv.noFault.1, inv.noFault.2.1, fault⟩ }

theorem Invariant.scrollRegionUp (inv : Invariant t) :
    Invariant (termScrollRegionUp t t.scrollTop t.scrollBottom) := by
  obtain ⟨low, ordered, high⟩ := inv.region
  unfold termScrollRegionUp
  have pushed : Invariant (if t.scrollTop = 0 ∧ t.scrollBottom = termRows - 1
      then Tab5.pushScrollback t 0 else t) := by
    split
    · exact inv.pushScrollback
    · exact inv
  exact pushed.clear _ ⟨by omega, by omega⟩ le_rfl (pushed.activeColours.moveRowsUp _ _)
    ((moveRowsUp_fault _ low (by omega)).trans pushed.activeFault)

theorem Invariant.lineFeed (inv : Invariant t) : Invariant (termLineFeed t) := by
  obtain ⟨⟨rowLow, rowHigh⟩, col⟩ := inv.cursor
  unfold termLineFeed
  split
  · exact inv.scrollRegionUp
  · split
    · exact { inv with cursor := ⟨⟨by dsimp only; omega, by dsimp only; omega⟩, col⟩ }
    · exact inv

/-! ### Erasing -/

theorem Invariant.eraseInLine (inv : Invariant t) (mode : Int) :
    Invariant (termEraseInLine t mode) := by
  obtain ⟨row, col, _⟩ := inv.cursor
  unfold termEraseInLine
  dsimp only
  split
  · exact inv.clear _ row le_rfl inv.activeColours inv.activeFault
  · split
    · exact inv.clear _ row le_rfl inv.activeColours inv.activeFault
    · exact inv.clear _ row col inv.activeColours inv.activeFault

/-- A loop that clears rows of the screen. -/
theorem clearRows_ok (g : Grid) {lo hi : Int} (fg bg : UInt8) (low : 0 ≤ lo) (high : hi ≤ termRows)
    (colours : fg < 16 ∧ bg < 16) (ok : ColoursOk g) (fault : g.fault = false) :
    ColoursOk (forLoop lo hi (fun r g => cellClearRange g r 0 (termCols - 1) fg bg) g) ∧
      (forLoop lo hi (fun r g => cellClearRange g r 0 (termCols - 1) fg bg) g).fault = false :=
  forLoop_preserves lo hi _ g (fun h => ColoursOk h ∧ h.fault = false) ⟨ok, fault⟩
    fun r h rLow rHigh holds => ⟨holds.1.cellClearRange r 0 _ colours,
      (cellClearRange_fault h _ _ _ ⟨by omega, by omega⟩ le_rfl).trans holds.2⟩

theorem Invariant.eraseInDisplay (inv : Invariant t) (mode : Int) :
    Invariant (termEraseInDisplay t mode) := by
  obtain ⟨row, col, _⟩ := inv.cursor
  unfold termEraseInDisplay
  dsimp only
  split
  · obtain ⟨colours, fault⟩ := clearRows_ok t.activeGrid t.curFg t.curBg le_rfl row.2.le
      inv.curColours inv.activeColours inv.activeFault
    exact inv.clear _ row le_rfl colours fault
  · split
    · obtain ⟨colours, fault⟩ := clearRows_ok t.activeGrid t.curFg t.curBg le_rfl le_rfl
        inv.curColours inv.activeColours inv.activeFault
      exact inv.setActiveGrid colours fault
    · have first := inv.activeColours.cellClearRange t.curRow t.curCol (termCols - 1) inv.curColours
      have firstFault := (cellClearRange_fault t.activeGrid (termCols - 1) t.curFg t.curBg row
        col).trans inv.activeFault
      obtain ⟨colours, fault⟩ := clearRows_ok _ t.curFg t.curBg
        (by omega : 0 ≤ t.curRow + 1) le_rfl inv.curColours first firstFault
      exact inv.setActiveGrid colours fault

/-! ### Rendition and modes -/

/-- A palette index computed from an SGR parameter. -/
theorem paletteIndex_lt {index : Nat} (small : index < 16) : UInt8.ofNat index < 16 := by
  rw [UInt8.lt_iff_toNat_lt, UInt8.toNat_ofNat']
  exact lt_of_le_of_lt (Nat.mod_le _ _) small

theorem default_colours : defaultFg < 16 ∧ defaultBg < 16 := by decide

/-- A rendition with palette colours. -/
def Rendition.Colours (r : Rendition) : Prop := r.fg < 16 ∧ r.bg < 16

theorem sgrParam_colours {r : Rendition} (colours : r.Colours) (param : Int) :
    (sgrParam r param).Colours := by
  obtain ⟨fg, bg⟩ := colours
  unfold sgrParam
  dsimp only
  generalize (if param < 0 then 0 else param) = p
  repeat' refine iteInduction (motive := Rendition.Colours) (fun _ => ?_) fun _ => ?_
  all_goals first
    | exact ⟨fg, bg⟩
    | exact default_colours
    | exact ⟨default_colours.1, bg⟩
    | exact ⟨fg, default_colours.2⟩
    | exact ⟨paletteIndex_lt (by omega), bg⟩
    | exact ⟨fg, paletteIndex_lt (by omega)⟩

theorem sgrParams_colours {r : Rendition} (colours : r.Colours) (params : List Int) :
    (params.foldl sgrParam r).Colours := by
  induction params generalizing r with
  | nil => exact colours
  | cons param params ih => exact ih (sgrParam_colours colours param)

theorem Invariant.applySgr (inv : Invariant t) (params : List Int) :
    Invariant (termApplySgr t params) := by
  refine { inv with curColours := ?_ }
  have start : Rendition.Colours ⟨t.curFg, t.curBg, t.curAttrs⟩ := inv.curColours
  exact iteInduction (motive := Rendition.Colours) (fun _ => default_colours)
    fun _ => sgrParams_colours start params

theorem onScreen_home : OnScreen 0 0 := by
  unfold OnScreen termRows termCols
  omega

/-- The scroll region of a reset terminal. -/
theorem fullRegion : 0 ≤ (0 : Int) ∧ 0 < termRows - 1 ∧ termRows - 1 ≤ termRows - 1 := by decide

/-- The CSI buffer at the start of a sequence. -/
theorem emptyCsiBuf : ([] : List UInt8).length ≤ csiBufLen - 1 := by decide

theorem Invariant.setAltScreen (inv : Invariant t) (mode : Int) (enable : Bool) :
    Invariant (setAltScreen t mode enable) := by
  unfold Tab5.setAltScreen
  split
  · refine { inv with
      cursor := onScreen_home
      saved := ?_
      gridPtr := by simp
      altColours := inv.altColours.gridClearAll default_colours
      noFault := ⟨inv.noFault.1, (gridClearAll_spec t.altGrid defaultFg defaultBg).1.trans inv.noFault.2.1,
        inv.noFault.2.2⟩ }
    dsimp only
    split
    · exact inv.cursor
    · exact inv.saved
  · split
    · refine { inv with cursor := ?_, gridPtr := by simp }
      dsimp only
      split
      · exact inv.saved
      · exact inv.cursor
    · exact inv

theorem Invariant.setPrivateMode (inv : Invariant t) (mode : Int) (enable : Bool) :
    Invariant (termSetPrivateMode t mode enable) := by
  unfold termSetPrivateMode
  split_ifs
  · exact { inv with }
  · exact { inv with }
  · exact inv.setAltScreen mode enable
  · exact inv

theorem Invariant.setPrivateModes (inv : Invariant t) (params : List Int) (enable : Bool) :
    Invariant (setPrivateModes t params enable) := by
  unfold Tab5.setPrivateModes
  induction params generalizing t with
  | nil => exact inv
  | cons param params ih => exact ih (inv.setPrivateMode _ enable)

end Steps

/-! ### Parameters -/

theorem digitsValue_range (digits : List UInt8) :
    -2147483648 ≤ digitsValue digits ∧ digitsValue digits < 2147483648 := by
  unfold digitsValue
  induction digits using List.reverseRecOn with
  | nil => decide
  | append_singleton digits c _ =>
      rw [List.foldl_append]
      exact wrap32_range _

/-- Every parameter is a C int. -/
theorem parseParams_range (room : Nat) (buf : List UInt8) :
    ∀ p ∈ parseParams room buf, -2147483648 ≤ p ∧ p < 2147483648 := by
  induction room generalizing buf with
  | zero => simp [parseParams]
  | succ room ih =>
      cases buf with
      | nil => simp [parseParams]
      | cons c rest =>
          intro p member
          rw [parseParams] at member
          split at member
          · rcases List.mem_cons.mp member with same | tail
            · omega
            · exact ih _ p tail
          · rcases List.mem_cons.mp member with same | tail
            · have range := digitsValue_range ((c :: rest).takeWhile isDigit)
              split at same <;> omega
            · exact ih _ p tail

theorem params_range (t : Terminal) :
    ∀ p ∈ csiParams t, -2147483648 ≤ p ∧ p < 2147483648 :=
  parseParams_range 16 t.csiBuf

theorem firstParamOr1_range {params : List Int}
    (range : ∀ p ∈ params, -2147483648 ≤ p ∧ p < 2147483648) :
    1 ≤ firstParamOr1 params ∧ firstParamOr1 params < 2147483648 := by
  have first : 0 ≤ firstParam params ∧ firstParam params < 2147483648 := by
    cases params with
    | nil => decide
    | cons p rest =>
        have here := range p List.mem_cons_self
        unfold firstParam
        dsimp only
        split <;> omega
  unfold firstParamOr1
  split <;> omega

theorem clampTo_range {n : Int} (x : Int) (positive : 0 < n) : 0 ≤ clampTo n x ∧ clampTo n x < n := by
  unfold clampTo
  split_ifs <;> omega

section Steps

variable {t : Terminal}

/-! ### Cursor movement -/

theorem Invariant.moveCursor (inv : Invariant t) {row col : Int} (on : OnScreen row col) :
    Invariant { t with curRow := row, curCol := col } :=
  { inv with cursor := on }

/-- No int subtracted from a coordinate wraps, so the clamp below it works. -/
theorem clampedDifference {x n floor limit : Int} (xIn : 0 ≤ x ∧ x < limit)
    (floorIn : 0 ≤ floor ∧ floor < limit) (small : limit < 2147483648)
    (range : 1 ≤ n ∧ n < 2147483648) :
    0 ≤ (if wrap32 (x - n) < floor then floor else wrap32 (x - n)) ∧
      (if wrap32 (x - n) < floor then floor else wrap32 (x - n)) < limit := by
  rw [wrap32_of_range (by omega) (by omega)]
  split <;> omega

/-- A coordinate plus an int is in range behind its clamp exactly when the sum is an int: a sum that
wraps is negative and passes the clamp. -/
theorem clampedSum_iff {x n last limit : Int} (xIn : 0 ≤ x ∧ x < 2147483648)
    (lastIn : 0 ≤ last ∧ last < limit) (range : 1 ≤ n ∧ n < 2147483648) :
    (0 ≤ (if wrap32 (x + n) > last then last else wrap32 (x + n)) ∧
      (if wrap32 (x + n) > last then last else wrap32 (x + n)) < limit) ↔ x + n < 2147483648 := by
  constructor
  · rintro ⟨low, _⟩
    by_contra overflow
    rw [wrap32_overflow (by omega) (by omega), if_neg (by omega)] at low
    omega
  · intro fits
    rw [wrap32_of_range (by omega) fits]
    split <;> omega

/-- `case 'A'`. -/
theorem Invariant.cursorUp (inv : Invariant t) {n : Int} (range : 1 ≤ n ∧ n < 2147483648) :
    OnScreen (if wrap32 (t.curRow - n) < t.scrollTop then t.scrollTop
      else wrap32 (t.curRow - n)) t.curCol := by
  obtain ⟨topLow, topBelow, bottomHigh⟩ := inv.region
  exact ⟨clampedDifference inv.cursor.1 ⟨topLow, by omega⟩ (by decide) range, inv.cursor.2⟩

/-- `case 'D'`. -/
theorem Invariant.cursorLeft (inv : Invariant t) {n : Int} (range : 1 ≤ n ∧ n < 2147483648) :
    OnScreen t.curRow (if wrap32 (t.curCol - n) < 0 then 0 else wrap32 (t.curCol - n)) :=
  ⟨inv.cursor.1, clampedDifference inv.cursor.2 (by decide) (by decide) range⟩

/-- `case 'B'`. -/
theorem Invariant.cursorDown_iff (inv : Invariant t) {n : Int} (range : 1 ≤ n ∧ n < 2147483648) :
    OnScreen (if wrap32 (t.curRow + n) > t.scrollBottom then t.scrollBottom
      else wrap32 (t.curRow + n)) t.curCol ↔ t.curRow + n < 2147483648 := by
  obtain ⟨rowLow, rowHigh⟩ := inv.cursor.1
  obtain ⟨topLow, topBelow, bottomHigh⟩ := inv.region
  unfold termRows at rowHigh
  have lastRow : 0 ≤ t.scrollBottom ∧ t.scrollBottom < termRows := ⟨by omega, by omega⟩
  rw [← clampedSum_iff ⟨rowLow, by omega⟩ lastRow range]
  exact and_iff_left inv.cursor.2

/-- `case 'C'`. -/
theorem Invariant.cursorRight_iff (inv : Invariant t) {n : Int}
    (range : 1 ≤ n ∧ n < 2147483648) :
    OnScreen t.curRow (if wrap32 (t.curCol + n) > termCols - 1 then termCols - 1
      else wrap32 (t.curCol + n)) ↔ t.curCol + n < 2147483648 := by
  obtain ⟨colLow, colHigh⟩ := inv.cursor.2
  have lastCol : 0 ≤ termCols - 1 ∧ termCols - 1 < termCols := by decide
  unfold termCols at colHigh
  rw [← clampedSum_iff ⟨colLow, by omega⟩ lastCol range]
  exact and_iff_right inv.cursor.1

/-- A region set by a control sequence has at least two rows, all on the screen. -/
theorem setScrollRegion_region (t : Terminal) (params : List Int) :
    0 ≤ (setScrollRegion t params).scrollTop ∧
      (setScrollRegion t params).scrollTop < (setScrollRegion t params).scrollBottom ∧
      (setScrollRegion t params).scrollBottom ≤ termRows - 1 := by
  have region : ∀ top bottom : Int, 0 ≤ top → bottom ≤ termRows - 1 →
      ∀ pair : Int × Int, pair = (if top < bottom then (top, bottom) else (0, termRows - 1)) →
      0 ≤ pair.1 ∧ pair.1 < pair.2 ∧ pair.2 ≤ termRows - 1 := by
    rintro top bottom low high pair rfl
    unfold termRows at *
    split <;> dsimp only <;> omega
  exact region
    (if paramMinus1 params 0 0 < 0 then 0 else paramMinus1 params 0 0)
    (if paramMinus1 params 1 (termRows - 1) ≥ termRows then termRows - 1
      else paramMinus1 params 1 (termRows - 1))
    (by split <;> omega) (by split <;> omega) _ rfl

theorem Invariant.setScrollRegion (inv : Invariant t) (params : List Int) :
    Invariant (setScrollRegion t params) := by
  have bounds := setScrollRegion_region t params
  refine { inv with region := bounds, cursor := ⟨⟨bounds.1, ?_⟩, onScreen_home.2⟩ }
  have ordered := bounds.2
  dsimp only [Tab5.setScrollRegion] at ordered ⊢
  omega

/-! ### Dispatching a control sequence -/

/-- The sum of a CUD or a CUF with these parameters is an int. -/
def FinalFits (t : Terminal) (params : List Int) (final : UInt8) : Prop :=
  (final = 0x42 → t.curRow + firstParamOr1 params < 2147483648) ∧
    (final = 0x43 → t.curCol + firstParamOr1 params < 2147483648)

/-- A CUD or a CUF that leaves the cursor on the grid had a sum that is an int. -/
theorem Invariant.csiFinal_cursor (inv : Invariant t) {params : List Int}
    (range : ∀ p ∈ params, -2147483648 ≤ p ∧ p < 2147483648) {final : UInt8}
    (on : final = 0x42 ∨ final = 0x43 →
      OnScreen (csiFinal t params final).curRow (csiFinal t params final).curCol) :
    FinalFits t params final := by
  have count := firstParamOr1_range range
  constructor
  · rintro rfl
    exact (inv.cursorDown_iff count).mp (on (Or.inl rfl))
  · rintro rfl
    exact (inv.cursorRight_iff count).mp (on (Or.inr rfl))

theorem Invariant.csiFinal_iff (inv : Invariant t) {params : List Int}
    (range : ∀ p ∈ params, -2147483648 ≤ p ∧ p < 2147483648) (final : UInt8) :
    Invariant (csiFinal t params final) ↔ FinalFits t params final := by
  have count := firstParamOr1_range range
  have other : ∀ {s : Terminal}, final ≠ 0x42 → final ≠ 0x43 → Invariant s →
      (Invariant s ↔ FinalFits t params final) := fun notDown notRight holds =>
    ⟨fun _ => ⟨fun down => absurd down notDown, fun right => absurd right notRight⟩,
      fun _ => holds⟩
  unfold csiFinal
  split
  · exact other (by decide) (by decide) (inv.moveCursor (inv.cursorUp count))
  · exact ⟨fun after => inv.csiFinal_cursor range fun _ => after.cursor,
      fun fits => inv.moveCursor ((inv.cursorDown_iff count).mpr (fits.1 rfl))⟩
  · exact ⟨fun after => inv.csiFinal_cursor range fun _ => after.cursor,
      fun fits => inv.moveCursor ((inv.cursorRight_iff count).mpr (fits.2 rfl))⟩
  · exact other (by decide) (by decide) (inv.moveCursor (inv.cursorLeft count))
  · exact other (by decide) (by decide)
      (inv.moveCursor ⟨clampTo_range _ (by decide), clampTo_range _ (by decide)⟩)
  · exact other (by decide) (by decide)
      (inv.moveCursor ⟨clampTo_range _ (by decide), clampTo_range _ (by decide)⟩)
  · exact other (by decide) (by decide) (inv.eraseInDisplay _)
  · exact other (by decide) (by decide) (inv.eraseInLine _)
  · exact other (by decide) (by decide) (inv.applySgr _)
  · exact other (by decide) (by decide) (inv.setScrollRegion _)
  · exact other (by assumption) (by assumption) inv

/-- The byte is not the final byte of a CUD or CUF whose sum leaves the 32-bit range. -/
def NoOverflow (t : Terminal) : Op → Prop
  | .feed c => t.state = .csi → t.csiPrivate = false → FinalFits t (csiParams t) c
  | _ => True

theorem Invariant.dispatchCsi_iff (inv : Invariant t) (final : UInt8) :
    Invariant (termDispatchCsi t final) ↔
      (t.csiPrivate = false → FinalFits t (csiParams t) final) := by
  have cleared : Invariant { t with pendingWrap := false } := { inv with }
  unfold termDispatchCsi
  dsimp only
  by_cases isPrivate : t.csiPrivate = true
  · rw [if_pos isPrivate]
    refine ⟨fun _ notPrivate => by simp [isPrivate] at notPrivate, fun _ => ?_⟩
    split
    · exact cleared.setPrivateModes _ _
    · exact cleared
  · rw [if_neg isPrivate, cleared.csiFinal_iff (params_range t)]
    exact ⟨fun fits _ => fits, fun fits => fits (by simpa using isPrivate)⟩

/-! ### One byte -/

theorem Invariant.putcEsc (inv : Invariant t) (c : UInt8) : Invariant (termPutcEsc t c) := by
  have normal : Invariant { t with state := .normal } := { inv with }
  unfold termPutcEsc
  dsimp only
  split
  · exact { inv with csiLen := emptyCsiBuf }
  split
  · exact { inv with }
  split
  · exact { inv with }
  split
  · exact { inv with saved := inv.cursor, savedColours := inv.curColours }
  split
  · exact { inv with cursor := inv.saved, curColours := inv.savedColours }
  split
  · have reset : Invariant (termResetState { t with state := .normal }) :=
      { inv with
        cursor := onScreen_home
        curColours := default_colours
        region := fullRegion
        csiLen := emptyCsiBuf }
    exact reset.setActiveGrid (reset.activeColours.gridClearAll default_colours)
      ((gridClearAll_spec _ defaultFg defaultBg).1.trans reset.activeFault)
  · exact normal

theorem Invariant.putcCsi_iff (inv : Invariant t) (c : UInt8) :
    Invariant (termPutcCsi t c) ↔ (t.csiPrivate = false → FinalFits t (csiParams t) c) := by
  have parameter : c = 0x3F ∨ isDigit c = true ∨ c = 0x3B → FinalFits t (csiParams t) c := by
    intro byte
    constructor
    · rintro rfl
      exact absurd byte (by decide)
    · rintro rfl
      exact absurd byte (by decide)
  unfold termPutcCsi
  split
  · exact ⟨fun _ _ => parameter (by tauto), fun _ => { inv with }⟩
  · split
    · refine ⟨fun _ _ => parameter (by tauto), fun _ => ?_⟩
      split
      · refine { inv with csiLen := ?_ }
        simp only [List.length_append, List.length_singleton]
        omega
      · exact inv
    · have normal : Invariant { t with state := .normal } := { inv with }
      exact normal.dispatchCsi_iff c

theorem Invariant.autowrap (inv : Invariant t) : Invariant (autowrap t) := by
  unfold Tab5.autowrap
  split
  · have home : Invariant { t with curCol := 0 } :=
      inv.moveCursor ⟨inv.cursor.1, onScreen_home.2⟩
    exact { home.lineFeed with }
  · exact inv

theorem Invariant.putCell (inv : Invariant t) (c : UInt8) : Invariant (putCell t c) := by
  obtain ⟨index, indexLow, indexHigh⟩ := inv.cursor.index
  have written : Invariant (t.setActiveGrid
      (t.activeGrid.store (cellIndex t.curRow t.curCol) (printedCell t c))) :=
    inv.setActiveGrid
      (Block.load_store_of_all CellColours _ _ _ inv.activeColours inv.curColours)
      ((Block.store_fault _ _ (by rw [index]; exact ⟨indexLow, by omega⟩)).trans inv.activeFault)
  unfold Tab5.putCell
  dsimp only
  split
  · exact { written with }
  · obtain ⟨row, colLow, colHigh⟩ := written.cursor
    refine written.moveCursor ⟨row, ?_⟩
    unfold termCols at *
    rw [wrap32_of_range (by omega) (by omega)]
    omega

theorem Invariant.putcNormal (inv : Invariant t) (c : UInt8) : Invariant (termPutcNormal t c) := by
  obtain ⟨row, colLow, colHigh⟩ := inv.cursor
  unfold termPutcNormal
  split
  · exact { inv with }
  split
  · exact { inv with cursor := ⟨row, onScreen_home.2⟩ }
  split
  · have cleared : Invariant { t with pendingWrap := false } := { inv with }
    exact cleared.lineFeed
  split
  · refine { inv with cursor := ⟨row, ?_⟩ }
    dsimp only
    split <;> omega
  split
  · exact { inv with cursor := ⟨row, tabColumn_range colLow colHigh⟩ }
  split
  · exact inv.autowrap.putCell c
  · exact inv

theorem Invariant.putc_iff (inv : Invariant t) (c : UInt8) :
    Invariant (termPutc t c) ↔ NoOverflow t (.feed c) := by
  unfold termPutc NoOverflow
  cases parser : t.state with
  | esc => exact ⟨fun _ => nofun, fun _ => inv.putcEsc c⟩
  | escCharset => exact ⟨fun _ => nofun, fun _ => { inv with }⟩
  | csi =>
      dsimp only
      rw [inv.putcCsi_iff]
      exact ⟨fun fits _ => fits, fun fits => fits rfl⟩
  | osc =>
      refine ⟨fun _ => nofun, fun _ => ?_⟩
      dsimp only [termPutcOsc]
      split
      · exact { inv with }
      · exact inv
  | normal => exact ⟨fun _ => nofun, fun _ => inv.putcNormal c⟩

/-! ### One operation -/

theorem Invariant.scroll (inv : Invariant t) (deltaLines : Int) :
    Invariant (terminalScroll t deltaLines) :=
  { inv with view := (inv.buffered.scroll deltaLines).view }

theorem Invariant.render (inv : Invariant t) : Invariant (terminalRender t).1 := by
  obtain ⟨rendered, scratch, row, col, visible, offset, same⟩ := terminalRender_fst t
  rw [same]
  exact { inv with }

/-- **The exact condition of one operation.** -/
theorem step_invariant_iff (inv : Invariant t) (op : Op) :
    Invariant (op.step t) ↔ NoOverflow t op := by
  cases op with
  | feed c => exact inv.putc_iff c
  | scroll deltaLines => exact ⟨fun _ => trivial, fun _ => inv.scroll deltaLines⟩
  | render => exact ⟨fun _ => trivial, fun _ => inv.render⟩

end Steps

/-! ### Reads -/

/-- The ring-buffer slot `display_row` reads for a row of history. -/
theorem displayRow_slot {head count offset r : Int} (headIn : 0 ≤ head ∧ head < 300)
    (view : 0 ≤ offset ∧ offset ≤ count ∧ count ≤ 300) (rowLow : 0 ≤ r) :
    ((head - 1 + 300).tmod 300 - (count - 1 - (count - offset + r)) + 300).tmod 300 =
      (head + 300 - offset + r) % 300 := by
  have newest : (head - 1 + 300).tmod 300 = (head + 299) % 300 := by
    rw [Int.tmod_eq_emod_of_nonneg (by omega)]
    congr 1
    omega
  rw [newest, Int.tmod_eq_emod_of_nonneg (by omega)]
  omega

theorem Invariant.displayRow_within {t : Terminal} (inv : Invariant t) {r : Int} (low : 0 ≤ r)
    (high : r < termRows) : (displayRow t r).Within := by
  have headIn := inv.head
  have view := inv.view
  unfold scrollbackLines at headIn view
  unfold termRows at high
  unfold displayRow scrollbackLines termCols
  dsimp only
  split
  · rw [displayRow_slot headIn view low]
    unfold RowPtr.Within Block.Within scrollbackCells termCols
    omega
  · unfold RowPtr.Within Block.Within gridCells termCols
    omega

/-- The cells behind a row pointer have palette colours. -/
theorem Invariant.rowCells_colours {t : Terminal} (inv : Invariant t) (row : RowPtr) :
    ∀ cell ∈ rowCells t row, CellColours cell := by
  intro cell member
  unfold rowCells at member
  split at member
  all_goals
    obtain ⟨k, _, rfl⟩ := List.mem_map.mp member
  · exact inv.scrollbackColours _
  · exact inv.activeColours _

/-- The palette indices of everything drawn so far are below 16. -/
def Pass.PaletteOk (p : Pass) : Prop := ∀ d ∈ p.draws, d.fgIdx < 16 ∧ d.bgIdx < 16

theorem Pass.PaletteOk.draw {p : Pass} (ok : p.PaletteOk) (area : Area) {fgIdx bgIdx : UInt8}
    (colours : fgIdx < 16 ∧ bgIdx < 16) (text : List UInt8) (cursor : Bool) :
    (p.draw area fgIdx bgIdx text cursor).PaletteOk := by
  intro d member
  rcases List.mem_append.mp member with before | here
  · exact ok d before
  · rw [List.mem_singleton.mp here]
    exact colours

theorem cellColours_lt {cell : TermCell} (colours : CellColours cell) :
    (cellColours cell).1 < 16 ∧ (cellColours cell).2 < 16 := by
  unfold cellColours
  split
  · exact colours.symm
  · exact colours

theorem drawRuns_paletteOk (r : Int) (rounds : Nat) :
    ∀ (c : Int) (cells : List TermCell) (p : Pass), (∀ cell ∈ cells, CellColours cell) →
      p.PaletteOk → (drawRuns r rounds c cells p).PaletteOk := by
  induction rounds with
  | zero => exact fun _ _ _ _ ok => ok
  | succ rounds ih =>
      intro c cells p colours ok
      cases cells with
      | nil => exact ok
      | cons first rest =>
          rw [drawRuns]
          exact ih _ _ _ (fun cell member => colours cell (List.mem_of_mem_drop member))
            (ok.draw _ (cellColours_lt (colours first List.mem_cons_self)) _ _)

/-- **Every colour a render looks up is in the palette.** -/
theorem Invariant.draw_colours {t : Terminal} (inv : Invariant t) :
    ∀ d ∈ (terminalRender t).2, d.fgIdx < 16 ∧ d.bgIdx < 16 := by
  have rows : ∀ (scrollChanged : Bool) (p : Pass), p.PaletteOk →
      (renderRows t scrollChanged p).PaletteOk := by
    intro scrollChanged p ok
    refine forLoop_preserves _ _ _ p Pass.PaletteOk ok fun r p _ _ holds => ?_
    split
    · exact holds
    · exact drawRuns_paletteOk r 80 0 _ _ (inv.rowCells_colours _) holds
  have start : Pass.PaletteOk ⟨t.renderedGrid, t.textScratch, 0, []⟩ := by
    simp [Pass.PaletteOk]
  unfold terminalRender
  split
  · dsimp only
    split
    · have cell := inv.activeColours (cellIndex t.curRow t.curCol)
      exact (rows _ _ start).draw _ cell.symm _ _
    · exact rows _ _ start
  · simp

/-! ### The fresh terminal -/

theorem default_cell_colours : CellColours default := by
  unfold CellColours
  decide

theorem filled_colours {n : Nat} {cell : TermCell} (colours : CellColours cell) :
    ColoursOk (Block.filled n cell) := by
  intro i
  by_cases inside : 0 ≤ i ∧ i < n
  · rw [Block.load_filled _ inside.1 inside.2]
    exact colours
  · rw [Block.load_outside _ inside]
    exact default_cell_colours

theorem terminalCreate_mainGrid :
    terminalCreate.mainGrid = gridClearAll (Block.filled _ default) defaultFg defaultBg := by
  simp only [terminalCreate, termResetState, allocated]

theorem terminalCreate_altGrid :
    terminalCreate.altGrid = gridClearAll (Block.filled _ default) defaultFg defaultBg := by
  simp only [terminalCreate, termResetState, allocated]

/-- The fresh screen is blank. -/
theorem terminalCreate_blank {i : Int} (low : 0 ≤ i) (high : i < gridCells) :
    terminalCreate.activeGrid.load i = blankCell defaultFg defaultBg := by
  show terminalCreate.mainGrid.load i = _
  rw [terminalCreate_mainGrid, (gridClearAll_spec _ _ _).2 i low high]

theorem terminalCreate_invariant : Invariant terminalCreate where
  cursor := onScreen_home
  saved := onScreen_home
  region := fullRegion
  head := by decide
  view := by decide
  csiLen := emptyCsiBuf
  gridPtr := by decide
  curColours := default_colours
  savedColours := by decide
  mainColours := by
    rw [terminalCreate_mainGrid]
    exact (filled_colours default_cell_colours).gridClearAll default_colours
  altColours := by
    rw [terminalCreate_altGrid]
    exact (filled_colours default_cell_colours).gridClearAll default_colours
  scrollbackColours := filled_colours default_cell_colours
  noFault := by
    rw [terminalCreate_mainGrid, terminalCreate_altGrid, (gridClearAll_spec _ _ _).1]
    exact ⟨rfl, rfl, rfl⟩

/-! ### Runs -/

/-- Every index a state's operations use: no write has left an array, the cursor's cell and the
rows of the viewport lie in theirs, a CSI byte has room, and a render stays in the palette. -/
structure IndicesInBounds (t : Terminal) : Prop where
  writes : t.mainGrid.fault = false ∧ t.altGrid.fault = false ∧ t.scrollback.fault = false
  cursorCell : Block.Within gridCells (cellIndex t.curRow t.curCol) 1
  displayed : ∀ r, 0 ≤ r → r < termRows → (displayRow t r).Within
  csiByte : t.csiBuf.length < csiBufLen
  palette : ∀ d ∈ (terminalRender t).2, d.fgIdx < 16 ∧ d.bgIdx < 16

theorem Invariant.indicesInBounds {t : Terminal} (inv : Invariant t) : IndicesInBounds t where
  writes := inv.noFault
  cursorCell := by
    obtain ⟨index, low, high⟩ := inv.cursor.index
    rw [index]
    exact ⟨low, by omega⟩
  displayed _ low high := inv.displayRow_within low high
  csiByte := lt_of_le_of_lt inv.csiLen (by decide)
  palette := inv.draw_colours

/-- From a state with the invariant, an operation that leaves the cursor on the grid keeps the
whole invariant. -/
theorem Invariant.step_of_cursor {t : Terminal} (inv : Invariant t) {op : Op}
    (on : OnScreen (op.step t).curRow (op.step t).curCol) : Invariant (op.step t) := by
  rw [step_invariant_iff inv]
  cases op with
  | feed c =>
      intro csi notPrivate
      refine inv.csiFinal_cursor (params_range t) fun mover => ?_
      have final : termPutc t c = termDispatchCsi { t with state := .normal } c :=
        termPutc_final csi (by rcases mover with rfl | rfl <;> simp [EndsCsi, isDigit])
      have dispatched : termDispatchCsi { t with state := .normal } c =
          csiFinal { t with state := .normal, pendingWrap := false } (csiParams t) c := by
        simp [termDispatchCsi, notPrivate, csiParams]
      rw [Op.step, final, dispatched] at on
      rcases mover with rfl | rfl
      · exact on
      · exact on
  | scroll deltaLines => trivial
  | render => trivial

theorem invariant_of_cursor {t : Terminal} (inv : Invariant t) {ops : List Op}
    (cursor : Run.Always Op.step (fun t => OnScreen t.curRow t.curCol) t ops) :
    Run.Always Op.step Invariant t ops := by
  induction ops generalizing t with
  | nil => exact Run.always_nil.mpr inv
  | cons op ops ih =>
      obtain ⟨_, rest⟩ := Run.always_cons.mp cursor
      exact Run.always_cons.mpr ⟨inv, ih (inv.step_of_cursor rest.first) rest⟩

/-- **The representation invariant, exactly.** A run from a fresh terminal reaches only states with
the invariant, whose operations index every array in bounds, if and only if none of its bytes is
the final byte of a CUD or CUF whose sum leaves the 32-bit range. -/
theorem terminal_invariant_iff (ops : List Op) :
    Run.Always Op.step (fun t => Invariant t ∧ IndicesInBounds t) terminalCreate ops ↔
      Run.Meets Op.step NoOverflow terminalCreate ops := by
  have exact : Run.Always Op.step Invariant terminalCreate ops ↔
      Run.Meets Op.step NoOverflow terminalCreate ops :=
    Run.always_iff_meets (fun _ op inv => step_invariant_iff inv op) terminalCreate_invariant
  rw [← exact]
  constructor
  · exact fun all => all.mono fun _ both => both.1
  · exact fun all => all.mono fun _ inv => ⟨inv, inv.indicesInBounds⟩

/-- A line feed, then a CUD by the largest C int. -/
def overflowInput : List UInt8 :=
  [0x0A, 0x1B, 0x5B, 0x32, 0x31, 0x34, 0x37, 0x34, 0x38, 0x33, 0x36, 0x34, 0x37, 0x42]

theorem overflowInput_row : (terminalFeed terminalCreate overflowInput).curRow = -2147483648 := by
  decide +kernel

theorem terminal_invariant_fails :
    ¬ Run.Always Op.step (fun t => Invariant t ∧ IndicesInBounds t) terminalCreate
      (overflowInput.map .feed) := by
  intro all
  obtain ⟨⟨low, _⟩, _⟩ := all.last.1.cursor
  rw [← terminalFeed_eq_run, overflowInput_row] at low
  exact absurd low (by decide)

end Tab5
