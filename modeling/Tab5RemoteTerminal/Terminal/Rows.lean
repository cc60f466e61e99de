/-
**The screen as a list of rows.**

`screenRows` reads the active grid row by row, `ringRows` the scrollback oldest first. What the
screen operations do to cells, they do to these lists:

* `screenRows_putCell`: a printed byte sets one cell of one row;
* `screenRows_scrollUp`: a full-screen scroll drops the first row and adds a blank one;
* `ringRows_pushScrollback`: it appends the dropped row to the scrollback, which keeps 300.
-/

import Tab5RemoteTerminal.Library.Ring
import Tab5RemoteTerminal.Terminal.Invariant

namespace Tab5

open CLoop

/-- Row `r` of a grid. -/
def gridRow (g : Grid) (r : Int) : Row := g.slice (r * 80) 80

/-- The rows of the active grid, top to bottom. -/
def screenRows (t : Terminal) : List Row :=
  (List.range 42).map fun r : Nat => gridRow t.activeGrid r

/-- The row in a slot of the ring buffer. -/
def slotRow (t : Terminal) (slot : Nat) : Row := t.scrollback.slice (slot * 80) 80

/-- The rows of the ring buffer, oldest first. -/
def ringRows (t : Terminal) : List Row :=
  Ring.contents 300 (slotRow t) t.scrollbackHead.toNat t.scrollbackCount.toNat

/-! ### The rows of the screen -/

theorem gridRow_getElem? (g : Grid) (r : Int) {c : Nat} (inside : c < 80) :
    (gridRow g r)[c]? = some (g.load (r * 80 + c)) :=
  Block.slice_getElem? g _ inside

@[simp] theorem gridRow_length (g : Grid) (r : Int) : (gridRow g r).length = 80 :=
  Block.slice_length g _ _

@[simp] theorem screenRows_length (t : Terminal) : (screenRows t).length = 42 := by
  simp [screenRows]

theorem screenRows_getElem? (t : Terminal) {r : Nat} (inside : r < 42) :
    (screenRows t)[r]? = some (gridRow t.activeGrid r) := by
  simp [screenRows, inside]

theorem screenRows_congr {t after : Terminal} (same : after.activeGrid = t.activeGrid) :
    screenRows after = screenRows t := by
  rw [screenRows, screenRows, same]

/-- **A printed byte** sets the cell at the cursor. -/
theorem screenRows_putCell {t : Terminal} (on : OnScreen t.curRow t.curCol) (c : UInt8) :
    screenRows (putCell t c) = (screenRows t).set t.curRow.toNat
      ((gridRow t.activeGrid t.curRow).set t.curCol.toNat (printedCell t c)) := by
  obtain ⟨index, _, _⟩ := on.index
  obtain ⟨⟨rowLow, rowHigh⟩, colLow, colHigh⟩ := on
  unfold termRows at rowHigh
  unfold termCols at colHigh
  have cells : ∀ r k : Nat, r < 42 → k < 80 → (putCell t c).activeGrid.load (r * 80 + k) =
      if (r : Int) = t.curRow ∧ (k : Int) = t.curCol then printedCell t c
      else t.activeGrid.load (r * 80 + k) := by
    intro r k row col
    rw [putCell_activeGrid, index,
      Block.load_store _ _ _ _ (by omega) (by unfold gridCells; omega)]
    by_cases here : (r : Int) = t.curRow ∧ (k : Int) = t.curCol
    · rw [if_pos here, if_pos (by omega)]
    · rw [if_neg here, if_neg (by omega)]
  apply List.ext_getElem?
  intro r
  by_cases inside : r < 42
  · rw [screenRows_getElem? _ inside, List.getElem?_set]
    by_cases row : t.curRow.toNat = r
    · rw [if_pos row, if_pos (by rw [screenRows_length]; omega)]
      refine congrArg some ?_
      apply List.ext_getElem?
      intro k
      by_cases column : k < 80
      · rw [gridRow_getElem? _ _ column, cells r k inside column, List.getElem?_set,
          gridRow_getElem? _ _ column, gridRow_length]
        by_cases col : t.curCol.toNat = k
        · rw [if_pos col, if_pos (by omega), if_pos (by omega)]
        · rw [if_neg col, if_neg (by omega), show (r : Int) = t.curRow by omega]
      · rw [List.getElem?_eq_none (by simp; omega), List.getElem?_eq_none (by simp; omega)]
    · rw [if_neg row, screenRows_getElem? _ inside]
      refine congrArg some ?_
      unfold gridRow
      rw [Block.slice_eq_iff]
      intro k column
      rw [cells r k inside column, if_neg (by omega)]
  · rw [List.getElem?_eq_none (by simp; omega), List.getElem?_eq_none (by simp; omega)]

/-! ### Scrolling -/

/-- **`term_scroll_region_up`'s copies**: rows move up by one, cell by cell. -/
theorem moveRowsUp_load (g : Grid) {top bottom : Int} (low : 0 ≤ top) (ordered : top ≤ bottom)
    (high : bottom < termRows) {i : Int} (iLow : 0 ≤ i) (iHigh : i < gridCells) :
    (moveRowsUp g top bottom).load i =
      if top * 80 ≤ i ∧ i < bottom * 80 then g.load (i + 80) else g.load i := by
  unfold termRows at high
  have moved := @forLoop_rule Grid top bottom
    (fun r g => g.copy (cellIndex r 0) g (cellIndex (r + 1) 0) termCols) g
    (fun r h => ∀ i : Int, 0 ≤ i → i < gridCells →
      h.load i = if top * 80 ≤ i ∧ i < r * 80 then g.load (i + 80) else g.load i)
    ordered (fun i _ _ => by rw [if_neg (by omega)]) ?_
  · exact moved i iLow iHigh
  · intro r h rLow rHigh cells k kLow kHigh
    rw [cellIndex_eq (by omega) (by unfold termRows; omega) le_rfl (by decide),
      cellIndex_eq (by omega) (by unfold termRows; omega) le_rfl (by decide),
      Block.load_copy _ _ _ _ _ _ kLow kHigh]
    unfold termCols
    by_cases here : r * 80 ≤ k ∧ k < r * 80 + 80
    · have source : (r + 1) * 80 + 0 + (k - (r * 80 + 0)) = k + 80 := by omega
      rw [if_pos (by omega), source, cells (k + 80) (by omega) (by unfold gridCells; omega),
        if_neg (by omega), if_pos (by omega)]
    · rw [if_neg (by omega), cells k kLow kHigh]
      by_cases before : top * 80 ≤ k ∧ k < r * 80
      · rw [if_pos before, if_pos (by omega)]
      · rw [if_neg before, if_neg (by omega)]

/-- A scroll moves the rows of the region up by one and clears the last. -/
theorem scrolledGrid_load (g : Grid) {top bottom : Int} (low : 0 ≤ top) (ordered : top ≤ bottom)
    (high : bottom < termRows) (fg bg : UInt8) {i : Int} (iLow : 0 ≤ i) (iHigh : i < gridCells) :
    (cellClearRange (moveRowsUp g top bottom) bottom 0 (termCols - 1) fg bg).load i =
      if top * 80 ≤ i ∧ i < bottom * 80 then g.load (i + 80)
      else if bottom * 80 ≤ i ∧ i < bottom * 80 + 80 then blankCell fg bg
      else g.load i := by
  have lastRow : 0 ≤ bottom ∧ bottom < termRows := ⟨low.trans ordered, high⟩
  obtain ⟨_, cleared⟩ := cellClearRange_row (moveRowsUp g top bottom) fg bg lastRow
  rw [cleared i iLow iHigh, moveRowsUp_load g low ordered high iLow iHigh]
  unfold termCols
  by_cases moved : top * 80 ≤ i ∧ i < bottom * 80
  · rw [if_neg (by omega), if_pos moved, if_pos moved]
  · rw [if_neg moved, if_neg moved, add_zero]

/-- The push touches no grid. -/
theorem pushScrollback_activeGrid (t : Terminal) (row : Int) :
    (pushScrollback t row).activeGrid = t.activeGrid := by
  obtain ⟨_, _, _, _, pushed⟩ := pushScrollback_touches t row
  rw [pushed]
  rfl

/-- A scroll changes the active grid only. -/
theorem termScrollRegionUp_activeGrid (t : Terminal) (top bottom : Int) :
    (termScrollRegionUp t top bottom).activeGrid =
      cellClearRange (moveRowsUp t.activeGrid top bottom) bottom 0 (termCols - 1) t.curFg t.curBg := by
  unfold termScrollRegionUp
  dsimp only
  split
  · obtain ⟨_, _, _, _, pushed⟩ := pushScrollback_touches t 0
    rw [activeGrid_setActiveGrid, pushScrollback_activeGrid, pushed]
  · exact activeGrid_setActiveGrid t _

/-- **A full-screen scroll** drops the first row and adds a blank one. -/
theorem screenRows_scrollUp (t : Terminal) :
    screenRows (termScrollRegionUp t 0 (termRows - 1)) =
      (screenRows t).tail ++ [List.replicate 80 (blankCell t.curFg t.curBg)] := by
  have cells : ∀ r k : Nat, r < 42 → k < 80 →
      (termScrollRegionUp t 0 (termRows - 1)).activeGrid.load (r * 80 + k) =
        if r < 41 then t.activeGrid.load ((r + 1 : Nat) * 80 + k)
        else blankCell t.curFg t.curBg := by
    intro r k row col
    rw [termScrollRegionUp_activeGrid, scrolledGrid_load _ le_rfl (by decide) (by decide) _ _
      (by omega) (by unfold gridCells; omega)]
    unfold termRows
    by_cases above : r < 41
    · rw [if_pos above, if_pos (by omega)]
      congr 1
      push_cast
      ring
    · rw [if_neg above, if_neg (by omega), if_pos (by omega)]
  apply List.ext_getElem?
  intro r
  by_cases inside : r < 42
  · rw [screenRows_getElem? _ inside]
    by_cases above : r < 41
    · rw [List.getElem?_append_left (by simp; omega), List.getElem?_tail,
        screenRows_getElem? _ (by omega)]
      refine congrArg some ?_
      unfold gridRow
      rw [Block.slice_eq_iff]
      intro k col
      rw [cells r k inside col, if_pos above]
    · rw [List.getElem?_append_right (by simp; omega), List.length_tail, screenRows_length,
        show r - (42 - 1) = 0 by omega, List.getElem?_cons_zero]
      refine congrArg some ?_
      apply List.ext_getElem?
      intro k
      by_cases col : k < 80
      · rw [gridRow_getElem? _ _ col, cells r k inside col, if_neg above,
          List.getElem?_replicate, if_pos col]
      · rw [List.getElem?_eq_none (by simp; omega), List.getElem?_eq_none (by simp; omega)]
  · rw [List.getElem?_eq_none (by simp; omega), List.getElem?_eq_none (by simp; omega)]

/-! ### The scrollback -/

section Ring

variable {t : Terminal}

theorem ringRows_length (ok : Buffered t) :
    ((ringRows t).length : Int) = t.scrollbackCount := by
  obtain ⟨low, high, _⟩ := ok.view
  rw [ringRows, Ring.contents_length]
  omega

theorem ringRows_rtake (ok : Buffered t) : (ringRows t).rtake 300 = ringRows t := by
  obtain ⟨_, _, full⟩ := ok.view
  have length := ringRows_length ok
  unfold scrollbackLines at full
  exact Ring.rtake_of_length_le (by omega)

/-- **`push_scrollback`** appends the row at the top of the active grid. -/
theorem ringRows_pushScrollback (ok : Buffered t) (main : t.altActive = false) :
    ringRows (pushScrollback t 0) = (ringRows t ++ [gridRow t.activeGrid 0]).rtake 300 := by
  obtain ⟨headLow, headHigh⟩ := ok.head
  obtain ⟨offsetLow, offsetHigh, countHigh⟩ := ok.view
  unfold scrollbackLines at headHigh countHigh
  have pushed : pushScrollback t 0 = { pushScrollback t 0 with
      scrollback := t.scrollback.copy (t.scrollbackHead * termCols) t.activeGrid 0 termCols
      scrollbackHead := (t.scrollbackHead + 1).tmod scrollbackLines
      scrollbackCount := if t.scrollbackCount < scrollbackLines then t.scrollbackCount + 1
        else t.scrollbackCount } := by
    rw [pushScrollback, if_neg (by simp [main])]
  have written : slotRow (pushScrollback t 0) t.scrollbackHead.toNat = gridRow t.activeGrid 0 := by
    rw [pushed, slotRow, gridRow, Block.slice_eq_iff]
    intro k inside
    rw [Block.load_copy _ _ _ _ _ _ (by omega) (by unfold scrollbackCells; omega)]
    unfold termCols
    rw [if_pos (by omega)]
    congr 1
    omega
  have kept : ∀ slot, slot < 300 → slot ≠ t.scrollbackHead.toNat →
      slotRow (pushScrollback t 0) slot = slotRow t slot := by
    intro slot inside other
    rw [pushed, slotRow, slotRow, Block.slice_eq_iff]
    intro k valid
    exact Block.load_copy_other _ _ _ (by unfold termCols; omega)
  have head : (pushScrollback t 0).scrollbackHead.toNat = Ring.next 300 t.scrollbackHead.toNat := by
    rw [pushed]
    dsimp only
    unfold scrollbackLines Ring.next
    rw [Int.tmod_eq_emod_of_nonneg (by omega)]
    omega
  have count : (pushScrollback t 0).scrollbackCount.toNat =
      if t.scrollbackCount.toNat < 300 then t.scrollbackCount.toNat + 1
      else t.scrollbackCount.toNat := by
    rw [pushed]
    dsimp only
    unfold scrollbackLines
    split <;> split <;> omega
  have push := @Ring.contents_push Row 300 t.scrollbackHead.toNat t.scrollbackCount.toNat (slotRow t)
    (slotRow (pushScrollback t 0)) (gridRow t.activeGrid 0) (by omega) (by omega) written kept
  rw [ringRows, head, count, push]
  rfl

/-- The ring buffer is as it was. -/
def SameBuffer (before after : Terminal) : Prop :=
  after.scrollback = before.scrollback ∧ after.scrollbackHead = before.scrollbackHead ∧
    after.scrollbackCount = before.scrollbackCount

theorem SameBuffer.ringRows {after : Terminal} (same : SameBuffer t after) :
    ringRows after = ringRows t := by
  obtain ⟨buffer, head, count⟩ := same
  have slots : slotRow after = slotRow t := by
    funext slot
    rw [slotRow, slotRow, buffer]
  rw [Tab5.ringRows, Tab5.ringRows, slots, head, count]

theorem terminalCreate_ring : ringRows terminalCreate = [] := by
  have none : ((ringRows terminalCreate).length : Int) = 0 :=
    ringRows_length terminalCreate_buffered
  exact List.eq_nil_of_length_eq_zero (by omega)

end Ring

end Tab5
