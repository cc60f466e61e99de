/-
**What the operations write into cells.**

Every cell the terminal writes is a blank one, in the current colours or the default ones, or a byte
printed in the current rendition; scrolling moves cells. So a property of cells that these have,
every cell of both grids keeps: `OnBothGrids.putc`.
-/

import Tab5RemoteTerminal.Terminal.Margins
import Tab5RemoteTerminal.Terminal.Rows

namespace Tab5

open CLoop

/-- A property of every cell of a grid. -/
def EveryCell (keep : TermCell → Prop) (g : Grid) : Prop :=
  ∀ i : Int, 0 ≤ i → i < gridCells → keep (g.load i)

/-- Of every cell of both grids. -/
structure OnBothGrids (keep : TermCell → Prop) (t : Terminal) : Prop where
  main : EveryCell keep t.mainGrid
  alt : EveryCell keep t.altGrid

variable {keep : TermCell → Prop}

/-! ### Grids -/

section Grids

variable {g : Grid}

theorem EveryCell.store (ok : EveryCell keep g) (i : Int) {cell : TermCell} (stored : keep cell) :
    EveryCell keep (g.store i cell) := by
  intro k low high
  rw [Block.load_store _ _ _ _ low high]
  split
  · exact stored
  · exact ok k low high

variable {fg bg : UInt8}

theorem EveryCell.clear (ok : EveryCell keep g) (blank : keep (blankCell fg bg))
    (row colFrom colTo : Int) : EveryCell keep (cellClearRange g row colFrom colTo fg bg) :=
  forLoop_preserves _ _ _ g (EveryCell keep) ok fun _ _ _ _ holds => holds.store _ blank

theorem EveryCell.clearRows (ok : EveryCell keep g) (blank : keep (blankCell fg bg))
    (lo hi : Int) : EveryCell keep
      (forLoop lo hi (fun r g => cellClearRange g r 0 (termCols - 1) fg bg) g) :=
  forLoop_preserves _ _ _ g (EveryCell keep) ok fun r _ _ _ holds =>
    holds.clear blank r 0 (termCols - 1)

/-- Whatever was there before. -/
theorem everyCell_cleared (g : Grid) (blank : keep (blankCell fg bg)) :
    EveryCell keep (gridClearAll g fg bg) := by
  intro i low high
  rw [(gridClearAll_spec g fg bg).2 i low high]
  exact blank

theorem EveryCell.moveRowsUp (ok : EveryCell keep g) {top bottom : Int} (low : 0 ≤ top)
    (ordered : top ≤ bottom) (high : bottom < termRows) :
    EveryCell keep (moveRowsUp g top bottom) := by
  intro i iLow iHigh
  rw [moveRowsUp_load g low ordered high iLow iHigh]
  unfold termRows at high
  split
  · exact ok (i + 80) (by omega) (by unfold gridCells; omega)
  · exact ok i iLow iHigh

theorem EveryCell.row (ok : EveryCell keep g) {r : Int} (low : 0 ≤ r) (high : r < termRows) :
    ∀ cell ∈ gridRow g r, keep cell := by
  intro cell member
  obtain ⟨k, inside, rfl⟩ := List.mem_iff_getElem.mp member
  rw [gridRow_length] at inside
  have read := gridRow_getElem? g r inside
  rw [List.getElem?_eq_getElem (by rw [gridRow_length]; exact inside)] at read
  rw [Option.some.inj read]
  unfold termRows at high
  exact ok _ (by omega) (by unfold gridCells; omega)

end Grids

/-! ### Screens -/

section Screens

variable {t : Terminal}

theorem OnBothGrids.active (ok : OnBothGrids keep t) : EveryCell keep t.activeGrid := by
  unfold Terminal.activeGrid
  split
  · exact ok.main
  · exact ok.alt

theorem OnBothGrids.setActiveGrid (ok : OnBothGrids keep t) {g : Grid} (every : EveryCell keep g) :
    OnBothGrids keep (t.setActiveGrid g) := by
  unfold Terminal.setActiveGrid
  split
  · exact ⟨every, ok.alt⟩
  · exact ⟨ok.main, every⟩

theorem OnBothGrids.lineFeed (ok : OnBothGrids keep t) (region : ValidRegion t)
    (blank : keep (blankCell t.curFg t.curBg)) : OnBothGrids keep (termLineFeed t) := by
  obtain ⟨low, ordered, high⟩ := region
  unfold termLineFeed
  split
  · unfold termScrollRegionUp
    have scrolled : ∀ s : Terminal, OnBothGrids keep s → keep (blankCell s.curFg s.curBg) →
        OnBothGrids keep (s.setActiveGrid (cellClearRange
          (Tab5.moveRowsUp s.activeGrid t.scrollTop t.scrollBottom) t.scrollBottom 0 (termCols - 1)
          s.curFg s.curBg)) := fun s ok blank =>
      ok.setActiveGrid ((ok.active.moveRowsUp low ordered.le (by omega)).clear blank _ _ _)
    obtain ⟨_, _, _, _, pushed⟩ := pushScrollback_touches t 0
    dsimp only
    split
    · rw [pushed]
      exact scrolled _ ⟨ok.main, ok.alt⟩ blank
    · exact scrolled t ok blank
  split
  · exact ⟨ok.main, ok.alt⟩
  · exact ok

theorem OnBothGrids.print (ok : OnBothGrids keep t) (region : ValidRegion t)
    (blank : keep (blankCell t.curFg t.curBg)) {c : UInt8} (printed : keep (printedCell t c)) :
    OnBothGrids keep (termPutcPrint t c) := by
  have wrapped : OnBothGrids keep (autowrap t) := by
    unfold autowrap
    split
    · have home : OnBothGrids keep { t with curCol := 0 } := ⟨ok.main, ok.alt⟩
      obtain ⟨main, alt⟩ := home.lineFeed region blank
      exact ⟨main, alt⟩
    · exact ok
  have cell : keep (printedCell (autowrap t) c) := by
    obtain ⟨_, _, _, _, _, _, _, _, _, same⟩ := autowrap_touches t
    rw [same]
    exact printed
  have written := wrapped.setActiveGrid
    (wrapped.active.store (cellIndex (autowrap t).curRow (autowrap t).curCol) cell)
  unfold termPutcPrint putCell
  dsimp only
  split
  · exact ⟨written.main, written.alt⟩
  · exact ⟨written.main, written.alt⟩

theorem OnBothGrids.eraseInLine (ok : OnBothGrids keep t)
    (blank : keep (blankCell t.curFg t.curBg)) (mode : Int) :
    OnBothGrids keep (termEraseInLine t mode) := by
  unfold termEraseInLine
  dsimp only
  split_ifs
  all_goals exact ok.setActiveGrid (ok.active.clear blank _ _ _)

theorem OnBothGrids.eraseInDisplay (ok : OnBothGrids keep t)
    (blank : keep (blankCell t.curFg t.curBg)) (mode : Int) :
    OnBothGrids keep (termEraseInDisplay t mode) := by
  unfold termEraseInDisplay
  dsimp only
  split_ifs
  · exact ok.setActiveGrid ((ok.active.clearRows blank _ _).clear blank _ _ _)
  · exact ok.setActiveGrid (everyCell_cleared _ blank)
  · exact ok.setActiveGrid ((ok.active.clear blank _ _ _).clearRows blank _ _)

theorem OnBothGrids.setPrivateMode (ok : OnBothGrids keep t)
    (fresh : keep (blankCell defaultFg defaultBg)) (mode : Int) (enable : Bool) :
    OnBothGrids keep (termSetPrivateMode t mode enable) := by
  unfold termSetPrivateMode
  split
  · exact ⟨ok.main, ok.alt⟩
  split
  · exact ⟨ok.main, ok.alt⟩
  split
  · unfold setAltScreen
    split
    · exact ⟨ok.main, everyCell_cleared t.altGrid fresh⟩
    split
    · exact ⟨ok.main, ok.alt⟩
    · exact ok
  · exact ok

theorem OnBothGrids.setPrivateModes (ok : OnBothGrids keep t)
    (fresh : keep (blankCell defaultFg defaultBg)) (params : List Int) (enable : Bool) :
    OnBothGrids keep (setPrivateModes t params enable) := by
  unfold Tab5.setPrivateModes
  induction params generalizing t with
  | nil => exact ok
  | cons param params ih => exact ih (ok.setPrivateMode fresh _ enable)

theorem OnBothGrids.csiFinal (ok : OnBothGrids keep t) (blank : keep (blankCell t.curFg t.curBg))
    (params : List Int) (final : UInt8) : OnBothGrids keep (csiFinal t params final) := by
  unfold Tab5.csiFinal
  split
  case h_7 => exact ok.eraseInDisplay blank _
  case h_8 => exact ok.eraseInLine blank _
  case h_11 => exact ok
  all_goals exact ⟨ok.main, ok.alt⟩

theorem OnBothGrids.dispatchCsi (ok : OnBothGrids keep t)
    (blank : keep (blankCell t.curFg t.curBg)) (fresh : keep (blankCell defaultFg defaultBg))
    (final : UInt8) : OnBothGrids keep (termDispatchCsi t final) := by
  have cleared : OnBothGrids keep { t with pendingWrap := false } := ⟨ok.main, ok.alt⟩
  unfold termDispatchCsi
  dsimp only
  split
  · split
    · exact cleared.setPrivateModes fresh _ _
    · exact cleared
  · exact cleared.csiFinal blank _ _

/-- **One byte.** -/
theorem OnBothGrids.putc (ok : OnBothGrids keep t) (region : ValidRegion t)
    (blank : keep (blankCell t.curFg t.curBg)) (fresh : keep (blankCell defaultFg defaultBg))
    {c : UInt8} (printed : keep (printedCell t c)) : OnBothGrids keep (termPutc t c) := by
  have effect := termPutc_effect t c
  generalize termPutc t c = after at effect ⊢
  cases effect with
  | collects => exact ⟨ok.main, ok.alt⟩
  | saves => exact ⟨ok.main, ok.alt⟩
  | restores => exact ⟨ok.main, ok.alt⟩
  | moves => exact ⟨ok.main, ok.alt⟩
  | resets =>
      have reset : OnBothGrids keep (termResetState { t with state := .normal }) :=
        ⟨ok.main, ok.alt⟩
      exact reset.setActiveGrid (everyCell_cleared _ fresh)
  | dispatches =>
      have same : OnBothGrids keep { t with state := .normal } := ⟨ok.main, ok.alt⟩
      exact same.dispatchCsi blank fresh c
  | lineFeeds =>
      have cleared : OnBothGrids keep { t with pendingWrap := false } := ⟨ok.main, ok.alt⟩
      exact cleared.lineFeed region blank
  | prints => exact ok.print region blank printed

/-- Every byte leaves a region with at least two rows, all on the screen. -/
theorem ValidRegion.putc (region : ValidRegion t) (c : UInt8) : ValidRegion (termPutc t c) := by
  have effect := termPutc_effect t c
  generalize termPutc t c = after at effect ⊢
  cases effect with
  | collects => exact region
  | saves => exact region
  | restores => exact region
  | moves => exact region
  | resets =>
      obtain ⟨_, _, reset⟩ := resetScreen_touches { t with state := .normal }
      rw [reset]
      exact fullRegion
  | lineFeeds =>
      obtain ⟨_, _, _, _, _, _, _, fed⟩ := termLineFeed_touches { t with pendingWrap := false }
      rw [fed]
      exact region
  | prints =>
      obtain ⟨_, _, _, _, _, _, _, _, _, printed⟩ := termPutcPrint_touches t c
      rw [printed]
      exact region
  | dispatches =>
      unfold termDispatchCsi
      dsimp only
      split
      · split
        · obtain ⟨_, _, _, _, _, _, _, _, _, same⟩ := setPrivateModes_touches
            { t with state := .normal, pendingWrap := false } (csiParams { t with state := .normal })
            (c = 0x68)
          rw [same]
          exact region
        · exact region
      · unfold Tab5.csiFinal
        split
        case h_7 =>
          obtain ⟨_, _, same⟩ := termEraseInDisplay_touches
            { t with state := .normal, pendingWrap := false } _
          rw [same]
          exact region
        case h_8 =>
          obtain ⟨_, _, same⟩ := termEraseInLine_touches
            { t with state := .normal, pendingWrap := false } _
          rw [same]
          exact region
        case h_10 => exact setScrollRegion_region _ _
        all_goals exact region

end Screens

end Tab5
