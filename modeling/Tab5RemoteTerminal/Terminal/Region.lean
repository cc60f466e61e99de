/-
**Text stays in the scroll region.**

Text without escape sequences moves the cursor only by line feeds, wraps, tabs, backspaces and
carriage returns. From inside the region a line feed never leaves it (`InRegion.lineFeed`): at the
bottom row the region scrolls, elsewhere the cursor moves down by one. So nothing outside changes
(`region_confines`), and the scrollback grows only if the region is the whole screen.
-/

import Tab5RemoteTerminal.Terminal.History

namespace Tab5

open CLoop

/-! ### Inside the region -/

/-- The parser is in its normal state and the cursor in the region. -/
structure InRegion (t : Terminal) : Prop where
  normal : t.state = .normal
  region : 0 ≤ t.scrollTop ∧ t.scrollTop < t.scrollBottom ∧ t.scrollBottom ≤ termRows - 1
  row : t.scrollTop ≤ t.curRow ∧ t.curRow ≤ t.scrollBottom
  col : 0 ≤ t.curCol ∧ t.curCol < termCols

/-- The region is not the whole screen. -/
def Partial (t : Terminal) : Prop := ¬ (t.scrollTop = 0 ∧ t.scrollBottom = termRows - 1)

/-- The region is the same, and nothing outside it has changed. -/
structure Confined (t after : Terminal) : Prop where
  region : after.scrollTop = t.scrollTop ∧ after.scrollBottom = t.scrollBottom
  outside : ∀ i : Int, 0 ≤ i → i < gridCells →
    i < t.scrollTop * 80 ∨ (t.scrollBottom + 1) * 80 ≤ i →
    after.activeGrid.load i = t.activeGrid.load i
  buffer : Partial t → SameBuffer t after

theorem Confined.refl (t : Terminal) : Confined t t :=
  ⟨⟨rfl, rfl⟩, fun _ _ _ _ => rfl, fun _ => ⟨rfl, rfl, rfl⟩⟩

theorem Confined.trans {first second third : Terminal} (one : Confined first second)
    (two : Confined second third) : Confined first third where
  region := ⟨two.region.1.trans one.region.1, two.region.2.trans one.region.2⟩
  outside i low high out := by
    have out' := out
    rw [← one.region.1, ← one.region.2] at out'
    exact (two.outside i low high out').trans (one.outside i low high out)
  buffer part := by
    have part' : Partial second := by
      unfold Partial at part ⊢
      rwa [one.region.1, one.region.2]
    obtain ⟨ring, head, count⟩ := one.buffer part
    obtain ⟨ring', head', count'⟩ := two.buffer part'
    exact ⟨ring'.trans ring, head'.trans head, count'.trans count⟩

section Steps

variable {t : Terminal}

/-- A scroll of the region. -/
theorem InRegion.scrollRegionUp (inside : InRegion t) :
    Confined t (termScrollRegionUp t t.scrollTop t.scrollBottom) := by
  obtain ⟨top, ordered, bottom⟩ := inside.region
  refine ⟨?_, fun i low high outside => ?_, fun part => ?_⟩
  · obtain ⟨_, _, _, _, _, _, scrolled⟩ := termScrollRegionUp_touches t t.scrollTop t.scrollBottom
    rw [scrolled]
    exact ⟨rfl, rfl⟩
  · rw [termScrollRegionUp_activeGrid,
      scrolledGrid_load _ top (le_of_lt ordered) (by omega) _ _ low high, if_neg (by omega),
      if_neg (by omega)]
  · rw [termScrollRegionUp, if_neg part]
    obtain ⟨_, _, same⟩ := setActiveGrid_touches t _
    rw [same]
    exact ⟨rfl, rfl, rfl⟩

/-- **A line feed** stays in the region. -/
theorem InRegion.lineFeed (inside : InRegion t) :
    InRegion (termLineFeed t) ∧ Confined t (termLineFeed t) := by
  obtain ⟨top, ordered, bottom⟩ := inside.region
  obtain ⟨rowLow, rowHigh⟩ := inside.row
  unfold termLineFeed
  by_cases last : t.curRow = t.scrollBottom
  · rw [if_pos last]
    refine ⟨?_, inside.scrollRegionUp⟩
    obtain ⟨_, _, _, _, _, _, scrolled⟩ := termScrollRegionUp_touches t t.scrollTop t.scrollBottom
    rw [scrolled]
    exact { inside with }
  · -- Above the bottom of the region there is a row below on the screen.
    rw [if_neg last, if_pos (by omega)]
    exact ⟨{ inside with row := ⟨by dsimp only; omega, by dsimp only; omega⟩ },
      ⟨rfl, rfl⟩, fun _ _ _ _ => rfl, fun _ => ⟨rfl, rfl, rfl⟩⟩

theorem InRegion.autowrap (inside : InRegion t) :
    InRegion (autowrap t) ∧ Confined t (autowrap t) := by
  unfold Tab5.autowrap
  split
  · have home : InRegion { t with curCol := 0 } := { inside with col := onScreen_home.2 }
    obtain ⟨stays, confined⟩ := home.lineFeed
    exact ⟨{ stays with }, { confined with }⟩
  · exact ⟨inside, Confined.refl t⟩

/-- A byte written at the cursor is written in the region. -/
theorem InRegion.putCell (inside : InRegion t) (c : UInt8) :
    InRegion (putCell t c) ∧ Confined t (putCell t c) := by
  obtain ⟨top, ordered, bottom⟩ := inside.region
  obtain ⟨rowLow, rowHigh⟩ := inside.row
  obtain ⟨colLow, colHigh⟩ := inside.col
  have on : OnScreen t.curRow t.curCol := ⟨⟨by omega, by omega⟩, colLow, colHigh⟩
  obtain ⟨index, _, _⟩ := on.index
  have column := putCell_curCol_range c inside.col
  have written := putCell_activeGrid t c
  obtain ⟨_, _, _, _, put⟩ := putCell_touches t c
  rw [put] at column written ⊢
  refine ⟨{ inside with col := column }, ⟨rfl, rfl⟩, fun i low high outside => ?_,
    fun _ => ⟨rfl, rfl, rfl⟩⟩
  unfold termCols at colHigh
  rw [written, index, Block.load_store _ _ _ _ low high, if_neg (by omega)]

theorem InRegion.print (inside : InRegion t) (c : UInt8) :
    InRegion (termPutcPrint t c) ∧ Confined t (termPutcPrint t c) := by
  obtain ⟨wrapped, first⟩ := inside.autowrap
  obtain ⟨stays, second⟩ := wrapped.putCell c
  exact ⟨stays, first.trans second⟩

/-- **Any byte but ESC.** -/
theorem InRegion.putc (inside : InRegion t) {c : UInt8} (noEscape : c ≠ 0x1B) :
    InRegion (termPutc t c) ∧ Confined t (termPutc t c) := by
  obtain ⟨colLow, colHigh⟩ := inside.col
  -- A control byte other than LF moves the cursor in its row.
  have moved : ∀ col, 0 ≤ col → col < termCols →
      InRegion { t with pendingWrap := false, curCol := col } ∧
        Confined t { t with pendingWrap := false, curCol := col } := fun col low high =>
    ⟨{ inside with col := ⟨low, high⟩ }, ⟨rfl, rfl⟩, fun _ _ _ _ => rfl, fun _ => ⟨rfl, rfl, rfl⟩⟩
  rw [termPutc_normal inside.normal]
  unfold termPutcNormal
  rw [if_neg noEscape]
  split
  · exact moved 0 le_rfl (by decide)
  split
  · have cleared : InRegion { t with pendingWrap := false } := { inside with }
    obtain ⟨stays, confined⟩ := cleared.lineFeed
    exact ⟨stays, { confined with }⟩
  split
  · exact moved _ (by split <;> omega) (by split <;> omega)
  split
  · have tab := tabColumn_range colLow colHigh
    exact moved _ tab.1 tab.2
  split
  · exact inside.print c
  · exact ⟨inside, Confined.refl t⟩

theorem InRegion.feed (inside : InRegion t) {w : List UInt8} (noEscape : 0x1B ∉ w) :
    InRegion (terminalFeed t w) ∧ Confined t (terminalFeed t w) := by
  induction w generalizing t with
  | nil => exact ⟨inside, Confined.refl t⟩
  | cons c w ih =>
      obtain ⟨first, rest⟩ := not_or.mp (mt List.mem_cons.mpr noEscape)
      obtain ⟨stays, confined⟩ := inside.putc (Ne.symm first)
      obtain ⟨ends, after⟩ := ih stays rest
      exact ⟨ends, confined.trans after⟩

end Steps

/-- **Scroll region confinement**: text without escape sequences leaves the cursor in the region,
the rows outside it as they are, and the scrollback too unless the region is the whole screen. -/
theorem region_confines (t : Terminal) (w : List UInt8) (inside : InRegion t)
    (noEscape : 0x1B ∉ w) :
    (t.scrollTop ≤ (terminalFeed t w).curRow ∧ (terminalFeed t w).curRow ≤ t.scrollBottom) ∧
      (∀ r : Int, 0 ≤ r → r < termRows → r < t.scrollTop ∨ t.scrollBottom < r →
        gridRow (terminalFeed t w).activeGrid r = gridRow t.activeGrid r) ∧
      (Partial t → SameBuffer t (terminalFeed t w)) := by
  obtain ⟨ends, confined⟩ := inside.feed noEscape
  refine ⟨?_, fun r low high outside => ?_, confined.buffer⟩
  · rw [← confined.region.1, ← confined.region.2]
    exact ends.row
  · unfold termRows at high
    unfold gridRow
    rw [Block.slice_eq_iff]
    intro k column
    exact confined.outside _ (by omega) (by unfold gridCells; omega) (by omega)

/-- The rows of the screen below the first: a status line. -/
def belowStatusLine : Terminal := { terminalCreate with scrollTop := 1, curRow := 1 }

/-- Two lines of text below a status line. -/
theorem region_confines_text :
    (1 ≤ (terminalFeed belowStatusLine [0x41, 0x0A, 0x42]).curRow ∧
      (terminalFeed belowStatusLine [0x41, 0x0A, 0x42]).curRow ≤ 41) ∧
      (∀ r : Int, 0 ≤ r → r < termRows → r < 1 ∨ 41 < r →
        gridRow (terminalFeed belowStatusLine [0x41, 0x0A, 0x42]).activeGrid r =
          gridRow belowStatusLine.activeGrid r) ∧
      (Partial belowStatusLine →
        SameBuffer belowStatusLine (terminalFeed belowStatusLine [0x41, 0x0A, 0x42])) :=
  region_confines belowStatusLine [0x41, 0x0A, 0x42]
    ⟨rfl, by decide, by decide, by decide⟩ (by decide)

end Tab5
