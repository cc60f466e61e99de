/-
**Incremental rendering draws what a full redraw draws.**

A canvas holds for each cell of the screen what was painted there last and, over it, what the cursor
block painted; each draw covers exactly its area, in order (`Draw.paint`).

* `drawRuns_spec`, `renderRows_spec`: what the runs of a row, and the rows of a pass, paint;
* `shadow`: the canvas that the fields of the last pass describe. It is what is really painted
  (`Tracks`), and no feed or scroll touches it;
* `shown`: the canvas of the rows displayed now and of the cursor. A pass that tracks leaves it, and
  so does a redraw of everything;
* `render_eq_redraw`: both, along every run that keeps the cursor on the grid.
-/

import Mathlib.Data.List.GetD
import Mathlib.Data.List.TakeWhile
import Tab5RemoteTerminal.Terminal.Invariant

namespace Tab5

open CLoop

/-! ### The canvas -/

/-- `PALETTE[i]`. -/
def paletteColour (i : UInt8) : UInt32 := PALETTE.getD i.toNat 0

/-- What one cell of the screen shows. -/
structure Glyph where
  ch : UInt8
  fg : UInt32
  bg : UInt32
deriving DecidableEq, Repr

/-- A cell of the canvas: what was painted last, and the cursor block over it. -/
structure CanvasCell where
  glyph : Glyph
  overlay : Option Glyph
deriving DecidableEq, Repr

abbrev Canvas := Fin 42 → Fin 80 → CanvasCell

/-- The area covers all pixels of the cell. -/
def Area.Covers (area : Area) (r : Fin 42) (c : Fin 80) : Prop :=
  (area.x1 ≤ c.val * charSize ∧ (c.val + 1) * charSize - 1 ≤ area.x2) ∧
    area.y1 ≤ r.val * charSize ∧ (r.val + 1) * charSize - 1 ≤ area.y2

instance (area : Area) (r : Fin 42) (c : Fin 80) : Decidable (area.Covers r c) := by
  unfold Area.Covers; infer_instance

/-- The glyph a pair draws in column `c`: the label's characters stand side by side from the left
edge of its area. -/
def Draw.glyph (d : Draw) (c : Fin 80) : Glyph :=
  ⟨d.text.getD ((c.val * charSize - d.area.x1) / charSize).toNat 0x20, paletteColour d.fgIdx,
    paletteColour d.bgIdx⟩

/-- A rectangle and a label drawn: exactly the area is painted over. -/
def Draw.paint (d : Draw) (canvas : Canvas) : Canvas := fun r c =>
  if d.area.Covers r c then
    if d.cursor then { canvas r c with overlay := some (d.glyph c) } else ⟨d.glyph c, none⟩
  else canvas r c

/-- The pairs of a pass, in order. -/
def paintAll (draws : List Draw) (canvas : Canvas) : Canvas :=
  draws.foldl (fun canvas d => d.paint canvas) canvas

theorem paintAll_append (first second : List Draw) (canvas : Canvas) :
    paintAll (first ++ second) canvas = paintAll second (paintAll first canvas) :=
  List.foldl_append

theorem runArea_covers {row c len : Int} (r : Fin 42) (col : Fin 80) :
    (runArea row c len).Covers r col ↔ (r.val : Int) = row ∧ c ≤ col.val ∧ (col.val : Int) < c + len := by
  unfold runArea Area.Covers charSize
  dsimp only
  constructor
  · rintro ⟨⟨left, right⟩, top, bottom⟩
    omega
  · rintro ⟨same, left, right⟩
    omega

/-! ### What is displayed -/

/-- The cell displayed in row `r` and column `c`. -/
def displayedCell (t : Terminal) (r : Fin 42) (c : Fin 80) : TermCell :=
  (rowCells t (displayRow t r.val)).getD c.val default

/-- The glyph of a cell of text: a space for NUL, and the colours the other way round in reverse. -/
def cellGlyph (cell : TermCell) : Glyph where
  ch := if cell.ch = 0 then 0x20 else cell.ch
  fg := paletteColour (if cell.attrs &&& attrReverse = 0 then cell.fg else cell.bg)
  bg := paletteColour (if cell.attrs &&& attrReverse = 0 then cell.bg else cell.fg)

/-- The glyph of the cursor block on a cell. -/
def cursorGlyph (cell : TermCell) : Glyph where
  ch := if cell.ch = 0 then 0x20 else cell.ch
  fg := paletteColour cell.bg
  bg := paletteColour cell.fg

/-- The canvas of the rows displayed and the cursor, which is shown exactly if it is visible and the
view is not scrolled back. -/
def shown (t : Terminal) : Canvas := fun r c =>
  ⟨cellGlyph (displayedCell t r c),
    if (t.cursorVisible = true ∧ t.scrollOffset = 0) ∧ t.curRow = r.val ∧ t.curCol = c.val
    then some (cursorGlyph (displayedCell t r c)) else none⟩

/-- The glyph of a cell is what a run draws for it. -/
theorem cellGlyph_eq (cell : TermCell) : cellGlyph cell =
    ⟨textByte cell.ch, paletteColour (cellColours cell).1, paletteColour (cellColours cell).2⟩ := by
  unfold cellGlyph cellColours textByte
  by_cases plain : cell.attrs &&& attrReverse = 0
  · rw [if_pos plain, if_pos plain, if_neg (not_not.mpr plain)]
  · rw [if_neg plain, if_neg plain, if_pos plain]

theorem showCursor_iff (t : Terminal) :
    showCursor t = true ↔ t.cursorVisible = true ∧ t.scrollOffset = 0 := by
  rw [showCursor, Bool.and_eq_true, decide_eq_true_eq]

theorem shown_apply (t : Terminal) (r : Fin 42) (c : Fin 80) : shown t r c =
    ⟨cellGlyph (displayedCell t r c),
      if showCursor t = true ∧ t.curRow = r.val ∧ t.curCol = c.val
      then some (cursorGlyph (displayedCell t r c)) else none⟩ := by
  simp only [shown, showCursor_iff]

/-- The canvas the last pass left, by its own record. -/
def shadow (t : Terminal) : Canvas := fun r c =>
  ⟨cellGlyph (t.renderedGrid.load (r.val * 80 + c.val)),
    if t.renderedCursorVisible = true ∧ t.renderedCursorRow = r.val ∧ t.renderedCursorCol = c.val
    then some (cursorGlyph (t.renderedGrid.load (r.val * 80 + c.val))) else none⟩

/-- Every row and the cursor, drawn from scratch. -/
def fullRedraw (t : Terminal) : List Draw :=
  let p := forLoop 0 termRows (fun r p => renderRow t r p) ⟨t.renderedGrid, t.textScratch, 0, []⟩
  (if showCursor t then renderCursor t p else p).draws

theorem rowCells_length (t : Terminal) (row : RowPtr) : (rowCells t row).length = 80 := by
  unfold rowCells
  split
  · exact Block.slice_length _ _ _
  · exact Block.slice_length _ _ _

/-! ### The scratch buffer -/

theorem writeText_before (text : List UInt8) (scratch : Block (gridCells + 1) UInt8) {pos i : Int}
    (before : i < pos) : (writeText scratch pos text).load i = scratch.load i := by
  induction text generalizing scratch pos with
  | nil => rfl
  | cons ch text ih =>
      rw [writeText, ih _ (by omega), Block.load_store_other _ _ (by omega)]

/-- A text written inside the buffer is what its slice holds. -/
theorem slice_writeText (text : List UInt8) (scratch : Block (gridCells + 1) UInt8) {pos : Int}
    (within : Block.Within (gridCells + 1) pos text.length) :
    (writeText scratch pos text).slice pos text.length = text := by
  induction text generalizing scratch pos with
  | nil => rfl
  | cons ch text ih =>
      obtain ⟨low, high⟩ := within
      rw [List.length_cons, Nat.cast_succ] at high
      have first : (writeText (scratch.store pos ch) (pos + 1) text).load pos = ch := by
        rw [writeText_before _ _ (by omega), Block.load_store_same _ _ low (by omega)]
      have next : Block.Within (gridCells + 1) (pos + 1) text.length := ⟨by omega, by omega⟩
      have rest := ih (scratch.store pos ch) next
      rw [writeText, List.length_cons, Block.slice_succ, first, rest]

/-! ### One row -/

/-- The canvas after the pairs drawn so far. -/
def Pass.on (p : Pass) (canvas : Canvas) : Canvas := paintAll p.draws canvas

theorem Pass.draw_on (p : Pass) (area : Area) (fgIdx bgIdx : UInt8) (text : List UInt8)
    (cursor : Bool) (canvas : Canvas)
    (within : Block.Within (gridCells + 1) p.scratchPos text.length) :
    (p.draw area fgIdx bgIdx text cursor).on canvas =
      Draw.paint ⟨area, bgIdx, fgIdx, p.scratchPos, text, cursor⟩ (p.on canvas) := by
  rw [Pass.on, Pass.draw, paintAll_append, slice_writeText text _ within]
  rfl

/-- What cells of one run have in common. -/
def TermCell.look (cell : TermCell) : UInt8 × UInt8 × UInt8 := (cell.fg, cell.bg, cell.attrs)

theorem sameRendition_iff {first next : TermCell} :
    sameRendition first next = true ↔ next.look = first.look := by
  simp [sameRendition, TermCell.look, and_assoc]

/-- The cells `terminal_render` takes for the run that starts with `first`. -/
theorem run_look (first : TermCell) (rest : List TermCell) :
    (∀ cell ∈ (first :: rest).take (runLength first rest), cell.look = first.look) ∧
      ∀ next, ((first :: rest).drop (runLength first rest)).head? = some next →
        next.look ≠ first.look := by
  have split := List.takeWhile_append_dropWhile (p := sameRendition first) (l := rest)
  have run : (first :: rest).take (runLength first rest) =
      first :: rest.takeWhile (sameRendition first) := by
    rw [runLength, Nat.add_comm, List.take_succ_cons]
    conv_lhs => rw [← split]
    rw [List.take_left']
    rw [split]
  have after : (first :: rest).drop (runLength first rest) =
      rest.dropWhile (sameRendition first) := by
    rw [runLength, Nat.add_comm, List.drop_succ_cons]
    conv_lhs => rw [← split]
    rw [List.drop_left']
    rw [split]
  rw [run, after]
  refine ⟨fun cell member => ?_, fun next head same => ?_⟩
  · rcases List.mem_cons.mp member with rfl | inside
    · rfl
    · exact sameRendition_iff.mp (List.mem_takeWhile_imp inside)
  · have stops : sameRendition first next = false := by
      simpa [head] using List.head?_dropWhile_not (sameRendition first) rest
    exact Bool.false_ne_true (stops.symm.trans (sameRendition_iff.mpr same))

/-- The cells of a run have the colours of its first cell. -/
theorem run_colours {first : TermCell} {rest : List TermCell} {k : Nat}
    (inside : k < runLength first rest) :
    cellColours ((first :: rest).getD k default) = cellColours first := by
  have short : k < ((first :: rest).take (runLength first rest)).length := by
    have bound := (List.takeWhile_prefix (l := rest) (sameRendition first)).length_le
    rw [List.length_take, List.length_cons]
    unfold runLength at inside ⊢
    omega
  have member := List.getElem_mem short
  rw [List.getElem_take] at member
  have same := (run_look first rest).1 _ member
  simp only [TermCell.look, Prod.mk.injEq] at same
  obtain ⟨fg, bg, attrs⟩ := same
  rw [List.getD_eq_getElem _ _ (by rw [List.length_take] at short; omega), cellColours, cellColours,
    fg, bg, attrs]

theorem runLength_le (first : TermCell) (rest : List TermCell) :
    runLength first rest ≤ (first :: rest).length := by
  have short := (List.takeWhile_prefix (l := rest) (sameRendition first)).length_le
  unfold runLength
  rw [List.length_cons]
  omega

/-- Row `r` painted up to column `c`, and nothing else. -/
structure PaintedTo (row : Row) (r c : Int) (before after : Canvas) : Prop where
  left : ∀ (i : Fin 42) (col : Fin 80), (i.val : Int) = r → (col.val : Int) < c →
    after i col = ⟨cellGlyph (row.getD col.val default), none⟩
  others : ∀ (i : Fin 42) (col : Fin 80), ¬ ((i.val : Int) = r ∧ (col.val : Int) < c) →
    after i col = before i col

/-- One run: the cells from column `c` on are painted. -/
theorem PaintedTo.run {row : Row} {r : Int} {c : Nat} {before after : Canvas}
    (painted : PaintedTo row r c before after) {first : TermCell} {rest : List TermCell}
    (cells : row.drop c = first :: rest) (pos : Int) :
    PaintedTo row r (c + runLength first rest) before
      (Draw.paint ⟨runArea r c (runLength first rest), (cellColours first).2, (cellColours first).1,
        pos, ((first :: rest).take (runLength first rest)).map fun cell => textByte cell.ch, false⟩
        after) := by
  constructor
  · intro i col here inside
    unfold Draw.paint
    dsimp only
    by_cases fresh : (c : Int) ≤ col.val
    · have offset : col.val - c < runLength first rest := by omega
      have inText : col.val - c <
          (((first :: rest).take (runLength first rest)).map fun cell => textByte cell.ch).length := by
        rw [List.length_map, List.length_take]
        have short := runLength_le first rest
        omega
      have cell : row.getD col.val default = (first :: rest).getD (col.val - c) default := by
        rw [← cells, List.getD_eq_getElem?_getD, List.getD_eq_getElem?_getD, List.getElem?_drop]
        congr 3
        omega
      have column : ((col.val * charSize - c * charSize) / charSize : Int).toNat = col.val - c := by
        unfold charSize
        omega
      rw [if_pos ((runArea_covers i col).mpr ⟨here, fresh, inside⟩), if_neg (by simp), Draw.glyph,
        cellGlyph_eq, cell, run_colours offset]
      dsimp only [runArea]
      rw [column, List.getD_eq_getElem _ _ inText, List.getElem_map, List.getElem_take,
        ← List.getD_eq_getElem _ default]
    · have notCovered : ¬ (runArea r c (runLength first rest)).Covers i col := by
        rw [runArea_covers]
        exact fun covered => fresh covered.2.1
      rw [if_neg notCovered]
      exact painted.left i col here (by omega)
  · intro i col other
    have notCovered : ¬ (runArea r c (runLength first rest)).Covers i col := by
      rw [runArea_covers]
      exact fun covered => other ⟨covered.1, covered.2.2⟩
    unfold Draw.paint
    dsimp only
    rw [if_neg notCovered]
    exact painted.others i col fun old => other ⟨old.1, by omega⟩

/-- **The runs of a row** paint its remaining cells. -/
theorem drawRuns_spec {row : Row} {r : Int} {before canvas : Canvas} (rounds : Nat) :
    ∀ (c : Nat) (p : Pass), c ≤ row.length → row.length - c ≤ rounds → 0 ≤ p.scratchPos →
      p.scratchPos + (row.length - c) ≤ gridCells + 1 → PaintedTo row r c before (p.on canvas) →
      PaintedTo row r row.length before ((drawRuns r rounds c (row.drop c) p).on canvas) ∧
        (drawRuns r rounds c (row.drop c) p).scratchPos = p.scratchPos + (row.length - c) ∧
        (drawRuns r rounds c (row.drop c) p).renderedGrid = p.renderedGrid := by
  induction rounds with
  | zero =>
      intro c p inside enough _ _ painted
      have done : c = row.length := by omega
      rw [drawRuns, done]
      rw [done] at painted
      exact ⟨painted, by omega, rfl⟩
  | succ rounds ih =>
      intro c p inside enough posLow posHigh painted
      cases cells : row.drop c with
      | nil =>
          have done : c = row.length := by
            have short := List.drop_eq_nil_iff.mp cells
            omega
          rw [drawRuns, done]
          rw [done] at painted
          exact ⟨painted, by omega, rfl⟩
      | cons first rest =>
          have length := congrArg List.length cells
          rw [List.length_drop] at length
          have short := runLength_le first rest
          have some : 1 ≤ runLength first rest := Nat.le_add_right 1 _
          let text := ((first :: rest).take (runLength first rest)).map fun cell => textByte cell.ch
          let next := p.draw (runArea r c (runLength first rest)) (cellColours first).1
            (cellColours first).2 text false
          have textLength : text.length = runLength first rest := by
            rw [List.length_map, List.length_take]
            omega
          have pos : next.scratchPos = p.scratchPos + runLength first rest := by
            rw [← textLength]
            rfl
          have within : Block.Within (gridCells + 1) p.scratchPos text.length :=
            ⟨posLow, by omega⟩
          have run := painted.run cells p.scratchPos
          rw [← Pass.draw_on p _ _ _ text false canvas within] at run
          have tail := ih (c + runLength first rest) next (by omega) (by omega) (by omega)
            (by omega) (by rw [Nat.cast_add]; exact run)
          have unrolled : drawRuns r (rounds + 1) c (first :: rest) p =
              drawRuns r rounds ((c + runLength first rest : Nat) : Int)
                (row.drop (c + runLength first rest)) next := by
            rw [drawRuns, Nat.cast_add, ← List.drop_drop, cells]
          rw [unrolled]
          refine ⟨tail.1, ?_, tail.2.2⟩
          rw [tail.2.1, pos]
          omega

/-! ### The rows of a pass -/

/-- A pass after the rows before row `r`: those are painted and recorded, the others as before. -/
structure RowsDone (t : Terminal) (start : Canvas) (r : Int) (p : Pass) : Prop where
  scratch : 0 ≤ p.scratchPos ∧ p.scratchPos ≤ r * 80
  done : ∀ (i : Fin 42) (c : Fin 80), (i.val : Int) < r →
    p.on start i c = ⟨cellGlyph (displayedCell t i c), none⟩ ∧
      p.renderedGrid.load (i.val * 80 + c.val) = displayedCell t i c
  ahead : ∀ (i : Fin 42) (c : Fin 80), r ≤ i.val →
    p.on start i c = start i c ∧
      p.renderedGrid.load (i.val * 80 + c.val) = t.renderedGrid.load (i.val * 80 + c.val)

/-- The shadow takes the cells of the row drawn. -/
theorem copyRow_load (t : Terminal) (rendered : Grid) {r : Int} (rowIn : 0 ≤ r ∧ r < 42) (src : RowPtr)
    (c : Fin 80) :
    (copyRow t rendered r src).load (r * 80 + c.val) = (rowCells t src).getD c.val default := by
  have column := c.isLt
  cases src with
  | scrollback i =>
      rw [copyRow, rowCells, Block.load_copy _ _ _ _ _ _ (by omega) (by unfold gridCells; omega)]
      unfold termCols
      rw [if_pos (by omega), List.getD_eq_getElem?_getD, Block.slice_getElem? _ _ column,
        Option.getD_some]
      congr 1
      omega
  | grid i =>
      rw [copyRow, rowCells, Block.load_copy _ _ _ _ _ _ (by omega) (by unfold gridCells; omega)]
      unfold termCols
      rw [if_pos (by omega), List.getD_eq_getElem?_getD, Block.slice_getElem? _ _ column,
        Option.getD_some]
      congr 1
      omega

theorem copyRow_other (t : Terminal) (rendered : Grid) (r : Int) (src : RowPtr) {k : Int}
    (other : ¬ (r * 80 ≤ k ∧ k < r * 80 + 80)) :
    (copyRow t rendered r src).load k = rendered.load k := by
  cases src with
  | scrollback i => exact Block.load_copy_other _ _ _ other
  | grid i => exact Block.load_copy_other _ _ _ other

/-- **One row drawn.** -/
theorem RowsDone.renderRow {t : Terminal} {start : Canvas} {r : Int} {p : Pass}
    (rowIn : 0 ≤ r ∧ r < 42) (rows : RowsDone t start r p) :
    RowsDone t start (r + 1) (renderRow t r p) := by
  let copied : Pass := { p with renderedGrid := copyRow t p.renderedGrid r (displayRow t r) }
  have length := rowCells_length t (displayRow t r)
  have untouched : PaintedTo (rowCells t (displayRow t r)) r 0 (p.on start) (copied.on start) :=
    ⟨fun _ _ _ inside => absurd inside (by omega), fun _ _ _ => rfl⟩
  have scratch := rows.scratch
  have drawn := drawRuns_spec 80 0 copied (Nat.zero_le _) (by omega) scratch.1
    (by
      show p.scratchPos + _ ≤ _
      rw [length]
      unfold gridCells
      push_cast
      omega) untouched
  rw [length, List.drop_zero] at drawn
  obtain ⟨painted, pos, grid⟩ := drawn
  change PaintedTo _ r _ _ ((Tab5.renderRow t r p).on start) at painted
  change (Tab5.renderRow t r p).scratchPos = p.scratchPos + _ at pos
  change (Tab5.renderRow t r p).renderedGrid = copyRow t p.renderedGrid r (displayRow t r) at grid
  refine ⟨⟨by omega, by omega⟩, fun i c before => ?_, fun i c after => ?_⟩
  · have column := c.isLt
    by_cases here : (i.val : Int) = r
    · rw [painted.left i c here (by omega), grid, here, copyRow_load t _ rowIn, ← here]
      exact ⟨rfl, rfl⟩
    · obtain ⟨cell, recorded⟩ := rows.done i c (by omega)
      rw [painted.others i c fun both => here both.1, grid, copyRow_other _ _ _ _ (by omega)]
      exact ⟨cell, recorded⟩
  · have column := c.isLt
    obtain ⟨cell, recorded⟩ := rows.ahead i c (by omega)
    rw [painted.others i c fun both => by omega, grid, copyRow_other _ _ _ _ (by omega)]
    exact ⟨cell, recorded⟩

/-- The cells of a row that did not change are those recorded. -/
theorem rowUnchanged_cell {t : Terminal} {rendered : Grid} {i : Fin 42}
    (same : rowUnchanged t rendered i.val = true) (c : Fin 80) :
    displayedCell t i c = rendered.load (i.val * 80 + c.val) := by
  have rows : rowCells t (displayRow t i.val) = rendered.slice (i.val * termCols) 80 := by
    simpa [rowUnchanged] using same
  rw [displayedCell, rows, List.getD_eq_getElem?_getD, Block.slice_getElem? _ _ c.isLt,
    Option.getD_some]
  rfl

/-- **One row skipped**: the canvas shows it already, without a cursor. -/
theorem RowsDone.skip {t : Terminal} {start : Canvas} (tracks : start = shadow t) {r : Int} {p : Pass}
    (rows : RowsDone t start r p) (noCursor : r ≠ t.renderedCursorRow)
    (same : rowUnchanged t p.renderedGrid r = true) : RowsDone t start (r + 1) p := by
  have scratch := rows.scratch
  refine ⟨⟨scratch.1, by omega⟩, fun i c before => ?_, fun i c after => ?_⟩
  · by_cases here : (i.val : Int) = r
    · obtain ⟨cell, recorded⟩ := rows.ahead i c (by omega)
      have unchanged := rowUnchanged_cell (t := t) (by rw [here]; exact same) c
      rw [cell, tracks, unchanged, shadow, recorded, if_neg fun cursor => noCursor (by omega)]
      exact ⟨rfl, rfl⟩
    · exact rows.done i c (by omega)
  · exact rows.ahead i c (by omega)

theorem rowsDone_start (t : Terminal) (start : Canvas) :
    RowsDone t start 0 ⟨t.renderedGrid, t.textScratch, 0, []⟩ :=
  ⟨⟨le_rfl, le_rfl⟩, fun _ _ before => absurd before (by omega), fun _ _ _ => ⟨rfl, rfl⟩⟩

/-- The rows of a pass that redraws all of them. -/
theorem allRows_spec (t : Terminal) (start : Canvas) :
    RowsDone t start termRows
      (forLoop 0 termRows (fun r p => renderRow t r p) ⟨t.renderedGrid, t.textScratch, 0, []⟩) :=
  forLoop_rule _ _ (fun r p => RowsDone t start r p) (by decide) (rowsDone_start t start)
    fun _ _ low high rows => rows.renderRow ⟨low, high⟩

/-- **The rows of a pass**, whether it redraws all of them or skips those the canvas shows. -/
theorem renderRows_spec {t : Terminal} {start : Canvas} (scrollChanged : Bool)
    (tracks : scrollChanged = false → start = shadow t) :
    RowsDone t start termRows
      (renderRows t scrollChanged ⟨t.renderedGrid, t.textScratch, 0, []⟩) := by
  unfold renderRows
  refine forLoop_rule _ _ (fun r p => RowsDone t start r p) (by decide) (rowsDone_start t start) ?_
  intro r p low high rows
  split
  case isTrue skipped =>
    simp only [Bool.and_eq_true, Bool.not_eq_true', decide_eq_true_eq] at skipped
    obtain ⟨⟨⟨unscrolled, _⟩, noCursor⟩, same⟩ := skipped
    exact rows.skip (tracks unscrolled) noCursor same
  case isFalse => exact rows.renderRow ⟨low, high⟩

/-! ### The cursor -/

/-- With the viewport at the bottom, the rows displayed are the screen's. -/
theorem displayedCell_live {t : Terminal} (live : t.scrollOffset = 0) (i : Fin 42) (c : Fin 80) :
    displayedCell t i c = t.activeGrid.load (i.val * 80 + c.val) := by
  have row : displayRow t i.val = .grid (i.val * 80) := by
    unfold displayRow
    dsimp only
    rw [live, if_neg (by omega)]
    congr 1
    unfold termCols
    omega
  rw [displayedCell, row, rowCells, List.getD_eq_getElem?_getD, Block.slice_getElem? _ _ c.isLt,
    Option.getD_some]

/-- The cursor block, if shown, after the rows. -/
def withCursor (t : Terminal) (p : Pass) : Pass := if showCursor t then renderCursor t p else p

theorem withCursor_grid (t : Terminal) (p : Pass) :
    (withCursor t p).renderedGrid = p.renderedGrid := by
  unfold withCursor
  split
  · rfl
  · rfl

/-- **A pass leaves what is to be shown.** -/
theorem withCursor_shown {t : Terminal} (on : OnScreen t.curRow t.curCol) {start : Canvas} {p : Pass}
    (rows : RowsDone t start termRows p) : (withCursor t p).on start = shown t := by
  funext i c
  have row := i.isLt
  obtain ⟨cell, _⟩ := rows.done i c (by unfold termRows; omega)
  rw [shown_apply]
  unfold withCursor
  by_cases visible : showCursor t = true
  · obtain ⟨scratchLow, scratchHigh⟩ := rows.scratch
    unfold termRows at scratchHigh
    have live : t.scrollOffset = 0 := by
      simp only [showCursor, Bool.and_eq_true, decide_eq_true_eq] at visible
      exact visible.2
    rw [if_pos visible, renderCursor, Pass.draw_on _ _ _ _ _ _ _
      ⟨scratchLow, by unfold gridCells; simp; omega⟩, Draw.paint]
    dsimp only
    by_cases here : t.curRow = i.val ∧ t.curCol = c.val
    · obtain ⟨onRow, onCol⟩ := here
      have index := on.index.1
      rw [onRow, onCol] at index
      have column : ((c.val * charSize - c.val * charSize) / charSize : Int).toNat = 0 := by
        unfold charSize
        omega
      rw [if_pos ((runArea_covers i c).mpr ⟨onRow.symm, by omega, by omega⟩), if_pos rfl,
        if_pos ⟨visible, onRow, onCol⟩, cell, Draw.glyph, cursorGlyph, displayedCell_live live]
      dsimp only [runArea]
      rw [onRow, onCol, index, column, List.getD_cons_zero]
      rfl
    · have notCovered : ¬ (runArea t.curRow t.curCol 1).Covers i c := by
        rw [runArea_covers]
        rintro ⟨onRow, left, right⟩
        exact here ⟨onRow.symm, by omega⟩
      rw [if_neg notCovered, if_neg fun both => here both.2, cell]
  · rw [if_neg visible, if_neg fun both => visible both.1, cell]

theorem fullRedraw_shown {t : Terminal} (on : OnScreen t.curRow t.curCol) (start : Canvas) :
    paintAll (fullRedraw t) start = shown t :=
  withCursor_shown on (allRows_spec t start)

/-! ### One render -/

/-- The canvas is the one the last pass recorded, once there was one. -/
def Tracks (t : Terminal) (canvas : Canvas) : Prop := 0 ≤ t.renderedScrollOffset → canvas = shadow t

/-- The early return: what the last pass recorded is what is to be shown. -/
theorem shadow_of_unchanged {t : Terminal} (unchanged : anythingChanged t = false) :
    shadow t = shown t ∧ t.renderedScrollOffset = t.scrollOffset := by
  simp only [anythingChanged, Bool.or_eq_false_iff, decide_eq_false_iff_not, not_not,
    List.any_eq_false, List.mem_range, Bool.not_eq_true', Bool.not_eq_false] at unchanged
  obtain ⟨⟨⟨⟨row, col⟩, visible⟩, offset⟩, rows⟩ := unchanged
  refine ⟨?_, offset.symm⟩
  funext i c
  rw [shadow, shown_apply, rowUnchanged_cell (rows i.val i.isLt) c, row, col, visible]

/-- **A pass that tracks the canvas leaves what is to be shown**, and tracks it. -/
theorem terminalRender_shown {t : Terminal} (on : OnScreen t.curRow t.curCol)
    (offset : 0 ≤ t.scrollOffset) {canvas : Canvas} (tracks : Tracks t canvas) :
    paintAll (terminalRender t).2 canvas = shown t ∧ shown (terminalRender t).1 = shown t ∧
      shadow (terminalRender t).1 = shown t := by
  by_cases changed : anythingChanged t = true
  · let p := renderRows t (t.scrollOffset ≠ t.renderedScrollOffset)
      ⟨t.renderedGrid, t.textScratch, 0, []⟩
    have rows : RowsDone t canvas termRows p := by
      refine renderRows_spec _ fun unscrolled => tracks ?_
      have same : t.scrollOffset = t.renderedScrollOffset := by simpa using unscrolled
      omega
    have rendered : terminalRender t =
        ({ t with
          renderedGrid := (withCursor t p).renderedGrid
          textScratch := (withCursor t p).textScratch
          renderedCursorRow := t.curRow
          renderedCursorCol := t.curCol
          renderedCursorVisible := showCursor t
          renderedScrollOffset := t.scrollOffset }, (withCursor t p).draws) := by
      rw [terminalRender, if_pos changed]
      rfl
    rw [rendered]
    refine ⟨withCursor_shown on rows, rfl, ?_⟩
    funext i c
    have row := i.isLt
    obtain ⟨_, recorded⟩ := rows.done i c (by unfold termRows; omega)
    rw [shadow, shown_apply, withCursor_grid, recorded]
  · have unchanged : anythingChanged t = false := by simpa using changed
    obtain ⟨same, recorded⟩ := shadow_of_unchanged unchanged
    rw [terminalRender, if_neg changed]
    exact ⟨(tracks (by omega)).trans same, rfl, same⟩

/-! ### Runs -/

/-- What the passes leave on record. -/
def SamePass (before after : Terminal) : Prop :=
  after.renderedGrid = before.renderedGrid ∧ after.renderedCursorRow = before.renderedCursorRow ∧
    after.renderedCursorCol = before.renderedCursorCol ∧
    after.renderedCursorVisible = before.renderedCursorVisible ∧
    after.renderedScrollOffset = before.renderedScrollOffset

theorem SamePass.tracks {before after : Terminal} (same : SamePass before after) {canvas : Canvas}
    (tracks : Tracks before canvas) : Tracks after canvas := by
  obtain ⟨grid, row, col, visible, offset⟩ := same
  intro rendered
  rw [offset] at rendered
  rw [tracks rendered]
  funext i c
  rw [shadow, shadow, grid, row, col, visible]

theorem termPutc_samePass (t : Terminal) (c : UInt8) : SamePass t (termPutc t c) := by
  have effect := termPutc_effect t c
  generalize termPutc t c = after at effect ⊢
  cases effect with
  | collects => exact ⟨rfl, rfl, rfl, rfl, rfl⟩
  | saves => exact ⟨rfl, rfl, rfl, rfl, rfl⟩
  | restores => exact ⟨rfl, rfl, rfl, rfl, rfl⟩
  | moves => exact ⟨rfl, rfl, rfl, rfl, rfl⟩
  | resets =>
      obtain ⟨_, _, reset⟩ := resetScreen_touches { t with state := .normal }
      rw [reset]
      exact ⟨rfl, rfl, rfl, rfl, rfl⟩
  | dispatches =>
      rcases termDispatchCsi_touches { t with state := .normal } c with
        ⟨_, _, _, _, _, _, _, _, _, same⟩ | ⟨_, _, _, _, _, _, _, _, _, same⟩
      · rw [same]
        exact ⟨rfl, rfl, rfl, rfl, rfl⟩
      · rw [same]
        exact ⟨rfl, rfl, rfl, rfl, rfl⟩
  | lineFeeds =>
      obtain ⟨_, _, _, _, _, _, _, fed⟩ := termLineFeed_touches { t with pendingWrap := false }
      rw [fed]
      exact ⟨rfl, rfl, rfl, rfl, rfl⟩
  | prints =>
      obtain ⟨_, _, _, _, _, _, _, _, _, printed⟩ := termPutcPrint_touches t c
      rw [printed]
      exact ⟨rfl, rfl, rfl, rfl, rfl⟩

/-- The terminal and its canvas. -/
structure Widget where
  terminal : Terminal
  canvas : Canvas

/-- One operation on both: a render paints its draws. -/
def Widget.step (w : Widget) (op : Op) : Widget where
  terminal := op.step w.terminal
  canvas :=
    match op with
    | .render => paintAll (terminalRender w.terminal).2 w.canvas
    | .feed _ => w.canvas
    | .scroll _ => w.canvas

theorem Widget.after_terminal (w : Widget) (ops : List Op) :
    (Run.after Widget.step w ops).terminal = Run.after Op.step w.terminal ops :=
  Run.part_after (fun _ _ => rfl) w ops

theorem Widget.step_tracks {w : Widget} (inv : Invariant w.terminal)
    (tracks : Tracks w.terminal w.canvas) (op : Op) :
    Tracks (w.step op).terminal (w.step op).canvas := by
  cases op with
  | feed c => exact (termPutc_samePass w.terminal c).tracks tracks
  | scroll deltaLines => exact SamePass.tracks ⟨rfl, rfl, rfl, rfl, rfl⟩ tracks
  | render =>
      obtain ⟨painted, _, recorded⟩ := terminalRender_shown inv.cursor inv.view.1 tracks
      exact fun _ => painted.trans recorded.symm

theorem Widget.run_tracks {w : Widget} {ops : List Op}
    (inv : Run.Always Op.step Invariant w.terminal ops) (tracks : Tracks w.terminal w.canvas) :
    Tracks (Run.after Widget.step w ops).terminal (Run.after Widget.step w ops).canvas := by
  induction ops generalizing w with
  | nil => exact tracks
  | cons op ops ih =>
      obtain ⟨here, rest⟩ := Run.always_cons.mp inv
      exact ih rest (Widget.step_tracks here tracks op)

/-- A canvas nothing was painted on. -/
def blankCanvas : Canvas := fun _ _ => ⟨⟨0x20, 0, 0⟩, none⟩

/-- **Incremental rendering equals a full redraw.** After any run that keeps the cursor on the grid
and ends in a render, whatever the canvas held first, it shows the 80 cells of each of the rows
displayed, and the cursor exactly if it is visible and the view not scrolled back; and it is the one
that drawing every row and the cursor on a blank canvas gives. -/
theorem render_eq_redraw (canvas : Canvas) (ops : List Op)
    (onGrid : Run.Always Op.step (fun t => OnScreen t.curRow t.curCol) terminalCreate
      (ops ++ [.render])) :
    let t := Run.after Op.step terminalCreate (ops ++ [.render])
    let painted := (Run.after Widget.step ⟨terminalCreate, canvas⟩ (ops ++ [.render])).canvas
    painted = shown t ∧ painted = paintAll (fullRedraw t) blankCanvas := by
  have invs := invariant_of_cursor terminalCreate_invariant onGrid
  have before := invs.shorter (List.prefix_append ops [.render])
  have inv := before.last
  have start : Tracks terminalCreate canvas := by
    intro rendered
    exact absurd rendered (by decide)
  have tracks := Widget.run_tracks (w := ⟨terminalCreate, canvas⟩) before start
  rw [Widget.after_terminal] at tracks
  obtain ⟨painted, same, _⟩ := terminalRender_shown inv.cursor inv.view.1 tracks
  have last : (Run.after Widget.step ⟨terminalCreate, canvas⟩ (ops ++ [.render])).canvas =
      paintAll (terminalRender (Run.after Op.step terminalCreate ops)).2
        (Run.after Widget.step ⟨terminalCreate, canvas⟩ ops).canvas := by
    rw [Run.after_append, Run.after_cons, Run.after_nil, Widget.step, Widget.after_terminal]
  have shows : (Run.after Widget.step ⟨terminalCreate, canvas⟩ (ops ++ [.render])).canvas =
      shown (Run.after Op.step terminalCreate (ops ++ [.render])) := by
    rw [last, painted, Run.after_append]
    exact same.symm
  refine ⟨shows, ?_⟩
  rw [fullRedraw_shown invs.last.cursor]
  exact shows

theorem render_eq_redraw_text :
    let t := Run.after Op.step terminalCreate [.feed 0x41, .scroll 1, .render]
    let painted := (Run.after Widget.step ⟨terminalCreate, blankCanvas⟩
      [.feed 0x41, .scroll 1, .render]).canvas
    painted = shown t ∧ painted = paintAll (fullRedraw t) blankCanvas := by
  have inv : Run.Always Op.step Invariant terminalCreate [.feed 0x41, .scroll 1, .render] :=
    Run.always_of_meets (fun _ op inv meets => (step_invariant_iff inv op).mpr meets)
      terminalCreate_invariant ⟨fun csi => absurd csi (by decide), trivial, trivial, trivial⟩
  exact render_eq_redraw blankCanvas [.feed 0x41, .scroll 1] (inv.mono fun _ here => here.cursor)

end Tab5
