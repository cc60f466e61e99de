/-
**The runs of a pass and their texts** (`terminal_render`, lines 613 to 700 of `main/terminal.c`).

LVGL draws a label when it gets to it, from the slice of `text_scratch` it was given; so within one
pass no slice may be used twice.

* `RunsFrom`: draws that cut the cells of a row into maximal runs of one rendition;
  `drawRuns_from`: the runs of a row are such draws;
* `Slices`: the texts drawn so far stand side by side in the scratch buffer;
* `Redrawn`: the rows a pass may not skip; `rows_drawn`: those, and no others, are drawn;
* `render_runs`: all of it for a pass, with the cursor.
-/

import Tab5RemoteTerminal.Terminal.Canvas

namespace Tab5

open CLoop

/-! ### Runs -/

/-- The draws cut the cells of row `r`, from column `c` on, into maximal runs. -/
inductive RunsFrom (r : Int) : (c : Nat) → Row → List Draw → Prop where
  | done (c : Nat) : RunsFrom r c [] []
  | run {c : Nat} {piece rest : Row} {d : Draw} {draws : List Draw} (look : UInt8 × UInt8 × UInt8)
      (nonempty : piece ≠ []) (uniform : ∀ cell ∈ piece, cell.look = look)
      (maximal : ∀ next, rest.head? = some next → next.look ≠ look)
      (area : d.area = runArea r c piece.length)
      (text : d.text = piece.map fun cell => if cell.ch = 0 then 0x20 else cell.ch)
      (more : RunsFrom r (c + piece.length) rest draws) : RunsFrom r c (piece ++ rest) (d :: draws)

/-- No run begins before column `c`. -/
theorem RunsFrom.before {r : Fin 42} {c : Nat} {cells : Row} {draws : List Draw}
    (runs : RunsFrom r.val c cells draws) (col : Fin 80) (left : col.val < c) :
    draws.filter (fun d => d.area.Covers r col) = [] := by
  induction runs with
  | done => rfl
  | run look nonempty uniform maximal area text more ih =>
      rw [List.filter_cons_of_neg, ih (by omega)]
      rw [decide_eq_true_eq, area, runArea_covers]
      omega

/-- **Every column is covered once.** -/
theorem RunsFrom.covers {r : Fin 42} {c : Nat} {cells : Row} {draws : List Draw}
    (runs : RunsFrom r.val c cells draws) (col : Fin 80) (low : c ≤ col.val)
    (high : col.val < c + cells.length) :
    (draws.filter fun d => d.area.Covers r col).length = 1 := by
  induction runs with
  | done => exact absurd high (by simpa using low)
  | @run c piece rest d draws look nonempty uniform maximal area text more ih =>
      rw [List.length_append] at high
      by_cases here : col.val < c + piece.length
      · rw [List.filter_cons_of_pos, more.before col here]
        · rfl
        · rw [decide_eq_true_eq, area, runArea_covers]
          omega
      · rw [List.filter_cons_of_neg, ih (by omega) (by omega)]
        rw [decide_eq_true_eq, area, runArea_covers]
        omega

/-! ### Texts -/

theorem writeText_fault (text : List UInt8) (scratch : Block (gridCells + 1) UInt8) {pos : Int}
    (within : Block.Within (gridCells + 1) pos text.length) :
    (writeText scratch pos text).fault = scratch.fault := by
  induction text generalizing scratch pos with
  | nil => rfl
  | cons ch text ih =>
      obtain ⟨low, high⟩ := within
      rw [List.length_cons, Nat.cast_succ] at high
      rw [writeText, ih _ ⟨by omega, by omega⟩, Block.store_fault _ _ ⟨low, by omega⟩]

/-- The scratch position behind a draw's text. -/
def Draw.textEnd (d : Draw) : Int := d.textPos + d.text.length

/-- The texts drawn so far stand side by side in the scratch buffer, up to the free position. -/
structure Slices (p : Pass) : Prop where
  pos : 0 ≤ p.scratchPos
  inside : ∀ d ∈ p.draws, 0 ≤ d.textPos ∧ d.textEnd ≤ p.scratchPos
  held : ∀ d ∈ p.draws, p.textScratch.slice d.textPos d.text.length = d.text
  apart : p.draws.Pairwise fun first second => first.textEnd ≤ second.textPos

/-- The pair `Pass.draw` draws. -/
theorem Pass.draw_draws (p : Pass) (area : Area) (fgIdx bgIdx : UInt8) (text : List UInt8)
    (cursor : Bool) (within : Block.Within (gridCells + 1) p.scratchPos text.length) :
    (p.draw area fgIdx bgIdx text cursor).draws =
      p.draws ++ [⟨area, bgIdx, fgIdx, p.scratchPos, text, cursor⟩] := by
  rw [Pass.draw, slice_writeText text p.textScratch within]

/-- **One more text**, where the buffer has room for it. -/
theorem Slices.draw {p : Pass} (slices : Slices p) (area : Area) (fgIdx bgIdx : UInt8)
    {text : List UInt8} (cursor : Bool)
    (within : Block.Within (gridCells + 1) p.scratchPos text.length) :
    Slices (p.draw area fgIdx bgIdx text cursor) := by
  have drawn := p.draw_draws area fgIdx bgIdx text cursor within
  have pos := slices.pos
  refine ⟨?_, ?_, ?_, ?_⟩
  · show 0 ≤ p.scratchPos + text.length
    omega
  · show ∀ d ∈ (p.draw area fgIdx bgIdx text cursor).draws, 0 ≤ d.textPos ∧
      d.textEnd ≤ p.scratchPos + text.length
    rw [drawn]
    refine List.forall_mem_append.mpr ⟨fun d member => ?_, List.forall_mem_singleton.mpr ?_⟩
    · obtain ⟨low, high⟩ := slices.inside d member
      omega
    · exact ⟨pos, le_refl _⟩
  · rw [drawn]
    refine List.forall_mem_append.mpr ⟨fun d member => ?_, List.forall_mem_singleton.mpr ?_⟩
    · -- what is written now is behind the slice
      have high : d.textPos + d.text.length ≤ p.scratchPos := (slices.inside d member).2
      refine Eq.trans ?_ (slices.held d member)
      exact (Block.slice_eq_iff _ _ _ _ _).mpr fun k inside =>
        writeText_before text p.textScratch (by omega)
    · exact slice_writeText text p.textScratch within
  · rw [drawn]
    refine List.pairwise_append.mpr ⟨slices.apart, List.pairwise_singleton _ _, ?_⟩
    exact fun d member => List.forall_mem_singleton.mpr (slices.inside d member).2

/-! ### One row -/

/-- A pass that has drawn `draws` in as many bytes of the scratch buffer as `cells` says. -/
structure DrawnFrom (before : Pass) (cells : Nat) (draws : List Draw) (after : Pass) : Prop where
  draws : after.draws = before.draws ++ draws
  pos : after.scratchPos = before.scratchPos + cells
  fault : after.textScratch.fault = before.textScratch.fault
  slices : Slices before → Slices after

theorem DrawnFrom.refl (p : Pass) : DrawnFrom p 0 [] p :=
  ⟨(List.append_nil _).symm, (Int.add_zero _).symm, rfl, id⟩

theorem DrawnFrom.trans {first second third : Pass} {cells more : Nat} {draws further : List Draw}
    (one : DrawnFrom first cells draws second) (two : DrawnFrom second more further third) :
    DrawnFrom first (cells + more) (draws ++ further) third where
  draws := by rw [two.draws, one.draws, List.append_assoc]
  pos := by rw [two.pos, one.pos, Nat.cast_add, Int.add_assoc]
  fault := two.fault.trans one.fault
  slices := two.slices ∘ one.slices

theorem drawnFrom_draw (p : Pass) (area : Area) (fgIdx bgIdx : UInt8) (text : List UInt8)
    (cursor : Bool) (within : Block.Within (gridCells + 1) p.scratchPos text.length) :
    DrawnFrom p text.length [⟨area, bgIdx, fgIdx, p.scratchPos, text, cursor⟩]
      (p.draw area fgIdx bgIdx text cursor) where
  draws := p.draw_draws area fgIdx bgIdx text cursor within
  pos := rfl
  fault := writeText_fault text _ within
  slices slices := slices.draw area fgIdx bgIdx cursor within

/-- **The runs of a row**: its remaining cells are cut into runs, and their characters drawn. -/
theorem drawRuns_from (r : Int) (rounds : Nat) :
    ∀ (c : Nat) (cells : Row) (p : Pass), cells.length ≤ rounds →
      Block.Within (gridCells + 1) p.scratchPos cells.length →
      ∃ draws, RunsFrom r c cells draws ∧
        DrawnFrom p cells.length draws (drawRuns r rounds c cells p) := by
  induction rounds with
  | zero =>
      intro c cells p short _
      rw [List.length_eq_zero_iff.mp (Nat.le_zero.mp short), drawRuns]
      exact ⟨[], .done c, .refl p⟩
  | succ rounds ih =>
      intro c cells p short within
      cases cells with
      | nil => exact ⟨[], .done c, .refl p⟩
      | cons first rest =>
          have len := runLength_le first rest
          have positive : 1 ≤ runLength first rest := Nat.le_add_right 1 _
          obtain ⟨uniform, maximal⟩ := run_look first rest
          let piece := (first :: rest).take (runLength first rest)
          let others := (first :: rest).drop (runLength first rest)
          have whole : piece ++ others = first :: rest := List.take_append_drop _ _
          have pieceLength : piece.length = runLength first rest := by
            rw [List.length_take]
            omega
          have lengths := congrArg List.length whole
          rw [List.length_append, pieceLength] at lengths
          have textLength : (piece.map fun cell => textByte cell.ch).length =
              runLength first rest := by rw [List.length_map, pieceLength]
          obtain ⟨low, high⟩ := within
          have drawn := drawnFrom_draw p (runArea r c (runLength first rest)) (cellColours first).1
            (cellColours first).2 (piece.map fun cell => textByte cell.ch) false
            ⟨low, by omega⟩
          rw [textLength] at drawn
          obtain ⟨draws, runs, further⟩ := ih (c + runLength first rest) others
            (p.draw (runArea r c (runLength first rest)) (cellColours first).1 (cellColours first).2
              (piece.map fun cell => textByte cell.ch) false)
            (by omega) ⟨by rw [drawn.pos]; omega, by rw [drawn.pos]; omega⟩
          have nonempty : piece ≠ [] := by
            rw [← List.length_pos_iff, pieceLength]
            omega
          rw [← pieceLength] at runs
          have cut := @RunsFrom.run r c piece others ⟨runArea r c (runLength first rest),
            (cellColours first).2, (cellColours first).1, p.scratchPos,
            piece.map fun cell => textByte cell.ch, false⟩ draws first.look nonempty uniform maximal
            (by rw [pieceLength]) rfl runs
          rw [whole] at cut
          refine ⟨_, cut, ?_⟩
          rw [← lengths]
          exact drawn.trans further

/-! ### A pass -/

/-- The draws cut a row of the screen into runs, each of its columns in exactly one. -/
def RowDrawn (t : Terminal) (r : Fin 42) (draws : List Draw) : Prop :=
  RunsFrom r.val 0 (rowCells t (displayRow t r.val)) draws ∧
    ∀ c : Fin 80, (draws.filter fun d => d.area.Covers r c).length = 1

/-- **One row drawn**, where the scratch buffer has room for it. -/
theorem renderRow_drawn (t : Terminal) (r : Fin 42) (p : Pass)
    (within : Block.Within (gridCells + 1) p.scratchPos 80) :
    ∃ draws, RowDrawn t r draws ∧ DrawnFrom p 80 draws (renderRow t r.val p) := by
  let copied : Pass :=
    { p with renderedGrid := copyRow t p.renderedGrid r.val (displayRow t r.val) }
  have length := rowCells_length t (displayRow t r.val)
  have shadow : DrawnFrom p 0 [] copied :=
    ⟨(List.append_nil _).symm, (Int.add_zero _).symm, rfl, fun slices =>
      ⟨slices.pos, slices.inside, slices.held, slices.apart⟩⟩
  obtain ⟨draws, runs, drawn⟩ := drawRuns_from r.val 80 0
    (rowCells t (displayRow t r.val)) copied (by omega) (by rw [length]; exact within)
  rw [length] at drawn
  refine ⟨draws, ⟨runs, fun c => ?_⟩, shadow.trans drawn⟩
  have column := c.isLt
  exact runs.covers c (Nat.zero_le _) (by omega)

/-- The cursor block is to be shown. -/
def CursorShown (t : Terminal) : Prop := t.cursorVisible = true ∧ t.scrollOffset = 0

/-- Row `r` displays other cells than the last pass recorded. -/
def RowChanged (t : Terminal) (r : Fin 42) : Prop :=
  rowCells t (displayRow t r.val) ≠ t.renderedGrid.slice (r.val * 80) 80

/-- Something visible has changed since the last pass. -/
def Changed (t : Terminal) : Prop :=
  t.curRow ≠ t.renderedCursorRow ∨ t.curCol ≠ t.renderedCursorCol ∨
    ¬ (CursorShown t ↔ t.renderedCursorVisible = true) ∨
    t.scrollOffset ≠ t.renderedScrollOffset ∨ ∃ r, RowChanged t r

/-- The row is not skipped: every row has moved, the cursor is or was on it, or its cells differ. -/
def Kept (t : Terminal) (r : Fin 42) : Prop :=
  t.scrollOffset ≠ t.renderedScrollOffset ∨ t.curRow = r.val ∨ t.renderedCursorRow = r.val ∨
    RowChanged t r

instance (t : Terminal) : Decidable (CursorShown t) := by unfold CursorShown; infer_instance
instance (t : Terminal) (r : Fin 42) : Decidable (RowChanged t r) := by
  unfold RowChanged; infer_instance
instance (t : Terminal) : Decidable (Changed t) := by unfold Changed; infer_instance
instance (t : Terminal) (r : Fin 42) : Decidable (Kept t r) := by unfold Kept; infer_instance

/-- The rows that a pass draws. -/
def redrawnRows (t : Terminal) : List (Fin 42) :=
  if Changed t then (List.finRange 42).filter fun r => Kept t r else []

theorem drawRuns_renderedGrid (r : Int) (rounds : Nat) (c : Int) (cells : Row) (p : Pass) :
    (drawRuns r rounds c cells p).renderedGrid = p.renderedGrid := by
  induction rounds generalizing c cells p with
  | zero => rfl
  | succ rounds ih =>
      cases cells with
      | nil => rfl
      | cons first rest =>
          rw [drawRuns, ih]
          rfl

/-- The rows before row `n` that are not skipped have been drawn, in order; the record of the others
is as it was. -/
def RowsDrawn (t : Terminal) (start : Pass) (n : Nat) (p : Pass) : Prop :=
  (∃ blocks : List (List Draw),
    List.Forall₂ (RowDrawn t) (((List.finRange 42).take n).filter fun r => Kept t r) blocks ∧
    DrawnFrom start (80 * (((List.finRange 42).take n).filter fun r => Kept t r).length)
      blocks.flatten p) ∧
  ∀ k : Int, n * 80 ≤ k → p.renderedGrid.load k = t.renderedGrid.load k

theorem take_rows (r : Fin 42) :
    (List.finRange 42).take (r.val + 1) = (List.finRange 42).take r.val ++ [r] := by
  have bound : r.val < (List.finRange 42).length := by
    rw [List.length_finRange]
    exact r.isLt
  rw [← List.take_concat_get' _ _ bound, List.getElem_finRange]
  rfl

/-- What the code skips by its record of the rows. -/
theorem skipped_iff {t : Terminal} {p : Pass} {r : Fin 42}
    (ahead : ∀ k : Int, r.val * 80 ≤ k → p.renderedGrid.load k = t.renderedGrid.load k) :
    (!decide (t.scrollOffset ≠ t.renderedScrollOffset) && decide ((r.val : Int) ≠ t.curRow) &&
      decide ((r.val : Int) ≠ t.renderedCursorRow) && rowUnchanged t p.renderedGrid r.val) = true ↔
      ¬ Kept t r := by
  have same : p.renderedGrid.slice (r.val * termCols) 80 = t.renderedGrid.slice (r.val * 80) 80 :=
    (Block.slice_eq_iff _ _ _ _ _).mpr fun k _ => ahead _ (by unfold termCols; omega)
  rw [rowUnchanged, same]
  simp only [Kept, RowChanged, Bool.and_eq_true, Bool.not_eq_true', decide_eq_false_iff_not,
    decide_eq_true_eq, not_or, not_not, eq_comm (a := (r.val : Int)), ne_eq, and_assoc]

/-- **A pass over the rows** draws those that are not skipped. -/
theorem rows_drawn (t : Terminal) (start : Pass) (fresh : start.scratchPos = 0)
    (record : start.renderedGrid = t.renderedGrid) :
    RowsDrawn t start 42 (renderRows t (t.scrollOffset ≠ t.renderedScrollOffset) start) := by
  have none : RowsDrawn t start 0 start := ⟨⟨[], .nil, .refl start⟩, fun k _ => by rw [record]⟩
  show RowsDrawn t start termRows.toNat _
  unfold renderRows
  refine forLoop_rule _ start (fun r p => RowsDrawn t start r.toNat p) (by decide) none ?_
  rintro r p low high ⟨⟨blocks, drawn, pass⟩, ahead⟩
  unfold termRows at high
  obtain ⟨row, rfl⟩ : ∃ row : Fin 42, (row.val : Int) = r := ⟨⟨r.toNat, by omega⟩, by simp; omega⟩
  rw [Int.toNat_natCast] at drawn pass ahead
  rw [show ((row.val : Int) + 1).toNat = row.val + 1 by omega]
  have skipped := skipped_iff ahead
  have column := row.isLt
  split
  · rename_i skips
    have left : ((List.finRange 42).take (row.val + 1)).filter (fun r => Kept t r) =
        ((List.finRange 42).take row.val).filter fun r => Kept t r := by
      rw [take_rows, List.filter_append, List.filter_singleton, decide_eq_false (skipped.mp skips)]
      exact List.append_nil _
    refine ⟨⟨blocks, ?_, ?_⟩, fun k far => ahead k (by omega)⟩
    · rw [left]
      exact drawn
    · rw [left]
      exact pass
  · rename_i stays
    have kept : Kept t row := not_not.mp fun skips => stays (skipped.mpr skips)
    have more : ((List.finRange 42).take (row.val + 1)).filter (fun r => Kept t r) =
        (((List.finRange 42).take row.val).filter fun r => Kept t r) ++ [row] := by
      rw [take_rows, List.filter_append, List.filter_singleton, decide_eq_true kept]
      rfl
    have few : (((List.finRange 42).take row.val).filter fun r => Kept t r).length ≤ row.val :=
      (List.length_filter_le _ _).trans (List.length_take_le _ _)
    have pos := pass.pos
    obtain ⟨draws, here, further⟩ := renderRow_drawn t row p
      ⟨by omega, by unfold gridCells; push_cast at pos; omega⟩
    refine ⟨⟨blocks ++ [draws], ?_, ?_⟩, fun k far => ?_⟩
    · rw [more]
      exact List.rel_append drawn (.cons here .nil)
    · rw [more, List.length_append, List.length_singleton, Nat.mul_add, List.flatten_append,
        List.flatten_singleton]
      exact pass.trans further
    · rw [renderRow, drawRuns_renderedGrid, copyRow_other _ _ _ _ (by omega)]
      exact ahead k (by omega)

/-- The draw of the cursor block: the character of its cell, or a space for NUL. -/
def CursorDrawn (t : Terminal) (d : Draw) : Prop :=
  d.area = runArea t.curRow t.curCol 1 ∧
    d.text = [if (t.activeGrid.load (t.curRow * 80 + t.curCol)).ch = 0 then 0x20
      else (t.activeGrid.load (t.curRow * 80 + t.curCol)).ch]

/-- What a pass draws after the rows: the cursor block exactly if it is to be shown. -/
def CursorBlock (t : Terminal) (draws : List Draw) : Prop :=
  if Changed t ∧ CursorShown t then ∃ d, CursorDrawn t d ∧ draws = [d] else draws = []

/-- The cursor block, if it is shown, needs one byte more. -/
theorem withCursor_drawn {t : Terminal} (changed : Changed t) (on : OnScreen t.curRow t.curCol)
    {p : Pass} (low : 0 ≤ p.scratchPos) (high : p.scratchPos ≤ gridCells) :
    ∃ cells draws, DrawnFrom p cells draws (withCursor t p) ∧ cells ≤ 1 ∧ CursorBlock t draws := by
  unfold withCursor CursorBlock
  by_cases visible : showCursor t = true
  · have within : Block.Within (gridCells + 1) p.scratchPos
        [textByte (t.activeGrid.load (cellIndex t.curRow t.curCol)).ch].length :=
      ⟨low, by rw [List.length_singleton]; omega⟩
    rw [if_pos visible]
    refine ⟨_, _, drawnFrom_draw p _ _ _ _ true within, le_refl _, ?_⟩
    rw [if_pos ⟨changed, (showCursor_iff t).mp visible⟩]
    refine ⟨_, ⟨rfl, ?_⟩, rfl⟩
    rw [on.index.1]
    rfl
  · rw [if_neg visible]
    refine ⟨0, [], .refl p, Nat.zero_le _, ?_⟩
    rw [if_neg fun both => visible ((showCursor_iff t).mpr both.2)]

/-- The early return is taken exactly if nothing visible has changed. -/
theorem anythingChanged_iff (t : Terminal) : anythingChanged t = true ↔ Changed t := by
  have visible : showCursor t ≠ t.renderedCursorVisible ↔
      ¬ (CursorShown t ↔ t.renderedCursorVisible = true) := by
    rw [CursorShown, ← showCursor_iff, ne_eq, Bool.eq_iff_iff]
  have rows : ((List.range 42).any fun r => !rowUnchanged t t.renderedGrid r) = true ↔
      ∃ r, RowChanged t r := by
    rw [List.any_eq_true]
    constructor
    · rintro ⟨r, mem, differs⟩
      refine ⟨⟨r, List.mem_range.mp mem⟩, fun same => ?_⟩
      rw [rowUnchanged, Bool.not_eq_true', decide_eq_false_iff_not] at differs
      exact differs same
    · rintro ⟨r, differs⟩
      refine ⟨r.val, List.mem_range.mpr r.isLt, ?_⟩
      rw [rowUnchanged, Bool.not_eq_true', decide_eq_false_iff_not]
      exact differs
  simp only [anythingChanged, Bool.or_eq_true, decide_eq_true_eq, visible, rows, Changed, or_assoc]

/-- **Runs and texts of a pass.** If nothing visible has changed, nothing is drawn. Otherwise the
rows that are not skipped (all of them after a scroll) are each cut into maximal runs of one
rendition, one beside the other, and the cursor block follows exactly if it is to be shown. The
slices of the scratch buffer that the labels get lie in it, one behind the other, and at the end of
the pass each still holds what was drawn: the characters of its cells, a space for NUL. -/
theorem render_runs (t : Terminal) (on : OnScreen t.curRow t.curCol) :
    let draws := (terminalRender t).2
    let scratch := (terminalRender t).1.textScratch
    (∃ (blocks : List (List Draw)) (cursor : List Draw),
      List.Forall₂ (RowDrawn t) (redrawnRows t) blocks ∧ CursorBlock t cursor ∧
      draws = blocks.flatten ++ cursor) ∧
    draws.Pairwise (fun first second => first.textEnd ≤ second.textPos) ∧
    (∀ d ∈ draws, Block.Within (gridCells + 1) d.textPos d.text.length ∧
      scratch.slice d.textPos d.text.length = d.text) ∧
    scratch.fault = t.textScratch.fault := by
  intro draws scratch
  by_cases changed : Changed t
  · let start : Pass := ⟨t.renderedGrid, t.textScratch, 0, []⟩
    let p := renderRows t (t.scrollOffset ≠ t.renderedScrollOffset) start
    have rendered : draws = (withCursor t p).draws ∧ scratch = (withCursor t p).textScratch := by
      simp only [draws, scratch, terminalRender, if_pos ((anythingChanged_iff t).mpr changed)]
      exact ⟨rfl, rfl⟩
    have rows : ((List.finRange 42).take 42).filter (fun r => Kept t r) = redrawnRows t := by
      rw [redrawnRows, if_pos changed, List.take_of_length_le (by rw [List.length_finRange])]
    obtain ⟨⟨blocks, drawn, pass⟩, _⟩ := rows_drawn t start rfl rfl
    rw [rows] at drawn pass
    have count : (redrawnRows t).length ≤ 42 := by
      rw [← rows]
      exact (List.length_filter_le _ _).trans (List.length_take_le _ _)
    have pos : p.scratchPos = 0 + (80 * (redrawnRows t).length : Nat) := pass.pos
    obtain ⟨cells, tail, cursor, one, block⟩ := @withCursor_drawn t changed on p (by omega)
      (by unfold gridCells; omega)
    have total := pass.trans cursor
    have nothing : start.draws = [] := rfl
    have all := total.draws
    have last : (withCursor t p).scratchPos = 0 + (80 * (redrawnRows t).length + cells : Nat) :=
      total.pos
    rw [nothing, List.nil_append] at all
    have slices : Slices (withCursor t p) := total.slices
      ⟨le_refl _, List.forall_mem_nil _, List.forall_mem_nil _, .nil⟩
    rw [rendered.1, rendered.2]
    refine ⟨⟨blocks, tail, drawn, block, all⟩, slices.apart, fun d member => ?_, total.fault⟩
    obtain ⟨low, high⟩ := slices.inside d member
    have behind : d.textPos + d.text.length ≤ (withCursor t p).scratchPos := high
    exact ⟨⟨low, by unfold gridCells; omega⟩, slices.held d member⟩
  · have unchanged : terminalRender t = (t, []) := by
      rw [terminalRender, if_neg fun differs => changed ((anythingChanged_iff t).mp differs)]
    simp only [draws, scratch, unchanged]
    refine ⟨⟨[], [], ?_, ?_, rfl⟩, .nil, List.forall_mem_nil _, trivial⟩
    · rw [redrawnRows, if_neg changed]
      exact .nil
    · rw [CursorBlock, if_neg fun both => changed both.1]

/-- The first pass after `terminal_create` draws all rows, and the cursor. -/
theorem render_runs_first :
    (∃ (blocks : List (List Draw)) (cursor : List Draw),
      List.Forall₂ (RowDrawn terminalCreate) (redrawnRows terminalCreate) blocks ∧
      CursorBlock terminalCreate cursor ∧
      (terminalRender terminalCreate).2 = blocks.flatten ++ cursor) ∧
    redrawnRows terminalCreate = List.finRange 42 := by
  refine ⟨(render_runs terminalCreate (by decide)).1, ?_⟩
  have scrolled : terminalCreate.scrollOffset ≠ terminalCreate.renderedScrollOffset := by decide
  rw [redrawnRows, if_pos (.inr (.inr (.inr (.inl scrolled))))]
  exact List.filter_eq_self.mpr fun r _ => decide_eq_true (.inl scrolled)

end Tab5
