/-
**The scrollback refines a list of rows.**

The abstract history of a run is the list of the rows that left the top of the main screen
(`scrolledOff`, step by step). The ring buffer holds the last 300 of them:

* `ringRows_step`: one operation appends the row it scrolls off, if any, and drops the oldest when
  the buffer is full;
* `rowCells_displayRow`: the viewport shows a window of the buffer's rows and the screen's;
* `displayRow_history`: both, along every run that keeps the cursor on the grid.
-/

import Tab5RemoteTerminal.Terminal.Rows

namespace Tab5

/-! ### What leaves the screen -/

/-- A byte that executes a line feed: `\n`, or a printed byte with a wrap pending. -/
def LineFeeds (t : Terminal) (c : UInt8) : Prop :=
  t.state = .normal ∧ (c = 0x0A ∨ (isPrintable c = true ∧ t.pendingWrap = true))

/-- A line feed here scrolls the full screen, with the main screen active. -/
def ScrollsScreen (t : Terminal) : Prop :=
  t.altActive = false ∧ t.curRow = t.scrollBottom ∧ t.scrollTop = 0 ∧ t.scrollBottom = termRows - 1

instance (t : Terminal) (c : UInt8) : Decidable (LineFeeds t c) := by
  unfold LineFeeds; infer_instance

instance (t : Terminal) : Decidable (ScrollsScreen t) := by
  unfold ScrollsScreen; infer_instance

/-- The row an operation scrolls off the top of the main screen. -/
def scrolledOff (t : Terminal) : Op → List Row
  | .feed c => if LineFeeds t c ∧ ScrollsScreen t then [gridRow t.mainGrid 0] else []
  | .scroll _ => []
  | .render => []

/-- The rows a run scrolls off, in order. -/
def history (t : Terminal) (ops : List Op) : List Row := Run.emitted Op.step scrolledOff t ops

section Steps

variable {t : Terminal}

/-! ### One operation -/

theorem ringRows_lineFeed (ok : Buffered t) :
    ringRows (termLineFeed t) =
      (ringRows t ++ if ScrollsScreen t then [gridRow t.mainGrid 0] else []).rtake 300 := by
  have stays : ∀ after : Terminal, SameBuffer t after →
      ringRows after = (ringRows t ++ []).rtake 300 := by
    intro after same
    rw [List.append_nil, ringRows_rtake ok, same.ringRows]
  unfold termLineFeed
  by_cases bottom : t.curRow = t.scrollBottom
  · rw [if_pos bottom, termScrollRegionUp]
    by_cases full : t.scrollTop = 0 ∧ t.scrollBottom = termRows - 1
    · rw [if_pos full]
      obtain ⟨main, alt, cleared⟩ := setActiveGrid_touches (pushScrollback t 0)
        (cellClearRange (moveRowsUp (pushScrollback t 0).activeGrid t.scrollTop t.scrollBottom)
          t.scrollBottom 0 (termCols - 1) (pushScrollback t 0).curFg (pushScrollback t 0).curBg)
      rw [cleared]
      by_cases active : t.altActive = true
      · rw [if_neg (by simp [ScrollsScreen, active])]
        refine stays _ ?_
        rw [pushScrollback, if_pos active]
        exact ⟨rfl, rfl, rfl⟩
      · have onMain : t.altActive = false := by simpa using active
        rw [if_pos ⟨onMain, bottom, full⟩]
        rw [← ok.activeGrid_main onMain, ← ringRows_pushScrollback ok onMain]
        exact SameBuffer.ringRows ⟨rfl, rfl, rfl⟩
    · have notScrolls : ¬ ScrollsScreen t := fun scrolls => full scrolls.2.2
      rw [if_neg full, if_neg notScrolls]
      obtain ⟨main, alt, cleared⟩ := setActiveGrid_touches t
        (cellClearRange (moveRowsUp t.activeGrid t.scrollTop t.scrollBottom)
          t.scrollBottom 0 (termCols - 1) t.curFg t.curBg)
      rw [cleared]
      exact stays _ ⟨rfl, rfl, rfl⟩
  · have notScrolls : ¬ ScrollsScreen t := fun scrolls => bottom scrolls.2.1
    rw [if_neg bottom, if_neg notScrolls]
    split
    · exact stays _ ⟨rfl, rfl, rfl⟩
    · exact stays _ ⟨rfl, rfl, rfl⟩

theorem putCell_buffer (t : Terminal) (c : UInt8) : SameBuffer t (putCell t c) := by
  obtain ⟨_, _, _, _, put⟩ := putCell_touches t c
  rw [put]
  exact ⟨rfl, rfl, rfl⟩

/-- A byte that executes no line feed leaves the buffer and the viewport alone. -/
theorem termPutc_buffer {c : UInt8} (noLineFeed : ¬ LineFeeds t c) :
    SameBuffer t (termPutc t c) ∧ (termPutc t c).scrollOffset = t.scrollOffset := by
  have effect := termPutc_effect t c
  generalize termPutc t c = after at effect ⊢
  cases effect with
  | collects => exact ⟨⟨rfl, rfl, rfl⟩, rfl⟩
  | saves => exact ⟨⟨rfl, rfl, rfl⟩, rfl⟩
  | restores => exact ⟨⟨rfl, rfl, rfl⟩, rfl⟩
  | moves => exact ⟨⟨rfl, rfl, rfl⟩, rfl⟩
  | resets =>
      obtain ⟨_, _, reset⟩ := resetScreen_touches { t with state := .normal }
      rw [reset]
      exact ⟨⟨rfl, rfl, rfl⟩, rfl⟩
  | dispatches =>
      rcases termDispatchCsi_touches { t with state := .normal } c with
        ⟨_, _, _, _, _, _, _, _, _, same⟩ | ⟨_, _, _, _, _, _, _, _, _, same⟩
      · rw [same]
        exact ⟨⟨rfl, rfl, rfl⟩, rfl⟩
      · rw [same]
        exact ⟨⟨rfl, rfl, rfl⟩, rfl⟩
  | lineFeeds normal byte => exact absurd ⟨normal, Or.inl byte⟩ noLineFeed
  | prints normal printable =>
      have clear : t.pendingWrap = false := by
        by_contra pending
        exact noLineFeed ⟨normal, Or.inr ⟨printable, by simpa using pending⟩⟩
      obtain ⟨_, _, _, _, put⟩ := putCell_touches t c
      rw [termPutcPrint, autowrap_of_not_pending clear, put]
      exact ⟨⟨rfl, rfl, rfl⟩, rfl⟩

/-- A byte that executes a line feed. -/
theorem ringRows_lineFeeds (ok : Buffered t) {c : UInt8} (lineFeeds : LineFeeds t c) :
    ringRows (termPutc t c) =
      (ringRows t ++ if ScrollsScreen t then [gridRow t.mainGrid 0] else []).rtake 300 := by
  obtain ⟨normal, rfl | ⟨printable, pending⟩⟩ := lineFeeds
  · rw [termPutc_normal normal]
    have cleared : Buffered { t with pendingWrap := false } := { ok with }
    exact ringRows_lineFeed cleared
  · have home : Buffered { t with curCol := 0 } := { ok with }
    have wrapped : ringRows (autowrap t) = ringRows (termLineFeed { t with curCol := 0 }) := by
      rw [autowrap_of_pending pending]
      exact SameBuffer.ringRows ⟨rfl, rfl, rfl⟩
    rw [termPutc_print normal printable, termPutcPrint, (putCell_buffer _ c).ringRows, wrapped]
    exact ringRows_lineFeed home

/-- **One operation** appends the row it scrolls off and drops the oldest of a full buffer. -/
theorem ringRows_step (ok : Buffered t) (op : Op) :
    ringRows (op.step t) = (ringRows t ++ scrolledOff t op).rtake 300 := by
  have stays : ∀ after : Terminal, SameBuffer t after →
      ringRows after = (ringRows t ++ []).rtake 300 := by
    intro after same
    rw [List.append_nil, ringRows_rtake ok, same.ringRows]
  cases op with
  | feed c =>
      by_cases lineFeeds : LineFeeds t c
      · simp only [scrolledOff, lineFeeds, true_and]
        exact ringRows_lineFeeds ok lineFeeds
      · rw [scrolledOff, if_neg fun both => lineFeeds both.1]
        exact stays _ (termPutc_buffer lineFeeds).1
  | scroll deltaLines => exact stays _ ⟨rfl, rfl, rfl⟩
  | render =>
      obtain ⟨_, _, _, _, _, _, same⟩ := terminalRender_fst t
      refine stays _ ?_
      rw [Op.step, same]
      exact ⟨rfl, rfl, rfl⟩

end Steps

/-! ### Runs -/

/-- After a run the buffer holds the last 300 of the rows it held before and those the run
scrolled off. -/
theorem ringRows_after {t : Terminal} (ok : Buffered t) (ops : List Op) :
    ringRows (Run.after Op.step t ops) = (ringRows t ++ history t ops).rtake 300 := by
  induction ops generalizing t with
  | nil =>
      rw [history, Run.emitted, List.append_nil, ringRows_rtake ok]
      rfl
  | cons op ops ih =>
      rw [Run.after_cons, ih (ok.step op), ringRows_step ok, Ring.rtake_rtake_append,
        List.append_assoc]
      rfl

/-! ### The viewport -/

/-- **`display_row`** shows the rows of the buffer and of the screen, from the viewport's offset
on. -/
theorem rowCells_displayRow {t : Terminal} (ok : Buffered t) {r : Int} (low : 0 ≤ r)
    (high : r < termRows) :
    (ringRows t ++ screenRows t)[(t.scrollbackCount - t.scrollOffset + r).toNat]? =
      some (rowCells t (displayRow t r)) := by
  have headIn := ok.head
  have view := ok.view
  have length := ringRows_length ok
  unfold scrollbackLines at headIn view
  unfold termRows at high
  unfold displayRow
  dsimp only
  by_cases scrolled : t.scrollbackCount - t.scrollOffset + r < t.scrollbackCount
  · have slot : ((Ring.slotOf 300 t.scrollbackHead.toNat t.scrollbackCount.toNat
        (t.scrollbackCount - t.scrollOffset + r).toNat : Nat) : Int) =
        (t.scrollbackHead + 300 - t.scrollOffset + r) % 300 := by
      unfold Ring.slotOf
      omega
    have phys := displayRow_slot headIn view low
    rw [if_pos scrolled, List.getElem?_append_left (by omega), ringRows,
      Ring.contents_getElem? _ _ (by omega), slotRow, slot, rowCells, ← phys]
    rfl
  · have below : (t.scrollbackCount - t.scrollOffset + r).toNat - (ringRows t).length =
        (r - t.scrollOffset).toNat := by
      omega
    have inside : (r - t.scrollOffset).toNat < 42 := by
      omega
    have row : (((r - t.scrollOffset).toNat : Nat) : Int) =
        t.scrollbackCount - t.scrollOffset + r - t.scrollbackCount := by
      omega
    rw [if_neg scrolled, List.getElem?_append_right (by omega), below, screenRows,
      List.getElem?_map, List.getElem?_range inside, Option.map_some, gridRow, row]
    rfl

/-- The buffer holds these rows, and the viewport shows the window of them and of the screen's rows
that the offset says. -/
structure Refines (t : Terminal) (held : List Row) : Prop where
  count : t.scrollbackCount = held.length
  offset : 0 ≤ t.scrollOffset ∧ t.scrollOffset ≤ held.length
  shown : ∀ r : Int, 0 ≤ r → r < termRows →
    (held ++ screenRows t)[(held.length - t.scrollOffset + r).toNat]? =
      some (rowCells t (displayRow t r))

/-- **The scrollback refines the history.** At every point of a run that keeps the cursor on the
grid, the buffer holds the last 300 rows that left the main screen. -/
theorem displayRow_history (ops : List Op)
    (onGrid : Run.Always Op.step (fun t => OnScreen t.curRow t.curCol) terminalCreate ops) :
    ∀ done, done <+: ops →
      Refines (Run.after Op.step terminalCreate done) ((history terminalCreate done).rtake 300) := by
  intro done isPrefix
  have inv := ((invariant_of_cursor terminalCreate_invariant onGrid).shorter isPrefix).last
  have rows := ringRows_after terminalCreate_buffered done
  have length := ringRows_length inv.buffered
  rw [terminalCreate_ring, List.nil_append] at rows
  rw [← rows]
  refine ⟨length.symm, ?_, ?_⟩
  · rw [length]
    exact ⟨inv.view.1, inv.view.2.1⟩
  · rw [length]
    exact fun r low high => rowCells_displayRow inv.buffered low high

/-- To the bottom row, a line feed, and one line back. -/
def scrollOnce : List Op := [0x1B, 0x5B, 0x34, 0x32, 0x48, 0x0A].map .feed ++ [.scroll 1]

theorem displayRow_history_scrollOnce :
    Refines (Run.after Op.step terminalCreate scrollOnce)
      ((history terminalCreate scrollOnce).rtake 300) :=
  displayRow_history scrollOnce (by decide +kernel) scrollOnce List.prefix_rfl

end Tab5
