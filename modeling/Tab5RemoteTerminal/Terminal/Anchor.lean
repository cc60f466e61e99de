/-
**A scrolled-back view stays where it is.**

While lines arrive, `push_scrollback` moves the offset of a viewport that is scrolled back along
with them (`pushed_offset`). The row shown at its top is then the same line of the history: counted
from the first line ever kept, its number does not change, while the count, the ring's head and the
offset all do. `scrolledBack_anchored` says so for every text, as long as the lines that arrive do
not push the view itself out of the buffer.
-/

import Tab5RemoteTerminal.Terminal.History

namespace Tab5

section Steps

variable {t : Terminal}

/-! ### The offset -/

/-- The number of rows an operation scrolls off. -/
def pushes (t : Terminal) (ops : List Op) : Int := (history t ops).length

/-- A push moves a viewport that is scrolled back. -/
theorem pushScrollback_offset (ok : Buffered t) (onMain : t.altActive = false)
    (scrolled : 0 < t.scrollOffset) (room : t.scrollOffset + 1 ≤ scrollbackLines) :
    (pushScrollback t 0).scrollOffset = t.scrollOffset + 1 := by
  obtain ⟨_, offsetHigh, _⟩ := ok.view
  unfold pushScrollback
  rw [if_neg (by simp [onMain])]
  dsimp only
  rw [if_pos scrolled]
  split <;> split <;> omega

theorem lineFeed_offset (ok : Buffered t) (scrolled : 0 < t.scrollOffset)
    (room : t.scrollOffset + (if ScrollsScreen t then 1 else 0) ≤ scrollbackLines) :
    (termLineFeed t).scrollOffset = t.scrollOffset + if ScrollsScreen t then 1 else 0 := by
  have written : ∀ (u : Terminal) (g : Grid), (u.setActiveGrid g).scrollOffset = u.scrollOffset := by
    intro u g
    obtain ⟨_, _, same⟩ := setActiveGrid_touches u g
    rw [same]
  by_cases scrolls : ScrollsScreen t
  · obtain ⟨onMain, bottom, full⟩ := scrolls
    rw [if_pos ⟨onMain, bottom, full⟩] at room ⊢
    rw [termLineFeed, if_pos bottom, termScrollRegionUp, if_pos full, written]
    exact pushScrollback_offset ok onMain scrolled room
  · rw [if_neg scrolls, Int.add_zero]
    unfold termLineFeed
    split
    · rename_i bottom
      rw [termScrollRegionUp, written]
      split
      · rename_i full
        have onAlt : t.altActive = true := by
          by_contra onMain
          exact scrolls ⟨by simpa using onMain, bottom, full⟩
        rw [pushScrollback, if_pos onAlt]
      · rfl
    split
    · rfl
    · rfl

theorem pushes_cons (t : Terminal) (op : Op) (ops : List Op) :
    pushes t (op :: ops) = (scrolledOff t op).length + pushes (op.step t) ops := by
  show ((Run.emitted Op.step scrolledOff t (op :: ops)).length : Int) = _
  rw [Run.emitted, List.length_append, Nat.cast_add]
  rfl

theorem pushes_nonneg (t : Terminal) (ops : List Op) : 0 ≤ pushes t ops :=
  Int.natCast_nonneg _

theorem putc_offset (ok : Buffered t) (c : UInt8) (scrolled : 0 < t.scrollOffset)
    (room : t.scrollOffset + (scrolledOff t (.feed c)).length ≤ scrollbackLines) :
    (termPutc t c).scrollOffset = t.scrollOffset + (scrolledOff t (.feed c)).length := by
  by_cases lineFeeds : LineFeeds t c
  · have one : ((scrolledOff t (.feed c)).length : Int) = if ScrollsScreen t then 1 else 0 := by
      simp only [scrolledOff, lineFeeds, true_and]
      split
      · rfl
      · rfl
    rw [one] at room ⊢
    obtain ⟨normal, rfl | ⟨printable, pending⟩⟩ := lineFeeds
    · have cleared : Buffered { t with pendingWrap := false } := { ok with }
      rw [termPutc_normal normal]
      exact lineFeed_offset cleared scrolled room
    · have home : Buffered { t with curCol := 0 } := { ok with }
      have fed := lineFeed_offset home scrolled room
      obtain ⟨_, _, _, _, put⟩ := putCell_touches (autowrap t) c
      rw [termPutc_print normal printable, termPutcPrint, put, autowrap_of_pending pending]
      exact fed
  · rw [scrolledOff, if_neg fun both => lineFeeds both.1]
    exact (termPutc_buffer lineFeeds).2.trans (Int.add_zero _).symm

/-- **The offset follows the lines** that arrive. -/
theorem feed_offset (ok : Buffered t) {w : List UInt8} (scrolled : 0 < t.scrollOffset)
    (room : t.scrollOffset + pushes t (w.map .feed) ≤ scrollbackLines) :
    (terminalFeed t w).scrollOffset = t.scrollOffset + pushes t (w.map .feed) := by
  induction w generalizing t with
  | nil => exact (Int.add_zero _).symm
  | cons c w ih =>
      have rest := pushes_nonneg (termPutc t c) (w.map .feed)
      rw [List.map_cons, pushes_cons] at room ⊢
      have room' : t.scrollOffset + ((scrolledOff t (.feed c)).length +
          pushes (termPutc t c) (w.map .feed)) ≤ scrollbackLines := room
      have here := putc_offset ok c scrolled (by omega)
      rw [terminalFeed_cons, ih (ok.putc c) (by omega) (by omega), here, Int.add_assoc]
      rfl

end Steps

/-! ### The view -/

/-- The row of the history at a row of a viewport that is scrolled back. -/
theorem ringRows_shown {t : Terminal} (ok : Buffered t) {r : Int} (low : 0 ≤ r)
    (high : r < min t.scrollOffset termRows) :
    (ringRows t)[(t.scrollbackCount - t.scrollOffset + r).toNat]? =
      some (rowCells t (displayRow t r)) := by
  have shown := rowCells_displayRow ok low (by omega)
  have length := ringRows_length ok
  have view := ok.view
  rwa [List.getElem?_append_left (by omega)] at shown

/-- The line shown at a row keeps its place in the history. -/
theorem anchored {t : Terminal} (ok : Buffered t) {w : List UInt8} (scrolled : 0 < t.scrollOffset)
    (room : t.scrollOffset + pushes t (w.map .feed) ≤ scrollbackLines) {r : Int} (low : 0 ≤ r)
    (high : r < min t.scrollOffset termRows) :
    rowCells (terminalFeed t w) (displayRow (terminalFeed t w) r) =
      rowCells t (displayRow t r) := by
  have offset := feed_offset ok scrolled room
  have arrived := pushes_nonneg t (w.map .feed)
  have kept : ringRows (terminalFeed t w) = (ringRows t ++ history t (w.map .feed)).rtake 300 := by
    rw [← ringRows_after ok, ← terminalFeed_eq_run]
  have before := ringRows_shown ok low high
  have now := ringRows_shown (ok.feed w) low (by omega)
  have view := ok.view
  have viewAfter := (ok.feed w).view
  have lengthBefore := ringRows_length ok
  have lengthAfter := ringRows_length (ok.feed w)
  have pushed : pushes t (w.map .feed) = (history t (w.map .feed)).length := rfl
  rw [kept, Ring.length_rtake, List.length_append] at lengthAfter
  unfold scrollbackLines at room view viewAfter
  -- Both sides count the rows dropped from the front of the buffer.
  have line : (ringRows t).length + (history t (w.map .feed)).length - 300 +
      ((terminalFeed t w).scrollbackCount - (terminalFeed t w).scrollOffset + r).toNat =
      (t.scrollbackCount - t.scrollOffset + r).toNat := by
    omega
  rw [kept, List.rtake, List.getElem?_drop, List.length_append, line,
    List.getElem?_append_left (by omega), before] at now
  exact (Option.some.inj now).symm

/-- **A scrolled-back view is anchored**: the rows of the history it shows stay where they are,
whatever arrives, until the buffer no longer holds them. -/
theorem scrolledBack_anchored (ops : List Op) (w : List UInt8)
    (scrolled : 0 < (Run.after Op.step terminalCreate ops).scrollOffset)
    (room : (Run.after Op.step terminalCreate ops).scrollOffset +
      pushes (Run.after Op.step terminalCreate ops) (w.map .feed) ≤ scrollbackLines) :
    let t := Run.after Op.step terminalCreate ops
    ∀ r, 0 ≤ r → r < min t.scrollOffset termRows →
      rowCells (terminalFeed t w) (displayRow (terminalFeed t w) r) =
        rowCells t (displayRow t r) :=
  fun _ low high => anchored (buffered_after ops) scrolled room low high

/-- One line back, and another line arrives. -/
theorem scrolledBack_anchored_line :
    let t := Run.after Op.step terminalCreate scrollOnce
    rowCells (terminalFeed t [0x0A]) (displayRow (terminalFeed t [0x0A]) 0) =
      rowCells t (displayRow t 0) :=
  scrolledBack_anchored scrollOnce [0x0A] (by decide +kernel) (by decide +kernel) 0 le_rfl
    (by decide +kernel)

end Tab5
