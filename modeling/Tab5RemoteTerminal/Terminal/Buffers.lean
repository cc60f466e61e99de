/-
**What every run keeps, wherever the cursor goes.**

The indices of the ring buffer and the viewport stay in range, and the `grid` pointer says which
screen is active (`Buffered`). Unlike the representation invariant this needs no condition: no byte
moves these fields but a line feed, a scroll and a switch of screens (`buffered_after`).
-/

import Tab5RemoteTerminal.Terminal.Frame

namespace Tab5

structure Buffered (t : Terminal) : Prop where
  head : 0 ≤ t.scrollbackHead ∧ t.scrollbackHead < scrollbackLines
  view : 0 ≤ t.scrollOffset ∧ t.scrollOffset ≤ t.scrollbackCount ∧
    t.scrollbackCount ≤ scrollbackLines
  gridPtr : t.grid = .altGrid ↔ t.altActive = true

/-- The main screen's grid is the active one unless the alternate screen is. -/
theorem Buffered.activeGrid_main {t : Terminal} (ok : Buffered t) (onMain : t.altActive = false) :
    t.activeGrid = t.mainGrid := by
  cases grid : t.grid with
  | mainGrid => rw [Terminal.activeGrid, grid]
  | altGrid =>
      rw [ok.gridPtr.mp grid] at onMain
      cases onMain

section Steps

variable {t : Terminal}

/-! ### Line feeds -/

theorem Buffered.setActiveGrid (ok : Buffered t) (g : Grid) : Buffered (t.setActiveGrid g) := by
  obtain ⟨_, _, same⟩ := setActiveGrid_touches t g
  rw [same]
  exact { ok with }

theorem Buffered.pushScrollback (ok : Buffered t) (row : Int) :
    Buffered (pushScrollback t row) := by
  obtain ⟨headLow, headHigh⟩ := ok.head
  obtain ⟨offsetLow, offsetHigh, countHigh⟩ := ok.view
  unfold scrollbackLines at headHigh countHigh
  unfold Tab5.pushScrollback
  split
  · exact ok
  · refine { ok with head := ?_, view := ?_ }
    · rw [Int.tmod_eq_emod_of_nonneg (by omega)]
      unfold scrollbackLines
      dsimp only
      omega
    · unfold scrollbackLines
      dsimp only
      split <;> split <;> try split
      all_goals omega

theorem Buffered.scrollRegionUp (ok : Buffered t) (top bottom : Int) :
    Buffered (termScrollRegionUp t top bottom) := by
  unfold termScrollRegionUp
  dsimp only
  split
  · exact (ok.pushScrollback 0).setActiveGrid _
  · exact ok.setActiveGrid _

theorem Buffered.lineFeed (ok : Buffered t) : Buffered (termLineFeed t) := by
  unfold termLineFeed
  split
  · exact ok.scrollRegionUp _ _
  split
  · exact { ok with }
  · exact ok

theorem Buffered.print (ok : Buffered t) (c : UInt8) : Buffered (termPutcPrint t c) := by
  have wrapped : Buffered (autowrap t) := by
    unfold autowrap
    split
    · have home : Buffered { t with curCol := 0 } := { ok with }
      exact { home.lineFeed with }
    · exact ok
  obtain ⟨_, _, _, _, put⟩ := putCell_touches (autowrap t) c
  rw [termPutcPrint, put]
  exact { wrapped with }

/-! ### Modes -/

theorem Buffered.setPrivateMode (ok : Buffered t) (mode : Int) (enable : Bool) :
    Buffered (termSetPrivateMode t mode enable) := by
  unfold termSetPrivateMode
  split
  · exact { ok with }
  split
  · exact { ok with }
  split
  · unfold setAltScreen
    split
    · exact { ok with gridPtr := by simp }
    split
    · exact { ok with gridPtr := by simp }
    · exact ok
  · exact ok

theorem Buffered.setPrivateModes (ok : Buffered t) (params : List Int) (enable : Bool) :
    Buffered (setPrivateModes t params enable) := by
  unfold Tab5.setPrivateModes
  induction params generalizing t with
  | nil => exact ok
  | cons param params ih => exact ih (ok.setPrivateMode _ enable)

theorem Buffered.dispatchCsi (ok : Buffered t) (final : UInt8) :
    Buffered (termDispatchCsi t final) := by
  have cleared : Buffered { t with pendingWrap := false } := { ok with }
  unfold termDispatchCsi
  dsimp only
  split
  · split
    · exact cleared.setPrivateModes _ _
    · exact cleared
  · obtain ⟨_, _, _, _, _, _, _, _, _, same⟩ :=
      csiFinal_touches { t with pendingWrap := false } (csiParams t) final
    rw [same]
    exact { ok with }

/-! ### One operation -/

theorem Buffered.putc (ok : Buffered t) (c : UInt8) : Buffered (termPutc t c) := by
  have effect := termPutc_effect t c
  generalize termPutc t c = after at effect ⊢
  cases effect with
  | collects => exact { ok with }
  | saves => exact { ok with }
  | restores => exact { ok with }
  | moves => exact { ok with }
  | resets =>
      obtain ⟨_, _, reset⟩ := resetScreen_touches { t with state := .normal }
      rw [reset]
      exact { ok with }
  | dispatches =>
      have normal : Buffered { t with state := .normal } := { ok with }
      exact normal.dispatchCsi c
  | lineFeeds =>
      have cleared : Buffered { t with pendingWrap := false } := { ok with }
      exact cleared.lineFeed
  | prints => exact ok.print c

theorem Buffered.scroll (ok : Buffered t) (deltaLines : Int) :
    Buffered (terminalScroll t deltaLines) := by
  obtain ⟨offsetLow, offsetHigh, countHigh⟩ := ok.view
  refine { ok with view := ?_ }
  dsimp only [terminalScroll]
  split <;> split <;> omega

theorem Buffered.step (ok : Buffered t) (op : Op) : Buffered (op.step t) := by
  cases op with
  | feed c => exact ok.putc c
  | scroll deltaLines => exact ok.scroll deltaLines
  | render =>
      obtain ⟨_, _, _, _, _, _, same⟩ := terminalRender_fst t
      rw [Op.step, same]
      exact { ok with }

end Steps

/-! ### Runs -/

theorem terminalCreate_buffered : Buffered terminalCreate where
  head := by decide
  view := by decide
  gridPtr := by decide

theorem Buffered.always {t : Terminal} (ok : Buffered t) (ops : List Op) :
    Run.Always Op.step Buffered t ops :=
  Run.always_of_step (fun _ op ok => ok.step op) ok ops

/-- **Every reachable terminal.** -/
theorem buffered_after (ops : List Op) : Buffered (Run.after Op.step terminalCreate ops) :=
  (terminalCreate_buffered.always ops).last

theorem Buffered.feed {t : Terminal} (ok : Buffered t) (data : List UInt8) :
    Buffered (terminalFeed t data) := by
  rw [terminalFeed_eq_run]
  exact (ok.always _).last

end Tab5
