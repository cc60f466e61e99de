/-
**The deferred autowrap.**

`pending_wrap` says that the last column has been filled and the cursor has not moved yet. Every
byte is one of three kinds, with one lemma each:

* it is printed (`Prints`), and a wrap is pending after it exactly in the last column;
* it positions the cursor (`Positions`), and no wrap is pending after it, but for DECRC, which
  leaves the flag as it is;
* it does neither, and the cursor and the flag stay (`termPutc_quiet`).

`pendingWrap_kept_iff`: a run keeps the flag right if and only if no DECRC in it is executed while
a wrap is pending.
-/

import Tab5RemoteTerminal.Terminal.Invariant

namespace Tab5

open CLoop

/-! ### Three kinds of bytes -/

/-- A byte that is printed. -/
def Prints (t : Terminal) (c : UInt8) : Prop := t.state = .normal ∧ isPrintable c = true

/-- A byte that executes a positioning control: CR, LF, BS, TAB, DECRC, RIS or any control
sequence. -/
def Positions (t : Terminal) (c : UInt8) : Prop :=
  match t.state with
  | .normal => c = 0x0D ∨ c = 0x0A ∨ c = 0x08 ∨ c = 0x09
  | .esc => c = 0x38 ∨ c = 0x63
  | .csi => EndsCsi t c
  | .escCharset => False
  | .osc => False

/-- A byte that does neither. -/
def Quiet (t : Terminal) (c : UInt8) : Prop := ¬ Prints t c ∧ ¬ Positions t c

/-- `ESC 8` while a wrap is pending. -/
def RestoresPending (t : Terminal) (c : UInt8) : Prop :=
  t.state = .esc ∧ c = 0x38 ∧ t.pendingWrap = true

/-- Collecting a sequence and saving the cursor move nothing. -/
theorem termPutc_quiet {t : Terminal} {c : UInt8} (quiet : Quiet t c) :
    (termPutc t c).curRow = t.curRow ∧ (termPutc t c).curCol = t.curCol ∧
      (termPutc t c).pendingWrap = t.pendingWrap := by
  obtain ⟨notPrinted, notPositioned⟩ := quiet
  unfold Positions at notPositioned
  have effect := termPutc_effect t c
  generalize termPutc t c = after at effect ⊢
  cases effect with
  | collects => exact ⟨rfl, rfl, rfl⟩
  | saves => exact ⟨rfl, rfl, rfl⟩
  | restores esc byte =>
      rw [esc] at notPositioned
      exact absurd (Or.inl byte) notPositioned
  | resets esc byte =>
      rw [esc] at notPositioned
      exact absurd (Or.inr byte) notPositioned
  | dispatches csi ends =>
      rw [csi] at notPositioned
      exact absurd ends notPositioned
  | moves col normal byte =>
      rw [normal] at notPositioned
      exact absurd (by tauto) notPositioned
  | lineFeeds normal byte =>
      rw [normal] at notPositioned
      exact absurd (Or.inr (Or.inl byte)) notPositioned
  | prints normal printable => exact absurd ⟨normal, printable⟩ notPrinted

/-- No wrap is pending after a positioning control, other than a DECRC while one was. -/
theorem termPutc_positions {t : Terminal} {c : UInt8} (positions : Positions t c)
    (notRestore : ¬ RestoresPending t c) : (termPutc t c).pendingWrap = false := by
  unfold Positions at positions
  cases parser : t.state with
  | normal =>
      rw [parser] at positions
      rw [termPutc_normal parser]
      rcases positions with rfl | rfl | rfl | rfl
      · rfl
      · obtain ⟨_, _, _, _, _, _, _, fed⟩ := termLineFeed_touches { t with pendingWrap := false }
        show (termLineFeed { t with pendingWrap := false }).pendingWrap = false
        rw [fed]
      · rfl
      · rfl
  | esc =>
      rw [parser] at positions
      rw [termPutc_esc parser]
      rcases positions with rfl | rfl
      · show t.pendingWrap = false
        by_contra pending
        exact notRestore ⟨parser, rfl, by simpa using pending⟩
      · obtain ⟨_, _, cleared⟩ := setActiveGrid_touches (termResetState { t with state := .normal })
          (gridClearAll (termResetState { t with state := .normal }).activeGrid defaultFg defaultBg)
        show (Terminal.setActiveGrid _ _).pendingWrap = false
        rw [cleared]
        rfl
  | csi =>
      rw [parser] at positions
      rw [termPutc_final parser positions]
      exact (termDispatchCsi_ends _ _).1
  | escCharset =>
      rw [parser] at positions
      exact positions.elim
  | osc =>
      rw [parser] at positions
      exact positions.elim

/-- A printed byte that makes a wrap pending leaves the cursor in the last column. -/
theorem termPutc_prints {t : Terminal} {c : UInt8} (prints : Prints t c)
    (pending : (termPutc t c).pendingWrap = true) : (termPutc t c).curCol = termCols - 1 := by
  rw [termPutc_print prints.1 prints.2] at pending ⊢
  rw [termPutcPrint_pendingWrap] at pending
  have last := of_decide_eq_true pending
  rw [termPutcPrint, putCell_curCol, if_pos last, last]

/-! ### The flag along a run -/

/-- A wrap is pending only in the last column. -/
def PendingInLastColumn (t : Terminal) : Prop := t.pendingWrap = true → t.curCol = termCols - 1

theorem termPutc_pendingInLastColumn {t : Terminal} (inv : PendingInLastColumn t) {c : UInt8}
    (notRestore : ¬ RestoresPending t c) : PendingInLastColumn (termPutc t c) := by
  intro pending
  by_cases prints : Prints t c
  · exact termPutc_prints prints pending
  by_cases positions : Positions t c
  · rw [termPutc_positions positions notRestore] at pending
    cases pending
  · obtain ⟨_, col, same⟩ := termPutc_quiet ⟨prints, positions⟩
    rw [col]
    exact inv (same.symm.trans pending)

/-- Quiet bytes leave the cursor and the flag where they are. -/
theorem terminalFeed_quiet {t : Terminal} {bytes : List UInt8}
    (quiet : Run.Meets termPutc Quiet t bytes) :
    (terminalFeed t bytes).curRow = t.curRow ∧ (terminalFeed t bytes).curCol = t.curCol ∧
      (terminalFeed t bytes).pendingWrap = t.pendingWrap := by
  induction bytes generalizing t with
  | nil => exact ⟨rfl, rfl, rfl⟩
  | cons c bytes ih =>
      obtain ⟨row, col, pending⟩ := termPutc_quiet quiet.1
      obtain ⟨restRow, restCol, restPending⟩ := ih quiet.2
      exact ⟨restRow.trans row, restCol.trans col, restPending.trans pending⟩

/-- The byte is written at this position, whatever is pending. -/
def WrittenAt (t : Terminal) (row col : Int) (c : UInt8) : Prop :=
  termPutc t c = putCell { t with curRow := row, curCol := col } c

/-- What the flag is for: it is pending only in the last column, and after a positioning control
the next printed byte is written where the control put the cursor. -/
structure WrapKept (t : Terminal) (c : UInt8) : Prop where
  lastColumn : PendingInLastColumn (termPutc t c)
  written : Positions t c → ∀ (quiet : List UInt8) (next : UInt8),
    Run.Meets termPutc Quiet (termPutc t c) quiet →
    (terminalFeed (termPutc t c) quiet).state = .normal → isPrintable next = true →
    WrittenAt (terminalFeed (termPutc t c) quiet) (termPutc t c).curRow (termPutc t c).curCol next

/-- A byte printed while a wrap is pending is not written at the cursor. -/
theorem not_writtenAt_of_pending {t : Terminal} (normal : t.state = .normal)
    (pending : t.pendingWrap = true) {c : UInt8} (printable : isPrintable c = true) :
    ¬ WrittenAt t t.curRow t.curCol c := by
  intro written
  have flag := congrArg Terminal.pendingWrap written
  rw [termPutc_print normal printable, termPutcPrint_pendingWrap, autowrap_curCol pending,
    putCell_pendingWrap, pending, Bool.or_true] at flag
  exact absurd flag (by decide)

theorem wrapKept_iff {t : Terminal} (inv : PendingInLastColumn t) (c : UInt8) :
    WrapKept t c ↔ ¬ RestoresPending t c := by
  constructor
  · rintro kept ⟨esc, rfl, pending⟩
    have positions : Positions t 0x38 := by
      rw [Positions, esc]
      exact Or.inl rfl
    have restored : (termPutc t 0x38).state = .normal ∧ (termPutc t 0x38).pendingWrap = true := by
      rw [termPutc_esc esc]
      exact ⟨rfl, pending⟩
    exact not_writtenAt_of_pending restored.1 restored.2 (by decide)
      (kept.written positions [] 0x41 trivial restored.1 (by decide))
  · intro notRestore
    refine ⟨termPutc_pendingInLastColumn inv notRestore, ?_⟩
    intro positions quiet next meets normal printable
    obtain ⟨row, col, same⟩ := terminalFeed_quiet meets
    have clear := same.trans (termPutc_positions positions notRestore)
    rw [WrittenAt, termPutc_print normal printable, termPutcPrint, autowrap_of_not_pending clear,
      ← row, ← col]

/-- **When the pending wrap is kept right**: along a run from a fresh terminal, exactly when no
DECRC of the run is executed while a wrap is pending. -/
theorem pendingWrap_kept_iff (bytes : List UInt8) :
    Run.Meets termPutc WrapKept terminalCreate bytes ↔
      Run.Meets termPutc (fun t c => ¬ RestoresPending t c) terminalCreate bytes := by
  have start : PendingInLastColumn terminalCreate := by
    intro pending
    cases pending
  exact Run.meets_congr (fun _ c inv => wrapKept_iff inv c)
    (fun _ _ inv => termPutc_pendingInLastColumn inv) start

/-- A full line, then DECRC. -/
def fullLine : List UInt8 := List.replicate 80 0x41

theorem pendingWrap_kept_fails :
    ¬ ∀ bytes : List UInt8, Run.Meets termPutc WrapKept terminalCreate bytes := by
  intro kept
  have steps := Run.meets_append.mp (kept ((fullLine ++ [0x1B]) ++ [0x38]))
  have column := steps.2.1.lastColumn (by decide +kernel)
  exact absurd column (by decide +kernel)

end Tab5
