/-
**Vertical cursor moves and the margins.**

CUU stops at the top margin and CUD at the bottom one, unless the cursor starts beyond it: then the
edge of the screen is the limit (`upLimit`, `downLimit`). `term_dispatch_csi` clamps to the margin in
any case, so from outside the region the cursor is pulled to the margin, against the direction of
the move: `cursorMargins_iff`.
-/

import Tab5RemoteTerminal.Terminal.Control

namespace Tab5

open CLoop
open Json (printNat)

/-- `0 <= scroll_top < scroll_bottom <= TERM_ROWS - 1`. -/
def ValidRegion (t : Terminal) : Prop :=
  0 ≤ t.scrollTop ∧ t.scrollTop < t.scrollBottom ∧ t.scrollBottom ≤ termRows - 1

instance (t : Terminal) : Decidable (ValidRegion t) := by
  unfold ValidRegion; infer_instance

/-- The row a cursor moving up may not pass. -/
def upLimit (t : Terminal) : Int := if t.curRow ≥ t.scrollTop then t.scrollTop else 0

/-- The row a cursor moving down may not pass. -/
def downLimit (t : Terminal) : Int :=
  if t.curRow ≤ t.scrollBottom then t.scrollBottom else termRows - 1

/-- A move up by `n` rows as it should be. -/
def MovedUp (t : Terminal) (n : Nat) (after : Terminal) : Prop :=
  after.curRow = max (t.curRow - max n 1) (upLimit t) ∧ after.curRow ≤ t.curRow

/-- A move down by `n` rows as it should be. -/
def MovedDown (t : Terminal) (n : Nat) (after : Terminal) : Prop :=
  after.curRow = min (t.curRow + max n 1) (downLimit t) ∧ t.curRow ≤ after.curRow

section

variable {t : Terminal} {digits : List UInt8} {n : Nat}

/-- `CSI n A` as the code has it. -/
theorem cursorUp_row (normal : t.state = .normal) (cursor : OnScreen t.curRow t.curCol)
    (spells : Spells digits n) (small : n < 2147483648) :
    (terminalFeed t (csiSequence digits 0x41)).curRow = max (t.curRow - max n 1) t.scrollTop := by
  obtain ⟨⟨rowLow, rowHigh⟩, _⟩ := cursor
  unfold termRows at rowHigh
  have count := firstParamOr1_spelled spells small
  have fits : wrap32 (t.curRow - max n 1) = t.curRow - max n 1 :=
    wrap32_of_range (by omega) (by omega)
  rw [terminalFeed_csiSequence normal spells.fields spells.fits (by decide) (by decide)]
  show (if wrap32 (t.curRow - firstParamOr1 (parseParams 16 digits)) < t.scrollTop then t.scrollTop
    else wrap32 (t.curRow - firstParamOr1 (parseParams 16 digits))) = _
  rw [count, fits]
  split <;> omega

/-- `CSI n B` as the code has it. -/
theorem cursorDown_row (normal : t.state = .normal) (cursor : OnScreen t.curRow t.curCol)
    (spells : Spells digits n) (small : n < 2147483648 - termRows) :
    (terminalFeed t (csiSequence digits 0x42)).curRow =
      min (t.curRow + max n 1) t.scrollBottom := by
  obtain ⟨⟨rowLow, rowHigh⟩, _⟩ := cursor
  unfold termRows at rowHigh small
  have count := firstParamOr1_spelled spells (by omega)
  have fits : wrap32 (t.curRow + max n 1) = t.curRow + max n 1 :=
    wrap32_of_range (by omega) (by omega)
  rw [terminalFeed_csiSequence normal spells.fields spells.fits (by decide) (by decide)]
  show (if wrap32 (t.curRow + firstParamOr1 (parseParams 16 digits)) > t.scrollBottom
    then t.scrollBottom else wrap32 (t.curRow + firstParamOr1 (parseParams 16 digits))) = _
  rw [count, fits]
  split <;> omega

/-- **When CUU and CUD respect direction and margins**: exactly when the cursor does not start
beyond the margin they move towards. -/
theorem cursorMargins_iff (t : Terminal) (normal : t.state = .normal) (region : ValidRegion t)
    (cursor : OnScreen t.curRow t.curCol) (n : Nat) (small : n < 2147483648 - termRows)
    (digits : List UInt8) (spells : Spells digits n) :
    (MovedUp t n (terminalFeed t (csiSequence digits 0x41)) ↔ t.scrollTop ≤ t.curRow) ∧
      (MovedDown t n (terminalFeed t (csiSequence digits 0x42)) ↔ t.curRow ≤ t.scrollBottom) := by
  obtain ⟨topLow, ordered, bottomHigh⟩ := region
  obtain ⟨rowLow, rowHigh⟩ := cursor.1
  have up := cursorUp_row normal cursor spells (by unfold termRows at small; omega)
  have down := cursorDown_row normal cursor spells small
  constructor
  · rw [MovedUp, up, upLimit]
    constructor
    · rintro ⟨_, notDown⟩
      omega
    · intro inside
      rw [if_pos inside]
      omega
  · rw [MovedDown, down, downLimit]
    constructor
    · rintro ⟨_, notUp⟩
      omega
    · intro inside
      rw [if_pos inside]
      omega

end

/-- A cursor between the margins. -/
def insideRegion : Terminal :=
  { terminalCreate with scrollTop := 4, scrollBottom := 9, curRow := 6 }

/-- Three rows up, and only two to the margin. -/
theorem cursorMargins_iff_inside :
    MovedUp insideRegion 3 (terminalFeed insideRegion (csiSequence (printNat 3) 0x41)) :=
  (cursorMargins_iff insideRegion rfl (by decide) (by decide) 3 (by decide) (printNat 3)
    (printNat_spells (by decide))).1.mpr (by decide)

/-- `ESC [ 5;10 r`, `ESC [ H`: a header line above the region, with the cursor in it. -/
def headerLine : List UInt8 := csiSequence [0x35, 0x3B, 0x31, 0x30] 0x72 ++ csiSequence [] 0x48

/-- There, `CSI 1 A` moves the cursor down to the region. -/
theorem cursorMargins_fails :
    ¬ ∀ (t : Terminal), t.state = .normal → ValidRegion t → OnScreen t.curRow t.curCol →
      ∀ (n : Nat), n < 2147483648 - termRows → ∀ (digits : List UInt8), Spells digits n →
      MovedUp t n (terminalFeed t (csiSequence digits 0x41)) ∧
        MovedDown t n (terminalFeed t (csiSequence digits 0x42)) := by
  intro moves
  have up := (moves (terminalFeed terminalCreate headerLine) (by decide +kernel) (by decide +kernel)
    (by decide +kernel) 1 (by decide) [0x31] ⟨by decide +kernel, by decide, by decide +kernel⟩).1.2
  exact absurd up (by decide +kernel)

end Tab5
