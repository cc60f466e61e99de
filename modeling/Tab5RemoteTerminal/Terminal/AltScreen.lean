/-
**The alternate screen and the saved cursor.**

Mode 1049 keeps the main screen's cursor in `saved_row` and `saved_col`, the slot DECSC writes.

* `termPutc_saved`: while the alternate screen is active, DECSC is the only writer of the slot. A
  nested `?1049h` finds the screen active and saves nothing.
* `savedCursor_after`: after a run on the alternate screen the slot holds the cursor of its last
  DECSC (`lastSave`), or what it held before.
* `altScreen_restores_iff`: leaving restores the main cursor exactly when that is the same.
-/

import Tab5RemoteTerminal.Terminal.Sequences

namespace Tab5

/-! ### The slot -/

/-- A cursor position. -/
abbrev Position := Int × Int

def cursorAt (t : Terminal) : Position := (t.curRow, t.curCol)

def savedCursor (t : Terminal) : Position := (t.savedRow, t.savedCol)

/-- A byte that executes DECSC. -/
def SavesCursor (t : Terminal) (c : UInt8) : Prop := t.state = .esc ∧ c = 0x37

instance (t : Terminal) (c : UInt8) : Decidable (SavesCursor t c) := by
  unfold SavesCursor; infer_instance

/-- The cursor at the last DECSC a text executes. -/
def lastSave : Terminal → List UInt8 → Option Position
  | _, [] => none
  | t, c :: rest =>
      (lastSave (termPutc t c) rest).or (if SavesCursor t c then some (cursorAt t) else none)

/-! ### Who writes the slot -/

theorem setAltScreen_saved {t : Terminal} {enable : Bool} (kept : enable = true → t.altActive = true)
    (mode : Int) : savedCursor (setAltScreen t mode enable) = savedCursor t := by
  unfold setAltScreen
  cases enable with
  | true =>
      rw [if_neg (by simp [kept rfl]), if_neg (by simp)]
  | false =>
      rw [if_neg (by simp)]
      split
      · rfl
      · rfl

theorem termSetPrivateMode_saved {t : Terminal} {enable : Bool}
    (kept : enable = true → t.altActive = true) (mode : Int) :
    savedCursor (termSetPrivateMode t mode enable) = savedCursor t ∧
      (enable = true → (termSetPrivateMode t mode enable).altActive = true) := by
  unfold termSetPrivateMode
  split_ifs
  · exact ⟨rfl, kept⟩
  · exact ⟨rfl, kept⟩
  · exact ⟨setAltScreen_saved kept mode, fun on => (setAltScreen_active t mode enable).trans on⟩
  · exact ⟨rfl, kept⟩

theorem setPrivateModes_saved {t : Terminal} {enable : Bool}
    (kept : enable = true → t.altActive = true) (modes : List Int) :
    savedCursor (setPrivateModes t modes enable) = savedCursor t := by
  unfold setPrivateModes
  induction modes generalizing t with
  | nil => rfl
  | cons mode modes ih =>
      obtain ⟨same, still⟩ := termSetPrivateMode_saved kept (if mode < 0 then 0 else mode)
      exact (ih still).trans same

theorem termDispatchCsi_saved {t : Terminal} (active : t.altActive = true) (final : UInt8) :
    savedCursor (termDispatchCsi t final) = savedCursor t := by
  unfold termDispatchCsi
  dsimp only
  split
  · split
    · exact setPrivateModes_saved (t := { t with pendingWrap := false }) (fun _ => active) _
    · rfl
  · obtain ⟨_, _, _, _, _, _, _, _, _, same⟩ :=
      csiFinal_touches { t with pendingWrap := false } (csiParams t) final
    rw [same]
    rfl

/-- **While the alternate screen is active, only DECSC writes the slot.** -/
theorem termPutc_saved {t : Terminal} (active : t.altActive = true) (c : UInt8) :
    savedCursor (termPutc t c) = if SavesCursor t c then cursorAt t else savedCursor t := by
  by_cases saving : SavesCursor t c
  · obtain ⟨esc, rfl⟩ := saving
    rw [if_pos ⟨esc, rfl⟩, termPutc_esc esc]
    rfl
  rw [if_neg saving]
  have effect := termPutc_effect t c
  generalize termPutc t c = after at effect ⊢
  cases effect with
  | collects => rfl
  | saves esc byte => exact absurd ⟨esc, byte⟩ saving
  | restores => rfl
  | moves => rfl
  | resets =>
      obtain ⟨_, _, reset⟩ := resetScreen_touches { t with state := .normal }
      rw [reset]
      rfl
  | dispatches => exact termDispatchCsi_saved (t := { t with state := .normal }) active c
  | lineFeeds =>
      obtain ⟨_, _, _, _, _, _, _, fed⟩ := termLineFeed_touches { t with pendingWrap := false }
      rw [fed]
      rfl
  | prints =>
      obtain ⟨_, _, _, _, _, _, _, _, _, printed⟩ := termPutcPrint_touches t c
      rw [printed]
      rfl

/-- The slot after a run on the alternate screen. -/
theorem savedCursor_after {t : Terminal} {w : List UInt8}
    (active : Run.Always termPutc (fun t => t.altActive = true) t w) :
    savedCursor (terminalFeed t w) = (lastSave t w).getD (savedCursor t) := by
  induction w generalizing t with
  | nil => rfl
  | cons c w ih =>
      obtain ⟨here, rest⟩ := Run.always_cons.mp active
      rw [terminalFeed_cons, ih rest, termPutc_saved here, lastSave]
      cases lastSave (termPutc t c) w with
      | some position => rfl
      | none =>
          rw [Option.getD_none, Option.none_or]
          split
          · rfl
          · rfl

/-! ### Entering and leaving -/

/-- `ESC [ ? 1049 h`. -/
def enterAltScreen : List UInt8 := [0x1B, 0x5B, 0x3F, 0x31, 0x30, 0x34, 0x39, 0x68]

/-- `ESC [ ? 1049 l`. -/
def leaveAltScreen : List UInt8 := [0x1B, 0x5B, 0x3F, 0x31, 0x30, 0x34, 0x39, 0x6C]

/-- Mode 1049 alone is set or reset. -/
theorem terminalFeed_mode1049 {t : Terminal} (normal : t.state = .normal) {final : UInt8}
    (setOrReset : final = 0x68 ∨ final = 0x6C) :
    terminalFeed t [0x1B, 0x5B, 0x3F, 0x31, 0x30, 0x34, 0x39, final] =
      setAltScreen { collected t [0x3F] [0x31, 0x30, 0x34, 0x39] with pendingWrap := false } 1049
        (final = 0x68) := by
  have notParam : isParam final = false := by
    rcases setOrReset with rfl | rfl
    · decide
    · decide
  have walked := @terminalFeed_sequence t normal [0x3F] [0x31, 0x30, 0x34, 0x39] (by simp)
    (by decide) final notParam (by simp) []
  have isPrivate : (collected t [0x3F] [0x31, 0x30, 0x34, 0x39]).csiPrivate = true := rfl
  have one : csiParams (collected t [0x3F] [0x31, 0x30, 0x34, 0x39]) = [1049] := by
    show parseParams 16 [0x31, 0x30, 0x34, 0x39] = [1049]
    decide
  show terminalFeed t (0x1B :: 0x5B :: ([0x3F] ++ [0x31, 0x30, 0x34, 0x39] ++ final :: [])) = _
  rw [walked, terminalFeed, List.foldl_nil, termDispatchCsi, one]
  dsimp only
  rw [if_pos isPrivate, if_pos setOrReset]
  rfl

/-- Entering saves the cursor. -/
theorem enterAltScreen_saves {t : Terminal} (normal : t.state = .normal)
    (inactive : t.altActive = false) :
    savedCursor (terminalFeed t enterAltScreen) = cursorAt t := by
  rw [enterAltScreen, terminalFeed_mode1049 normal (Or.inl rfl), setAltScreen,
    if_pos ⟨rfl, inactive⟩]
  rfl

/-- Leaving restores what the slot holds. -/
theorem leaveAltScreen_restores {t : Terminal} (normal : t.state = .normal)
    (active : t.altActive = true) :
    cursorAt (terminalFeed t leaveAltScreen) = savedCursor t := by
  rw [leaveAltScreen, terminalFeed_mode1049 normal (Or.inr rfl), setAltScreen,
    if_neg (by simp), if_pos ⟨rfl, active⟩]
  rfl

/-- **When a session on the alternate screen gives the main cursor back**: exactly when its text
executes no DECSC, or the last one at the main cursor's own position. -/
theorem altScreen_restores_iff (t : Terminal) (w : List UInt8) (inactive : t.altActive = false)
    (normal : t.state = .normal)
    (active : Run.Always termPutc (fun t => t.altActive = true) (terminalFeed t enterAltScreen) w)
    (ends : (terminalFeed t (enterAltScreen ++ w)).state = .normal) :
    cursorAt (terminalFeed t (enterAltScreen ++ w ++ leaveAltScreen)) = cursorAt t ↔
      lastSave (terminalFeed t enterAltScreen) w = none ∨
        lastSave (terminalFeed t enterAltScreen) w = some (cursorAt t) := by
  have stillActive : (terminalFeed t (enterAltScreen ++ w)).altActive = true := by
    rw [terminalFeed_append]
    exact active.last
  rw [terminalFeed_append, leaveAltScreen_restores ends stillActive, terminalFeed_append,
    savedCursor_after active, enterAltScreen_saves normal inactive]
  cases lastSave (terminalFeed t enterAltScreen) w with
  | none => simp
  | some position => simp

theorem altScreen_restores_iff_text :
    cursorAt (terminalFeed terminalCreate (enterAltScreen ++ [0x41] ++ leaveAltScreen)) =
      cursorAt terminalCreate := by
  exact (altScreen_restores_iff terminalCreate [0x41] rfl rfl (by decide +kernel)
    (by decide +kernel)).mpr (Or.inl (by decide +kernel))

/-- `abc`, then a program on the alternate screen that saves the cursor at its home. -/
theorem altScreen_restores_fails :
    ¬ ∀ before w : List UInt8,
      (terminalFeed terminalCreate before).altActive = false →
      (terminalFeed terminalCreate before).state = .normal →
      Run.Always termPutc (fun t => t.altActive = true)
        (terminalFeed terminalCreate (before ++ enterAltScreen)) w →
      (terminalFeed terminalCreate (before ++ enterAltScreen ++ w)).state = .normal →
      cursorAt (terminalFeed terminalCreate (before ++ enterAltScreen ++ w ++ leaveAltScreen)) =
        cursorAt (terminalFeed terminalCreate before) := by
  intro restores
  have same := restores [0x61, 0x62, 0x63] [0x1B, 0x37] (by decide +kernel) (by decide +kernel)
    (by decide +kernel) (by decide +kernel)
  have here : cursorAt (terminalFeed terminalCreate [0x61, 0x62, 0x63]) = (0, 3) := by
    decide +kernel
  have there : cursorAt (terminalFeed terminalCreate
      ([0x61, 0x62, 0x63] ++ enterAltScreen ++ [0x1B, 0x37] ++ leaveAltScreen)) = (0, 0) := by
    decide +kernel
  rw [here, there] at same
  exact absurd same (by decide)

end Tab5
