/-
**The main screen behind the alternate one.**

While the alternate screen is active every write goes to `alt_grid`, and `push_scrollback` returns
at once. So the main screen and the scrollback stay as they were (`SameMain`) until the screen is
switched back: `mainScreen_frozen`.

What is displayed is another matter. `display_row` looks at the viewport's offset on either screen,
so the alternate one is shown alone exactly while the offset is 0: `altShown_iff`, and
`altShown_fails` for a switch of screens by a user who has scrolled back.
-/

import Tab5RemoteTerminal.Terminal.Rows

namespace Tab5

open CLoop

/-! ### Who switches screens -/

/-- The modes of the alternate screen. -/
def AltMode (mode : Int) : Prop := mode = 47 ∨ mode = 1047 ∨ mode = 1049

instance : DecidablePred AltMode := fun _ => inferInstanceAs (Decidable (_ ∨ _))

/-- A byte that executes a set of one of these modes, on the main screen. -/
def SwitchesToAlt (t : Terminal) (c : UInt8) : Prop :=
  t.altActive = false ∧ t.state = .csi ∧ t.csiPrivate = true ∧ c = 0x68 ∧
    ∃ p ∈ csiParams t, AltMode p

instance (t : Terminal) (c : UInt8) : Decidable (SwitchesToAlt t c) := by
  unfold SwitchesToAlt; infer_instance

theorem termSetPrivateMode_altActive (t : Terminal) (mode : Int) (enable : Bool) :
    (termSetPrivateMode t (if mode < 0 then 0 else mode) enable).altActive =
      if AltMode mode then enable else t.altActive := by
  by_cases alt : AltMode mode
  · have code := alt
    unfold AltMode at code
    have same : (if mode < 0 then 0 else mode) = mode := if_neg (by omega)
    rw [if_pos alt, same, termSetPrivateMode, if_neg (by omega), if_neg (by omega), if_pos code]
    exact setAltScreen_active t mode enable
  · have other : ¬ AltMode (if mode < 0 then 0 else mode) := by
      unfold AltMode at alt ⊢
      split <;> omega
    generalize (if mode < 0 then 0 else mode) = read at other ⊢
    rw [if_neg alt, termSetPrivateMode]
    split
    · rfl
    split
    · rfl
    · exact congrArg Terminal.altActive (if_neg other)

theorem setPrivateModes_altActive (t : Terminal) (params : List Int) (enable : Bool) :
    (setPrivateModes t params enable).altActive =
      if ∃ p ∈ params, AltMode p then enable else t.altActive := by
  unfold setPrivateModes
  induction params generalizing t with
  | nil => simp
  | cons param params ih =>
      rw [List.foldl_cons, ih, termSetPrivateMode_altActive]
      by_cases here : AltMode param
      · simp [here]
      · simp [here]

/-- `h` ends a control sequence. -/
theorem ends_of_set (t : Terminal) : EndsCsi t 0x68 := by
  rintro (⟨code, _⟩ | digit | code)
  · exact absurd code (by decide)
  · exact absurd digit (by decide)
  · exact absurd code (by decide)

/-- **Who activates the alternate screen.** -/
theorem altActive_iff {t : Terminal} (onMain : t.altActive = false) (c : UInt8) :
    (termPutc t c).altActive = true ↔ SwitchesToAlt t c := by
  constructor
  · intro active
    have effect := termPutc_effect t c
    generalize termPutc t c = after at effect active
    cases effect with
    | collects | saves | restores | moves =>
        rw [onMain] at active
        cases active
    | resets =>
        obtain ⟨_, _, reset⟩ := resetScreen_touches { t with state := .normal }
        rw [reset] at active
        exact absurd active (by simp [termResetState, onMain])
    | lineFeeds =>
        obtain ⟨_, _, _, _, _, _, _, fed⟩ := termLineFeed_touches { t with pendingWrap := false }
        rw [fed] at active
        exact absurd active (by simp [onMain])
    | prints =>
        obtain ⟨_, _, _, _, _, _, _, _, _, printed⟩ := termPutcPrint_touches t c
        rw [printed] at active
        exact absurd active (by simp [onMain])
    | dispatches csi =>
        refine ⟨onMain, csi, ?_⟩
        unfold termDispatchCsi at active
        dsimp only at active
        split at active
        · rename_i isPrivate
          split at active
          · rw [setPrivateModes_altActive] at active
            split at active
            · rename_i modes
              exact ⟨isPrivate, by simpa using active, modes⟩
            · exact absurd active (by simp [onMain])
          · exact absurd active (by simp [onMain])
        · obtain ⟨_, _, _, _, _, _, _, _, _, same⟩ := csiFinal_touches
            { t with state := .normal, pendingWrap := false } (csiParams { t with state := .normal }) c
          rw [same] at active
          exact absurd active (by simp [onMain])
  · rintro ⟨_, csi, isPrivate, rfl, modes⟩
    rw [termPutc_final csi (ends_of_set t), termDispatchCsi]
    dsimp only
    rw [if_pos isPrivate, if_pos (Or.inl rfl)]
    exact (setPrivateModes_altActive _ _ _).trans (if_pos modes)

/-! ### The main screen is frozen -/

/-- The main screen and the scrollback are as they were. -/
structure SameMain (t after : Terminal) : Prop where
  mainGrid : after.mainGrid = t.mainGrid
  buffer : SameBuffer t after

theorem SameMain.trans {first second third : Terminal} (one : SameMain first second)
    (two : SameMain second third) : SameMain first third where
  mainGrid := two.mainGrid.trans one.mainGrid
  buffer := ⟨two.buffer.1.trans one.buffer.1, two.buffer.2.1.trans one.buffer.2.1,
    two.buffer.2.2.trans one.buffer.2.2⟩

/-- And so is the viewport. -/
structure KeepsMain (t after : Terminal) : Prop where
  main : SameMain t after
  offset : after.scrollOffset = t.scrollOffset

theorem KeepsMain.trans {first second third : Terminal} (one : KeepsMain first second)
    (two : KeepsMain second third) : KeepsMain first third :=
  ⟨one.main.trans two.main, two.offset.trans one.offset⟩

theorem KeepsMain.refl (t : Terminal) : KeepsMain t t := ⟨⟨rfl, rfl, rfl, rfl⟩, rfl⟩

section Alt

variable {t : Terminal}

/-- A write through the `grid` pointer. -/
theorem keepsMain_setActiveGrid (onAlt : t.grid = .altGrid) (g : Grid) :
    KeepsMain t (t.setActiveGrid g) := by
  rw [Terminal.setActiveGrid, onAlt]
  exact ⟨⟨rfl, rfl, rfl, rfl⟩, rfl⟩

theorem keepsMain_lineFeed (onAlt : t.grid = .altGrid) (active : t.altActive = true) :
    KeepsMain t (termLineFeed t) := by
  have noPush : pushScrollback t 0 = t := if_pos active
  unfold termLineFeed
  split
  · rw [termScrollRegionUp, noPush, ite_self]
    exact keepsMain_setActiveGrid onAlt _
  split
  · exact ⟨⟨rfl, rfl, rfl, rfl⟩, rfl⟩
  · exact KeepsMain.refl t

theorem keepsMain_autowrap (onAlt : t.grid = .altGrid) (active : t.altActive = true) :
    KeepsMain t (autowrap t) ∧ (autowrap t).grid = .altGrid := by
  unfold autowrap
  split
  · have home : KeepsMain t { t with curCol := 0 } := ⟨⟨rfl, rfl, rfl, rfl⟩, rfl⟩
    have fed : KeepsMain { t with curCol := 0 } (termLineFeed { t with curCol := 0 }) :=
      keepsMain_lineFeed onAlt active
    obtain ⟨_, _, _, _, _, _, _, same⟩ := termLineFeed_touches { t with curCol := 0 }
    refine ⟨(home.trans fed).trans ⟨⟨rfl, rfl, rfl, rfl⟩, rfl⟩, ?_⟩
    rw [same]
    exact onAlt
  · exact ⟨KeepsMain.refl t, onAlt⟩

theorem keepsMain_print (onAlt : t.grid = .altGrid) (active : t.altActive = true) (c : UInt8) :
    KeepsMain t (termPutcPrint t c) := by
  obtain ⟨wrapped, stillAlt⟩ := keepsMain_autowrap onAlt active
  have stored := keepsMain_setActiveGrid stillAlt ((autowrap t).activeGrid.store
    (cellIndex (autowrap t).curRow (autowrap t).curCol) (printedCell (autowrap t) c))
  refine (wrapped.trans stored).trans ?_
  unfold termPutcPrint putCell
  dsimp only
  split
  · exact ⟨⟨rfl, rfl, rfl, rfl⟩, rfl⟩
  · exact ⟨⟨rfl, rfl, rfl, rfl⟩, rfl⟩

theorem keepsMain_csiFinal (onAlt : t.grid = .altGrid) (params : List Int) (final : UInt8) :
    KeepsMain t (csiFinal t params final) := by
  unfold csiFinal
  split
  case h_7 =>
    unfold termEraseInDisplay
    dsimp only
    split_ifs
    all_goals exact keepsMain_setActiveGrid onAlt _
  case h_8 =>
    unfold termEraseInLine
    dsimp only
    split_ifs
    all_goals exact keepsMain_setActiveGrid onAlt _
  all_goals exact ⟨⟨rfl, rfl, rfl, rfl⟩, rfl⟩

/-- Setting and resetting modes writes to the alternate grid only, on either screen. -/
theorem keepsMain_setPrivateModes (t : Terminal) (params : List Int) (enable : Bool) :
    KeepsMain t (setPrivateModes t params enable) := by
  obtain ⟨_, _, _, _, _, _, _, _, _, same⟩ := setPrivateModes_touches t params enable
  rw [same]
  exact ⟨⟨rfl, rfl, rfl, rfl⟩, rfl⟩

/-- **Any byte** that finds the alternate screen active. -/
theorem keepsMain_putc (onAlt : t.grid = .altGrid) (active : t.altActive = true) (c : UInt8) :
    KeepsMain t (termPutc t c) := by
  have effect := termPutc_effect t c
  generalize termPutc t c = after at effect ⊢
  have unwrapped : KeepsMain t { t with pendingWrap := false } := ⟨⟨rfl, rfl, rfl, rfl⟩, rfl⟩
  have ended : KeepsMain t { t with state := .normal, pendingWrap := false } :=
    ⟨⟨rfl, rfl, rfl, rfl⟩, rfl⟩
  cases effect with
  | collects | saves | restores | moves => exact ⟨⟨rfl, rfl, rfl, rfl⟩, rfl⟩
  | resets =>
      have reset : KeepsMain t (termResetState { t with state := .normal }) :=
        ⟨⟨rfl, rfl, rfl, rfl⟩, rfl⟩
      refine reset.trans (keepsMain_setActiveGrid ?_ _)
      exact onAlt
  | dispatches =>
      unfold termDispatchCsi
      dsimp only
      split
      · split
        · exact ended.trans (keepsMain_setPrivateModes _ _ _)
        · exact ended
      · refine ended.trans (keepsMain_csiFinal ?_ _ c)
        exact onAlt
  | lineFeeds =>
      refine unwrapped.trans (keepsMain_lineFeed ?_ ?_)
      · exact onAlt
      · exact active
  | prints => exact keepsMain_print onAlt active c

/-- The switch itself writes to the alternate grid only. -/
theorem keepsMain_enter {c : UInt8} (switches : SwitchesToAlt t c) :
    KeepsMain t (termPutc t c) := by
  obtain ⟨_, csi, isPrivate, rfl, _⟩ := switches
  have ended : KeepsMain t { t with state := .normal, pendingWrap := false } :=
    ⟨⟨rfl, rfl, rfl, rfl⟩, rfl⟩
  rw [termPutc_final csi (ends_of_set t), termDispatchCsi]
  dsimp only
  rw [if_pos isPrivate, if_pos (Or.inl rfl)]
  exact ended.trans (keepsMain_setPrivateModes _ _ _)

/-- Neither scrolling nor rendering touches it. -/
theorem sameMain_step (ok : Buffered t) (active : t.altActive = true) (op : Op) :
    SameMain t (op.step t) := by
  cases op with
  | feed c => exact (keepsMain_putc (ok.gridPtr.mpr active) active c).main
  | scroll deltaLines => exact ⟨rfl, rfl, rfl, rfl⟩
  | render =>
      obtain ⟨_, _, _, _, _, _, rendered⟩ := terminalRender_fst t
      rw [Op.step, rendered]
      exact ⟨rfl, rfl, rfl, rfl⟩

theorem sameMain_after (ok : Buffered t) {ops : List Op}
    (active : Run.Always Op.step (fun t => t.altActive = true) t ops) :
    SameMain t (Run.after Op.step t ops) := by
  induction ops generalizing t with
  | nil => exact ⟨rfl, rfl, rfl, rfl⟩
  | cons op ops ih =>
      obtain ⟨here, rest⟩ := Run.always_cons.mp active
      exact (sameMain_step ok here op).trans (ih (ok.step op) rest)

end Alt

/-- **The main screen is frozen** while the alternate one is active: whatever is fed, it and the
scrollback stay as they were, since the switch (`done`, `enter`); and the byte that switches back
shows the main grid again. -/
theorem mainScreen_frozen (ops : List Op) (w : List UInt8)
    (active : Run.Always termPutc (fun t => t.altActive = true)
      (Run.after Op.step terminalCreate ops) w) :
    let t := Run.after Op.step terminalCreate ops
    let after := terminalFeed t w
    SameMain t after ∧
      (∀ c, (termPutc after c).altActive = false →
        (termPutc after c).grid = .mainGrid ∧ SameMain t (termPutc after c)) ∧
      ∀ (done since : List Op) (enter : UInt8), ops = done ++ .feed enter :: since →
        (Run.after Op.step terminalCreate done).altActive = false →
        Run.Always Op.step (fun t => t.altActive = true)
          (termPutc (Run.after Op.step terminalCreate done) enter) since →
        SameMain (Run.after Op.step terminalCreate done) t := by
  intro t after
  have ok := buffered_after ops
  have frozen : SameMain t after := by
    have fed := sameMain_after ok (always_feed active)
    rwa [← terminalFeed_eq_run] at fed
  refine ⟨frozen, fun c leaves => ?_, fun done since enter shape onMain stays => ?_⟩
  · have okAfter : Buffered after := ok.feed w
    have pointer : (termPutc after c).grid = .mainGrid := by
      cases grid : (termPutc after c).grid with
      | mainGrid => rfl
      | altGrid =>
          rw [(okAfter.putc c).gridPtr.mp grid] at leaves
          cases leaves
    have last : after.altActive = true := active.last
    exact ⟨pointer, frozen.trans (keepsMain_putc (okAfter.gridPtr.mpr last) last c).main⟩
  · have entered := (keepsMain_enter ((altActive_iff onMain enter).mp stays.first)).main
    have rest := sameMain_after ((buffered_after done).putc enter) stays
    have whole := Run.after_append Op.step terminalCreate done (.feed enter :: since)
    rw [← shape, Run.after_cons] at whole
    rw [show t = _ from whole]
    exact entered.trans rest

/-- `A`, the switch, and `B`. -/
theorem mainScreen_frozen_text :
    let t := Run.after Op.step terminalCreate
      ((0x41 :: [0x1B, 0x5B, 0x3F, 0x34, 0x37, 0x68]).map .feed)
    SameMain t (terminalFeed t [0x42]) :=
  (mainScreen_frozen _ [0x42] (by decide +kernel)).1

/-! ### What is displayed -/

/-- The alternate screen is shown, row by row, and its cursor whenever it is visible. -/
structure ShowsAlt (t : Terminal) : Prop where
  rows : ∀ r, 0 ≤ r → r < termRows → displayRow t r = .grid (r * termCols)
  grid : t.grid = .altGrid
  cursor : showCursor t = t.cursorVisible

/-- If the alternate screen is active, it is shown. -/
def AltShown (t : Terminal) : Prop := t.altActive = true → ShowsAlt t

/-- The condition: the switch finds the viewport at the live screen, and on the alternate screen no
scroll goes back, unless there is nothing to go back to. -/
def StaysLive (t : Terminal) : Op → Prop
  | .feed c => SwitchesToAlt t c → t.scrollOffset = 0
  | .scroll deltaLines =>
      t.altActive = true → wrap32 (t.scrollOffset + deltaLines) ≤ 0 ∨ t.scrollbackCount = 0
  | .render => True

theorem showsAlt_iff {t : Terminal} (onAlt : t.grid = .altGrid) :
    ShowsAlt t ↔ t.scrollOffset = 0 := by
  constructor
  · intro shows
    have top := shows.rows 0 le_rfl (by decide)
    unfold displayRow at top
    dsimp only at top
    split at top
    · cases top
    · have index := RowPtr.grid.inj top
      unfold termCols at index
      omega
  · intro live
    refine ⟨fun r low high => ?_, onAlt, ?_⟩
    · unfold displayRow
      dsimp only
      rw [if_neg (by omega)]
      congr 2
      omega
    · simp [showCursor, live]

theorem altShown_iff_live {t : Terminal} (ok : Buffered t) :
    AltShown t ↔ (t.altActive = true → t.scrollOffset = 0) :=
  forall_congr' fun active => showsAlt_iff (ok.gridPtr.mpr active)

theorem altShown_step {t : Terminal} (ok : Buffered t) (shown : AltShown t) (op : Op) :
    AltShown (op.step t) ↔ StaysLive t op := by
  rw [altShown_iff_live ok] at shown
  rw [altShown_iff_live (ok.step op)]
  cases op with
  | feed c =>
      cases active : t.altActive with
      | true =>
          have kept := (keepsMain_putc (ok.gridPtr.mpr active) active c).offset
          refine iff_of_true (fun _ => kept.trans (shown active)) fun switches => ?_
          rw [switches.1] at active
          cases active
      | false =>
          refine (forall_congr' fun switched => ?_).trans
            (imp_congr (altActive_iff active c) Iff.rfl)
          have kept := (keepsMain_enter ((altActive_iff active c).mp switched)).offset
          show (termPutc t c).scrollOffset = 0 ↔ _
          rw [kept]
  | scroll deltaLines =>
      obtain ⟨_, _, countHigh⟩ := ok.view
      refine forall_congr' fun active => ?_
      show (terminalScroll t deltaLines).scrollOffset = 0 ↔ _
      unfold terminalScroll
      dsimp only
      split <;> split <;> omega
  | render =>
      obtain ⟨_, _, _, _, _, _, rendered⟩ := terminalRender_fst t
      rw [Op.step, rendered]
      exact iff_of_true shown trivial

/-- **When the alternate screen has no scrollback**: along a run exactly if every switch to it
finds the viewport live and every scroll on it leaves it so. -/
theorem altShown_iff (ops : List Op) :
    Run.Always Op.step AltShown terminalCreate ops ↔
      Run.Meets Op.step StaysLive terminalCreate ops := by
  have buffered := terminalCreate_buffered.always ops
  have start : AltShown terminalCreate := fun active => by cases active
  have keeps : ∀ (t : Terminal) (op : Op), Buffered t ∧ AltShown t →
      (Buffered (op.step t) ∧ AltShown (op.step t) ↔ StaysLive t op) :=
    fun _ op inv => (and_iff_right (inv.1.step op)).trans (altShown_step inv.1 inv.2 op)
  have both : Run.Always Op.step (fun t => Buffered t ∧ AltShown t) terminalCreate ops ↔
      Run.Meets Op.step StaysLive terminalCreate ops :=
    Run.always_iff_meets keeps ⟨terminalCreate_buffered, start⟩
  constructor
  · exact fun shown => both.mp (buffered.and shown)
  · exact fun meets => (both.mpr meets).mono fun _ inv => inv.2

/-- A line scrolled off, one line back, and mode 47. -/
def scrolledBackSwitch : List Op :=
  [0x1B, 0x5B, 0x34, 0x32, 0x48, 0x0A].map .feed ++ .scroll 1 ::
    [0x1B, 0x5B, 0x3F, 0x34, 0x37, 0x68].map .feed

theorem altShown_fails :
    ¬ ∀ ops : List Op, Run.Always Op.step AltShown terminalCreate ops := by
  intro all
  have shown := (all scrolledBackSwitch).last (by decide +kernel)
  exact absurd (shown.rows 0 le_rfl (by decide)) (by decide +kernel)

end Tab5
