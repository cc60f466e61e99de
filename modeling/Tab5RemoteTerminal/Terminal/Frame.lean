/-
**What each operation leaves alone.**

One lemma for each function of the feed path, which names the fields it may change; every other
field follows by `rfl`. `termPutc_final` and the `terminalFeed` lemmas walk through an escape
sequence byte by byte.
-/

import Tab5RemoteTerminal.Terminal.View

namespace Tab5

open CLoop

/-! ### The fields an operation may change -/

theorem setActiveGrid_touches (t : Terminal) (g : Grid) :
    ∃ main alt, t.setActiveGrid g = { t with mainGrid := main, altGrid := alt } := by
  unfold Terminal.setActiveGrid
  split
  · exact ⟨g, t.altGrid, rfl⟩
  · exact ⟨t.mainGrid, g, rfl⟩

@[simp] theorem activeGrid_setActiveGrid (t : Terminal) (g : Grid) :
    (t.setActiveGrid g).activeGrid = g := by
  unfold Terminal.setActiveGrid Terminal.activeGrid
  cases t.grid <;> simp

theorem pushScrollback_touches (t : Terminal) (row : Int) :
    ∃ ring head count offset, pushScrollback t row =
      { t with
        scrollback := ring
        scrollbackHead := head
        scrollbackCount := count
        scrollOffset := offset } := by
  unfold pushScrollback
  split
  · exact ⟨_, _, _, _, rfl⟩
  · exact ⟨_, _, _, _, rfl⟩

theorem termScrollRegionUp_touches (t : Terminal) (top bottom : Int) :
    ∃ main alt ring head count offset, termScrollRegionUp t top bottom =
      { t with
        mainGrid := main
        altGrid := alt
        scrollback := ring
        scrollbackHead := head
        scrollbackCount := count
        scrollOffset := offset } := by
  unfold termScrollRegionUp
  dsimp only
  split
  · obtain ⟨ring, head, count, offset, pushed⟩ := pushScrollback_touches t 0
    rw [pushed]
    obtain ⟨main, alt, same⟩ := setActiveGrid_touches
      { t with
        scrollback := ring
        scrollbackHead := head
        scrollbackCount := count
        scrollOffset := offset } _
    rw [same]
    exact ⟨main, alt, ring, head, count, offset, rfl⟩
  · obtain ⟨main, alt, same⟩ := setActiveGrid_touches t _
    rw [same]
    exact ⟨main, alt, _, _, _, _, rfl⟩

/-- A line feed: cells, history and the row of the cursor. -/
def ScrollTouched (t after : Terminal) : Prop :=
  ∃ main alt ring head count offset row, after =
    { t with
      mainGrid := main
      altGrid := alt
      scrollback := ring
      scrollbackHead := head
      scrollbackCount := count
      scrollOffset := offset
      curRow := row }

theorem termLineFeed_touches (t : Terminal) : ScrollTouched t (termLineFeed t) := by
  unfold termLineFeed
  split
  · obtain ⟨main, alt, ring, head, count, offset, scrolled⟩ :=
      termScrollRegionUp_touches t t.scrollTop t.scrollBottom
    exact ⟨main, alt, ring, head, count, offset, t.curRow, scrolled⟩
  split
  · exact ⟨_, _, _, _, _, _, _, rfl⟩
  · exact ⟨_, _, _, _, _, _, _, rfl⟩

/-- The row a line feed leaves the cursor in. -/
def nextRow (t : Terminal) : Int :=
  if t.curRow = t.scrollBottom ∨ t.curRow = termRows - 1 then t.curRow else t.curRow + 1

theorem termLineFeed_nextRow {t : Terminal} (row : t.curRow < termRows) :
    (termLineFeed t).curRow = nextRow t := by
  unfold termLineFeed nextRow
  by_cases bottom : t.curRow = t.scrollBottom
  · obtain ⟨_, _, _, _, _, _, scrolled⟩ := termScrollRegionUp_touches t t.scrollTop t.scrollBottom
    rw [if_pos bottom, if_pos (Or.inl bottom), scrolled]
  · rw [if_neg bottom]
    by_cases above : t.curRow < termRows - 1
    · rw [if_pos above, if_neg (by omega)]
    · rw [if_neg above, if_pos (by omega)]

/-- A printed byte: what a line feed may change, the cursor's column and the pending wrap. -/
def PrintTouched (t after : Terminal) : Prop :=
  ∃ main alt ring head count offset row col pending, after =
    { t with
      mainGrid := main
      altGrid := alt
      scrollback := ring
      scrollbackHead := head
      scrollbackCount := count
      scrollOffset := offset
      curRow := row
      curCol := col
      pendingWrap := pending }

theorem autowrap_touches (t : Terminal) : PrintTouched t (autowrap t) := by
  unfold autowrap
  split
  · obtain ⟨_, _, _, _, _, _, _, fed⟩ := termLineFeed_touches { t with curCol := 0 }
    rw [fed]
    exact ⟨_, _, _, _, _, _, _, _, _, rfl⟩
  · exact ⟨_, _, _, _, _, _, _, _, _, rfl⟩

theorem putCell_touches (t : Terminal) (c : UInt8) :
    ∃ main alt col pending, putCell t c =
      { t with mainGrid := main, altGrid := alt, curCol := col, pendingWrap := pending } := by
  obtain ⟨main, alt, stored⟩ := setActiveGrid_touches t
    (t.activeGrid.store (cellIndex t.curRow t.curCol) (printedCell t c))
  rw [putCell, stored]
  dsimp only
  split
  · exact ⟨main, alt, _, _, rfl⟩
  · exact ⟨main, alt, _, _, rfl⟩

/-- A byte is printed with no wrap pending. -/
theorem autowrap_pendingWrap (t : Terminal) : (autowrap t).pendingWrap = false := by
  unfold autowrap
  split
  · rfl
  · simpa using ‹¬ t.pendingWrap = true›

theorem autowrap_of_not_pending {t : Terminal} (clear : t.pendingWrap = false) :
    autowrap t = t := by
  rw [autowrap, clear, if_neg Bool.false_ne_true]

theorem autowrap_of_pending {t : Terminal} (wrap : t.pendingWrap = true) :
    autowrap t = { termLineFeed { t with curCol := 0 } with pendingWrap := false } := by
  rw [autowrap, if_pos wrap]

/-- The pending wrap takes the cursor to the first column. -/
theorem autowrap_curCol {t : Terminal} (wrap : t.pendingWrap = true) : (autowrap t).curCol = 0 := by
  obtain ⟨_, _, _, _, _, _, _, fed⟩ := termLineFeed_touches { t with curCol := 0 }
  rw [autowrap_of_pending wrap, fed]

/-- Writing in the last column makes a wrap pending; elsewhere the flag stays. -/
theorem putCell_pendingWrap (t : Terminal) (c : UInt8) :
    (putCell t c).pendingWrap = (decide (t.curCol = termCols - 1) || t.pendingWrap) := by
  obtain ⟨main, alt, stored⟩ := setActiveGrid_touches t
    (t.activeGrid.store (cellIndex t.curRow t.curCol) (printedCell t c))
  rw [putCell, stored]
  dsimp only
  split
  · rw [decide_eq_true ‹_›, Bool.true_or]
  · rw [decide_eq_false ‹_›, Bool.false_or]

/-- A wrap is pending after a printed byte exactly when it was written in the last column. -/
theorem termPutcPrint_pendingWrap (t : Terminal) (c : UInt8) :
    (termPutcPrint t c).pendingWrap = decide ((autowrap t).curCol = termCols - 1) := by
  rw [termPutcPrint, putCell_pendingWrap, autowrap_pendingWrap, Bool.or_false]

theorem putCell_curCol (t : Terminal) (c : UInt8) : (putCell t c).curCol =
    if t.curCol = termCols - 1 then t.curCol else wrap32 (t.curCol + 1) := by
  obtain ⟨main, alt, stored⟩ := setActiveGrid_touches t
    (t.activeGrid.store (cellIndex t.curRow t.curCol) (printedCell t c))
  rw [putCell, stored]
  dsimp only
  split
  · rfl
  · rfl

/-- The cursor stays on the screen. -/
theorem putCell_curCol_range {t : Terminal} (c : UInt8) (col : 0 ≤ t.curCol ∧ t.curCol < termCols) :
    0 ≤ (putCell t c).curCol ∧ (putCell t c).curCol < termCols := by
  rw [putCell_curCol]
  unfold termCols at *
  split
  · exact col
  · rw [wrap32_of_range (by omega) (by omega)]
    omega

/-- So it does at a tab. -/
theorem tabColumn_range {col : Int} (low : 0 ≤ col) (high : col < termCols) :
    let tab := wrap32 ((col.tdiv 8 + 1) * 8)
    0 ≤ (if tab > termCols - 1 then termCols - 1 else tab) ∧
      (if tab > termCols - 1 then termCols - 1 else tab) < termCols := by
  unfold termCols at *
  dsimp only
  rw [Int.tdiv_eq_ediv_of_nonneg low, wrap32_of_range (by omega) (by omega)]
  split <;> omega

/-- A printed byte fills the cell at the cursor and no other. -/
theorem putCell_activeGrid (t : Terminal) (c : UInt8) : (putCell t c).activeGrid =
    t.activeGrid.store (cellIndex t.curRow t.curCol) (printedCell t c) := by
  unfold putCell
  dsimp only
  split
  · exact activeGrid_setActiveGrid t _
  · exact activeGrid_setActiveGrid t _

theorem termPutcPrint_touches (t : Terminal) (c : UInt8) : PrintTouched t (termPutcPrint t c) := by
  obtain ⟨_, _, ring, head, count, offset, row, _, _, wrapped⟩ := autowrap_touches t
  obtain ⟨main, alt, col, pending, put⟩ := putCell_touches (autowrap t) c
  rw [termPutcPrint, put, wrapped]
  exact ⟨main, alt, ring, head, count, offset, row, col, pending, rfl⟩

theorem termEraseInLine_touches (t : Terminal) (mode : Int) :
    ∃ main alt, termEraseInLine t mode = { t with mainGrid := main, altGrid := alt } := by
  unfold termEraseInLine
  dsimp only
  split
  · exact setActiveGrid_touches t _
  split
  · exact setActiveGrid_touches t _
  · exact setActiveGrid_touches t _

theorem termEraseInDisplay_touches (t : Terminal) (mode : Int) :
    ∃ main alt, termEraseInDisplay t mode = { t with mainGrid := main, altGrid := alt } := by
  unfold termEraseInDisplay
  dsimp only
  split
  · exact setActiveGrid_touches t _
  split
  · exact setActiveGrid_touches t _
  · exact setActiveGrid_touches t _

/-- A final byte without private marker: cells, cursor, rendition and region. -/
theorem csiFinal_touches (t : Terminal) (params : List Int) (final : UInt8) :
    ∃ main alt row col fg bg attrs top bottom, csiFinal t params final =
      { t with
        mainGrid := main
        altGrid := alt
        curRow := row
        curCol := col
        curFg := fg
        curBg := bg
        curAttrs := attrs
        scrollTop := top
        scrollBottom := bottom } := by
  unfold csiFinal
  split
  case h_7 =>
    obtain ⟨main, alt, same⟩ := termEraseInDisplay_touches t (firstParam params)
    rw [same]
    exact ⟨main, alt, _, _, _, _, _, _, _, rfl⟩
  case h_8 =>
    obtain ⟨main, alt, same⟩ := termEraseInLine_touches t (firstParam params)
    rw [same]
    exact ⟨main, alt, _, _, _, _, _, _, _, rfl⟩
  all_goals exact ⟨_, _, _, _, _, _, _, _, _, rfl⟩

/-- A private mode: the alternate screen, the cursor and its saved position, two flags. -/
def ModeTouched (t after : Terminal) : Prop :=
  ∃ grid alt active row col savedRow savedCol visible appKeys, after =
    { t with
      grid := grid
      altGrid := alt
      altActive := active
      curRow := row
      curCol := col
      savedRow := savedRow
      savedCol := savedCol
      cursorVisible := visible
      appCursorKeys := appKeys }

theorem ModeTouched.trans {first second third : Terminal} (one : ModeTouched first second)
    (two : ModeTouched second third) : ModeTouched first third := by
  obtain ⟨_, _, _, _, _, _, _, _, _, rfl⟩ := one
  obtain ⟨grid, alt, active, row, col, savedRow, savedCol, visible, appKeys, rfl⟩ := two
  exact ⟨grid, alt, active, row, col, savedRow, savedCol, visible, appKeys, rfl⟩

theorem ModeTouched.refl (t : Terminal) : ModeTouched t t :=
  ⟨_, _, _, _, _, _, _, _, _, rfl⟩

theorem termSetPrivateMode_touches (t : Terminal) (mode : Int) (enable : Bool) :
    ModeTouched t (termSetPrivateMode t mode enable) := by
  unfold termSetPrivateMode
  split
  · exact ⟨_, _, _, _, _, _, _, _, _, rfl⟩
  split
  · exact ⟨_, _, _, _, _, _, _, _, _, rfl⟩
  split
  · unfold setAltScreen
    split
    · exact ⟨_, _, _, _, _, _, _, _, _, rfl⟩
    split
    · exact ⟨_, _, _, _, _, _, _, _, _, rfl⟩
    · exact ModeTouched.refl t
  · exact ModeTouched.refl t

theorem setPrivateModes_touches (t : Terminal) (params : List Int) (enable : Bool) :
    ModeTouched t (setPrivateModes t params enable) := by
  unfold setPrivateModes
  induction params generalizing t with
  | nil => exact ModeTouched.refl t
  | cons param params ih => exact (termSetPrivateMode_touches t _ enable).trans (ih _)

theorem setAltScreen_active (t : Terminal) (mode : Int) (enable : Bool) :
    (setAltScreen t mode enable).altActive = enable := by
  unfold setAltScreen
  cases enable <;> cases active : t.altActive <;> simp [active]

/-- A dispatched control sequence leaves no wrap pending and the parser as it was. -/
theorem termDispatchCsi_ends (t : Terminal) (final : UInt8) :
    (termDispatchCsi t final).pendingWrap = false ∧ (termDispatchCsi t final).state = t.state := by
  unfold termDispatchCsi
  dsimp only
  split
  · split
    · obtain ⟨_, _, _, _, _, _, _, _, _, same⟩ :=
        setPrivateModes_touches { t with pendingWrap := false } (csiParams t) (final = 0x68)
      rw [same]
      exact ⟨rfl, rfl⟩
    · exact ⟨rfl, rfl⟩
  · obtain ⟨_, _, _, _, _, _, _, _, _, same⟩ :=
      csiFinal_touches { t with pendingWrap := false } (csiParams t) final
    rw [same]
    exact ⟨rfl, rfl⟩

/-! ### Walking through a sequence -/

theorem terminalFeed_cons (t : Terminal) (c : UInt8) (data : List UInt8) :
    terminalFeed t (c :: data) = terminalFeed (termPutc t c) data := rfl

theorem terminalFeed_append (t : Terminal) (first second : List UInt8) :
    terminalFeed t (first ++ second) = terminalFeed (terminalFeed t first) second :=
  List.foldl_append

theorem termPutc_normal {t : Terminal} (normal : t.state = .normal) (c : UInt8) :
    termPutc t c = termPutcNormal t c := by
  rw [termPutc, normal]

theorem termPutc_esc {t : Terminal} (esc : t.state = .esc) (c : UInt8) :
    termPutc t c = termPutcEsc t c := by
  rw [termPutc, esc]

theorem termPutc_csi {t : Terminal} (csi : t.state = .csi) (c : UInt8) :
    termPutc t c = termPutcCsi t c := by
  rw [termPutc, csi]

theorem termPutc_osc {t : Terminal} (osc : t.state = .osc) (c : UInt8) :
    termPutc t c = termPutcOsc t c := by
  rw [termPutc, osc]

/-- `ESC` in the normal state. -/
theorem termPutc_escape {t : Terminal} (normal : t.state = .normal) :
    termPutc t 0x1B = { t with state := .esc } := by
  rw [termPutc_normal normal]
  rfl

/-- `ESC [`, from the normal state. -/
theorem terminalFeed_introducer {t : Terminal} (normal : t.state = .normal) (data : List UInt8) :
    terminalFeed t (0x1B :: 0x5B :: data) =
      terminalFeed { t with state := .csi, csiBuf := [], csiPrivate := false } data := by
  rw [terminalFeed_cons, termPutc_escape normal]
  rfl

/-- The byte ends a control sequence: it is not collected. -/
def EndsCsi (t : Terminal) (c : UInt8) : Prop :=
  ¬ ((c = 0x3F ∧ t.csiBuf.length = 0) ∨ isDigit c = true ∨ c = 0x3B)

theorem termPutc_final {t : Terminal} {c : UInt8} (csi : t.state = .csi)
    (ends : EndsCsi t c) : termPutc t c = termDispatchCsi { t with state := .normal } c := by
  unfold EndsCsi at ends
  rw [termPutc_csi csi, termPutcCsi, if_neg (by tauto), if_neg (by tauto)]

/-- Printable ASCII. -/
theorem lowByte_printable {c : UInt8} (low : 0x20 ≤ c) (high : c ≤ 0x7E) : isPrintable c = true := by
  simp only [isPrintable, UInt8.le_iff_toNat_le, UInt8.lt_iff_toNat_lt, UInt8.toNat_ofNat,
    ge_iff_le, Bool.not_eq_true', Bool.or_eq_false_iff, decide_eq_false_iff_not,
    beq_eq_false_iff_ne, ne_eq, ← UInt8.toNat_inj] at *
  omega

/-- A printable byte in the normal state. -/
theorem termPutc_print {t : Terminal} {c : UInt8} (normal : t.state = .normal)
    (printable : isPrintable c = true) : termPutc t c = termPutcPrint t c := by
  have notControl : ∀ control : UInt8, isPrintable control = false → c ≠ control := by
    rintro control notPrintable rfl
    rw [printable] at notPrintable
    cases notPrintable
  rw [termPutc_normal normal, termPutcNormal]
  rw [if_neg (notControl _ (by decide)), if_neg (notControl _ (by decide)),
    if_neg (notControl _ (by decide)), if_neg (notControl _ (by decide)),
    if_neg (notControl _ (by decide)), if_pos printable]

/-! ### What one byte can do -/

/-- ESC c. -/
def resetScreen (t : Terminal) : Terminal :=
  (termResetState t).setActiveGrid (gridClearAll (termResetState t).activeGrid defaultFg defaultBg)

/-- The effects a byte can have, with the parser state and the bytes that have them. -/
inductive Effect (t : Terminal) (c : UInt8) : Terminal → Prop where
  | collects (state : TermState) (buf : List UInt8) (isPrivate : Bool) :
      Effect t c { t with state := state, csiBuf := buf, csiPrivate := isPrivate }
  | saves (esc : t.state = .esc) (byte : c = 0x37) :
      Effect t c
        { t with
          state := .normal
          savedRow := t.curRow
          savedCol := t.curCol
          savedFg := t.curFg
          savedBg := t.curBg
          savedAttrs := t.curAttrs }
  | restores (esc : t.state = .esc) (byte : c = 0x38) :
      Effect t c
        { t with
          state := .normal
          curRow := t.savedRow
          curCol := t.savedCol
          curFg := t.savedFg
          curBg := t.savedBg
          curAttrs := t.savedAttrs }
  | resets (esc : t.state = .esc) (byte : c = 0x63) :
      Effect t c (resetScreen { t with state := .normal })
  | dispatches (csi : t.state = .csi) (ends : EndsCsi t c) :
      Effect t c (termDispatchCsi { t with state := .normal } c)
  | moves (col : Int) (normal : t.state = .normal) (byte : c = 0x0D ∨ c = 0x08 ∨ c = 0x09) :
      Effect t c { t with curCol := col, pendingWrap := false }
  | lineFeeds (normal : t.state = .normal) (byte : c = 0x0A) :
      Effect t c (termLineFeed { t with pendingWrap := false })
  | prints (normal : t.state = .normal) (printable : isPrintable c = true) :
      Effect t c (termPutcPrint t c)

theorem termPutcEsc_effect {t : Terminal} (esc : t.state = .esc) (c : UInt8) :
    Effect t c (termPutcEsc t c) := by
  unfold termPutcEsc
  dsimp only
  split
  · exact .collects _ _ _
  split
  · exact .collects _ _ _
  split
  · exact .collects _ _ _
  split
  · exact .saves esc ‹_›
  split
  · exact .restores esc ‹_›
  split
  · exact .resets esc ‹_›
  · exact .collects _ _ _

theorem termPutcCsi_effect {t : Terminal} (csi : t.state = .csi) (c : UInt8) :
    Effect t c (termPutcCsi t c) := by
  by_cases ends : EndsCsi t c
  · rw [← termPutc_csi csi, termPutc_final csi ends]
    exact .dispatches csi ends
  · unfold termPutcCsi
    split
    · exact .collects _ _ _
    · rw [if_pos (by unfold EndsCsi at ends; tauto)]
      split
      · exact .collects _ _ _
      · exact .collects _ _ _

theorem termPutcNormal_effect {t : Terminal} (normal : t.state = .normal) (c : UInt8) :
    Effect t c (termPutcNormal t c) := by
  unfold termPutcNormal
  split
  · exact .collects _ _ _
  split
  · exact .moves _ normal (Or.inl ‹_›)
  split
  · exact .lineFeeds normal ‹_›
  split
  · exact .moves _ normal (Or.inr (Or.inl ‹_›))
  split
  · exact .moves _ normal (Or.inr (Or.inr ‹_›))
  split
  · exact .prints normal ‹_›
  · exact .collects _ _ _

/-- **Every byte has one of the effects.** -/
theorem termPutc_effect (t : Terminal) (c : UInt8) : Effect t c (termPutc t c) := by
  cases parser : t.state with
  | esc =>
      rw [termPutc_esc parser]
      exact termPutcEsc_effect parser c
  | csi =>
      rw [termPutc_csi parser]
      exact termPutcCsi_effect parser c
  | normal =>
      rw [termPutc_normal parser]
      exact termPutcNormal_effect parser c
  | escCharset =>
      rw [termPutc, parser]
      exact .collects _ _ _
  | osc =>
      rw [termPutc_osc parser, termPutcOsc]
      split
      · exact .collects _ _ _
      · exact .collects _ _ _

/-- A reset changes cells, cursor, rendition, region, modes and parser. -/
theorem resetScreen_touches (t : Terminal) :
    ∃ main alt, resetScreen t = { termResetState t with mainGrid := main, altGrid := alt } :=
  setActiveGrid_touches _ _

/-- A dispatched control sequence: what its final byte or its modes may change. -/
theorem termDispatchCsi_touches (t : Terminal) (final : UInt8) :
    (∃ grid alt active row col savedRow savedCol visible appKeys, termDispatchCsi t final =
      { t with
        pendingWrap := false
        grid := grid
        altGrid := alt
        altActive := active
        curRow := row
        curCol := col
        savedRow := savedRow
        savedCol := savedCol
        cursorVisible := visible
        appCursorKeys := appKeys }) ∨
    ∃ main alt row col fg bg attrs top bottom, termDispatchCsi t final =
      { t with
        pendingWrap := false
        mainGrid := main
        altGrid := alt
        curRow := row
        curCol := col
        curFg := fg
        curBg := bg
        curAttrs := attrs
        scrollTop := top
        scrollBottom := bottom } := by
  unfold termDispatchCsi
  dsimp only
  split
  · left
    split
    · exact setPrivateModes_touches { t with pendingWrap := false } (csiParams t) (final = 0x68)
    · exact ⟨_, _, _, _, _, _, _, _, _, rfl⟩
  · right
    exact csiFinal_touches { t with pendingWrap := false } (csiParams t) final

end Tab5
