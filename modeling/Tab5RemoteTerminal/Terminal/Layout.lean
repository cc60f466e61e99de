/-
**Plain text is laid out like a typewriter's.**

The sheet of a typewriter 80 columns wide (`Pieces.Sheet`) is the abstract model: the rows it has
finished and the row it is on. A fresh terminal fed with printable bytes and `\r\n` stays in step
with it (`Lays`): the screen is the last 42 rows of the sheet, over blank rows, and the scrollback
the last 300 before those.

* `Laid.lineFeed`: a line feed finishes a row, above the bottom row and on it alike;
* `Lays.put`, `Lays.newline`: one byte, and one `\r\n`. The deferred autowrap is the line the
  typewriter begins when a key is pressed at the end of a full row;
* `text_layout`: lines joined by `\r\n` give the pieces of each line, padded with blanks.
-/

import Tab5RemoteTerminal.Library.Pieces
import Tab5RemoteTerminal.Terminal.History

namespace Tab5

open CLoop Pieces

/-! ### Rows of text -/

/-- A byte printed with the default rendition. -/
def textCell (c : UInt8) : TermCell := ⟨c, defaultFg, defaultBg, 0⟩

def defaultBlank : TermCell := blankCell defaultFg defaultBg

def blankRow : Row := List.replicate 80 defaultBlank

/-- A piece of a line, padded right with blanks. -/
def padRow (piece : List UInt8) : Row :=
  piece.map textCell ++ List.replicate (80 - piece.length) defaultBlank

theorem padRow_nil : padRow [] = blankRow := rfl

/-- One more byte in a row. -/
theorem padRow_put {piece : List UInt8} (room : piece.length < 80) (c : UInt8) :
    (padRow piece).set piece.length (textCell c) = padRow (piece ++ [c]) := by
  have width : 80 - piece.length = (80 - (piece.length + 1)) + 1 := by omega
  have length : (piece.map textCell).length = piece.length := List.length_map _
  rw [padRow, List.set_append_right _ _ (by omega), length, Nat.sub_self, width,
    List.replicate_succ, List.set_cons_zero, padRow, List.map_append, List.length_append,
    List.length_singleton, List.append_assoc]
  rfl

/-! ### A list split at its last rows -/

/-- Taking the last elements of an append whose second half has as many. -/
theorem rtake_append_right {β : Type} (first second : List β) :
    (first ++ second).rtake second.length = second := by
  rw [List.rtake, List.length_append, Nat.add_sub_cancel, List.drop_left]

theorem rdrop_append_right {β : Type} (first second : List β) :
    (first ++ second).rdrop second.length = first := by
  rw [List.rdrop, List.length_append, Nat.add_sub_cancel, List.take_left]

theorem rdrop_append_rtake {β : Type} (l : List β) (n : Nat) : l.rdrop n ++ l.rtake n = l :=
  List.take_append_drop _ _

/-! ### The screen of a sheet -/

/-- The terminal shows the rows finished so far and the row it is on. -/
structure Laid (t : Terminal) (before : List Row) (row : Row) : Prop where
  normal : t.state = .normal
  onMain : t.altActive = false
  region : t.scrollTop = 0 ∧ t.scrollBottom = termRows - 1
  rendition : t.curFg = defaultFg ∧ t.curBg = defaultBg ∧ t.curAttrs = 0
  cursorRow : t.curRow = min before.length 41
  screen : screenRows t =
    before.rtake 41 ++ row :: List.replicate (41 - before.length) blankRow
  ring : ringRows t = (before.rdrop 41).rtake 300

/-- A line feed above the bottom row: the next row is blank already. -/
theorem Laid.lineFeed_above {t : Terminal} {before : List Row} {row : Row} (laid : Laid t before row)
    (above : before.length < 41) : Laid (termLineFeed t) (before ++ [row]) blankRow := by
  have cursorRow := laid.cursorRow
  have fed : termLineFeed t = { t with curRow := t.curRow + 1 } := by
    rw [termLineFeed, laid.region.2, if_neg (by unfold termRows; omega),
      if_pos (by unfold termRows; omega)]
  have left : 41 - before.length = (41 - (before.length + 1)) + 1 := by omega
  rw [fed]
  refine { laid with cursorRow := ?_, screen := ?_, ring := ?_ }
  · dsimp only
    rw [List.length_append, List.length_singleton]
    omega
  · refine (screenRows_congr (t := t) rfl).trans ?_
    rw [laid.screen, Ring.rtake_of_length_le (by omega), left, List.replicate_succ,
      Ring.rtake_of_length_le (by simp; omega), List.length_append, List.length_singleton,
      List.append_assoc]
    rfl
  · have none : before.rdrop 41 = [] ∧ (before ++ [row]).rdrop 41 = [] := by
      constructor
      · rw [List.rdrop, show before.length - 41 = 0 by omega, List.take_zero]
      · rw [List.rdrop, List.length_append, List.length_singleton,
          show before.length + 1 - 41 = 0 by omega, List.take_zero]
    have same : SameBuffer t { t with curRow := t.curRow + 1 } := ⟨rfl, rfl, rfl⟩
    rw [same.ringRows, laid.ring, none.1, none.2]

/-- A line feed on the bottom row: the first row leaves the screen for the scrollback. -/
theorem Laid.lineFeed_bottom {t : Terminal} (inv : Invariant t) {before : List Row} {row : Row}
    (laid : Laid t before row) (bottom : 41 ≤ before.length) :
    Laid (termLineFeed t) (before ++ [row]) blankRow := by
  have cursorRow := laid.cursorRow
  have fed : termLineFeed t = termScrollRegionUp t 0 (termRows - 1) := by
    rw [termLineFeed, laid.region.1, laid.region.2, if_pos (by unfold termRows; omega)]
  have scrolls : ScrollsScreen t :=
    ⟨laid.onMain, by rw [laid.region.2]; unfold termRows; omega, laid.region⟩
  have length : (before.rtake 41).length = 41 := by
    rw [Ring.length_rtake]
    omega
  obtain ⟨first, rest, top⟩ := List.exists_cons_of_length_eq_add_one length
  rw [top, List.length_cons] at length
  have screen := laid.screen
  rw [top, show 41 - before.length = 0 by omega, List.replicate_zero, List.cons_append] at screen
  -- the rows finished, cut where the screen begins, before and after the line feed
  have cut : before ++ [row] = (before.rdrop 41 ++ [first]) ++ (rest ++ [row]) :=
    calc before ++ [row] = before.rdrop 41 ++ before.rtake 41 ++ [row] := by
          rw [rdrop_append_rtake]
      _ = (before.rdrop 41 ++ [first]) ++ (rest ++ [row]) := by
          rw [top]
          simp
  have shown : (rest ++ [row]).length = 41 := by
    rw [List.length_append, List.length_singleton]
    omega
  have later : (before ++ [row]).rtake 41 = rest ++ [row] := by
    rw [cut, ← shown, rtake_append_right]
  have left : (before ++ [row]).rdrop 41 = before.rdrop 41 ++ [first] := by
    rw [cut, ← shown, rdrop_append_right]
  have gone : gridRow t.mainGrid 0 = first := by
    have here := screenRows_getElem? t (r := 0) (by omega)
    rw [screen, List.getElem?_cons_zero, inv.buffered.activeGrid_main laid.onMain] at here
    exact (Option.some.inj here).symm
  obtain ⟨_, _, _, _, _, _, touched⟩ := termScrollRegionUp_touches t 0 (termRows - 1)
  refine ⟨?_, ?_, ?_, ?_, ?_, ?_, ?_⟩
  · rw [fed, touched]
    exact laid.normal
  · rw [fed, touched]
    exact laid.onMain
  · rw [fed, touched]
    exact laid.region
  · rw [fed, touched]
    exact laid.rendition
  · rw [fed, touched, List.length_append, List.length_singleton]
    dsimp only
    omega
  · rw [fed, screenRows_scrollUp, screen, later, laid.rendition.1, laid.rendition.2.1,
      List.length_append, List.length_singleton, show 41 - (before.length + 1) = 0 by omega]
    rfl
  · rw [ringRows_lineFeed inv.buffered, if_pos scrolls, gone, laid.ring, Ring.rtake_rtake_append, left]

/-- **A line feed finishes a row.** -/
theorem Laid.lineFeed {t : Terminal} (inv : Invariant t) {before : List Row} {row : Row}
    (laid : Laid t before row) : Laid (termLineFeed t) (before ++ [row]) blankRow := by
  by_cases above : before.length < 41
  · exact laid.lineFeed_above above
  · exact laid.lineFeed_bottom inv (by omega)

/-! ### In step with a typewriter -/

/-- The terminal is in step with the sheet. -/
structure Lays (t : Terminal) (s : Sheet UInt8) : Prop where
  inv : Invariant t
  laid : Laid t (s.done.map padRow) (padRow s.current)
  fits : s.current.length ≤ 80
  column : t.curCol = min s.current.length 79
  wrap : t.pendingWrap = decide (s.current.length = 80)

/-- A byte printed with room left in its row. -/
theorem Lays.putCell {t : Terminal} {s : Sheet UInt8} (lays : Lays t s)
    (room : s.current.length < 80) (c : UInt8) :
    Lays (putCell t c) ⟨s.done, s.current ++ [c]⟩ := by
  obtain ⟨inv, laid, _, column, wrap⟩ := lays
  have col : t.curCol = s.current.length := by omega
  have clear : t.pendingWrap = false := by
    rw [wrap]
    exact decide_eq_false (by omega)
  have cell : printedCell t c = textCell c := by
    rw [printedCell, laid.rendition.1, laid.rendition.2.1, laid.rendition.2.2]
    rfl
  have index : t.curRow.toNat = ((s.done.map padRow).rtake 41).length := by
    rw [laid.cursorRow, Ring.length_rtake]
    omega
  have rowIn := inv.cursor.1
  unfold termRows at rowIn
  have current : gridRow t.activeGrid t.curRow = padRow s.current := by
    have here := screenRows_getElem? t (r := t.curRow.toNat) (by omega)
    rw [laid.screen, index, List.getElem?_append_right le_rfl, Nat.sub_self,
      List.getElem?_cons_zero, ← index, show ((t.curRow.toNat : Nat) : Int) = t.curRow by omega]
      at here
    exact (Option.some.inj here).symm
  obtain ⟨main, alt, newCol, pending, put⟩ := putCell_touches t c
  refine ⟨inv.putCell c, ?_, ?_, ?_, ?_⟩
  · have screen : screenRows (Tab5.putCell t c) = (s.done.map padRow).rtake 41 ++
        padRow (s.current ++ [c]) :: List.replicate (41 - (s.done.map padRow).length) blankRow := by
      rw [screenRows_putCell inv.cursor, laid.screen, current, col, Int.toNat_natCast, cell,
        padRow_put room, index, List.set_append_right _ _ le_rfl, Nat.sub_self,
        List.set_cons_zero]
    have ring : ringRows (Tab5.putCell t c) = ((s.done.map padRow).rdrop 41).rtake 300 :=
      (putCell_buffer t c).ringRows.trans laid.ring
    rw [put] at screen ring ⊢
    exact { laid with screen := screen, ring := ring }
  · dsimp only
    rw [List.length_append, List.length_singleton]
    omega
  · rw [putCell_curCol]
    dsimp only
    rw [List.length_append, List.length_singleton, col]
    unfold termCols
    by_cases last : (s.current.length : Int) = 80 - 1
    · rw [if_pos last]
      omega
    · rw [if_neg last, wrap32_of_range (by omega) (by omega)]
      omega
  · rw [putCell_pendingWrap, clear, Bool.or_false, col]
    dsimp only
    rw [List.length_append, List.length_singleton]
    unfold termCols
    exact decide_eq_decide.mpr (by omega)

/-- A new row begun, from wherever the cursor is in its row. -/
theorem Lays.begin {t : Terminal} {s : Sheet UInt8} (inv : Invariant t)
    (laid : Laid t (s.done.map padRow) (padRow s.current)) (column : t.curCol = 0) :
    Lays { termLineFeed t with pendingWrap := false } s.newline := by
  have next := laid.lineFeed inv
  have fed := inv.lineFeed
  obtain ⟨_, _, _, _, _, _, _, touched⟩ := termLineFeed_touches t
  rw [← padRow_nil, ← List.map_singleton (f := padRow), ← List.map_append] at next
  refine ⟨{ fed with }, { next with }, Nat.zero_le _, ?_, rfl⟩
  rw [touched]
  exact column

/-- **One byte** of text. -/
theorem Lays.put {t : Terminal} {s : Sheet UInt8} (lays : Lays t s) {c : UInt8}
    (printable : isPrintable c = true) : Lays (termPutc t c) (s.put 80 c) := by
  rw [termPutc_print lays.laid.normal printable, termPutcPrint, Sheet.put]
  by_cases full : s.current.length = 80
  · -- the deferred autowrap begins the next row
    have pending : t.pendingWrap = true := by
      rw [lays.wrap]
      exact decide_eq_true full
    have home : Invariant { t with curCol := 0 } :=
      lays.inv.moveCursor ⟨lays.inv.cursor.1, onScreen_home.2⟩
    have begun : Lays (autowrap t) s.newline := by
      rw [autowrap_of_pending pending]
      exact Lays.begin home { lays.laid with } rfl
    rw [if_pos full]
    exact begun.putCell (Nat.zero_lt_succ 79) c
  · have clear : t.pendingWrap = false := by
      rw [lays.wrap]
      exact decide_eq_false full
    have room := lays.fits
    rw [if_neg full, autowrap_of_not_pending clear]
    exact lays.putCell (by omega) c

/-- **One `\r\n`**: the carriage return drops the pending wrap. -/
theorem Lays.newline {t : Terminal} {s : Sheet UInt8} (lays : Lays t s) :
    Lays (terminalFeed t [0x0D, 0x0A]) s.newline := by
  have home : Invariant { t with curCol := 0, pendingWrap := false } :=
    { lays.inv with cursor := ⟨lays.inv.cursor.1, onScreen_home.2⟩ }
  have begun := Lays.begin (s := s) home { lays.laid with } rfl
  have fed : terminalFeed t [0x0D, 0x0A] =
      termLineFeed { t with curCol := 0, pendingWrap := false } := by
    have return_ : termPutc t 0x0D = { t with curCol := 0, pendingWrap := false } := by
      rw [termPutc_normal lays.laid.normal]
      rfl
    have feed : termPutc { t with curCol := 0, pendingWrap := false } 0x0A =
        termLineFeed { t with curCol := 0, pendingWrap := false } :=
      termPutc_normal (t := { t with curCol := 0, pendingWrap := false }) lays.laid.normal 0x0A
    rw [terminalFeed_cons, return_, terminalFeed_cons, feed]
    rfl
  obtain ⟨_, _, _, _, _, _, _, touched⟩ :=
    termLineFeed_touches { t with curCol := 0, pendingWrap := false }
  rw [fed]
  rw [touched] at begun ⊢
  exact begun

theorem Lays.write {t : Terminal} {s : Sheet UInt8} (lays : Lays t s) {text : List UInt8}
    (printable : ∀ c ∈ text, isPrintable c = true) :
    Lays (terminalFeed t text) (s.write 80 text) := by
  induction text generalizing t s with
  | nil => exact lays
  | cons c text ih =>
      exact ih (lays.put (printable c List.mem_cons_self)) fun d member =>
        printable d (List.mem_cons_of_mem _ member)

theorem Lays.writeLines {lines : List (List UInt8)} {t : Terminal} {s : Sheet UInt8}
    (lays : Lays t s) (printable : ∀ line ∈ lines, ∀ c ∈ line, isPrintable c = true) :
    Lays (terminalFeed t (List.intercalate [0x0D, 0x0A] lines)) (s.writeLines 80 lines) := by
  induction lines generalizing t s with
  | nil => exact lays
  | cons line lines ih =>
      have typed := lays.write (printable line List.mem_cons_self)
      cases lines with
      | nil =>
          rw [Sheet.writeLines, List.intercalate_singleton]
          exact typed
      | cons next lines =>
          have rest := ih typed.newline fun l member => printable l (List.mem_cons_of_mem _ member)
          rw [Sheet.writeLines, List.intercalate_cons_cons, terminalFeed_append,
            terminalFeed_append]
          exact rest

theorem terminalCreate_screen : screenRows terminalCreate = List.replicate 42 blankRow := by
  apply List.ext_getElem?
  intro r
  by_cases row : r < 42
  · rw [screenRows_getElem? _ row, List.getElem?_replicate, if_pos row]
    refine congrArg some ?_
    apply List.ext_getElem?
    intro c
    by_cases column : c < 80
    · rw [gridRow_getElem? _ _ column, terminalCreate_blank (by omega) (by unfold gridCells; omega),
        blankRow, List.getElem?_replicate, if_pos column]
      rfl
    · rw [List.getElem?_eq_none (by simp; omega), List.getElem?_eq_none (by simp [blankRow]; omega)]
  · rw [List.getElem?_eq_none (by simp; omega), List.getElem?_eq_none (by simp; omega)]

theorem terminalCreate_lays : Lays terminalCreate ⟨[], []⟩ := by
  refine ⟨terminalCreate_invariant, ⟨rfl, rfl, ⟨rfl, rfl⟩, ⟨rfl, rfl, rfl⟩, rfl, ?_, ?_⟩,
    Nat.zero_le _, rfl, rfl⟩
  · rw [terminalCreate_screen, padRow_nil, List.map_nil, List.rtake_nil, List.nil_append,
      ← List.replicate_succ]
    rfl
  · rw [terminalCreate_ring, List.map_nil, List.rdrop_nil, List.rtake_nil]

/-! ### The law -/

/-- The rows of a text: the pieces of its lines, padded. -/
def textRows (lines : List (List UInt8)) : List Row := (lines.flatMap (pieces 80)).map padRow

/-- **Plain text layout.** Lines of printable ASCII joined by `\r\n` put the last 42 of their rows
on the screen of a fresh terminal, over blank rows, and the last 300 before those in its
scrollback. -/
theorem text_layout (lines : List (List UInt8))
    (printable : ∀ line ∈ lines, ∀ c ∈ line, 0x20 ≤ c ∧ c ≤ 0x7E) :
    screenRows (terminalFeed terminalCreate (List.intercalate [0x0D, 0x0A] lines)) =
        (textRows lines).rtake 42 ++ List.replicate (42 - (textRows lines).length) blankRow ∧
      ringRows (terminalFeed terminalCreate (List.intercalate [0x0D, 0x0A] lines)) =
        ((textRows lines).rdrop 42).rtake 300 := by
  have lays := terminalCreate_lays.writeLines fun line member c inLine =>
    lowByte_printable (printable line member c inLine).1 (printable line member c inLine).2
  by_cases none : lines = []
  · rw [none] at lays ⊢
    exact ⟨terminalCreate_screen, terminalCreate_ring⟩
  · have typed := Sheet.writeLines_rows (Nat.zero_lt_succ 79) [] none
    have rows : textRows lines =
        (Sheet.writeLines 80 ⟨[], []⟩ lines).done.map padRow ++
          [padRow (Sheet.writeLines 80 ⟨[], []⟩ lines).current] := by
      rw [textRows, ← List.nil_append (lines.flatMap (pieces 80)), ← typed, Sheet.rows,
        List.map_append, List.map_singleton]
    have left : ∀ n : Nat, 42 - (n + 1) = 41 - n := by omega
    rw [rows, List.rtake_concat_succ, List.rdrop_concat_succ, List.length_append,
      List.length_singleton, lays.laid.screen, lays.laid.ring, left, List.append_assoc]
    exact ⟨rfl, rfl⟩

theorem text_layout_hello :
    screenRows (terminalFeed terminalCreate [0x68, 0x69, 0x0D, 0x0A, 0x21]) =
        [padRow [0x68, 0x69], padRow [0x21]] ++ List.replicate 40 blankRow ∧
      ringRows (terminalFeed terminalCreate [0x68, 0x69, 0x0D, 0x0A, 0x21]) = [] := by
  have law := text_layout [[0x68, 0x69], [0x21]] (by simp)
  have rows : textRows [[0x68, 0x69], [0x21]] = [padRow [0x68, 0x69], padRow [0x21]] := by
    simp [textRows, pieces_short]
  rw [rows] at law
  exact law

end Tab5
