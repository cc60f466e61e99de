/-
**ESC in an unfinished sequence.**

In `TSTATE_ESC` a second ESC is taken for the byte that selects the sequence, in `TSTATE_CSI` for the
final byte: it ends the unfinished sequence but starts none, and what follows is printed
(`interrupted_prints`). So from no unfinished prefix is the next sequence performed (`resync_never`):
its final letter is on the screen afterwards, right behind the cursor (`interrupted_behind`), where performing it
never puts a letter (`performed_lacks`). Where it does come to the same, by what the screen shows
already, performing it leaves the cursor behind its own final letter.
-/

import Tab5RemoteTerminal.Terminal.Cells
import Tab5RemoteTerminal.Terminal.Sequences

namespace Tab5

open CLoop

/-- An unfinished sequence: `ESC`, or `ESC [` and bytes collected so far. -/
inductive Unfinished where
  | esc
  | csi (isPrivate : Bool) (collected : List UInt8)
deriving DecidableEq, Repr

/-- A terminal in the middle of it. -/
def Unfinished.interrupted : Unfinished → Terminal → Terminal
  | .esc, t => { t with state := .esc }
  | .csi isPrivate buf, t => { t with state := .csi, csiBuf := buf, csiPrivate := isPrivate }

/-- Grids, cursor, rendition, region and modes are the same. -/
structure SameEffect (first second : Terminal) : Prop where
  grids : second.mainGrid = first.mainGrid ∧ second.altGrid = first.altGrid ∧
    second.grid = first.grid
  cursor : second.curRow = first.curRow ∧ second.curCol = first.curCol
  rendition : second.curFg = first.curFg ∧ second.curBg = first.curBg ∧
    second.curAttrs = first.curAttrs
  region : second.scrollTop = first.scrollTop ∧ second.scrollBottom = first.scrollBottom
  modes : second.appCursorKeys = first.appCursorKeys ∧
    second.cursorVisible = first.cursorVisible ∧ second.altActive = first.altActive

/-- The terminal after the sequence, with the parser in its normal state. -/
def performed (t : Terminal) (s : ControlSequence) : Terminal :=
  terminalFeed { t with state := .normal } s.bytes

/-- The sequence does what it does with the parser in its normal state. -/
def Resyncs (t : Terminal) (s : ControlSequence) : Prop :=
  SameEffect (performed t s) (terminalFeed t s.bytes)

/-- What ESC makes of a terminal in the middle of a sequence. -/
def Unfinished.ended : Unfinished → Terminal → Terminal
  | .esc, t => { t with state := .normal }
  | .csi isPrivate buf, t =>
      { t with state := .normal, csiBuf := buf, csiPrivate := isPrivate, pendingWrap := false }

/-- The rest of the sequence as text. -/
def ControlSequence.text (s : ControlSequence) : List UInt8 := 0x5B :: (s.params ++ [s.final])

/-- The letter stands in the cell before the cursor, or in the last column under it. -/
def Behind (letter : UInt8) (t : Terminal) : Prop :=
  ∃ i : Int, (0 ≤ i ∧ i < gridCells) ∧ (t.activeGrid.load i).ch = letter ∧
    (i = t.curRow * 80 + t.curCol - 1 ∨ (t.curCol = 79 ∧ i = t.curRow * 80 + 79))

/-- No cell of either grid shows the letter. -/
def Lacks (letter : UInt8) (t : Terminal) : Prop := OnBothGrids (fun cell => cell.ch ≠ letter) t

/-! ### Text -/

section Text

variable {t : Terminal}

theorem termLineFeed_onScreen (on : OnScreen t.curRow t.curCol) :
    OnScreen (termLineFeed t).curRow (termLineFeed t).curCol := by
  obtain ⟨⟨rowLow, rowHigh⟩, col⟩ := on
  have down := termLineFeed_nextRow rowHigh
  obtain ⟨_, _, _, _, _, _, _, fed⟩ := termLineFeed_touches t
  have stays : (termLineFeed t).curCol = t.curCol := by rw [fed]
  rw [down, stays, nextRow]
  split
  · exact ⟨⟨rowLow, rowHigh⟩, col⟩
  · exact ⟨⟨by omega, by omega⟩, col⟩

theorem autowrap_onScreen (on : OnScreen t.curRow t.curCol) :
    OnScreen (autowrap t).curRow (autowrap t).curCol := by
  unfold autowrap
  split
  · have home : OnScreen t.curRow 0 := ⟨on.1, onScreen_home.2⟩
    exact termLineFeed_onScreen (t := { t with curCol := 0 }) home
  · exact on

theorem termPutcPrint_onScreen (on : OnScreen t.curRow t.curCol) (c : UInt8) :
    OnScreen (termPutcPrint t c).curRow (termPutcPrint t c).curCol := by
  obtain ⟨row, col⟩ := autowrap_onScreen on
  have column := putCell_curCol_range c col
  obtain ⟨_, _, _, _, put⟩ := putCell_touches (autowrap t) c
  rw [termPutcPrint]
  rw [put] at column ⊢
  exact ⟨row, column⟩

/-- Text is printed byte by byte. -/
theorem terminalFeed_printed (normal : t.state = .normal) {text : List UInt8}
    (printable : ∀ c ∈ text, isPrintable c = true) :
    terminalFeed t text = text.foldl termPutcPrint t := by
  induction text generalizing t with
  | nil => rfl
  | cons c text ih =>
      obtain ⟨_, _, _, _, _, _, _, _, _, same⟩ := termPutcPrint_touches t c
      have next : (termPutcPrint t c).state = .normal := by
        rw [same]
        exact normal
      rw [terminalFeed_cons, termPutc_print normal (printable c List.mem_cons_self),
        ih next fun d member => printable d (List.mem_cons_of_mem _ member)]
      rfl

/-- A byte that is printed stands behind the cursor. -/
theorem termPutcPrint_behind (on : OnScreen t.curRow t.curCol) (c : UInt8) :
    Behind c (termPutcPrint t c) := by
  have wrapped := autowrap_onScreen on
  obtain ⟨index, low, high⟩ := wrapped.index
  obtain ⟨_, colLow, colHigh⟩ := wrapped
  have column := putCell_curCol (autowrap t) c
  obtain ⟨_, _, _, _, put⟩ := putCell_touches (autowrap t) c
  have row : (putCell (autowrap t) c).curRow = (autowrap t).curRow := by rw [put]
  refine ⟨cellIndex (autowrap t).curRow (autowrap t).curCol, by rw [index]; exact ⟨low, high⟩, ?_, ?_⟩
  · rw [termPutcPrint, putCell_activeGrid,
      Block.load_store_same _ _ (by rw [index]; exact low) (by rw [index]; exact high)]
    rfl
  · unfold termCols at column colHigh
    rw [termPutcPrint, row, index, column]
    split
    · rename_i last
      exact .inr ⟨last, by omega⟩
    · rw [wrap32_of_range (by omega) (by omega)]
      exact .inl (by omega)

/-- The last byte of a text stands behind the cursor. -/
theorem printed_behind (on : OnScreen t.curRow t.curCol) (text : List UInt8) (last : UInt8) :
    Behind last ((text ++ [last]).foldl termPutcPrint t) := by
  induction text generalizing t with
  | nil => exact termPutcPrint_behind on last
  | cons c text ih => exact ih (termPutcPrint_onScreen on c)

end Text

/-! ### The two ways -/

theorem Unfinished.ended_onScreen (p : Unfinished) {t : Terminal} (on : OnScreen t.curRow t.curCol) :
    OnScreen (p.ended t).curRow (p.ended t).curCol := by
  cases p <;> exact on

/-- ESC ends the unfinished sequence and starts no other. -/
theorem terminalFeed_interrupted (p : Unfinished) (t : Terminal) (rest : List UInt8) :
    terminalFeed (p.interrupted t) (0x1B :: rest) = terminalFeed (p.ended t) rest := by
  cases p with
  | esc => rfl
  | csi isPrivate buf =>
      have ends : EndsCsi ((Unfinished.csi isPrivate buf).interrupted t) 0x1B := by
        rintro (⟨impossible, _⟩ | impossible | impossible)
        all_goals exact absurd impossible (by decide)
      rw [terminalFeed_cons, termPutc_final rfl ends, termDispatchCsi_other]
      · rfl
      · exact fun _ => by decide
      · rintro _ (impossible | impossible)
        all_goals exact absurd impossible (by decide)

/-- **From an unfinished sequence**, the next one is printed. -/
theorem interrupted_prints (p : Unfinished) {s : ControlSequence}
    (noIntermediate : s.intermediates = []) (t : Terminal) :
    terminalFeed (p.interrupted t) s.bytes = s.text.foldl termPutcPrint (p.ended t) := by
  have normal : (p.ended t).state = .normal := by cases p <;> rfl
  have bytes : s.bytes = 0x1B :: s.text := by
    rw [ControlSequence.bytes, noIntermediate, List.append_nil]
    rfl
  have printable : ∀ c ∈ s.text, isPrintable c = true := by
    intro c member
    simp only [ControlSequence.text, List.mem_cons, List.mem_append, List.not_mem_nil, or_false]
      at member
    rcases member with rfl | param | rfl
    · decide
    · obtain ⟨low, high⟩ := s.paramsIn c param
      exact lowByte_printable (UInt8.le_trans (by decide) low) (UInt8.le_trans high (by decide))
    · exact lowByte_printable (UInt8.le_trans (by decide) s.finalIn.1) s.finalIn.2
  rw [bytes, terminalFeed_interrupted, terminalFeed_printed normal printable]

/-- It shows its final letter then. -/
theorem interrupted_behind (p : Unfinished) {s : ControlSequence}
    (noIntermediate : s.intermediates = []) {t : Terminal} (on : OnScreen t.curRow t.curCol) :
    Behind s.final (terminalFeed (p.interrupted t) s.bytes) := by
  rw [interrupted_prints p noIntermediate]
  exact printed_behind (p.ended_onScreen on) (0x5B :: s.params) s.final

theorem Behind.shows {letter : UInt8} {t : Terminal} (behind : Behind letter t) :
    ¬ Lacks letter t := by
  obtain ⟨i, ⟨low, high⟩, shows, -⟩ := behind
  exact fun lacks => lacks.active i low high shows

/-- Where the two ways come to the same, they show the same letter behind the cursor. -/
theorem SameEffect.behind {first second : Terminal} (same : SameEffect first second) {letter : UInt8}
    (behind : Behind letter second) : Behind letter first := by
  obtain ⟨i, range, shows, place⟩ := behind
  have active : second.activeGrid = first.activeGrid := by
    unfold Terminal.activeGrid
    rw [same.grids.1, same.grids.2.1, same.grids.2.2]
  rw [active] at shows
  rw [same.cursor.1, same.cursor.2] at place
  exact ⟨i, range, shows, place⟩

/-- **From the normal state**, an implemented sequence writes no letter. -/
theorem performed_lacks {s : ControlSequence} (implemented : Implemented s) {t : Terminal}
    (normal : t.state = .normal) (lacks : Lacks s.final t) :
    Lacks s.final (terminalFeed t s.bytes) := by
  obtain ⟨noIntermediate, params⟩ := implemented.params
  have collecting : Lacks s.final (collected t s.marks s.fields) := ⟨lacks.main, lacks.alt⟩
  have notBlank : (0x20 : UInt8) ≠ s.final := by
    intro blank
    exact absurd s.finalIn.1 (by rw [← blank]; decide)
  rw [terminalFeed_whole noIntermediate params normal]
  exact collecting.dispatchCsi notBlank notBlank s.final

theorem terminalCreate_lacks {letter : UInt8} (notBlank : letter ≠ 0x20) :
    Lacks letter terminalCreate where
  main := by
    rw [terminalCreate_mainGrid]
    exact everyCell_cleared _ (Ne.symm notBlank)
  alt := by
    rw [terminalCreate_altGrid]
    exact everyCell_cleared _ (Ne.symm notBlank)

/-- **The parser never resynchronises on ESC**: for no unfinished prefix and no implemented sequence
does it on every screen, and on no screen that does not show the sequence's final letter already. On a
screen that does, it comes to the same exactly if performing the sequence does what printing its text
does, and so only if it leaves the cursor behind its own final letter. -/
theorem resync_never (p : Unfinished) (s : ControlSequence) (implemented : Implemented s) :
    (¬ ∀ t : Terminal, OnScreen t.curRow t.curCol → Resyncs (p.interrupted t) s) ∧
      (∀ t : Terminal, OnScreen t.curRow t.curCol → Lacks s.final t →
        ¬ Resyncs (p.interrupted t) s) ∧
      ∀ t : Terminal, OnScreen t.curRow t.curCol →
        (Resyncs (p.interrupted t) s ↔ SameEffect (performed (p.interrupted t) s)
          (s.text.foldl termPutcPrint (p.ended t))) ∧
        (Resyncs (p.interrupted t) s → Behind s.final (performed (p.interrupted t) s)) := by
  have fails : ∀ t : Terminal, OnScreen t.curRow t.curCol → Lacks s.final t →
      ¬ Resyncs (p.interrupted t) s := by
    intro t on lacks resyncs
    have parserFree : Lacks s.final { p.interrupted t with state := .normal } := by
      cases p with
      | esc => exact ⟨lacks.main, lacks.alt⟩
      | csi isPrivate buf => exact ⟨lacks.main, lacks.alt⟩
    have behind := resyncs.behind (interrupted_behind p implemented.1 on)
    exact behind.shows (performed_lacks implemented rfl parserFree)
  refine ⟨fun resyncs => ?_, fails, fun t on => ⟨?_, fun resyncs => ?_⟩⟩
  · have notBlank : s.final ≠ 0x20 := by
      intro blank
      exact absurd s.finalIn.1 (by rw [blank]; decide)
    exact fails terminalCreate onScreen_home (terminalCreate_lacks notBlank)
      (resyncs terminalCreate onScreen_home)
  · rw [Resyncs, interrupted_prints p implemented.1]
  · exact resyncs.behind (interrupted_behind p implemented.1 on)

theorem noParams_in : ∀ c ∈ ([] : List UInt8), 0x30 ≤ c ∧ c ≤ 0x3F :=
  List.forall_mem_nil _

theorem noIntermediates_in : ∀ c ∈ ([] : List UInt8), 0x20 ≤ c ∧ c ≤ 0x2F :=
  List.forall_mem_nil _

/-- `ESC [ H`. -/
def cursorHome : ControlSequence where
  params := []
  intermediates := []
  final := 0x48
  paramsIn := noParams_in
  intermediatesIn := noIntermediates_in
  finalIn := by decide

theorem cursorHome_implemented : Implemented cursorHome :=
  ⟨rfl, Or.inl ⟨rfl, by decide⟩⟩

/-- After `ESC [ 3`, cut short. -/
theorem resync_never_home : ¬ Resyncs ((Unfinished.csi false [0x33]).interrupted terminalCreate)
    cursorHome :=
  (resync_never (.csi false [0x33]) cursorHome cursorHome_implemented).2.1 terminalCreate
    onScreen_home (terminalCreate_lacks (by decide))

/-- There `[H` is printed, and the cursor is not at home. -/
theorem resync_fails :
    ¬ ∀ (t : Terminal) (s : ControlSequence), t.state = .esc ∨ t.state = .csi → Implemented s →
      s.params.length ≤ csiBufLen - 1 → Resyncs t s := by
  intro resyncs
  have home := (resyncs ((Unfinished.csi false [0x33]).interrupted terminalCreate) cursorHome
    (Or.inr rfl) cursorHome_implemented (by decide)).cursor.2
  exact absurd home (by decide +kernel)

end Tab5
