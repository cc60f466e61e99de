/-
**The terminal as its user knows it.**

`TextScreen` is what a terminal of 42 rows and 80 columns is for, without the arrays, the C integers,
the ring buffer and the record of the last pass that `main/terminal.c` keeps it in: two pages of
cells, one of them shown, a cursor that is always on the page, margins that are always in order, and
the lines that have scrolled off. `TextScreen.perform` is what each command of the host does to it, in
these terms, and a `Monitor` is a screen behind the parser that finds the commands.

That the code's terminal is such a screen is `Terminal.Realisation`'s subject.
-/

import Tab5RemoteTerminal.Library.Page
import Tab5RemoteTerminal.Terminal.Canvas
import Tab5RemoteTerminal.Terminal.Language

namespace Tab5

/-! ### The screen -/

@[ext] structure Cursor where
  row : Fin 42
  col : Fin 80
deriving DecidableEq, Repr

def fullMargins : Margins 42 := ⟨0, 41, by decide⟩

structure TextScreen where
  main : Page 42 80 TermCell
  alt : Page 42 80 TermCell
  onAlt : Bool
  cursor : Cursor
  /-- The next character goes to the next line. -/
  wrapPending : Bool
  pen : Rendition
  saved : Cursor
  savedPen : Rendition
  margins : Margins 42
  cursorVisible : Bool
  appCursorKeys : Bool
  scrollback : Backlog 300 (Line 80 TermCell)

namespace TextScreen

/-- A new one. Nothing has been saved: what DECRC would bring back is black on black. -/
def new : TextScreen where
  main _ _ := blankCell defaultFg defaultBg
  alt _ _ := blankCell defaultFg defaultBg
  onAlt := false
  cursor := ⟨0, 0⟩
  wrapPending := false
  pen := defaultRendition
  saved := ⟨0, 0⟩
  savedPen := ⟨0, 0, 0⟩
  margins := fullMargins
  cursorVisible := true
  appCursorKeys := false
  scrollback := .empty 300 _

/-- The page that is shown. -/
def page (s : TextScreen) : Page 42 80 TermCell := if s.onAlt then s.alt else s.main

def setPage (s : TextScreen) (page : Page 42 80 TermCell) : TextScreen :=
  if s.onAlt then { s with alt := page } else { s with main := page }

def blank (s : TextScreen) : TermCell := blankCell s.pen.fg s.pen.bg

/-- The cells of a region are erased. -/
def erase (s : TextScreen) (region : Fin 42 → Fin 80 → Prop) [∀ r c, Decidable (region r c)] :
    TextScreen :=
  s.setPage (s.page.fill region s.blank)

/-! ### Characters -/

/-- Down one line; at the bottom margin the lines between the margins move up. A line that leaves
the main page for good is kept. -/
def lineFeed (s : TextScreen) : TextScreen :=
  if s.cursor.row = s.margins.bottom then
    let kept :=
      if s.margins = fullMargins ∧ s.onAlt = false then
        { s with scrollback := s.scrollback.push (s.main 0) }
      else s
    kept.setPage (s.page.scrollUp s.margins s.blank)
  else if below : s.cursor.row.val + 1 < 42 then
    { s with cursor := ⟨⟨s.cursor.row + 1, below⟩, s.cursor.col⟩ }
  else s

/-- A character in the cell at the cursor. -/
def put (s : TextScreen) (c : UInt8) : TextScreen :=
  let s := s.setPage (s.page.fill (fun r col => r = s.cursor.row ∧ col = s.cursor.col)
    ⟨c, s.pen.fg, s.pen.bg, s.pen.attrs⟩)
  if right : s.cursor.col.val + 1 < 80 then
    { s with cursor := ⟨s.cursor.row, ⟨s.cursor.col + 1, right⟩⟩ }
  else { s with wrapPending := true }

/-- The wrap that is pending. -/
def wrap (s : TextScreen) : TextScreen :=
  if s.wrapPending then
    { lineFeed { s with cursor := ⟨s.cursor.row, 0⟩ } with wrapPending := false }
  else s

/-- The next column that is a multiple of eight, or the last. -/
def tabStop (col : Fin 80) : Fin 80 := ⟨min ((col / 8 + 1) * 8) 79, by omega⟩

/-- A byte outside every sequence. -/
def char (s : TextScreen) (c : UInt8) : TextScreen :=
  if c = 0x0D then { s with cursor := ⟨s.cursor.row, 0⟩, wrapPending := false }
  else if c = 0x0A then lineFeed { s with wrapPending := false }
  else if c = 0x08 then
    { s with cursor := ⟨s.cursor.row, ⟨s.cursor.col - 1, by omega⟩⟩, wrapPending := false }
  else if c = 0x09 then
    { s with cursor := ⟨s.cursor.row, tabStop s.cursor.col⟩, wrapPending := false }
  else if isPrintable c then s.wrap.put c
  else s

/-! ### Control sequences -/

/-- CUU, CUD, CUF and CUB: `n` lines or columns, but not past the margin or the edge. -/
def cursorUp (s : TextScreen) (n : Nat) : TextScreen :=
  { s with cursor := ⟨⟨max (s.cursor.row - n) s.margins.top, by omega⟩, s.cursor.col⟩ }

def cursorDown (s : TextScreen) (n : Nat) : TextScreen :=
  { s with cursor := ⟨⟨min (s.cursor.row + n) s.margins.bottom, by omega⟩, s.cursor.col⟩ }

def cursorRight (s : TextScreen) (n : Nat) : TextScreen :=
  { s with cursor := ⟨s.cursor.row, ⟨min (s.cursor.col + n) 79, by omega⟩⟩ }

def cursorLeft (s : TextScreen) (n : Nat) : TextScreen :=
  { s with cursor := ⟨s.cursor.row, ⟨s.cursor.col - n, by omega⟩⟩ }

/-- CUP. -/
def moveTo (s : TextScreen) (row col : Nat) : TextScreen :=
  { s with cursor := ⟨⟨min row 41, by omega⟩, ⟨min col 79, by omega⟩⟩ }

/-- Before the cursor in reading order, or at it. -/
def UpToCursor (s : TextScreen) (r : Fin 42) (c : Fin 80) : Prop :=
  r < s.cursor.row ∨ r = s.cursor.row ∧ c ≤ s.cursor.col

/-- At the cursor, or after it. -/
def FromCursor (s : TextScreen) (r : Fin 42) (c : Fin 80) : Prop :=
  s.cursor.row < r ∨ r = s.cursor.row ∧ s.cursor.col ≤ c

instance (s : TextScreen) (r : Fin 42) (c : Fin 80) : Decidable (s.UpToCursor r c) :=
  inferInstanceAs (Decidable (_ ∨ _))

instance (s : TextScreen) (r : Fin 42) (c : Fin 80) : Decidable (s.FromCursor r c) :=
  inferInstanceAs (Decidable (_ ∨ _))

/-- ED. -/
def eraseInDisplay (s : TextScreen) (mode : Int) : TextScreen :=
  if mode = 1 then s.erase s.UpToCursor
  else if mode = 2 ∨ mode = 3 then s.erase fun _ _ => True
  else s.erase s.FromCursor

/-- EL. -/
def eraseInLine (s : TextScreen) (mode : Int) : TextScreen :=
  if mode = 1 then s.erase fun r c => r = s.cursor.row ∧ c ≤ s.cursor.col
  else if mode = 2 then s.erase fun r _ => r = s.cursor.row
  else s.erase fun r c => r = s.cursor.row ∧ s.cursor.col ≤ c

/-- SGR. -/
def setPen (s : TextScreen) (params : List Int) : TextScreen :=
  { s with pen := if params = [] then defaultRendition else params.foldl sgrParam s.pen }

/-- DECSTBM, with the rows counted from 0; the whole page if they are not in order. -/
def setMargins (s : TextScreen) (top bottom : Nat) : TextScreen :=
  let margins : Margins 42 :=
    if ordered : top < min bottom 41 then
      ⟨⟨top, by omega⟩, ⟨min bottom 41, by omega⟩, ordered⟩
    else fullMargins
  { s with margins, cursor := ⟨margins.top, 0⟩ }

/-- To the other page and back; mode 1049 also keeps the cursor. -/
def setAlt (s : TextScreen) (mode : Int) (enable : Bool) : TextScreen :=
  if enable = true ∧ s.onAlt = false then
    { s with
      onAlt := true
      alt := fun _ _ => blankCell defaultFg defaultBg
      saved := if mode = 1049 then s.cursor else s.saved
      cursor := ⟨0, 0⟩ }
  else if enable = false ∧ s.onAlt = true then
    { s with
      onAlt := false
      cursor := if mode = 1049 then s.saved else s.cursor }
  else s

/-- DECSET and DECRST. -/
def setMode (s : TextScreen) (mode : Int) (enable : Bool) : TextScreen :=
  if mode = 1 then { s with appCursorKeys := enable }
  else if mode = 25 then { s with cursorVisible := enable }
  else if mode = 47 ∨ mode = 1047 ∨ mode = 1049 then s.setAlt mode enable
  else s

/-- A control sequence without private marker. -/
def control (s : TextScreen) (params : List Int) (final : UInt8) : TextScreen :=
  let n := (firstParamOr1 params).toNat
  match final with
  | 0x41 => s.cursorUp n
  | 0x42 => s.cursorDown n
  | 0x43 => s.cursorRight n
  | 0x44 => s.cursorLeft n
  | 0x48 | 0x66 => s.moveTo (paramMinus1 params 0 0).toNat (paramMinus1 params 1 0).toNat
  | 0x4A => s.eraseInDisplay (firstParam params)
  | 0x4B => s.eraseInLine (firstParam params)
  | 0x6D => s.setPen params
  | 0x72 => s.setMargins (paramMinus1 params 0 0).toNat (paramMinus1 params 1 41).toNat
  | _ => s

/-! ### Commands -/

/-- RIS: the active page is blank, and all is as it was first but the choice of the page, what has
been saved and what has scrolled off. -/
def reset (s : TextScreen) : TextScreen :=
  setPage
    { s with
      cursor := ⟨0, 0⟩
      wrapPending := false
      pen := defaultRendition
      margins := fullMargins
      cursorVisible := true
      appCursorKeys := false }
    fun _ _ => blankCell defaultFg defaultBg

def perform (s : TextScreen) : Command → TextScreen
  | .char c => s.char c
  | .saveCursor => { s with saved := s.cursor, savedPen := s.pen }
  | .restoreCursor => { s with cursor := s.saved, pen := s.savedPen }
  | .fullReset => s.reset
  | .csi isPrivate params final =>
      let s := { s with wrapPending := false }
      if isPrivate then
        if final = 0x68 ∨ final = 0x6C then
          params.foldl (fun s p => s.setMode (if p < 0 then 0 else p) (final = 0x68)) s
        else s
      else s.control params final
  | .osc _ => s

/-! ### What is seen -/

/-- The cell in view at row `r` and column `c`. -/
def cell (s : TextScreen) (r : Fin 42) (c : Fin 80) : TermCell := s.scrollback.line s.page r c

/-- The same, with the view `back` lines up, or as far as there are any. -/
def seenFrom (s : TextScreen) (back : Nat) : TextScreen :=
  { s with scrollback := { s.scrollback with
      back := min back s.scrollback.lines.length
      within := Nat.min_le_right _ _ } }

/-- The cells in view, and the cursor unless the view is above it. -/
def picture (s : TextScreen) : Canvas := fun r c =>
  ⟨cellGlyph (s.cell r c),
    if (s.cursorVisible = true ∧ s.scrollback.back = 0) ∧ s.cursor = ⟨r, c⟩
    then some (cursorGlyph (s.cell r c)) else none⟩

end TextScreen

/-- A screen and the parser in front of it. -/
structure Monitor where
  parsing : Parsing
  screen : TextScreen

namespace Monitor

def new : Monitor := ⟨.normal, .new⟩

/-- One byte from the host, or a scroll of the user's. -/
def step (m : Monitor) : Op → Monitor
  | .feed c => ⟨m.parsing.step c, (m.parsing.completes c).foldl TextScreen.perform m.screen⟩
  | .scroll deltaLines => { m with
      screen := { m.screen with scrollback := m.screen.scrollback.scroll deltaLines } }
  | .render => m

end Monitor

end Tab5
