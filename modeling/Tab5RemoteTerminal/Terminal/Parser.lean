/-
**The escape-sequence parser and the screen operations** (`main/terminal.c`, lines 230 to 587).

Every function of the feed path, in the source's order, ending in `termPutc`, which consumes one
byte, and `terminalFeed`. `termPutc`'s switch over the parser state is split into one function per
state (`termPutcEsc`, `termPutcCsi`, `termPutcOsc`, `termPutcNormal`, `termPutcPrint`).
-/

import Tab5RemoteTerminal.Terminal.State

namespace Tab5

open CLoop

/-! ### Scrolling -/

/-- `push_scrollback`; `row` is the index of the row's first cell in the active grid. -/
def pushScrollback (t : Terminal) (row : Int) : Terminal :=
  if t.altActive then t
  else
    let count :=
      if t.scrollbackCount < scrollbackLines then t.scrollbackCount + 1 else t.scrollbackCount
    { t with
      scrollback := t.scrollback.copy (t.scrollbackHead * termCols) t.activeGrid row termCols
      scrollbackHead := (t.scrollbackHead + 1).tmod scrollbackLines
      scrollbackCount := count
      scrollOffset :=
        if t.scrollOffset > 0 then
          if t.scrollOffset + 1 > count then count else t.scrollOffset + 1
        else t.scrollOffset }

/-- The `memcpy` loop of `term_scroll_region_up`: rows `top + 1 .. bottom` move up by one. -/
def moveRowsUp (g : Grid) (top bottom : Int) : Grid :=
  forLoop top bottom (fun r g => g.copy (cellIndex r 0) g (cellIndex (r + 1) 0) termCols) g

def termScrollRegionUp (t : Terminal) (top bottom : Int) : Terminal :=
  let t := if top = 0 ∧ bottom = termRows - 1 then pushScrollback t 0 else t
  t.setActiveGrid
    (cellClearRange (moveRowsUp t.activeGrid top bottom) bottom 0 (termCols - 1) t.curFg t.curBg)

def termLineFeed (t : Terminal) : Terminal :=
  if t.curRow = t.scrollBottom then termScrollRegionUp t t.scrollTop t.scrollBottom
  else if t.curRow < termRows - 1 then { t with curRow := t.curRow + 1 }
  else t

/-! ### Erasing -/

def termEraseInLine (t : Terminal) (mode : Int) : Terminal :=
  let clear (colFrom colTo : Int) :=
    t.setActiveGrid (cellClearRange t.activeGrid t.curRow colFrom colTo t.curFg t.curBg)
  if mode = 1 then clear 0 t.curCol
  else if mode = 2 then clear 0 (termCols - 1)
  else clear t.curCol (termCols - 1)

def termEraseInDisplay (t : Terminal) (mode : Int) : Terminal :=
  let clearRows (lo hi : Int) (g : Grid) :=
    forLoop lo hi (fun r g => cellClearRange g r 0 (termCols - 1) t.curFg t.curBg) g
  if mode = 1 then
    t.setActiveGrid (cellClearRange (clearRows 0 t.curRow t.activeGrid) t.curRow 0 t.curCol
      t.curFg t.curBg)
  else if mode = 2 ∨ mode = 3 then
    t.setActiveGrid (gridClearAll t.activeGrid t.curFg t.curBg)
  else
    t.setActiveGrid (clearRows (t.curRow + 1) termRows
      (cellClearRange t.activeGrid t.curRow t.curCol (termCols - 1) t.curFg t.curBg))

/-! ### Rendition and modes -/

/-- The fields `term_apply_sgr` reads and writes: `cur_fg`, `cur_bg`, `cur_attrs`. -/
structure Rendition where
  fg : UInt8
  bg : UInt8
  attrs : UInt8
deriving DecidableEq, Repr

def defaultRendition : Rendition := ⟨defaultFg, defaultBg, 0⟩

/-- One iteration of `term_apply_sgr`'s loop. -/
def sgrParam (r : Rendition) (param : Int) : Rendition :=
  let p := if param < 0 then 0 else param
  if p = 0 then defaultRendition
  else if p = 1 then { r with attrs := r.attrs ||| attrBold }
  else if p = 4 then { r with attrs := r.attrs ||| attrUnderl }
  else if p = 7 then { r with attrs := r.attrs ||| attrReverse }
  else if p = 22 then { r with attrs := r.attrs &&& ~~~attrBold }
  else if p = 24 then { r with attrs := r.attrs &&& ~~~attrUnderl }
  else if p = 27 then { r with attrs := r.attrs &&& ~~~attrReverse }
  else if 30 ≤ p ∧ p ≤ 37 then { r with fg := UInt8.ofNat (p - 30).toNat }
  else if p = 39 then { r with fg := defaultFg }
  else if 40 ≤ p ∧ p ≤ 47 then { r with bg := UInt8.ofNat (p - 40).toNat }
  else if p = 49 then { r with bg := defaultBg }
  else if 90 ≤ p ∧ p ≤ 97 then { r with fg := UInt8.ofNat (8 + (p - 90)).toNat }
  else if 100 ≤ p ∧ p ≤ 107 then { r with bg := UInt8.ofNat (8 + (p - 100)).toNat }
  else r

def termApplySgr (t : Terminal) (params : List Int) : Terminal :=
  let r := if params = [] then defaultRendition
    else params.foldl sgrParam ⟨t.curFg, t.curBg, t.curAttrs⟩
  { t with curFg := r.fg, curBg := r.bg, curAttrs := r.attrs }

/-- `case 47: case 1047: case 1049:` of `term_set_private_mode`. -/
def setAltScreen (t : Terminal) (mode : Int) (enable : Bool) : Terminal :=
  if enable = true ∧ t.altActive = false then
    { t with
      altActive := true
      grid := .altGrid
      altGrid := gridClearAll t.altGrid defaultFg defaultBg
      savedRow := if mode = 1049 then t.curRow else t.savedRow
      savedCol := if mode = 1049 then t.curCol else t.savedCol
      curRow := 0
      curCol := 0 }
  else if enable = false ∧ t.altActive = true then
    { t with
      altActive := false
      grid := .mainGrid
      curRow := if mode = 1049 then t.savedRow else t.curRow
      curCol := if mode = 1049 then t.savedCol else t.curCol }
  else t

def termSetPrivateMode (t : Terminal) (mode : Int) (enable : Bool) : Terminal :=
  if mode = 1 then { t with appCursorKeys := enable }
  else if mode = 25 then { t with cursorVisible := enable }
  else if mode = 47 ∨ mode = 1047 ∨ mode = 1049 then setAltScreen t mode enable
  else t

/-! ### Control sequences -/

/-- `'0' <= c && c <= '9'`. -/
def isDigit (c : UInt8) : Bool := 0x30 ≤ c && c ≤ 0x39

/-- The decimal value of a run of digits, accumulated in a C int. -/
def digitsValue (digits : List UInt8) : Int :=
  digits.foldl (fun val c => wrap32 (wrap32 (val * 10) + (c.toNat - 0x30 : Int))) 0

/-- `parse_params` on the bytes `buf[i..len)` with room for `room` more values: an iteration of the
outer loop consumes a separator, or a run of digits and the separator after it. -/
def parseParams : (room : Nat) → (buf : List UInt8) → List Int
  | 0, _ => []
  | _ + 1, [] => []
  | room + 1, c :: rest =>
      if c = 0x3B then -1 :: parseParams room rest -- ';'
      else
        let digits := (c :: rest).takeWhile isDigit
        let remaining := (c :: rest).dropWhile isDigit
        let remaining := if remaining.head? = some 0x3B then remaining.tail else remaining
        (if digits = [] then -1 else digitsValue digits) :: parseParams room remaining

/-- The parameters `term_dispatch_csi` reads: `int params[16]`. -/
def csiParams (t : Terminal) : List Int := parseParams 16 t.csiBuf

/-- `p0`. -/
def firstParam (params : List Int) : Int :=
  match params with
  | p :: _ => if p ≥ 0 then p else 0
  | [] => 0

/-- `p0_or1`. -/
def firstParamOr1 (params : List Int) : Int :=
  if firstParam params = 0 then 1 else firstParam params

/-- `(count > i && params[i] > 0) ? params[i] - 1 : fallback`. -/
def paramMinus1 (params : List Int) (i : Nat) (fallback : Int) : Int :=
  match params[i]? with
  | some p => if p > 0 then p - 1 else fallback
  | none => fallback

/-- `x < 0 ? 0 : (x >= n ? n - 1 : x)`. -/
def clampTo (n x : Int) : Int := if x < 0 then 0 else if x ≥ n then n - 1 else x

/-- `case 'r'`: the scroll region, and the cursor to its top left. -/
def setScrollRegion (t : Terminal) (params : List Int) : Terminal :=
  let top := paramMinus1 params 0 0
  let bottom := paramMinus1 params 1 (termRows - 1)
  let top := if top < 0 then 0 else top
  let bottom := if bottom ≥ termRows then termRows - 1 else bottom
  let region := if top < bottom then (top, bottom) else (0, termRows - 1)
  { t with scrollTop := region.1, scrollBottom := region.2, curRow := region.1, curCol := 0 }

/-- The modes of a private sequence, in order. -/
def setPrivateModes (t : Terminal) (params : List Int) (enable : Bool) : Terminal :=
  params.foldl (fun t p => termSetPrivateMode t (if p < 0 then 0 else p) enable) t

/-- The `switch (final)` of `term_dispatch_csi`. -/
def csiFinal (t : Terminal) (params : List Int) (final : UInt8) : Terminal :=
  match final with
  | 0x41 => -- 'A'
      let row := wrap32 (t.curRow - firstParamOr1 params)
      { t with curRow := if row < t.scrollTop then t.scrollTop else row }
  | 0x42 => -- 'B'
      let row := wrap32 (t.curRow + firstParamOr1 params)
      { t with curRow := if row > t.scrollBottom then t.scrollBottom else row }
  | 0x43 => -- 'C'
      let col := wrap32 (t.curCol + firstParamOr1 params)
      { t with curCol := if col > termCols - 1 then termCols - 1 else col }
  | 0x44 => -- 'D'
      let col := wrap32 (t.curCol - firstParamOr1 params)
      { t with curCol := if col < 0 then 0 else col }
  | 0x48 | 0x66 => -- 'H', 'f'
      { t with
        curRow := clampTo termRows (paramMinus1 params 0 0)
        curCol := clampTo termCols (paramMinus1 params 1 0) }
  | 0x4A => termEraseInDisplay t (firstParam params) -- 'J'
  | 0x4B => termEraseInLine t (firstParam params) -- 'K'
  | 0x6D => termApplySgr t params -- 'm'
  | 0x72 => setScrollRegion t params -- 'r'
  | _ => t

def termDispatchCsi (t : Terminal) (final : UInt8) : Terminal :=
  let params := csiParams t
  let t := { t with pendingWrap := false }
  if t.csiPrivate then
    if final = 0x68 ∨ final = 0x6C then setPrivateModes t params (final = 0x68) else t -- 'h', 'l'
  else csiFinal t params final

/-! ### One byte -/

/-- `case TSTATE_ESC`. -/
def termPutcEsc (t : Terminal) (c : UInt8) : Terminal :=
  let t := { t with state := .normal }
  if c = 0x5B then { t with state := .csi, csiBuf := [], csiPrivate := false } -- '['
  else if c = 0x5D then { t with state := .osc } -- ']'
  else if c = 0x28 ∨ c = 0x29 ∨ c = 0x2A ∨ c = 0x2B then { t with state := .escCharset } -- "()*+"
  else if c = 0x37 then -- '7'
    { t with
      savedRow := t.curRow
      savedCol := t.curCol
      savedFg := t.curFg
      savedBg := t.curBg
      savedAttrs := t.curAttrs }
  else if c = 0x38 then -- '8'
    { t with
      curRow := t.savedRow
      curCol := t.savedCol
      curFg := t.savedFg
      curBg := t.savedBg
      curAttrs := t.savedAttrs }
  else if c = 0x63 then -- 'c'
    let t := termResetState t
    t.setActiveGrid (gridClearAll t.activeGrid defaultFg defaultBg)
  else t

/-- `case TSTATE_CSI`. -/
def termPutcCsi (t : Terminal) (c : UInt8) : Terminal :=
  if c = 0x3F ∧ t.csiBuf.length = 0 then { t with csiPrivate := true } -- '?'
  else if isDigit c ∨ c = 0x3B then
    if t.csiBuf.length < csiBufLen - 1 then { t with csiBuf := t.csiBuf ++ [c] } else t
  else termDispatchCsi { t with state := .normal } c

/-- `case TSTATE_OSC`. -/
def termPutcOsc (t : Terminal) (c : UInt8) : Terminal :=
  if c = 0x07 ∨ c = 0x1B then { t with state := .normal } else t

/-- The bytes that are printed: not `c < 0x20 || c == 0x7F || c >= 0x80`. -/
def isPrintable (c : UInt8) : Bool := !(c < 0x20 || c == 0x7F || c ≥ 0x80)

/-- The deferred autowrap, performed before a byte is printed. -/
def autowrap (t : Terminal) : Terminal :=
  if t.pendingWrap then { termLineFeed { t with curCol := 0 } with pendingWrap := false } else t

/-- The cell a printed byte fills. -/
def printedCell (t : Terminal) (c : UInt8) : TermCell := ⟨c, t.curFg, t.curBg, t.curAttrs⟩

/-- A byte written at the cursor, which then advances or defers the wrap. -/
def putCell (t : Terminal) (c : UInt8) : Terminal :=
  let t := t.setActiveGrid
    (t.activeGrid.store (cellIndex t.curRow t.curCol) (printedCell t c))
  if t.curCol = termCols - 1 then { t with pendingWrap := true }
  else { t with curCol := wrap32 (t.curCol + 1) }

def termPutcPrint (t : Terminal) (c : UInt8) : Terminal := putCell (autowrap t) c

/-- `case TSTATE_NORMAL`: the control bytes, then the printable ones. -/
def termPutcNormal (t : Terminal) (c : UInt8) : Terminal :=
  if c = 0x1B then { t with state := .esc }
  else if c = 0x0D then { t with curCol := 0, pendingWrap := false } -- '\r'
  else if c = 0x0A then termLineFeed { t with pendingWrap := false } -- '\n'
  else if c = 0x08 then -- '\b'
    { t with pendingWrap := false, curCol := if t.curCol > 0 then t.curCol - 1 else t.curCol }
  else if c = 0x09 then -- '\t'
    let col := wrap32 ((t.curCol.tdiv 8 + 1) * 8)
    { t with pendingWrap := false, curCol := if col > termCols - 1 then termCols - 1 else col }
  else if isPrintable c then termPutcPrint t c
  else t

def termPutc (t : Terminal) (c : UInt8) : Terminal :=
  match t.state with
  | .esc => termPutcEsc t c
  | .escCharset => { t with state := .normal }
  | .csi => termPutcCsi t c
  | .osc => termPutcOsc t c
  | .normal => termPutcNormal t c

def terminalFeed (t : Terminal) (data : List UInt8) : Terminal := data.foldl termPutc t

end Tab5
