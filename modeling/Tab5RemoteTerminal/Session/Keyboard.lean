/-
**The keyboard** (`main/keyboard_indev.c`).

The firmware reports presses and releases of a 5 × 14 matrix. `handleKeyEvent` keeps the four
modifiers and turns a position into a HID keycode by one of two maps, the keycode into an LVGL key
code or a character, and a letter with Ctrl held into a control character.

A `Cap` is what stands on a key, and `Press.meaning` what pressing it means to a terminal, said
without the numbers the code passes it on by. The two differ because `send_key` takes a control
character for the LVGL key of the same number:

* `keyOf_cap`: the number a key is passed on by, for all keycodes;
* `Press.sends_eq_meaning`: a press sends what it means exactly if it is not Ctrl with one of the
  six letters of `collisions`.
-/

import Tab5RemoteTerminal.Session.Keys

namespace Tab5

/-! ### The keymaps -/

structure HidMapping where
  keycode : UInt8
  modifier : UInt8
deriving DecidableEq, Repr

def kbdRows : UInt8 := 5
def kbdCols : UInt8 := 14

def keyMatrixHidBase : List HidMapping := [
  -- Row 0: Esc 1 2 3 4 5 6 7 8 9 0 - + Del
  ⟨0x29, 0x00⟩, ⟨0x1E, 0x00⟩, ⟨0x1F, 0x00⟩, ⟨0x20, 0x00⟩, ⟨0x21, 0x00⟩, ⟨0x22, 0x00⟩, ⟨0x23, 0x00⟩,
  ⟨0x24, 0x00⟩, ⟨0x25, 0x00⟩, ⟨0x26, 0x00⟩, ⟨0x27, 0x00⟩, ⟨0x2D, 0x00⟩, ⟨0x2E, 0x02⟩, ⟨0x4C, 0x00⟩,
  -- Row 1: ` ! @ # $ % ^ & * ( ) [ ] \
  ⟨0x35, 0x00⟩, ⟨0x1E, 0x02⟩, ⟨0x1F, 0x02⟩, ⟨0x20, 0x02⟩, ⟨0x21, 0x02⟩, ⟨0x22, 0x02⟩, ⟨0x23, 0x02⟩,
  ⟨0x24, 0x02⟩, ⟨0x25, 0x02⟩, ⟨0x26, 0x02⟩, ⟨0x27, 0x02⟩, ⟨0x2F, 0x00⟩, ⟨0x30, 0x00⟩, ⟨0x31, 0x00⟩,
  -- Row 2: Tab q w e r t y u i o p ; ' Backspace
  ⟨0x2B, 0x00⟩, ⟨0x14, 0x00⟩, ⟨0x1A, 0x00⟩, ⟨0x08, 0x00⟩, ⟨0x15, 0x00⟩, ⟨0x17, 0x00⟩, ⟨0x1C, 0x00⟩,
  ⟨0x18, 0x00⟩, ⟨0x0C, 0x00⟩, ⟨0x12, 0x00⟩, ⟨0x13, 0x00⟩, ⟨0x33, 0x00⟩, ⟨0x34, 0x00⟩, ⟨0x2A, 0x00⟩,
  -- Row 3: Sym Aa a s d f g h j k l Up _ Enter
  ⟨0x00, 0x00⟩, ⟨0x00, 0x00⟩, ⟨0x04, 0x00⟩, ⟨0x16, 0x00⟩, ⟨0x07, 0x00⟩, ⟨0x09, 0x00⟩, ⟨0x0A, 0x00⟩,
  ⟨0x0B, 0x00⟩, ⟨0x0D, 0x00⟩, ⟨0x0E, 0x00⟩, ⟨0x0F, 0x00⟩, ⟨0x52, 0x00⟩, ⟨0x2D, 0x02⟩, ⟨0x28, 0x00⟩,
  -- Row 4: Ctrl Alt z x c v b n m . Left Down Right Space
  ⟨0x00, 0x00⟩, ⟨0x00, 0x00⟩, ⟨0x1D, 0x00⟩, ⟨0x1B, 0x00⟩, ⟨0x06, 0x00⟩, ⟨0x19, 0x00⟩, ⟨0x05, 0x00⟩,
  ⟨0x11, 0x00⟩, ⟨0x10, 0x00⟩, ⟨0x37, 0x00⟩, ⟨0x50, 0x00⟩, ⟨0x51, 0x00⟩, ⟨0x4F, 0x00⟩, ⟨0x2C, 0x00⟩]

/-- The layer while Sym is held. -/
def keyMatrixHidSym : List HidMapping := [
  ⟨0x29, 0x00⟩, ⟨0x1E, 0x00⟩, ⟨0x1F, 0x00⟩, ⟨0x20, 0x00⟩, ⟨0x21, 0x00⟩, ⟨0x22, 0x00⟩, ⟨0x23, 0x00⟩,
  ⟨0x24, 0x00⟩, ⟨0x25, 0x00⟩, ⟨0x26, 0x00⟩, ⟨0x27, 0x00⟩, ⟨0x2D, 0x00⟩, ⟨0x2E, 0x02⟩, ⟨0x4C, 0x00⟩,
  ⟨0x35, 0x02⟩, ⟨0x38, 0x02⟩, ⟨0x1F, 0x02⟩, ⟨0x20, 0x02⟩, ⟨0x21, 0x02⟩, ⟨0x22, 0x02⟩,
  ⟨0x23, 0x02⟩, ⟨0x24, 0x02⟩, ⟨0x38, 0x00⟩, ⟨0x36, 0x02⟩, ⟨0x37, 0x02⟩,
  ⟨0x2F, 0x02⟩, ⟨0x30, 0x02⟩, ⟨0x31, 0x02⟩,
  ⟨0x2B, 0x00⟩, ⟨0x14, 0x00⟩, ⟨0x1A, 0x00⟩, ⟨0x08, 0x00⟩, ⟨0x15, 0x00⟩, ⟨0x17, 0x00⟩, ⟨0x1C, 0x00⟩,
  ⟨0x18, 0x00⟩, ⟨0x0C, 0x00⟩, ⟨0x12, 0x00⟩, ⟨0x13, 0x00⟩, ⟨0x33, 0x02⟩, ⟨0x34, 0x02⟩,
  ⟨0x2A, 0x00⟩,
  ⟨0x00, 0x00⟩, ⟨0x00, 0x00⟩, ⟨0x04, 0x00⟩, ⟨0x16, 0x00⟩, ⟨0x07, 0x00⟩, ⟨0x09, 0x00⟩, ⟨0x0A, 0x00⟩,
  ⟨0x0B, 0x00⟩, ⟨0x0D, 0x00⟩, ⟨0x0E, 0x00⟩, ⟨0x0F, 0x00⟩, ⟨0x52, 0x00⟩, ⟨0x2E, 0x00⟩, ⟨0x28, 0x00⟩,
  ⟨0x00, 0x00⟩, ⟨0x00, 0x00⟩, ⟨0x1D, 0x00⟩, ⟨0x1B, 0x00⟩, ⟨0x06, 0x00⟩, ⟨0x19, 0x00⟩, ⟨0x05, 0x00⟩,
  ⟨0x11, 0x00⟩, ⟨0x10, 0x00⟩, ⟨0x36, 0x00⟩, ⟨0x50, 0x00⟩, ⟨0x51, 0x00⟩, ⟨0x4F, 0x00⟩, ⟨0x2C, 0x00⟩]

/-! ### Keycodes -/

def lvKeyNext : UInt32 := 9

def lower : List Char :=
  ['a', 'b', 'c', 'd', 'e', 'f', 'g', 'h', 'i', 'j', 'k', 'l', 'm', 'n', 'o', 'p', 'q', 'r', 's',
    't', 'u', 'v', 'w', 'x', 'y', 'z']

def upper : List Char :=
  ['A', 'B', 'C', 'D', 'E', 'F', 'G', 'H', 'I', 'J', 'K', 'L', 'M', 'N', 'O', 'P', 'Q', 'R', 'S',
    'T', 'U', 'V', 'W', 'X', 'Y', 'Z']

def digits : List Char := ['1', '2', '3', '4', '5', '6', '7', '8', '9', '0']

def shifted : List Char := ['!', '@', '#', '$', '%', '^', '&', '*', '(', ')']

/-- The code of `chars[keycode - first]`. -/
def charAt (chars : List Char) (keycode first : UInt8) : UInt32 :=
  (chars.getD (keycode - first).toNat ' ').val

def hidKeycodeToLvKey (keycode : UInt8) (shift : Bool) : UInt32 :=
  let either := fun (withShift plain : Char) => (if shift then withShift else plain).val
  if 0x04 ≤ keycode ∧ keycode ≤ 0x1D then charAt (if shift then upper else lower) keycode 0x04
  else if 0x1E ≤ keycode ∧ keycode ≤ 0x27 then
    charAt (if shift then shifted else digits) keycode 0x1E
  else if keycode = 0x28 then lvKeyEnter
  else if keycode = 0x29 then lvKeyEsc
  else if keycode = 0x2A then lvKeyBackspace
  else if keycode = 0x2B then lvKeyNext
  else if keycode = 0x2C then ' '.val
  else if keycode = 0x2D then either '_' '-'
  else if keycode = 0x2E then either '+' '='
  else if keycode = 0x2F then either '\x7b' '['
  else if keycode = 0x30 then either '\x7d' ']'
  else if keycode = 0x31 then either '|' '\x5c'
  else if keycode = 0x33 then either ':' ';'
  else if keycode = 0x34 then either '\x22' '\x27'
  else if keycode = 0x35 then either '~' '\x60'
  else if keycode = 0x36 then either '<' ','
  else if keycode = 0x37 then either '>' '.'
  else if keycode = 0x38 then either '?' '/'
  else if keycode = 0x4C then lvKeyDel
  else if keycode = 0x4F then lvKeyRight
  else if keycode = 0x50 then lvKeyLeft
  else if keycode = 0x51 then lvKeyDown
  else if keycode = 0x52 then lvKeyUp
  else 0

/-! ### `handle_key_event` -/

/-- The modifiers held. -/
structure Keyboard where
  sSymHeld : Bool
  sAaHeld : Bool
  sCtrlHeld : Bool
  sAltHeld : Bool
deriving DecidableEq, Repr

namespace Keyboard

/-- The mapping of a position in the layer selected by Sym, if the position has a keycode. -/
def mapping (k : Keyboard) (row col : UInt8) : Option HidMapping :=
  if kbdRows ≤ row ∨ kbdCols ≤ col then none
  else
    let map := if k.sSymHeld then keyMatrixHidSym else keyMatrixHidBase
    (map[row.toNat * kbdCols.toNat + col.toNat]?).filter (·.keycode ≠ 0)

/-- `bool shift = (m.modifier & 0x02) != 0 || s_aa_held`. -/
def shift (k : Keyboard) (m : HidMapping) : Bool := m.modifier &&& 0x02 ≠ 0 || k.sAaHeld

end Keyboard

/-- The key a keycode is passed on as, 0 for none; `raw` is whether a raw callback is set. -/
def keyOf (raw ctrl shift : Bool) (keycode : UInt8) : UInt32 :=
  let key := hidKeycodeToLvKey keycode shift
  let key := if raw ∧ key = lvKeyNext ∧ keycode = 0x2B then '\t'.val else key
  if ctrl ∧ 'a'.val ≤ key ∧ key ≤ 'z'.val then key - 'a'.val + 1
  else if ctrl ∧ 'A'.val ≤ key ∧ key ≤ 'Z'.val then key - 'A'.val + 1
  else key

/-- `handle_key_event`: the modifiers after it, and the key handed to the callback or to LVGL. -/
def handleKeyEvent (k : Keyboard) (raw : Bool) (row col : UInt8) (pressed : Bool) :
    Keyboard × Option UInt32 :=
  if row = 3 ∧ col = 0 then ({ k with sSymHeld := pressed }, none)
  else if row = 3 ∧ col = 1 then ({ k with sAaHeld := pressed }, none)
  else if row = 4 ∧ col = 0 then ({ k with sCtrlHeld := pressed }, none)
  else if row = 4 ∧ col = 1 then ({ k with sAltHeld := pressed }, none)
  else
    match k.mapping row col with
    | none => (k, none)
    | some m =>
        let shift := k.shift m
        if hidKeycodeToLvKey m.keycode shift = 0 then (k, none)
        else (k, some (keyOf raw k.sCtrlHeld shift m.keycode))

/-! ### What stands on the keys -/

/-- A character other than a control character. -/
abbrev Printable := { c : UInt8 // 0x20 ≤ c ∧ c < 0x7F }

inductive Cap where
  /-- The `n`-th letter, from 0. -/
  | letter (n : Fin 26)
  | character (plain withShift : Printable)
  | enter
  | escape
  | backspace
  | tab
  | delete
  /-- An arrow, by the last letter of its sequence. -/
  | arrow (final : UInt8) (isFinal : final ∈ [0x41, 0x42, 0x43, 0x44])
deriving DecidableEq

/-- The keys that are no letters, of a US layout. -/
def caps : List (UInt8 × Cap) := [
  (0x1E, .character ⟨0x31, by decide⟩ ⟨0x21, by decide⟩),
  (0x1F, .character ⟨0x32, by decide⟩ ⟨0x40, by decide⟩),
  (0x20, .character ⟨0x33, by decide⟩ ⟨0x23, by decide⟩),
  (0x21, .character ⟨0x34, by decide⟩ ⟨0x24, by decide⟩),
  (0x22, .character ⟨0x35, by decide⟩ ⟨0x25, by decide⟩),
  (0x23, .character ⟨0x36, by decide⟩ ⟨0x5E, by decide⟩),
  (0x24, .character ⟨0x37, by decide⟩ ⟨0x26, by decide⟩),
  (0x25, .character ⟨0x38, by decide⟩ ⟨0x2A, by decide⟩),
  (0x26, .character ⟨0x39, by decide⟩ ⟨0x28, by decide⟩),
  (0x27, .character ⟨0x30, by decide⟩ ⟨0x29, by decide⟩),
  (0x28, .enter), (0x29, .escape), (0x2A, .backspace), (0x2B, .tab),
  (0x2C, .character ⟨0x20, by decide⟩ ⟨0x20, by decide⟩),
  (0x2D, .character ⟨0x2D, by decide⟩ ⟨0x5F, by decide⟩),
  (0x2E, .character ⟨0x3D, by decide⟩ ⟨0x2B, by decide⟩),
  (0x2F, .character ⟨0x5B, by decide⟩ ⟨0x7B, by decide⟩),
  (0x30, .character ⟨0x5D, by decide⟩ ⟨0x7D, by decide⟩),
  (0x31, .character ⟨0x5C, by decide⟩ ⟨0x7C, by decide⟩),
  (0x33, .character ⟨0x3B, by decide⟩ ⟨0x3A, by decide⟩),
  (0x34, .character ⟨0x27, by decide⟩ ⟨0x22, by decide⟩),
  (0x35, .character ⟨0x60, by decide⟩ ⟨0x7E, by decide⟩),
  (0x36, .character ⟨0x2C, by decide⟩ ⟨0x3C, by decide⟩),
  (0x37, .character ⟨0x2E, by decide⟩ ⟨0x3E, by decide⟩),
  (0x38, .character ⟨0x2F, by decide⟩ ⟨0x3F, by decide⟩),
  (0x4C, .delete),
  (0x4F, .arrow 0x43 (by decide)), (0x50, .arrow 0x44 (by decide)),
  (0x51, .arrow 0x42 (by decide)), (0x52, .arrow 0x41 (by decide))]

/-- The key of a HID keycode. -/
def capOf (keycode : UInt8) : Option Cap :=
  if letter : 0x04 ≤ keycode.toNat ∧ keycode.toNat ≤ 0x1D then
    some (.letter ⟨keycode.toNat - 0x04, by omega⟩)
  else caps.lookup keycode

/-- A press of a key, with the modifiers held at that moment. -/
structure Press where
  cap : Cap
  shift : Bool
  ctrl : Bool
deriving DecidableEq

namespace Press

/-- What the press means to a terminal: an arrow is ESC O and its letter, or ESC [ and its letter. -/
def meaning (appMode : Bool) (p : Press) : List UInt8 :=
  match p.cap with
  | .letter n =>
      if p.ctrl then [UInt8.ofNat (n.val + 1)]
      else [UInt8.ofNat (n.val + if p.shift then 0x41 else 0x61)]
  | .character plain withShift => [if p.shift then withShift.val else plain.val]
  | .enter => [0x0D, 0x0A]
  | .escape => [0x1B]
  | .backspace => [0x7F]
  | .tab => [0x09]
  | .delete => [0x1B, 0x5B, 0x33, 0x7E]
  | .arrow final _ => if appMode then [0x1B, 0x4F, final] else [0x1B, 0x5B, final]

/-- The number the press is passed on by. -/
def code (p : Press) : UInt32 :=
  match p.cap with
  | .letter n =>
      if p.ctrl then UInt32.ofNat (n.val + 1)
      else UInt32.ofNat (n.val + if p.shift then 0x41 else 0x61)
  | .character plain withShift => (if p.shift then withShift.val else plain.val).toUInt32
  | .enter => lvKeyEnter
  | .escape => lvKeyEsc
  | .backspace => lvKeyBackspace
  | .tab => lvKeyNext
  | .delete => lvKeyDel
  | .arrow final _ =>
      if final = 0x41 then lvKeyUp
      else if final = 0x42 then lvKeyDown
      else if final = 0x43 then lvKeyRight
      else lvKeyLeft

/-- H, J, Q, R, S and T: their control characters have the numbers of Backspace, Enter and the
arrows. -/
def collisions : List (Fin 26) := [7, 9, 16, 17, 18, 19]

/-- Ctrl with one of these. -/
def Collides (p : Press) : Prop :=
  p.ctrl = true ∧ ∃ n ∈ collisions, p.cap = .letter n

instance (p : Press) : Decidable p.Collides := inferInstanceAs (Decidable (_ ∧ _))

end Press

/-- The press of a position, if a key with a meaning is there. -/
def Keyboard.press (k : Keyboard) (row col : UInt8) : Option Press :=
  (k.mapping row col).bind fun m =>
    (capOf m.keycode).map fun cap => ⟨cap, k.shift m, k.sCtrlHeld⟩

/-! ### The numbers -/

/-- All keycodes. -/
def keycodes : List UInt8 := (List.range 256).map UInt8.ofNat

theorem mem_keycodes (keycode : UInt8) : keycode ∈ keycodes :=
  List.mem_map.mpr ⟨keycode.toNat, List.mem_range.mpr keycode.toNat_lt, UInt8.ofNat_toNat⟩

/-- The number of what stands on a key, 0 for nothing. -/
def capCode (ctrl shift : Bool) (keycode : UInt8) : UInt32 :=
  ((capOf keycode).map fun cap => Press.code ⟨cap, shift, ctrl⟩).getD 0

/-- **The code's tables against the caps**, over all keycodes. -/
theorem keyOf_cap (ctrl shift : Bool) (keycode : UInt8) :
    (hidKeycodeToLvKey keycode shift = 0 ↔ capOf keycode = none) ∧
      keyOf true ctrl shift keycode = capCode ctrl shift keycode := by
  have all : ∀ keycode ∈ keycodes,
      (hidKeycodeToLvKey keycode true = 0 ↔ capOf keycode = none) ∧
        (hidKeycodeToLvKey keycode false = 0 ↔ capOf keycode = none) ∧
        keyOf true true true keycode = capCode true true keycode ∧
        keyOf true true false keycode = capCode true false keycode ∧
        keyOf true false true keycode = capCode false true keycode ∧
        keyOf true false false keycode = capCode false false keycode := by
    decide +kernel
  obtain ⟨noneShift, nonePlain, both, ctrlOnly, shiftOnly, neither⟩ :=
    all keycode (mem_keycodes keycode)
  cases ctrl <;> cases shift
  · exact ⟨nonePlain, neither⟩
  · exact ⟨noneShift, shiftOnly⟩
  · exact ⟨nonePlain, ctrlOnly⟩
  · exact ⟨noneShift, both⟩

/-- A position hands its press on by its number, and nothing when no key is there. -/
theorem handleKeyEvent_press (k : Keyboard) (row col : UInt8) (pressed : Bool) :
    (handleKeyEvent k true row col pressed).2 = (k.press row col).map Press.code := by
  have noPress : ∀ {row col : UInt8}, k.mapping row col = none →
      none = (k.press row col).map Press.code := by
    intro row col noMapping
    rw [Keyboard.press, noMapping]
    rfl
  -- neither layer has a keycode where the modifiers are
  have modifiers : k.mapping 3 0 = none ∧ k.mapping 3 1 = none ∧ k.mapping 4 0 = none ∧
      k.mapping 4 1 = none := by
    rcases k with ⟨sym⟩
    cases sym
    · exact ⟨rfl, rfl, rfl, rfl⟩
    · exact ⟨rfl, rfl, rfl, rfl⟩
  obtain ⟨sym, aa, ctrl, alt⟩ := modifiers
  unfold handleKeyEvent
  split
  · rename_i at_
    rw [at_.1, at_.2]
    exact noPress sym
  split
  · rename_i at_
    rw [at_.1, at_.2]
    exact noPress aa
  split
  · rename_i at_
    rw [at_.1, at_.2]
    exact noPress ctrl
  split
  · rename_i at_
    rw [at_.1, at_.2]
    exact noPress alt
  cases mapped : k.mapping row col with
  | none => exact noPress mapped
  | some m =>
      obtain ⟨noKey, key⟩ := keyOf_cap k.sCtrlHeld (k.shift m) m.keycode
      rw [Keyboard.press, mapped]
      cases cap : capOf m.keycode with
      | none => simp [noKey.mpr cap, cap]
      | some cap' =>
          have isKey : hidKeycodeToLvKey m.keycode (k.shift m) ≠ 0 := by
            intro zero
            rw [noKey.mp zero] at cap
            cases cap
          simp [isKey, key, capCode, cap]

/-! ### What is sent -/

theorem sendKey_printable (appMode : Bool) (c : Printable) :
    sendKey appMode c.val.toUInt32 = some [c.val] := by
  obtain ⟨c, low, high⟩ := c
  have ne : ∀ code : UInt32, code.toNat < 0x20 ∨ 0x7F ≤ code.toNat → c.toUInt32 ≠ code := by
    rintro code outside rfl
    have low' : 0x20 ≤ c.toNat := low
    have high' : c.toNat < 0x7F := high
    rw [UInt8.toNat_toUInt32] at outside
    omega
  have byte : c.toUInt32 < 0x100 := by
    show c.toUInt32.toNat < 256
    rw [UInt8.toNat_toUInt32]
    exact c.toNat_lt
  unfold sendKey
  rw [if_neg (ne lvKeyEnter (by decide)), if_neg (ne lvKeyBackspace (by decide)),
    if_neg (ne lvKeyEsc (by decide)), if_neg (ne lvKeyUp (by decide)),
    if_neg (ne lvKeyDown (by decide)), if_neg (ne lvKeyRight (by decide)),
    if_neg (ne lvKeyLeft (by decide)), if_neg (ne lvKeyDel (by decide)), if_pos byte]
  simp

theorem sendKey_letter (appMode shift : Bool) (n : Fin 26) :
    sendKey appMode (UInt32.ofNat (n.val + if shift then 0x41 else 0x61)) =
      some [UInt8.ofNat (n.val + if shift then 0x41 else 0x61)] := by
  revert n
  cases appMode <;> cases shift <;> decide

theorem sendKey_control (appMode : Bool) {n : Fin 26} (plain : n ∉ Press.collisions) :
    sendKey appMode (UInt32.ofNat (n.val + 1)) = some [UInt8.ofNat (n.val + 1)] := by
  revert n
  cases appMode <;> decide

/-- The numbers of Backspace, Enter and the arrows. -/
theorem sendKey_collision (appMode : Bool) {n : Fin 26} (collides : n ∈ Press.collisions) :
    ∃ first rest, sendKey appMode (UInt32.ofNat (n.val + 1)) = some (first :: rest) ∧
      first :: rest ≠ [UInt8.ofNat (n.val + 1)] := by
  simp only [Press.collisions, List.mem_cons, List.not_mem_nil, or_false] at collides
  rcases collides with rfl | rfl | rfl | rfl | rfl | rfl
  · exact ⟨_, _, rfl, by decide⟩
  all_goals exact ⟨_, _, rfl, by simp⟩

namespace Press

/-- A press that means what it is passed on by. -/
theorem plain_sent {appMode : Bool} {p : Press} (plain : ¬ p.Collides)
    (sent : sendKey appMode p.code = some (p.meaning appMode)) :
    ∃ bytes, sendKey appMode p.code = some bytes ∧ (p.meaning appMode).length ≤ bytes.length ∧
      (bytes = p.meaning appMode ↔ ¬ p.Collides) :=
  ⟨_, sent, Nat.le_refl _, iff_of_true rfl plain⟩

/-- **What `send_key` writes for a press.** It writes no fewer bytes than the press means, and
exactly these if it is not one of the collisions. -/
theorem sendKey_code (appMode : Bool) (p : Press) :
    ∃ bytes, sendKey appMode p.code = some bytes ∧ (p.meaning appMode).length ≤ bytes.length ∧
      (bytes = p.meaning appMode ↔ ¬ p.Collides) := by
  rcases p with ⟨cap, shift, ctrl⟩
  have noLetter : (∀ n, cap ≠ .letter n) → ¬ Collides ⟨cap, shift, ctrl⟩ := by
    rintro other ⟨_, n, _, same⟩
    exact other n same
  cases cap with
  | letter n =>
      cases ctrl with
      | false =>
          refine plain_sent ?_ (sendKey_letter appMode shift n)
          rintro ⟨held, _⟩
          cases held
      | true =>
          by_cases collides : n ∈ collisions
          · obtain ⟨first, rest, sent, differs⟩ := sendKey_collision appMode collides
            refine ⟨_, sent, Nat.succ_le_succ (Nat.zero_le rest.length), ?_⟩
            exact iff_of_false differs fun plain => plain ⟨rfl, n, collides, rfl⟩
          · refine plain_sent ?_ (sendKey_control appMode collides)
            rintro ⟨_, other, mem, same⟩
            rw [Cap.letter.inj same] at collides
            exact collides mem
  | character plain withShift =>
      refine plain_sent (noLetter fun n => by simp) ?_
      cases shift with
      | false => exact sendKey_printable appMode plain
      | true => exact sendKey_printable appMode withShift
  | arrow final isFinal =>
      refine plain_sent (noLetter fun n => by simp) ?_
      simp only [List.mem_cons, List.not_mem_nil, or_false] at isFinal
      rcases isFinal with rfl | rfl | rfl | rfl
      all_goals cases appMode <;> rfl
  | _ => exact plain_sent (noLetter fun n => by simp) rfl

/-- The bytes written for a press. -/
def sends (appMode : Bool) (p : Press) : List UInt8 := (sendKey appMode p.code).getD []

theorem meaning_length (appMode : Bool) (p : Press) :
    (p.meaning appMode).length ≤ (p.sends appMode).length := by
  obtain ⟨bytes, sent, longer, _⟩ := p.sendKey_code appMode
  rw [sends, sent]
  exact longer

theorem sends_eq_meaning {appMode : Bool} {p : Press} :
    p.sends appMode = p.meaning appMode ↔ ¬ p.Collides := by
  obtain ⟨bytes, sent, _, exactly⟩ := p.sendKey_code appMode
  rw [sends, sent]
  exact exactly

end Press

end Tab5
