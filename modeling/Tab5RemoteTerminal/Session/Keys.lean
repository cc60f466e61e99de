/-
**The bytes of a key** (`main/session_ui.c`, lines 77 to 155).

A key is an LVGL key code or a character. `sendKey` is what it sends to the remote, in the cursor
key mode the terminal is in; `localEchoFeed` is what the session feeds to its own terminal for it
when local echo is on. A key sends something exactly if its code is below 0x100
(`sendKey_eq_none`).
-/

import Tab5RemoteTerminal.Terminal.Parser

namespace Tab5

/-! ### LVGL's key codes -/

def lvKeyUp : UInt32 := 17
def lvKeyDown : UInt32 := 18
def lvKeyRight : UInt32 := 19
def lvKeyLeft : UInt32 := 20
def lvKeyEsc : UInt32 := 27
def lvKeyDel : UInt32 := 127
def lvKeyBackspace : UInt32 := 8
def lvKeyEnter : UInt32 := 10

/-! ### What a key sends and what it echoes -/

/-- `"\x1BO"` or `"\x1B["` and the letter of the arrow. -/
def cursorKey (appMode : Bool) (letter : UInt8) : List UInt8 :=
  [0x1B, if appMode then 0x4F else 0x5B, letter]

/-- The buffer of the one `s_transport.write` call of `send_key`, if it makes one. -/
def sendKey (appMode : Bool) (key : UInt32) : Option (List UInt8) :=
  if key = lvKeyEnter then some [0x0D, 0x0A]
  else if key = lvKeyBackspace then some [0x7F]
  else if key = lvKeyEsc then some [0x1B]
  else if key = lvKeyUp then some (cursorKey appMode 0x41)
  else if key = lvKeyDown then some (cursorKey appMode 0x42)
  else if key = lvKeyRight then some (cursorKey appMode 0x43)
  else if key = lvKeyLeft then some (cursorKey appMode 0x44)
  else if key = lvKeyDel then some [0x1B, 0x5B, 0x33, 0x7E]
  else if key < 0x100 then some [key.toUInt8]
  else none

/-- The bytes `local_echo_feed` feeds, none for Escape and for what is no byte. -/
def localEcho (appMode : Bool) (key : UInt32) : List UInt8 :=
  if key = lvKeyEnter then [0x0D, 0x0A]
  else if key = lvKeyBackspace then [0x08, 0x20, 0x08]
  else if key = lvKeyEsc then []
  else if key = lvKeyUp then cursorKey appMode 0x41
  else if key = lvKeyDown then cursorKey appMode 0x42
  else if key = lvKeyRight then cursorKey appMode 0x43
  else if key = lvKeyLeft then cursorKey appMode 0x44
  else if key = lvKeyDel then [0x1B, 0x5B, 0x33, 0x7E]
  else if key < 0x100 then [key.toUInt8]
  else []

def localEchoFeed (t : Terminal) (key : UInt32) : Terminal :=
  terminalFeed t (localEcho t.appCursorKeys key)

/-- The codes of LVGL's keys are bytes themselves, so a key sends nothing only if it is no byte. -/
theorem sendKey_eq_none {appMode : Bool} {key : UInt32} :
    sendKey appMode key = none ↔ ¬ key < 0x100 := by
  constructor
  · intro nothing isByte
    unfold sendKey at nothing
    repeat' split at nothing
    all_goals contradiction
  · intro noByte
    have ne : ∀ code : UInt32, code < 0x100 → key ≠ code := by
      rintro code isByte rfl
      exact noByte isByte
    unfold sendKey
    rw [if_neg (ne lvKeyEnter (by decide)), if_neg (ne lvKeyBackspace (by decide)),
      if_neg (ne lvKeyEsc (by decide)), if_neg (ne lvKeyUp (by decide)),
      if_neg (ne lvKeyDown (by decide)), if_neg (ne lvKeyRight (by decide)),
      if_neg (ne lvKeyLeft (by decide)), if_neg (ne lvKeyDel (by decide)), if_neg noByte]

end Tab5
