/-
**What the parser recognises.**

The parser of a terminal as a machine of its own: a state with what it has collected (`Parsing`)
and what a byte does to it. The parser fields of the terminal follow that machine whatever is on the
screen (`putc_parsing`), and what a byte completes depends on them alone (`recognised_congr`).
The bytes of an OSC string are in no field, since the code discards them; a `Listener` is a terminal
with the OSC string of the moment beside it.
-/

import Tab5RemoteTerminal.Library.Run
import Tab5RemoteTerminal.Terminal.Frame

namespace Tab5

/-! ### The sequences -/

/-- A control sequence with its parameters and its final byte, one mode that a private sequence
sets or resets, or an OSC string. -/
inductive Recognised where
  | csi (isPrivate : Bool) (params : List Int) (final : UInt8)
  | privateMode (mode : Int) (enable : Bool)
  | osc (text : List UInt8)
deriving DecidableEq, Repr

/-- What one call of `term_dispatch_csi` recognises. -/
def dispatched (isPrivate : Bool) (params : List Int) (final : UInt8) : List Recognised :=
  .csi isPrivate params final ::
    if isPrivate ∧ (final = 0x68 ∨ final = 0x6C) then -- 'h', 'l'
      params.map fun p => .privateMode (if p < 0 then 0 else p) (final = 0x68)
    else []

/-! ### The parser -/

/-- Text leaves the parser in its normal state. -/
theorem termPutcNormal_state (t : Terminal) (c : UInt8) :
    (termPutcNormal t c).state = if c = 0x1B then .esc else t.state := by
  unfold termPutcNormal
  split
  · rfl
  split
  · rfl
  split
  · obtain ⟨_, _, _, _, _, _, _, fed⟩ := termLineFeed_touches { t with pendingWrap := false }
    rw [fed]
  split
  · rfl
  split
  · rfl
  split
  · obtain ⟨_, _, _, _, _, _, _, _, _, printed⟩ := termPutcPrint_touches t c
    rw [printed]
  · rfl

/-- The state of the parser, with what it has collected. -/
inductive Parsing where
  | normal
  | esc
  | escCharset
  | csi (isPrivate : Bool) (buf : List UInt8)
  | osc (text : List UInt8)
deriving DecidableEq, Repr

def Parsing.step (p : Parsing) (c : UInt8) : Parsing :=
  match p with
  | .normal => if c = 0x1B then .esc else .normal
  | .esc =>
      if c = 0x5B then .csi false []
      else if c = 0x5D then .osc []
      else if c = 0x28 ∨ c = 0x29 ∨ c = 0x2A ∨ c = 0x2B then .escCharset
      else .normal
  | .escCharset => .normal
  | .csi isPrivate buf =>
      if c = 0x3F ∧ buf.length = 0 then .csi true buf
      else if isDigit c ∨ c = 0x3B then
        .csi isPrivate (if buf.length < csiBufLen - 1 then buf ++ [c] else buf)
      else .normal
  | .osc text => if c = 0x07 ∨ c = 0x1B then .normal else .osc (text ++ [c])

/-- The parser fields of a terminal, and the OSC string of the moment. -/
def Parsing.of (t : Terminal) (oscText : List UInt8) : Parsing :=
  match t.state with
  | .normal => .normal
  | .esc => .esc
  | .escCharset => .escCharset
  | .csi => .csi t.csiPrivate t.csiBuf
  | .osc => .osc oscText

/-- A terminal and the bytes it has discarded since `ESC ]`. -/
structure Listener where
  term : Terminal
  oscText : List UInt8

namespace Listener

/-- One byte. -/
def putc (l : Listener) (c : UInt8) : Listener where
  term := termPutc l.term c
  oscText := if l.term.state = .osc ∧ c ≠ 0x07 ∧ c ≠ 0x1B then l.oscText ++ [c] else []

/-- The sequences a byte completes. -/
def recognised (l : Listener) (c : UInt8) : List Recognised :=
  match l.term.state with
  | .csi =>
      if (c = 0x3F ∧ l.term.csiBuf.length = 0) ∨ isDigit c ∨ c = 0x3B then []
      else dispatched l.term.csiPrivate (csiParams l.term) c
  | .osc => if c = 0x07 ∨ c = 0x1B then [.osc l.oscText] else []
  | _ => []

/-- Where the parser is. -/
def parsing (l : Listener) : Parsing := Parsing.of l.term l.oscText

def feed (l : Listener) (w : List UInt8) : Listener := Run.after putc l w

/-- The sequences some bytes complete, in order. -/
def heard (l : Listener) (w : List UInt8) : List Recognised := Run.emitted putc recognised l w

variable {l : Listener}

theorem feed_term (l : Listener) (w : List UInt8) : (l.feed w).term = terminalFeed l.term w := by
  induction w generalizing l with
  | nil => rfl
  | cons c w ih => exact ih (l.putc c)

/-- What a byte that ends an escape does to the parser. -/
theorem termPutcEsc_parsing (t : Terminal) (c : UInt8) :
    Parsing.of (termPutcEsc t c) [] = Parsing.esc.step c := by
  have reset : (resetScreen { t with state := .normal }).state = .normal := by
    obtain ⟨_, _, cleared⟩ := resetScreen_touches { t with state := .normal }
    rw [cleared]
    rfl
  unfold termPutcEsc Parsing.step
  dsimp only
  split
  · rfl
  split
  · rfl
  split
  · rfl
  split
  · rfl
  split
  · rfl
  split
  · show Parsing.of (resetScreen { t with state := .normal }) [] = _
    rw [Parsing.of, reset]
  · rfl

theorem termPutcCsi_parsing {t : Terminal} (csi : t.state = .csi) (c : UInt8) :
    Parsing.of (termPutcCsi t c) [] = (Parsing.csi t.csiPrivate t.csiBuf).step c := by
  unfold termPutcCsi Parsing.step
  dsimp only
  split
  · rw [Parsing.of, csi]
  split
  · split
    · rw [Parsing.of, csi]
    · rw [Parsing.of, csi]
  · have ended := (termDispatchCsi_ends { t with state := .normal } c).2
    rw [Parsing.of, ended]

/-- **The parser of the terminal** is a machine of its own. -/
theorem putc_parsing (l : Listener) (c : UInt8) : (l.putc c).parsing = l.parsing.step c := by
  unfold parsing putc
  cases parser : l.term.state with
  | normal =>
      have after : (termPutc l.term c).state = if c = 0x1B then .esc else .normal := by
        rw [termPutc_normal parser, termPutcNormal_state, parser]
      rw [Parsing.of, Parsing.of, parser, after]
      by_cases escape : c = 0x1B
      · rw [if_pos escape, Parsing.step, if_pos escape]
      · rw [if_neg escape, Parsing.step, if_neg escape]
  | esc =>
      rw [if_neg (by simp), termPutc_esc parser, termPutcEsc_parsing, Parsing.of, parser]
  | escCharset => rw [termPutc, Parsing.of, Parsing.of, parser, Parsing.step]
  | csi =>
      rw [if_neg (by simp), termPutc_csi parser, termPutcCsi_parsing parser, Parsing.of, parser]
  | osc =>
      rw [termPutc_osc parser, termPutcOsc, Parsing.of, Parsing.of, parser, Parsing.step]
      by_cases ends : c = 0x07 ∨ c = 0x1B
      · rw [if_pos ends, if_pos ends]
      · rw [if_neg ends, if_neg ends, parser]
        rw [if_pos ⟨rfl, not_or.mp ends⟩]

/-- What a byte completes depends on the parser alone. -/
theorem recognised_congr {l l' : Listener} (same : l.parsing = l'.parsing) (c : UInt8) :
    l.recognised c = l'.recognised c := by
  unfold parsing Parsing.of at same
  unfold recognised
  cases one : l.term.state <;> cases two : l'.term.state <;> simp_all [csiParams]

/-- The parser after some bytes depends on the parser before them. -/
theorem feed_parsing (l : Listener) (w : List UInt8) :
    (l.feed w).parsing = w.foldl Parsing.step l.parsing := by
  induction w generalizing l with
  | nil => rfl
  | cons c w ih =>
      rw [feed, Run.after_cons, ← feed, ih, putc_parsing, List.foldl_cons]

theorem heard_congr {l l' : Listener} (same : l.parsing = l'.parsing) (w : List UInt8) :
    l.heard w = l'.heard w := by
  unfold heard
  induction w generalizing l l' with
  | nil => rfl
  | cons c w ih =>
      have next : (l.putc c).parsing = (l'.putc c).parsing := by
        rw [putc_parsing, putc_parsing, same]
      rw [Run.emitted, Run.emitted, recognised_congr same, ih next]

end Listener

end Tab5
