/-
**Local echo and the remote stream** (`main/session_ui.c`, lines 119 to 155 and 248 to 312).

`session_io_task` feeds the chunks of the remote and, with local echo on, the bytes of the keys to
the same terminal, and so to the same parser. A key that finds the parser in its normal state does
not move it. Between two chunks that cut an escape sequence, its byte becomes part of that sequence,
but for the bytes the parser would ignore there (`Unheard`). `remoteRecognised_iff`: the parser
recognises the remote's sequences as without the echo exactly if every key is unheard.
-/

import Tab5RemoteTerminal.Library.Unwinding
import Tab5RemoteTerminal.Session.Keys
import Tab5RemoteTerminal.Terminal.Recognition

namespace Tab5

open Unwinding

/-! ### The calls on the terminal -/

/-- A key of printable ASCII. -/
abbrev PrintableKey := { key : UInt32 // 0x20 ≤ key ∧ key ≤ 0x7E }

/-- A call that `session_ui.c` makes on its terminal: for a chunk of the remote, for the echo of a
key, or for the view. -/
inductive TermCall where
  | chunk (data : List UInt8)
  | echo (key : PrintableKey)
  | scroll (deltaLines : Int)
  | render

/-- All calls but the echo's. -/
def TermCall.isRemote : TermCall → Bool
  | .echo _ => false
  | _ => true

namespace Listener

/-- The bytes a call feeds. -/
def fed (l : Listener) : TermCall → List UInt8
  | .chunk data => data
  | .echo key => localEcho l.term.appCursorKeys key
  | .scroll _ => []
  | .render => []

def call (l : Listener) : TermCall → Listener
  | .chunk data => l.feed data
  | .echo key => l.feed (localEcho l.term.appCursorKeys key)
  | .scroll deltaLines => { l with term := terminalScroll l.term deltaLines }
  | .render => { l with term := (terminalRender l.term).1 }

/-- The sequences a call completes. -/
def completes (l : Listener) (c : TermCall) : List Recognised := l.heard (l.fed c)

end Listener

/-! ### Keys the parser does not hear -/

/-- A byte that does not move the parser: any in the normal state, and in a control sequence a
second private marker or what no longer fits the buffer. -/
def Unheard (t : Terminal) (c : UInt8) : Prop :=
  match t.state with
  | .normal => True
  | .csi =>
      (c = 0x3F ∧ t.csiBuf.length = 0 ∧ t.csiPrivate = true) ∨
        ((isDigit c = true ∨ c = 0x3B) ∧ csiBufLen - 1 ≤ t.csiBuf.length)
  | _ => False

instance (t : Terminal) (c : UInt8) : Decidable (Unheard t c) := by
  unfold Unheard
  split <;> infer_instance

/-- The byte of the key does not move the parser. -/
def EchoUnheard (l : Listener) : TermCall → Prop
  | .echo key => Unheard l.term key.val.toUInt8
  | _ => True

/-- The code of a printable key is the byte it echoes. -/
theorem localEcho_printable (appMode : Bool) (key : PrintableKey) :
    localEcho appMode key = [key.val.toUInt8] ∧ 0x20 ≤ key.val.toUInt8 := by
  obtain ⟨key, low, high⟩ := key
  have lowNat := UInt32.le_iff_toNat_le.mp low
  have highNat := UInt32.le_iff_toNat_le.mp high
  have byte : key.toUInt8.toNat = key.toNat := by
    rw [UInt32.toNat_toUInt8]
    have : (0x7E : UInt32).toNat = 126 := rfl
    omega
  have ne : ∀ code : UInt32, code < 0x20 ∨ 0x7E < code → key ≠ code := by
    rintro code (below | above) rfl
    · exact UInt32.not_lt.mpr low below
    · exact UInt32.not_lt.mpr high above
  have isByte : key < 0x100 := UInt32.lt_of_le_of_lt high (by decide)
  refine ⟨?_, UInt8.le_iff_toNat_le.mpr (by rw [byte]; exact lowNat)⟩
  unfold localEcho
  rw [if_neg (ne lvKeyEnter (by decide)), if_neg (ne lvKeyBackspace (by decide)),
    if_neg (ne lvKeyEsc (by decide)), if_neg (ne lvKeyUp (by decide)),
    if_neg (ne lvKeyDown (by decide)), if_neg (ne lvKeyRight (by decide)),
    if_neg (ne lvKeyLeft (by decide)), if_neg (ne lvKeyDel (by decide)), if_pos isByte]

/-- In a control sequence a byte is collected, or ends it, but for these. -/
theorem csi_step_eq_iff (isPrivate : Bool) (buf : List UInt8) (c : UInt8) :
    (Parsing.csi isPrivate buf).step c = .csi isPrivate buf ↔
      (c = 0x3F ∧ buf.length = 0 ∧ isPrivate = true) ∨
        ((isDigit c = true ∨ c = 0x3B) ∧ csiBufLen - 1 ≤ buf.length) := by
  rw [Parsing.step]
  by_cases marker : c = 0x3F ∧ buf.length = 0
  · have noParameter : ¬ (isDigit c = true ∨ c = 0x3B) := by
      rw [marker.1]
      decide
    rw [if_pos marker, Parsing.csi.injEq]
    exact ⟨fun same => Or.inl ⟨marker.1, marker.2, same.1.symm⟩, fun unheard =>
      ⟨(unheard.resolve_right fun full => noParameter full.1).2.2.symm, rfl⟩⟩
  have notMarked : ¬ (c = 0x3F ∧ buf.length = 0 ∧ isPrivate = true) := fun marked =>
    marker ⟨marked.1, marked.2.1⟩
  rw [if_neg marker, or_iff_right notMarked]
  by_cases parameter : isDigit c = true ∨ c = 0x3B
  · rw [if_pos parameter, Parsing.csi.injEq]
    by_cases fits : buf.length < csiBufLen - 1
    · rw [if_pos fits]
      exact ⟨fun same => absurd same.2 (by simp), fun full => absurd full.2 (by omega)⟩
    · rw [if_neg fits]
      exact ⟨fun _ => ⟨parameter, by omega⟩, fun _ => ⟨rfl, rfl⟩⟩
  · rw [if_neg parameter]
    refine iff_of_false (fun same => ?_) fun full => parameter full.1
    cases same

/-- A printable byte moves the parser unless it is unheard. -/
theorem step_eq_iff (t : Terminal) (text : List UInt8) {c : UInt8} (low : 0x20 ≤ c) :
    (Parsing.of t text).step c = Parsing.of t text ↔ Unheard t c := by
  have notControl : ∀ control : UInt8, control < 0x20 → c ≠ control := by
    rintro control below rfl
    exact UInt8.not_lt.mpr low below
  have noEscape : c ≠ 0x1B := notControl _ (by decide)
  have noBell : c ≠ 0x07 := notControl _ (by decide)
  unfold Unheard Parsing.of
  cases t.state with
  | normal => simp [Parsing.step, noEscape]
  | esc =>
      refine iff_of_false (fun same => ?_) id
      simp only [Parsing.step] at same
      split at same
      · cases same
      split at same
      · cases same
      split at same
      · cases same
      · cases same
  | escCharset => simp [Parsing.step]
  | osc => simp [Parsing.step, noEscape, noBell]
  | csi =>
      exact csi_step_eq_iff _ _ _

/-- Nor does it complete a sequence. -/
theorem recognised_of_unheard {l : Listener} {c : UInt8} (unheard : Unheard l.term c) :
    l.recognised c = [] := by
  unfold Unheard at unheard
  unfold Listener.recognised
  cases parser : l.term.state with
  | csi =>
      rw [parser] at unheard
      exact if_pos (by tauto)
  | osc => simp [parser] at unheard
  | _ => rfl

/-! ### A session -/

/-- What a call of the remote's does to the parser depends on the parser. -/
theorem call_respects (c : TermCall) (remote : c.isRemote = true) :
    Respects Listener.parsing fun l => l.call c := by
  intro l l' same
  have rendered : ∀ l : Listener, (l.call .render).parsing = l.parsing := by
    intro l
    obtain ⟨_, _, _, _, _, _, view⟩ := terminalRender_fst l.term
    rw [Listener.call, view]
    rfl
  cases c with
  | chunk data =>
      show (l.feed data).parsing = (l'.feed data).parsing
      rw [Listener.feed_parsing, Listener.feed_parsing, same]
  | echo key => cases remote
  | scroll deltaLines => exact same
  | render => rw [rendered, rendered, same]

/-- So does what it completes. -/
theorem completes_congr {l l' : Listener} (same : l.parsing = l'.parsing) (c : TermCall) :
    l.completes c = l'.completes c := by
  unfold Listener.completes Listener.fed
  cases c with
  | echo key =>
      dsimp only
      rw [(localEcho_printable _ key).1, (localEcho_printable _ key).1]
      exact Listener.heard_congr same _
  | _ => exact Listener.heard_congr same _

/-- The echo of a key leaves the parser where it is exactly if the key is unheard. -/
theorem echo_parsing_iff (l : Listener) (key : PrintableKey) :
    (l.call (.echo key)).parsing = l.parsing ↔ Unheard l.term key.val.toUInt8 := by
  obtain ⟨byte, low⟩ := localEcho_printable l.term.appCursorKeys key
  rw [Listener.call, Listener.feed_parsing, byte]
  exact step_eq_iff l.term l.oscText low

theorem echo_hidden {l : Listener} {c : TermCall} (hidden : c.isRemote = false)
    (unheard : EchoUnheard l c) : (l.call c).parsing = l.parsing := by
  cases c with
  | echo key => exact (echo_parsing_iff l key).mpr unheard
  | _ => cases hidden

theorem echo_silent {l : Listener} {c : TermCall} (hidden : c.isRemote = false)
    (unheard : EchoUnheard l c) : l.completes c = [] := by
  cases c with
  | echo key =>
      have nothing := recognised_of_unheard unheard
      rw [Listener.completes, Listener.fed, (localEcho_printable _ key).1, Listener.heard,
        Run.emitted, Run.emitted, nothing, List.append_nil]
  | _ => cases hidden

theorem unheard_meets {l : Listener} {calls : List TermCall} :
    Run.Meets Listener.call
        (fun l c => c.isRemote = false → (l.call c).parsing = l.parsing) l calls ↔
      Run.Meets Listener.call EchoUnheard l calls := by
  refine @Run.meets_congr _ _ _ (fun _ => True) _ _ (fun l c _ => ?_) (fun _ _ _ _ => trivial) _ _
    trivial
  cases c with
  | echo key =>
      rw [EchoUnheard, ← echo_parsing_iff]
      exact ⟨fun unchanged => unchanged rfl, fun unchanged _ => unchanged⟩
  | _ => exact ⟨fun _ => trivial, fun _ => nofun⟩

/-- **Local echo and the remote stream**: at every moment of a session the parser is where it would
be without the echo, and the same sequences have been recognised, exactly if no key was heard. -/
theorem remoteRecognised_iff (l : Listener) (calls : List TermCall) :
    (∀ done, done <+: calls →
      (Run.after Listener.call l done).parsing =
          (Run.after Listener.call l (done.filter TermCall.isRemote)).parsing ∧
        Run.emitted Listener.call Listener.completes l done =
          Run.emitted Listener.call Listener.completes l (done.filter TermCall.isRemote)) ↔
      Run.Meets Listener.call EchoUnheard l calls := by
  constructor
  · intro same
    exact unheard_meets.mp
      ((purge_iff call_respects).mp fun done isPrefix => (same done isPrefix).1)
  · rintro meets done ⟨rest, rfl⟩
    have before := (Run.meets_append.mp meets).1
    refine ⟨(purge_iff call_respects).mpr (unheard_meets.mpr before) done List.prefix_rfl, ?_⟩
    exact purge_emitted call_respects
      (fun l c hidden unheard => echo_hidden hidden unheard)
      (fun _ _ c same => completes_congr same c)
      (fun l c hidden unheard => echo_silent hidden unheard) rfl before

/-- `ESC [ 3`, a key, `1 m`: the session sets no colour, and ends a sequence at the key. -/
def cutSequence : List TermCall :=
  [.chunk [0x1B, 0x5B, 0x33], .echo ⟨0x61, by decide⟩, .chunk [0x31, 0x6D]]

/-- The echo of a key that comes between the chunks of a sequence ends the sequence. -/
theorem remoteRecognised_fails :
    ¬ ∀ calls : List TermCall,
      Run.emitted Listener.call Listener.completes ⟨terminalCreate, []⟩ calls =
        Run.emitted Listener.call Listener.completes ⟨terminalCreate, []⟩
          (calls.filter TermCall.isRemote) := by
  intro same
  exact absurd (same cutSequence) (by decide +kernel)

end Tab5
