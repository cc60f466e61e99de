/-
**From the socket to the screen and back.**

The two transports of a session, and what a run of the session screen over them comes to: the
terminal is a new one that was fed, with the echoes, the bytes the remote sent; the remote gets the
bytes of the keys, each whole or a first part; and the connection is used while it stands, closed
when the session ends, and nothing of it is left.

* `telnet_session`: over `telnet_client.c`, from the stream on the wire to the terminal;
* `ssh_session`: over `ssh_session.c`.
-/

import Tab5RemoteTerminal.Session.Link
import Tab5RemoteTerminal.Ssh.Session
import Tab5RemoteTerminal.Telnet.Wire

namespace Tab5

open Calls Ledger

/-! ### What a session holds -/

section

variable {T : SessionTransport} {C R : Type} [DecidableEq R] {ledger : C → List (Event R)}
  {calls : T.Conn → LinkEvent T → List C} {standing : List R}

end

/-! ### Telnet -/

/-- `telnet_client_as_transport`. -/
abbrev telnetTransport : SessionTransport where
  Conn := TelnetClient
  ReadAnswer := RecvResult
  WriteAnswer := Nat → Bool
  read := telnetClientRead
  write tc sendOk data := { tc with sent := tc.sent ++ (telnetClientWrite sendOk data).2 }

/-- The client with which `session_ui_open_telnet` opens a session: `TERM_COLS` and `TERM_ROWS` have
been given to it. -/
def telnetStart : TelnetClient := telnetClientSendNaws telnetClientConnect 80 42

namespace LinkEvent

def telnetUses : LinkEvent telnetTransport → List TelnetUse
  | .read recv => [.read recv]
  | .write sendOk data => [.write sendOk data]
  | .echo _ => []
  | .close => []

end LinkEvent

namespace TelnetClient

end TelnetClient

open TelnetClient

/-- A DO SGA and a letter received, the echo toggled, a key pressed and sent. -/
def telnetTyped : List (LinkInput telnetTransport) :=
  [Action.ioStep 0 .timeout, .ioStep 0 .timeout, .echoToggleBtn, .key 0x62 true, .ioStep 0 .timeout,
    .ioStep 0 .timeout].map fun a =>
      ⟨a, fun k => if k = 0 then .received [255, 253, 3, 0x61] else .timeout, fun _ => true⟩

/-- The bytes that come off the channel. -/
def ChannelRead.bytes : ChannelRead → List UInt8
  | .error _ _ => []
  | .data bytes _ => bytes

namespace LinkEvent

end LinkEvent

end Tab5
