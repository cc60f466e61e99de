/-
**The Telnet client** (`main/telnet_client.c`).

The record of `struct telnet_client` with a log of the buffers passed to `send()`, the decoder
`tnProcessByte` with its replies, and the calls of the interface. What `select`, `recv` and `send`
return is an argument. The results of the `send()`s of a reply are ignored, as in the source.
-/

import Mathlib.Data.List.Basic

namespace Tab5

/-! ### Constants -/

def tnIac : UInt8 := 255
def tnDont : UInt8 := 254
def tnDo : UInt8 := 253
def tnWont : UInt8 := 252
def tnWill : UInt8 := 251
def tnSb : UInt8 := 250
def tnSe : UInt8 := 240

def optEcho : UInt8 := 1
def optSga : UInt8 := 3
def optTermType : UInt8 := 24
def optNaws : UInt8 := 31

/-! ### The client -/

/-- The decoder states of `tn_state_t`. -/
inductive TnState where
  | data
  | iac
  | cmdOpt
  | sb
  | sbIac
deriving DecidableEq, Repr

structure TelnetClient where
  state : TnState
  pendingCmd : UInt8
  sbOpt : UInt8
  sbHaveOpt : Bool
  /-- The `sb_len` bytes collected so far. -/
  sbBuf : List UInt8
  nawsEnabled : Bool
  nawsCols : UInt16
  nawsRows : UInt16
  /-- The buffers passed to `send()`, in order. -/
  sent : List (List UInt8)
deriving DecidableEq, Repr

/-- After `telnet_client_connect`: zeroed memory, in `TN_STATE_DATA`. -/
def telnetClientConnect : TelnetClient where
  state := .data
  pendingCmd := 0
  sbOpt := 0
  sbHaveOpt := false
  sbBuf := []
  nawsEnabled := false
  nawsCols := 0
  nawsRows := 0
  sent := []

namespace TelnetClient

/-- `send(tc->sock, buf, …)`. -/
def send (tc : TelnetClient) (buf : List UInt8) : TelnetClient := { tc with sent := tc.sent ++ [buf] }

/-! ### Replies -/

def tnSendCmd (tc : TelnetClient) (cmd opt : UInt8) : TelnetClient := tc.send [tnIac, cmd, opt]

/-- The buffer of `tn_send_naws`. -/
def nawsReport (cols rows : UInt16) : List UInt8 :=
  [tnIac, tnSb, optNaws, (cols >>> 8).toUInt8, cols.toUInt8, (rows >>> 8).toUInt8, rows.toUInt8,
    tnIac, tnSe]

def tnSendNaws (tc : TelnetClient) : TelnetClient := tc.send (nawsReport tc.nawsCols tc.nawsRows)

/-- `"xterm"`. -/
def termName : List UInt8 := [0x78, 0x74, 0x65, 0x72, 0x6D]

/-- The answer to a TERMINAL-TYPE SEND; any other subnegotiation is ignored. -/
def tnHandleSubneg (tc : TelnetClient) : TelnetClient :=
  if tc.sbOpt = optTermType ∧ tc.sbBuf.head? = some 1 then
    ((tc.send [tnIac, tnSb, optTermType, 0]).send termName).send [tnIac, tnSe]
  else tc

def tnHandleWill (tc : TelnetClient) (opt : UInt8) : TelnetClient :=
  tc.tnSendCmd (if opt = optEcho ∨ opt = optSga then tnDo else tnDont) opt

def tnHandleWont (tc : TelnetClient) (opt : UInt8) : TelnetClient := tc.tnSendCmd tnDont opt

def tnHandleDo (tc : TelnetClient) (opt : UInt8) : TelnetClient :=
  if opt = optSga ∨ opt = optTermType then tc.tnSendCmd tnWill opt
  else if opt = optNaws then
    let tc := { tc.tnSendCmd tnWill opt with nawsEnabled := true }
    if tc.nawsCols ≠ 0 ∧ tc.nawsRows ≠ 0 then tc.tnSendNaws else tc
  else tc.tnSendCmd tnWont opt

def tnHandleDont (tc : TelnetClient) (opt : UInt8) : TelnetClient := tc.tnSendCmd tnWont opt

/-! ### The decoder -/

/-- `sb_buf[sb_len++] = c` while there is room. -/
def collect (tc : TelnetClient) (c : UInt8) : TelnetClient :=
  if tc.sbBuf.length < 16 then { tc with sbBuf := tc.sbBuf ++ [c] } else tc

/-- The command of `TN_STATE_CMD_OPT`, with the option byte that follows it. -/
def tnHandleCmd (tc : TelnetClient) (opt : UInt8) : TelnetClient :=
  if tc.pendingCmd = tnWill then tc.tnHandleWill opt
  else if tc.pendingCmd = tnWont then tc.tnHandleWont opt
  else if tc.pendingCmd = tnDo then tc.tnHandleDo opt
  else if tc.pendingCmd = tnDont then tc.tnHandleDont opt
  else tc

/-- One byte off the wire, and the byte of session data it gives, if it gives one. -/
def tnProcessByte (tc : TelnetClient) (c : UInt8) : TelnetClient × Option UInt8 :=
  match tc.state with
  | .data => if c = tnIac then ({ tc with state := .iac }, none) else (tc, some c)
  | .iac =>
      if c = tnIac then ({ tc with state := .data }, some 0xFF)
      else if c = tnWill ∨ c = tnWont ∨ c = tnDo ∨ c = tnDont then
        ({ tc with pendingCmd := c, state := .cmdOpt }, none)
      else if c = tnSb then ({ tc with sbBuf := [], sbHaveOpt := false, state := .sb }, none)
      else ({ tc with state := .data }, none)
  | .cmdOpt => ({ tc with state := .data }.tnHandleCmd c, none)
  | .sb =>
      if tc.sbHaveOpt = false then ({ tc with sbOpt := c, sbHaveOpt := true }, none)
      else if c = tnIac then ({ tc with state := .sbIac }, none)
      else (tc.collect c, none)
  | .sbIac =>
      if c = tnSe then ({ tc.tnHandleSubneg with state := .data }, none)
      else if c = tnIac then ({ tc.collect 0xFF with state := .sb }, none)
      else ({ tc with state := .data }, none)

/-- The loop of `telnet_client_read` over the received bytes. -/
def tnProcess (tc : TelnetClient) : List UInt8 → TelnetClient × List UInt8
  | [] => (tc, [])
  | c :: raw =>
      let first := tc.tnProcessByte c
      let rest := first.1.tnProcess raw
      (rest.1, first.2.toList ++ rest.2)

end TelnetClient

/-! ### The interface -/

/-- What `select` and then `recv` return: an error, a timeout, or the bytes received, none when the
connection is closed. -/
inductive RecvResult where
  | selectError
  | timeout
  | received (raw : List UInt8)
deriving DecidableEq, Repr

open TelnetClient

/-- `telnet_client_read`: the client after the call and the bytes put in `buf`; `none` for -1. -/
def telnetClientRead (tc : TelnetClient) : RecvResult → TelnetClient × Option (List UInt8)
  | .selectError => (tc, none)
  | .timeout => (tc, some [])
  | .received raw =>
      if raw = [] then (tc, none)
      else
        let out := tc.tnProcess raw
        (out.1, some out.2)

/-- A byte of outbound data with a literal IAC stuffed. -/
def stuffed (c : UInt8) : List UInt8 := if c = 0xFF then [c, 0xFF] else [c]

/-- The loop of `telnet_client_write`: `buf` is what is buffered and `sent` what was passed to
`send()` so far; `sendOk k` is whether the `k`-th `send()` succeeds. -/
def telnetWriteLoop (sendOk : Nat → Bool) (buf : List UInt8) (sent : List (List UInt8)) :
    List UInt8 → Bool × List (List UInt8)
  | [] => if 0 < buf.length then (sendOk sent.length, sent ++ [buf]) else (true, sent)
  | c :: data =>
      if buf.length ≥ 256 - 2 then
        if sendOk sent.length then telnetWriteLoop sendOk (stuffed c) (sent ++ [buf]) data
        else (false, sent ++ [buf])
      else telnetWriteLoop sendOk (buf ++ stuffed c) sent data

/-- `telnet_client_write`: its result, and the buffers passed to `send()`. -/
def telnetClientWrite (sendOk : Nat → Bool) (data : List UInt8) : Bool × List (List UInt8) :=
  telnetWriteLoop sendOk [] [] data

def telnetClientSendNaws (tc : TelnetClient) (cols rows : UInt16) : TelnetClient :=
  let tc := { tc with nawsCols := cols, nawsRows := rows }
  if tc.nawsEnabled then tc.tnSendNaws else tc

end Tab5
