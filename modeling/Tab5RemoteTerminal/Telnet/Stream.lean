/-
**Decoding the Telnet stream.**

A stream is a list of `TelnetItem`s: session bytes, escaped 255s, verbs with their option, other
commands, and subnegotiations. Each item says how it stands on the wire, which session bytes it
carries and what it is answered. From `TN_STATE_DATA` the decoder takes any item back to
`TN_STATE_DATA` with those bytes and that answer (`decodes_item`), so a list of items too
(`decodes_stream`); and how the bytes come out of `recv()` makes no difference (`reads_raw`).

* `telnet_reads_stream`: the calls of `telnet_client_read` against the grammar;
* `telnet_write_decodes`: what `telnet_client_write` sends is the stream of its data.
-/

import Mathlib.Data.List.Flatten
import Mathlib.Data.List.Forall2
import Tab5RemoteTerminal.Telnet.Client

namespace Tab5

/-! ### The grammar -/

inductive Verb where
  | will
  | wont
  | doOpt
  | dont
deriving DecidableEq, Repr

def Verb.code : Verb → UInt8
  | .will => tnWill
  | .wont => tnWont
  | .doOpt => tnDo
  | .dont => tnDont

/-- A command that no option byte follows. -/
def PlainCommand (cmd : UInt8) : Prop :=
  cmd ≠ tnIac ∧ cmd ≠ tnSb ∧ cmd ≠ tnWill ∧ cmd ≠ tnWont ∧ cmd ≠ tnDo ∧ cmd ≠ tnDont

instance (cmd : UInt8) : Decidable (PlainCommand cmd) := inferInstanceAs (Decidable (_ ∧ _))

/-- An item of a well-formed stream. -/
inductive TelnetItem where
  | data (c : UInt8) (plain : c ≠ tnIac)
  | escapedIac
  | verb (v : Verb) (opt : UInt8)
  | command (cmd : UInt8) (plain : PlainCommand cmd)
  | subneg (opt : UInt8) (plain : opt ≠ tnIac) (payload : List UInt8)
deriving DecidableEq

/-- Every 255 doubled. -/
def doubleIac : List UInt8 → List UInt8
  | [] => []
  | c :: payload => if c = tnIac then tnIac :: tnIac :: doubleIac payload else c :: doubleIac payload

/-- What a verb is answered; `report` is the size report, when a size is known. -/
def Verb.reply (report : List UInt8) (opt : UInt8) : Verb → List UInt8
  | .will => [tnIac, if opt = optEcho ∨ opt = optSga then tnDo else tnDont, opt]
  | .wont => [tnIac, tnDont, opt]
  | .doOpt =>
      if opt = optNaws then [tnIac, tnWill, opt] ++ report
      else [tnIac, if opt = optSga ∨ opt = optTermType then tnWill else tnWont, opt]
  | .dont => [tnIac, tnWont, opt]

/-- A number of two bytes, the high one first. -/
def bigEndian (n : UInt16) : List UInt8 :=
  [UInt8.ofNat (n.toNat / 256), UInt8.ofNat (n.toNat % 256)]

/-- IAC SB NAWS, the columns, the rows, IAC SE. -/
def sizeReport (cols rows : UInt16) : List UInt8 :=
  [tnIac, tnSb, optNaws] ++ bigEndian cols ++ bigEndian rows ++ [tnIac, tnSe]

/-- IAC SB TERMINAL-TYPE IS "xterm" IAC SE. -/
def termTypeAnswer : List UInt8 :=
  [tnIac, tnSb, optTermType, 0, 0x78, 0x74, 0x65, 0x72, 0x6D, tnIac, tnSe]

namespace TelnetItem

/-- On the wire. -/
def bytes : TelnetItem → List UInt8
  | .data c _ => [c]
  | .escapedIac => [tnIac, tnIac]
  | .verb v opt => [tnIac, v.code, opt]
  | .command cmd _ => [tnIac, cmd]
  | .subneg opt _ payload => [tnIac, tnSb, opt] ++ doubleIac payload ++ [tnIac, tnSe]

/-- The session bytes carried. -/
def session : TelnetItem → List UInt8
  | .data c _ => [c]
  | .escapedIac => [0xFF]
  | _ => []

def reply (report : List UInt8) : TelnetItem → List UInt8
  | .verb v opt => v.reply report opt
  | .subneg opt _ payload =>
      if opt = optTermType ∧ payload.head? = some 1 then termTypeAnswer else []
  | _ => []

/-- The serialisation of a list of items. -/
def stream (items : List TelnetItem) : List UInt8 := items.flatMap bytes

end TelnetItem

/-! ### The decoder on a piece of the stream -/

namespace TelnetClient

/-- The size report, when a size is known. -/
def knownSize (tc : TelnetClient) : List UInt8 :=
  if tc.nawsCols ≠ 0 ∧ tc.nawsRows ≠ 0 then sizeReport tc.nawsCols tc.nawsRows else []

theorem bigEndian_eq (n : UInt16) : bigEndian n = [(n >>> 8).toUInt8, n.toUInt8] := by
  have high : UInt8.ofNat (n.toNat / 256) = (n >>> 8).toUInt8 := by
    rw [← UInt8.toNat_inj]
    simp [Nat.shiftRight_eq_div_pow]
  have low : UInt8.ofNat (n.toNat % 256) = n.toUInt8 := by
    rw [← UInt8.toNat_inj]
    simp
  rw [bigEndian, high, low]

/-- The buffer of `tn_send_naws` is the report of the size. -/
theorem nawsReport_eq (cols rows : UInt16) : nawsReport cols rows = sizeReport cols rows := by
  rw [sizeReport, bigEndian_eq, bigEndian_eq]
  rfl

@[simp] theorem tnProcess_nil (tc : TelnetClient) : tc.tnProcess [] = (tc, []) := rfl

theorem tnProcess_append (tc : TelnetClient) (first rest : List UInt8) :
    tc.tnProcess (first ++ rest) =
      (((tc.tnProcess first).1.tnProcess rest).1,
        (tc.tnProcess first).2 ++ ((tc.tnProcess first).1.tnProcess rest).2) := by
  induction first generalizing tc with
  | nil => rfl
  | cons c first ih =>
      rw [List.cons_append, tnProcess, ih, tnProcess, List.append_assoc]

/-- Each byte gives at most one. -/
theorem tnProcess_length (tc : TelnetClient) (raw : List UInt8) :
    (tc.tnProcess raw).2.length ≤ raw.length := by
  induction raw generalizing tc with
  | nil => exact Nat.le_refl 0
  | cons c raw ih =>
      have atMostOne : (tc.tnProcessByte c).2.toList.length ≤ 1 := by
        cases (tc.tnProcessByte c).2 <;> simp
      have rest := ih (tc.tnProcessByte c).1
      rw [tnProcess, List.length_append, List.length_cons]
      omega

/-- `raw` is read from one data state to the next, for these session bytes and answers. -/
structure Decodes (tc : TelnetClient) (raw out answers : List UInt8) : Prop where
  out : (tc.tnProcess raw).2 = out
  state : (tc.tnProcess raw).1.state = .data
  size : (tc.tnProcess raw).1.knownSize = tc.knownSize
  sent : (tc.tnProcess raw).1.sent.flatten = tc.sent.flatten ++ answers

theorem Decodes.of_read {tc after : TelnetClient} {raw out answers : List UInt8}
    (read : tc.tnProcess raw = (after, out)) (state : after.state = .data)
    (size : after.knownSize = tc.knownSize) (sent : after.sent.flatten = tc.sent.flatten ++ answers) :
    tc.Decodes raw out answers := by
  constructor
  · rw [read]
  · rw [read]
    exact state
  · rw [read]
    exact size
  · rw [read]
    exact sent

/-- Nothing is read. -/
theorem decodes_nil {tc : TelnetClient} (start : tc.state = .data) : tc.Decodes [] [] [] :=
  .of_read rfl start rfl (List.append_nil _).symm

theorem Decodes.append {tc : TelnetClient} {first rest out out' answers answers' : List UInt8}
    (head : tc.Decodes first out answers)
    (tail : (tc.tnProcess first).1.Decodes rest out' answers') :
    tc.Decodes (first ++ rest) (out ++ out') (answers ++ answers') := by
  have read := tnProcess_append tc first rest
  rw [head.out, tail.out] at read
  refine .of_read read tail.state (tail.size.trans head.size) ?_
  rw [tail.sent, head.sent, List.append_assoc]

/-! ### Each item -/

theorem decodes_data {tc : TelnetClient} (start : tc.state = .data) {c : UInt8}
    (plain : c ≠ tnIac) : tc.Decodes [c] [c] [] := by
  have read : tc.tnProcess [c] = (tc, [c]) := by
    simp only [tnProcess, tnProcessByte, start, if_neg plain, Option.toList, List.append_nil]
  exact .of_read read start rfl (List.append_nil _).symm

theorem decodes_escapedIac {tc : TelnetClient} (start : tc.state = .data) :
    tc.Decodes [tnIac, tnIac] [0xFF] [] := by
  have read : tc.tnProcess [tnIac, tnIac] = ({ tc with state := .data }, [0xFF]) := by
    simp only [tnProcess, tnProcessByte, start, if_pos, Option.toList, List.append_nil,
      List.nil_append]
  exact .of_read read rfl rfl (List.append_nil _).symm

theorem decodes_command {tc : TelnetClient} (start : tc.state = .data) {cmd : UInt8}
    (plain : PlainCommand cmd) : tc.Decodes [tnIac, cmd] [] [] := by
  obtain ⟨notIac, notSb, notWill, notWont, notDo, notDont⟩ := plain
  have read : tc.tnProcess [tnIac, cmd] = ({ tc with state := .data }, []) := by
    simp [tnProcess, tnProcessByte, start, notIac, notSb, notWill, notWont, notDo, notDont]
  exact .of_read read rfl rfl (List.append_nil _).symm

theorem tnHandleDo_reply (tc : TelnetClient) (opt : UInt8) :
    (tc.tnHandleDo opt).sent.flatten = tc.sent.flatten ++ Verb.doOpt.reply tc.knownSize opt := by
  unfold tnHandleDo Verb.reply knownSize
  by_cases naws : opt = optNaws
  · subst naws
    by_cases known : tc.nawsCols ≠ 0 ∧ tc.nawsRows ≠ 0
    · simp [known, optNaws, optSga, optTermType, tnSendCmd, tnSendNaws, send, nawsReport_eq]
    · simp [known, optNaws, optSga, optTermType, tnSendCmd, send]
  · by_cases asked : opt = optSga ∨ opt = optTermType
    · simp [naws, asked, tnSendCmd, send]
    · simp [naws, asked, tnSendCmd, send]

theorem tnHandleDo_keeps (tc : TelnetClient) (opt : UInt8) :
    (tc.tnHandleDo opt).state = tc.state ∧ (tc.tnHandleDo opt).knownSize = tc.knownSize := by
  unfold tnHandleDo
  split
  · exact ⟨rfl, rfl⟩
  · split
    · dsimp only
      split <;> exact ⟨rfl, rfl⟩
    · exact ⟨rfl, rfl⟩

/-- The handler of a verb. -/
theorem tnHandleCmd_verb {tc : TelnetClient} {v : Verb} (pending : tc.pendingCmd = v.code)
    (opt : UInt8) : tc.tnHandleCmd opt =
      match v with
      | .will => tc.tnHandleWill opt
      | .wont => tc.tnHandleWont opt
      | .doOpt => tc.tnHandleDo opt
      | .dont => tc.tnHandleDont opt := by
  cases v <;> simp [tnHandleCmd, pending, Verb.code, tnWill, tnWont, tnDo, tnDont]

theorem tnHandleCmd_reply {tc : TelnetClient} {v : Verb} (pending : tc.pendingCmd = v.code)
    (opt : UInt8) :
    (tc.tnHandleCmd opt).sent.flatten = tc.sent.flatten ++ v.reply tc.knownSize opt := by
  rw [tnHandleCmd_verb pending]
  cases v with
  | doOpt => exact tnHandleDo_reply tc opt
  | _ => exact List.flatten_concat

theorem tnHandleCmd_keeps {tc : TelnetClient} {v : Verb} (pending : tc.pendingCmd = v.code)
    (opt : UInt8) :
    (tc.tnHandleCmd opt).state = tc.state ∧ (tc.tnHandleCmd opt).knownSize = tc.knownSize := by
  rw [tnHandleCmd_verb pending]
  cases v with
  | doOpt => exact tnHandleDo_keeps tc opt
  | _ => exact ⟨rfl, rfl⟩

/-- A command received: `TN_STATE_CMD_OPT` hands it to its handler. -/
def receive (tc : TelnetClient) (v : Verb) (opt : UInt8) : TelnetClient :=
  { tc with pendingCmd := v.code, state := .data }.tnHandleCmd opt

/-- A command on the wire. -/
theorem tnProcess_verb {tc : TelnetClient} (start : tc.state = .data) (v : Verb) (opt : UInt8) :
    tc.tnProcess [tnIac, v.code, opt] = (tc.receive v opt, []) := by
  cases v <;> simp [tnProcess, tnProcessByte, receive, start, Verb.code, tnIac, tnWill, tnWont, tnDo,
    tnDont]

theorem decodes_verb {tc : TelnetClient} (start : tc.state = .data) (v : Verb) (opt : UInt8) :
    tc.Decodes [tnIac, v.code, opt] [] (v.reply tc.knownSize opt) := by
  have pending : { tc with pendingCmd := v.code, state := .data }.pendingCmd = v.code := rfl
  have keeps := tnHandleCmd_keeps pending opt
  exact .of_read (tnProcess_verb start v opt) keeps.1 keeps.2 (tnHandleCmd_reply pending opt)

/-! ### Subnegotiations -/

/-- `sb_buf` keeps the first sixteen bytes. -/
theorem collect_eq {tc : TelnetClient} (room : tc.sbBuf.length ≤ 16) (c : UInt8) :
    tc.collect c = { tc with sbBuf := (tc.sbBuf ++ [c]).take 16 } := by
  unfold collect
  split
  · rename_i short
    rw [List.take_of_length_le (by rw [List.length_append]; exact short)]
  · rename_i full
    rw [List.take_append_of_le_length (by omega), List.take_of_length_le room]

theorem take_append_cons (collected payload : List UInt8) (c : UInt8) :
    ((collected ++ [c]).take 16 ++ payload).take 16 = (collected ++ c :: payload).take 16 := by
  have joined : collected ++ c :: payload = (collected ++ [c]) ++ payload := by simp
  rw [joined]
  generalize collected ++ [c] = head
  rw [List.take_append, List.take_append, List.take_take, Nat.min_self, List.length_take]
  by_cases short : head.length ≤ 16
  · rw [Nat.min_eq_right short]
  · rw [Nat.min_eq_left (by omega), Nat.sub_self, Nat.sub_eq_zero_of_le (by omega)]

/-- Inside a subnegotiation, a byte other than IAC. -/
theorem tnProcess_sb {tc : TelnetClient} (start : tc.state = .sb) (haveOpt : tc.sbHaveOpt = true)
    {c : UInt8} (plain : c ≠ tnIac) (rest : List UInt8) :
    tc.tnProcess (c :: rest) = (tc.collect c).tnProcess rest := by
  simp [tnProcess, tnProcessByte, start, haveOpt, plain]

/-- Inside a subnegotiation, an escaped IAC. -/
theorem tnProcess_sb_iac {tc : TelnetClient} (start : tc.state = .sb)
    (haveOpt : tc.sbHaveOpt = true) (rest : List UInt8) :
    tc.tnProcess (tnIac :: tnIac :: rest) = (tc.collect tnIac).tnProcess rest := by
  rcases tc with ⟨state, pendingCmd, sbOpt, sbHaveOpt, sbBuf⟩
  cases start
  cases haveOpt
  by_cases room : sbBuf.length < 16
  · simp [tnProcess, tnProcessByte, collect, room, tnIac, tnSe]
  · simp [tnProcess, tnProcessByte, collect, room, tnIac, tnSe]

/-- A payload of any length. -/
theorem tnProcess_payload {tc : TelnetClient} (start : tc.state = .sb)
    (haveOpt : tc.sbHaveOpt = true) (room : tc.sbBuf.length ≤ 16) (payload rest : List UInt8) :
    tc.tnProcess (doubleIac payload ++ rest) =
      { tc with sbBuf := (tc.sbBuf ++ payload).take 16 }.tnProcess rest := by
  induction payload generalizing tc with
  | nil =>
      rw [List.append_nil, List.take_of_length_le room]
      rfl
  | cons c payload ih =>
      have collected := collect_eq room c
      have first : tc.tnProcess (doubleIac (c :: payload) ++ rest) =
          (tc.collect c).tnProcess (doubleIac payload ++ rest) := by
        rw [doubleIac]
        split
        · rename_i isIac
          rw [isIac]
          exact tnProcess_sb_iac start haveOpt _
        · rename_i plain
          exact tnProcess_sb start haveOpt plain _
      rw [first, ih (by rw [collected]; exact start) (by rw [collected]; exact haveOpt)
        (by rw [collected]; exact List.length_take_le 16 _), collected, take_append_cons]

theorem tnHandleSubneg_keeps (tc : TelnetClient) :
    tc.tnHandleSubneg.knownSize = tc.knownSize := by
  unfold tnHandleSubneg
  split <;> rfl

theorem tnHandleSubneg_reply {tc : TelnetClient} {payload : List UInt8}
    (collected : tc.sbBuf = payload.take 16) :
    tc.tnHandleSubneg.sent.flatten = tc.sent.flatten ++
      (if tc.sbOpt = optTermType ∧ payload.head? = some 1 then termTypeAnswer else []) := by
  have first : tc.sbBuf.head? = payload.head? := by
    rw [collected]
    cases payload <;> rfl
  unfold tnHandleSubneg
  rw [first]
  split
  · simp [send, termName, termTypeAnswer]
  · rw [List.append_nil]

/-- The client at the first byte of a body. -/
def opened (tc : TelnetClient) (opt : UInt8) : TelnetClient :=
  { tc with sbBuf := [], sbOpt := opt, sbHaveOpt := true, state := .sb }

theorem tnProcess_opened {tc : TelnetClient} (start : tc.state = .data) (opt : UInt8)
    (rest : List UInt8) :
    tc.tnProcess (tnIac :: tnSb :: opt :: rest) = (tc.opened opt).tnProcess rest := by
  simp [tnProcess, tnProcessByte, start, opened, tnIac, tnSb, tnWill, tnWont, tnDo, tnDont]

/-- **A whole subnegotiation.** -/
theorem tnProcess_subneg {tc : TelnetClient} (start : tc.state = .data) (opt : UInt8)
    (payload : List UInt8) :
    tc.tnProcess ([tnIac, tnSb, opt] ++ doubleIac payload ++ [tnIac, tnSe]) =
      ({ { tc.opened opt with sbBuf := payload.take 16, state := .sbIac }.tnHandleSubneg with
        state := .data }, []) := by
  have begun := tnProcess_opened start opt (doubleIac payload ++ [tnIac, tnSe])
  have collected : (tc.opened opt).tnProcess (doubleIac payload ++ [tnIac, tnSe]) =
      { tc.opened opt with sbBuf := payload.take 16 }.tnProcess [tnIac, tnSe] :=
    @tnProcess_payload (tc.opened opt) rfl rfl (Nat.zero_le 16) payload [tnIac, tnSe]
  rw [collected] at begun
  exact begun

theorem decodes_subneg {tc : TelnetClient} (start : tc.state = .data) (opt : UInt8)
    (payload : List UInt8) :
    tc.Decodes ([tnIac, tnSb, opt] ++ doubleIac payload ++ [tnIac, tnSe]) []
      (if opt = optTermType ∧ payload.head? = some 1 then termTypeAnswer else []) :=
  .of_read (tnProcess_subneg start opt payload) rfl (tnHandleSubneg_keeps _)
    (tnHandleSubneg_reply rfl)

/-! ### Streams -/

/-- **Any item.** -/
theorem decodes_item {tc : TelnetClient} (start : tc.state = .data) (item : TelnetItem) :
    tc.Decodes item.bytes item.session (item.reply tc.knownSize) := by
  cases item with
  | data c plain => exact decodes_data start plain
  | escapedIac => exact decodes_escapedIac start
  | verb v opt => exact decodes_verb start v opt
  | command cmd plain => exact decodes_command start plain
  | subneg opt plain payload => exact decodes_subneg start opt payload

/-- **Any list of items.** -/
theorem decodes_stream {tc : TelnetClient} (start : tc.state = .data) (items : List TelnetItem) :
    tc.Decodes (TelnetItem.stream items) (items.flatMap TelnetItem.session)
      (items.flatMap (TelnetItem.reply tc.knownSize)) := by
  induction items generalizing tc with
  | nil => exact decodes_nil start
  | cons item items ih =>
      have head := decodes_item start item
      have tail := ih head.state
      rw [head.size] at tail
      exact head.append tail

end TelnetClient

open TelnetClient

/-! ### The calls of `telnet_client_read` -/

/-- The bytes that come off the wire in a call. -/
def RecvResult.raw : RecvResult → List UInt8
  | .received raw => raw
  | _ => []

/-- The client after some calls of `telnet_client_read`, and what each put in `buf`. -/
def telnetReads (tc : TelnetClient) : List RecvResult → TelnetClient × List (List UInt8)
  | [] => (tc, [])
  | recv :: recvs =>
      let call := telnetClientRead tc recv
      let rest := telnetReads call.1 recvs
      (rest.1, call.2.getD [] :: rest.2)

/-- A call decodes what it receives. -/
theorem telnetClientRead_raw (tc : TelnetClient) (recv : RecvResult) :
    ((telnetClientRead tc recv).1, (telnetClientRead tc recv).2.getD []) = tc.tnProcess recv.raw := by
  cases recv with
  | received raw =>
      rw [telnetClientRead]
      split
      · rename_i closed
        rw [RecvResult.raw, closed]
        rfl
      · rfl
  | _ => rfl

/-- **Where `recv()` cuts the stream makes no difference.** -/
theorem telnetReads_raw (tc : TelnetClient) (recvs : List RecvResult) :
    ((telnetReads tc recvs).1, (telnetReads tc recvs).2.flatten) =
      tc.tnProcess (recvs.flatMap RecvResult.raw) := by
  induction recvs generalizing tc with
  | nil => rfl
  | cons recv recvs ih =>
      have call := telnetClientRead_raw tc recv
      have rest := ih (telnetClientRead tc recv).1
      rw [List.flatMap_cons, tnProcess_append, ← call, ← rest]
      rfl

theorem telnetReads_length (tc : TelnetClient) (recvs : List RecvResult) :
    List.Forall₂ (fun recv got => got.length ≤ recv.raw.length) recvs (telnetReads tc recvs).2 := by
  induction recvs generalizing tc with
  | nil => exact .nil
  | cons recv recvs ih =>
      have call : (telnetClientRead tc recv).2.getD [] = (tc.tnProcess recv.raw).2 :=
        congrArg Prod.snd (telnetClientRead_raw tc recv)
      refine .cons ?_ (ih _)
      exact call ▸ tnProcess_length tc recv.raw

/-- **The whole grammar, cut anywhere.** -/
theorem telnet_reads_stream (tc : TelnetClient) (start : tc.state = .data)
    (items : List TelnetItem) (recvs : List RecvResult)
    (cut : recvs.flatMap RecvResult.raw = TelnetItem.stream items) :
    (telnetReads tc recvs).2.flatten = items.flatMap TelnetItem.session ∧
      List.Forall₂ (fun recv got => got.length ≤ recv.raw.length) recvs (telnetReads tc recvs).2 ∧
      (telnetReads tc recvs).1.state = .data ∧
      (telnetReads tc recvs).1.sent.flatten =
        tc.sent.flatten ++ items.flatMap (TelnetItem.reply tc.knownSize) := by
  have read := telnetReads_raw tc recvs
  have decodes := decodes_stream start items
  rw [cut] at read
  obtain ⟨client, out⟩ := Prod.mk.inj read
  refine ⟨out.trans decodes.out, telnetReads_length tc recvs, ?_, ?_⟩
  · rw [client]
    exact decodes.state
  · rw [client]
    exact decodes.sent

/-- DO TERMINAL-TYPE, an `h` and SB TERMINAL-TYPE SEND, cut inside the verb and inside the end of the
subnegotiation. -/
theorem telnet_reads_stream_cut :
    (telnetReads telnetClientConnect
        [.received [255], .timeout, .received [253, 24, 104, 255, 250, 24, 1, 255], .received [240]]
      ).2.flatten =
      [TelnetItem.verb .doOpt 24, .data 104 (by decide), .subneg 24 (by decide) [1]].flatMap
        TelnetItem.session :=
  (telnet_reads_stream telnetClientConnect rfl
    [.verb .doOpt 24, .data 104 (by decide), .subneg 24 (by decide) [1]]
    [.received [255], .timeout, .received [253, 24, 104, 255, 250, 24, 1, 255], .received [240]]
    (by decide)).1

/-! ### `telnet_client_write` -/

theorem stuffed_length (c : UInt8) : 1 ≤ (stuffed c).length ∧ (stuffed c).length ≤ 2 := by
  unfold stuffed
  split
  · exact ⟨Nat.le_succ 1, Nat.le_refl 2⟩
  · exact ⟨Nat.le_refl 1, Nat.le_succ 1⟩

theorem fits_concat {buf : List UInt8} {sent : List (List UInt8)} (room : buf.length ≤ 255)
    (fits : ∀ b ∈ sent, b.length ≤ 256) : ∀ b ∈ sent ++ [buf], b.length ≤ 256 := by
  intro b mem
  rcases List.mem_append.mp mem with before | last
  · exact fits b before
  · rw [List.mem_singleton.mp last]
    omega

/-- No buffer is overrun, whatever the `send()`s do. -/
theorem telnetWriteLoop_fits (sendOk : Nat → Bool) {buf : List UInt8} {sent : List (List UInt8)}
    (data : List UInt8) (room : buf.length ≤ 255) (fits : ∀ b ∈ sent, b.length ≤ 256) :
    ∀ b ∈ (telnetWriteLoop sendOk buf sent data).2, b.length ≤ 256 := by
  induction data generalizing buf sent with
  | nil =>
      rw [telnetWriteLoop]
      split
      · exact fits_concat room fits
      · exact fits
  | cons c data ih =>
      have two := (stuffed_length c).2
      rw [telnetWriteLoop]
      split
      · split
        · exact ih (by omega) (fits_concat room fits)
        · exact fits_concat room fits
      · rename_i short
        refine ih ?_ fits
        rw [List.length_append]
        omega

/-- What is sent, when every `send()` succeeds. -/
theorem telnetWriteLoop_sent {sendOk : Nat → Bool} (allSent : ∀ k, sendOk k = true)
    (buf : List UInt8) (sent : List (List UInt8)) (data : List UInt8) :
    (telnetWriteLoop sendOk buf sent data).1 = true ∧
      (telnetWriteLoop sendOk buf sent data).2.flatten =
        sent.flatten ++ buf ++ data.flatMap stuffed := by
  induction data generalizing buf sent with
  | nil =>
      rw [telnetWriteLoop]
      split
      · exact ⟨allSent _, by simp⟩
      · rename_i empty
        rw [List.eq_nil_of_length_eq_zero (Nat.eq_zero_of_not_pos empty)]
        exact ⟨rfl, by simp⟩
  | cons c data ih =>
      rw [telnetWriteLoop, if_pos (allSent _)]
      split
      · obtain ⟨ok, flat⟩ := ih (stuffed c) (sent ++ [buf])
        exact ⟨ok, by rw [flat]; simp⟩
      · obtain ⟨ok, flat⟩ := ih (buf ++ stuffed c) sent
        exact ⟨ok, by rw [flat]; simp⟩

/-- A stuffed byte is decoded to itself, in place. -/
theorem tnProcess_stuffed {tc : TelnetClient} (start : tc.state = .data) (c : UInt8) :
    tc.tnProcess (stuffed c) = (tc, [c]) := by
  rcases tc with ⟨state⟩
  cases start
  unfold stuffed
  split
  · rename_i isIac
    rw [isIac]
    rfl
  · rename_i plain
    simp [tnProcess, tnProcessByte, tnIac, plain]

theorem tnProcess_stuffing {tc : TelnetClient} (start : tc.state = .data) (data : List UInt8) :
    tc.tnProcess (data.flatMap stuffed) = (tc, data) := by
  induction data with
  | nil => rfl
  | cons c data ih =>
      rw [List.flatMap_cons, tnProcess_append, tnProcess_stuffed start]
      simp only [ih]
      rfl

/-- **The round trip of the data written**: it is read back as it was, in place. -/
theorem telnet_write_decodes (sendOk : Nat → Bool) (allSent : ∀ k, sendOk k = true)
    (data : List UInt8) (tc : TelnetClient) (start : tc.state = .data) :
    (telnetClientWrite sendOk data).1 = true ∧
      (∀ buf ∈ (telnetClientWrite sendOk data).2, buf.length ≤ 256) ∧
      tc.tnProcess (telnetClientWrite sendOk data).2.flatten = (tc, data) := by
  obtain ⟨ok, flat⟩ := telnetWriteLoop_sent allSent [] [] data
  refine ⟨ok, telnetWriteLoop_fits sendOk data (Nat.zero_le 255) (by simp), ?_⟩
  exact (congrArg tc.tnProcess flat).trans (tnProcess_stuffing start data)

/-- Three bytes, the middle one an IAC. -/
theorem telnet_write_decodes_iac :
    telnetClientConnect.tnProcess (telnetClientWrite (fun _ => true) [104, 255, 105]).2.flatten =
      (telnetClientConnect, [104, 255, 105]) :=
  (telnet_write_decodes (fun _ => true) (fun _ => rfl) [104, 255, 105] telnetClientConnect rfl).2.2

end Tab5
