/-
**What goes over the wire.**

The socket carries the session's data and the client's side of the negotiation, as
`telnet_client_write`, `telnet_client_send_naws` and the handlers inside `telnet_client_read` send
it. Replies carry no data for whoever decodes the stream (`Dataless`) and are sent whole, between two
writes, so they never get into the data, whatever has been received. A write that cannot send all
its buffers has sent a first part of its data, cut between two bytes.

`wire_decodes`: the peer reads what the writes have reached, in order, and nothing else.
-/

import Tab5RemoteTerminal.Telnet.Connect
import Tab5RemoteTerminal.Telnet.Negotiation
import Tab5RemoteTerminal.Telnet.Subnegotiation

namespace Tab5

open TelnetClient

/-! ### Bytes that carry no data -/

/-- Between two data states of whoever decodes it. -/
def Dataless (raw : List UInt8) : Prop :=
  ∀ peer : TelnetClient, peer.state = .data → ∃ answers, peer.Decodes raw [] answers

theorem dataless_nil : Dataless [] := fun _ start => ⟨_, decodes_nil start⟩

theorem Dataless.append {first second : List UInt8} (one : Dataless first) (two : Dataless second) :
    Dataless (first ++ second) := by
  intro peer start
  obtain ⟨answers, head⟩ := one peer start
  obtain ⟨answers', tail⟩ := two _ head.state
  exact ⟨_, head.append tail⟩

theorem dataless_verb (v : Verb) (opt : UInt8) : Dataless [tnIac, v.code, opt] :=
  fun _ start => ⟨_, decodes_verb start v opt⟩

/-- A subnegotiation whose payload needs no escape. -/
theorem dataless_subneg (opt : UInt8) {payload : List UInt8} (plain : tnIac ∉ payload) :
    Dataless ([tnIac, tnSb, opt] ++ payload ++ [tnIac, tnSe]) := by
  intro peer start
  have decodes := decodes_subneg start opt payload
  rw [doubleIac_plain fun c mem isIac => plain (isIac ▸ mem)] at decodes
  exact ⟨_, decodes⟩

/-- The size has no byte 255. -/
def PlainSize (cols rows : UInt16) : Prop := tnIac ∉ sizeBytes cols rows

instance (cols rows : UInt16) : Decidable (PlainSize cols rows) :=
  inferInstanceAs (Decidable (tnIac ∉ sizeBytes cols rows))

theorem dataless_report {cols rows : UInt16} (plain : PlainSize cols rows) :
    Dataless (nawsReport cols rows) := dataless_subneg optNaws plain

theorem dataless_termTypeAnswer : Dataless termTypeAnswer :=
  dataless_subneg optTermType (by decide : tnIac ∉ 0 :: termName)

/-- What a command is answered with. -/
theorem dataless_answers {tc : TelnetClient} (plain : PlainSize tc.nawsCols tc.nawsRows) (v : Verb)
    (opt : UInt8) : Dataless ((tc.answers (.command v opt)).map TelnetMessage.bytes).flatten := by
  have report : Dataless ((tc.reportsFor v opt).map TelnetMessage.bytes).flatten := by
    unfold reportsFor
    split
    · rw [List.map_singleton, List.flatten_singleton, TelnetMessage.bytes, ← nawsReport_eq]
      exact dataless_report plain
    · exact dataless_nil
  exact (dataless_verb _ opt).append report

/-! ### What the decoder sends -/

/-- All that has been sent since then carries no data, and the size is as it was. -/
structure OnlyDataless (tc after : TelnetClient) : Prop where
  sent : ∃ new, after.sent = tc.sent ++ new ∧ Dataless new.flatten
  cols : after.nawsCols = tc.nawsCols
  rows : after.nawsRows = tc.nawsRows

theorem OnlyDataless.of_sent {tc after : TelnetClient} (same : after.sent = tc.sent)
    (cols : after.nawsCols = tc.nawsCols) (rows : after.nawsRows = tc.nawsRows) :
    OnlyDataless tc after :=
  ⟨⟨[], by rw [same, List.append_nil], dataless_nil⟩, cols, rows⟩

theorem OnlyDataless.refl (tc : TelnetClient) : OnlyDataless tc tc := .of_sent rfl rfl rfl

theorem OnlyDataless.trans {tc mid after : TelnetClient} (one : OnlyDataless tc mid)
    (two : OnlyDataless mid after) : OnlyDataless tc after := by
  obtain ⟨⟨new, sent, quiet⟩, cols, rows⟩ := one
  obtain ⟨⟨new', sent', quiet'⟩, cols', rows'⟩ := two
  refine ⟨⟨new ++ new', ?_, ?_⟩, cols'.trans cols, rows'.trans rows⟩
  · rw [sent', sent, List.append_assoc]
  · rw [List.flatten_append]
    exact quiet.append quiet'

theorem tnHandleSubneg_dataless (tc : TelnetClient) : OnlyDataless tc tc.tnHandleSubneg := by
  unfold tnHandleSubneg
  split
  · refine ⟨⟨[[tnIac, tnSb, optTermType, 0], termName, [tnIac, tnSe]], ?_, ?_⟩, rfl, rfl⟩
    · simp [send]
    · exact dataless_termTypeAnswer
  · exact .refl tc

/-- No handler is there for another command. -/
theorem tnHandleCmd_other {tc : TelnetClient} (other : ∀ v : Verb, tc.pendingCmd ≠ v.code)
    (opt : UInt8) : tc.tnHandleCmd opt = tc := by
  have will : tc.pendingCmd ≠ tnWill := other .will
  have wont : tc.pendingCmd ≠ tnWont := other .wont
  have asks : tc.pendingCmd ≠ tnDo := other .doOpt
  have forbids : tc.pendingCmd ≠ tnDont := other .dont
  rw [tnHandleCmd, if_neg will, if_neg wont, if_neg asks, if_neg forbids]

/-- A pending command that is one of the four verbs is answered; another is dropped. -/
theorem tnHandleCmd_dataless {tc : TelnetClient} (plain : PlainSize tc.nawsCols tc.nawsRows)
    (opt : UInt8) : OnlyDataless tc ({ tc with state := .data }.tnHandleCmd opt) := by
  by_cases verb : ∃ v : Verb, tc.pendingCmd = v.code
  · obtain ⟨v, pending⟩ := verb
    have received : { tc with state := .data }.tnHandleCmd opt = tc.receive v opt := by
      unfold receive
      rw [← pending]
    obtain ⟨_, cols, rows⟩ := receive_naws tc v opt
    rw [received]
    exact ⟨⟨_, receive_sent tc v opt, dataless_answers plain v opt⟩, cols, rows⟩
  · have other : ∀ v : Verb, tc.pendingCmd ≠ v.code := fun v pending => verb ⟨v, pending⟩
    rw [@tnHandleCmd_other { tc with state := .data } other opt]
    exact .of_sent rfl rfl rfl

theorem collect_dataless (tc : TelnetClient) (c : UInt8) : OnlyDataless tc (tc.collect c) := by
  unfold collect
  split
  · exact .of_sent rfl rfl rfl
  · exact .refl tc

/-- **A byte received**, in any state, makes the client send nothing that carries data. -/
theorem tnProcessByte_dataless {tc : TelnetClient} (plain : PlainSize tc.nawsCols tc.nawsRows)
    (c : UInt8) : OnlyDataless tc (tc.tnProcessByte c).1 := by
  unfold tnProcessByte
  cases tc.state with
  | data =>
      dsimp only
      split <;> exact .of_sent rfl rfl rfl
  | iac =>
      dsimp only
      repeat' split
      all_goals exact .of_sent rfl rfl rfl
  | cmdOpt => exact tnHandleCmd_dataless plain c
  | sb =>
      dsimp only
      split
      · exact .of_sent rfl rfl rfl
      · split
        · exact .of_sent rfl rfl rfl
        · exact collect_dataless tc c
  | sbIac =>
      dsimp only
      split
      · exact (tnHandleSubneg_dataless tc).trans (.of_sent rfl rfl rfl)
      · split
        · exact (collect_dataless tc 0xFF).trans (.of_sent rfl rfl rfl)
        · exact .of_sent rfl rfl rfl

theorem tnProcess_dataless {tc : TelnetClient} (plain : PlainSize tc.nawsCols tc.nawsRows)
    (raw : List UInt8) : OnlyDataless tc (tc.tnProcess raw).1 := by
  induction raw generalizing tc with
  | nil => exact .refl tc
  | cons c raw ih =>
      have first := tnProcessByte_dataless plain c
      refine first.trans (ih ?_)
      rw [first.cols, first.rows]
      exact plain

/-! ### What a write delivers -/

/-- The buffers that went out: the last one did not, if the write failed. -/
def delivered (written : Bool × List (List UInt8)) : List (List UInt8) :=
  if written.1 then written.2 else written.2.dropLast

/-- The loop, with `chunk` buffered: a first part of the data gets out, cut between two bytes. -/
theorem telnetWriteLoop_reaches (sendOk : Nat → Bool) {chunk buf : List UInt8}
    (buffered : buf = chunk.flatMap stuffed) (sent : List (List UInt8)) (data : List UInt8) :
    ∃ reached, reached <+: chunk ++ data ∧
      ((telnetWriteLoop sendOk buf sent data).1 = true ↔ reached = chunk ++ data) ∧
      (delivered (telnetWriteLoop sendOk buf sent data)).flatten =
        sent.flatten ++ reached.flatMap stuffed := by
  induction data generalizing chunk buf sent with
  | nil =>
      rw [telnetWriteLoop, List.append_nil]
      by_cases empty : chunk = []
      · subst empty
        rw [buffered, if_neg (by decide)]
        exact ⟨[], List.prefix_rfl, by simp, by simp [delivered]⟩
      · obtain ⟨c, rest, rfl⟩ := List.exists_cons_of_ne_nil empty
        have some : 0 < buf.length := by
          have one := (stuffed_length c).1
          rw [buffered, List.flatMap_cons, List.length_append]
          omega
        rw [if_pos some]
        cases ok : sendOk sent.length with
        | true => exact ⟨c :: rest, List.prefix_rfl, by simp, by simp [delivered, buffered]⟩
        | false => exact ⟨[], List.nil_prefix, by simp, by simp [delivered]⟩
  | cons c data ih =>
      rw [telnetWriteLoop]
      by_cases full : buf.length ≥ 256 - 2
      · rw [if_pos full]
        cases ok : sendOk sent.length with
        | true =>
            rw [if_pos rfl]
            have one : stuffed c = [c].flatMap stuffed := by simp
            obtain ⟨reached, isPrefix, whole, flat⟩ := ih one (sent ++ [buf])
            refine ⟨chunk ++ reached, (List.prefix_append_right_inj chunk).mpr isPrefix, ?_, ?_⟩
            · rw [whole, List.append_right_inj]
              rfl
            · rw [flat, List.flatten_append, List.flatten_singleton, buffered, List.flatMap_append,
                List.append_assoc]
        | false =>
            rw [if_neg (by decide)]
            exact ⟨[], List.nil_prefix, by simp, by simp [delivered]⟩
      · rw [if_neg full]
        have joined : (chunk ++ [c]) ++ data = chunk ++ c :: data := by simp
        have longer : buf ++ stuffed c = (chunk ++ [c]).flatMap stuffed := by simp [buffered]
        have next := ih longer sent
        rwa [joined] at next

/-- **A write reaches the peer with all its data, or fails.** -/
theorem telnetClientWrite_reaches (sendOk : Nat → Bool) (data : List UInt8) :
    ∃ reached, reached <+: data ∧ ((telnetClientWrite sendOk data).1 = true ↔ reached = data) ∧
      (delivered (telnetClientWrite sendOk data)).flatten = reached.flatMap stuffed :=
  telnetWriteLoop_reaches sendOk (List.flatMap_nil.symm : [] = [].flatMap stuffed) [] data

/-! ### A connection in use -/

/-- The bytes that a use puts on the wire. -/
def TelnetUse.wire (tc : TelnetClient) (u : TelnetUse) : List UInt8 :=
  match u with
  | .write sendOk data => (delivered (telnetClientWrite sendOk data)).flatten
  | .read _ | .sendNaws _ _ => ((u.client tc).sent.drop tc.sent.length).flatten

/-- The bytes that some uses put on the wire. -/
def telnetWire (tc : TelnetClient) : List TelnetUse → List UInt8
  | [] => []
  | u :: uses => u.wire tc ++ telnetWire (u.client tc) uses

/-- The sizes reported have no byte 255. -/
def TelnetUse.Plain : TelnetUse → Prop
  | .sendNaws cols rows => PlainSize cols rows
  | _ => True

/-- What of a use's data the peer has to get: of a write a first part, and all of it exactly if the
write succeeds. -/
def TelnetUse.Reaches (u : TelnetUse) (reached : List UInt8) : Prop :=
  match u with
  | .write sendOk data =>
      reached <+: data ∧ ((telnetClientWrite sendOk data).1 = true ↔ reached = data)
  | _ => reached = []

/-- What is new in the log of a client that sent only quiet bytes. -/
theorem OnlyDataless.drop {tc after : TelnetClient} (only : OnlyDataless tc after) :
    Dataless ((after.sent.drop tc.sent.length).flatten) := by
  obtain ⟨⟨new, sent, quiet⟩, _, _⟩ := only
  rw [sent, List.drop_left]
  exact quiet

theorem read_onlyDataless {tc : TelnetClient} (plain : PlainSize tc.nawsCols tc.nawsRows)
    (recv : RecvResult) : OnlyDataless tc (telnetClientRead tc recv).1 := by
  have client : (telnetClientRead tc recv).1 = (tc.tnProcess recv.raw).1 :=
    congrArg Prod.fst (telnetClientRead_raw tc recv)
  rw [client]
  exact tnProcess_dataless plain recv.raw

/-- A size report, if one is sent, and the size it leaves. -/
theorem sendNaws_dataless (tc : TelnetClient) {cols rows : UInt16} (plain : PlainSize cols rows) :
    Dataless (((telnetClientSendNaws tc cols rows).sent.drop tc.sent.length).flatten) ∧
      (telnetClientSendNaws tc cols rows).nawsCols = cols ∧
      (telnetClientSendNaws tc cols rows).nawsRows = rows := by
  unfold telnetClientSendNaws
  dsimp only
  split
  · refine ⟨?_, rfl, rfl⟩
    show Dataless (((tc.sent ++ [nawsReport cols rows]).drop tc.sent.length).flatten)
    rw [List.drop_left, List.flatten_singleton]
    exact dataless_report plain
  · refine ⟨?_, rfl, rfl⟩
    rw [List.drop_length]
    exact dataless_nil

theorem decodes_stuffing {peer : TelnetClient} (start : peer.state = .data) (data : List UInt8) :
    peer.Decodes (data.flatMap stuffed) data [] :=
  .of_read (tnProcess_stuffing start data) start rfl (List.append_nil _).symm

/-- **One use**: the peer gets of it what it has to get, and the size stays plain. -/
theorem TelnetUse.use_decodes {tc : TelnetClient} (plain : PlainSize tc.nawsCols tc.nawsRows)
    {u : TelnetUse} (uPlain : u.Plain) :
    PlainSize (u.client tc).nawsCols (u.client tc).nawsRows ∧
      ∃ reached, u.Reaches reached ∧ ∀ peer : TelnetClient, peer.state = .data →
        ∃ answers, peer.Decodes (u.wire tc) reached answers := by
  cases u with
  | read recv =>
      have only := read_onlyDataless plain recv
      refine ⟨?_, [], rfl, only.drop⟩
      rw [client, only.cols, only.rows]
      exact plain
  | sendNaws cols rows =>
      obtain ⟨quiet, sameCols, sameRows⟩ := sendNaws_dataless tc uPlain
      refine ⟨?_, [], rfl, quiet⟩
      rw [client, sameCols, sameRows]
      exact uPlain
  | write sendOk data =>
      obtain ⟨reached, isPrefix, whole, flat⟩ := telnetClientWrite_reaches sendOk data
      refine ⟨plain, reached, ⟨isPrefix, whole⟩, fun peer start => ⟨[], ?_⟩⟩
      rw [wire, flat]
      exact decodes_stuffing start reached

theorem telnetWire_decodes {tc : TelnetClient} (plain : PlainSize tc.nawsCols tc.nawsRows)
    (uses : List TelnetUse) (allPlain : ∀ u ∈ uses, u.Plain) {peer : TelnetClient}
    (start : peer.state = .data) :
    ∃ reached answers, List.Forall₂ TelnetUse.Reaches uses reached ∧
      peer.Decodes (telnetWire tc uses) reached.flatten answers := by
  induction uses generalizing tc peer with
  | nil => exact ⟨[], [], .nil, decodes_nil start⟩
  | cons u uses ih =>
      obtain ⟨uPlain, rest⟩ := List.forall_mem_cons.mp allPlain
      obtain ⟨next, reached, reaches, decodes⟩ := TelnetUse.use_decodes plain uPlain
      obtain ⟨answers, head⟩ := decodes peer start
      obtain ⟨later, answers', all, tail⟩ := ih next rest head.state
      exact ⟨reached :: later, _, .cons reaches all, head.append tail⟩

/-- **Negotiation never gets into the data.** Whatever a new client receives between its writes,
however broken, and whichever `send()`s of the writes fail: a peer that decodes the wire reads of
each write a first part, the whole of it exactly if the write has succeeded, in order and nothing
else. -/
theorem wire_decodes (uses : List TelnetUse) (plain : ∀ u ∈ uses, u.Plain) (peer : TelnetClient)
    (start : peer.state = .data) :
    ∃ reached, List.Forall₂ TelnetUse.Reaches uses reached ∧
      (peer.tnProcess (telnetWire telnetClientConnect uses)).2 = reached.flatten ∧
      (peer.tnProcess (telnetWire telnetClientConnect uses)).1.state = .data := by
  have none : PlainSize telnetClientConnect.nawsCols telnetClientConnect.nawsRows := by decide
  obtain ⟨reached, _, all, decodes⟩ := telnetWire_decodes none uses plain start
  exact ⟨reached, all, decodes.out, decodes.state⟩

/-- A size report, a DO NAWS and an unfinished WILL received, then an IAC written. -/
def reportedUses : List TelnetUse :=
  [.sendNaws 80 42, .read (.received [255, 253, 31, 255, 251]), .write (fun _ => true) [104, 255]]

theorem wire_decodes_reported :
    ∃ reached, List.Forall₂ TelnetUse.Reaches reportedUses reached ∧
      (telnetClientConnect.tnProcess (telnetWire telnetClientConnect reportedUses)).2 =
        reached.flatten ∧
      (telnetClientConnect.tnProcess (telnetWire telnetClientConnect reportedUses)).1.state =
        .data := by
  refine wire_decodes reportedUses ?_ telnetClientConnect rfl
  intro u mem
  simp only [reportedUses, List.mem_cons, List.not_mem_nil, or_false] at mem
  rcases mem with rfl | rfl | rfl
  · show PlainSize 80 42
    decide
  · trivial
  · trivial

end Tab5
