/-
**Every call returns.**

A call of `wifi_manager_connect` or `wifi_manager_scan` takes the mutex, runs its statements, waits
for an event or its time, and gives the mutex back; events only ever shorten the wait. `work` bounds
the steps the calls in progress have left (`work_step`).

`calls_return`: whatever the events, the driver and the order of the tasks, calls take a bounded
number of steps, and as long as one is in progress some task can go on.
-/

import Tab5RemoteTerminal.Wifi.Reconnect

namespace Tab5

open WifiManager

/-! ### The work left -/

/-- The steps of a call from here to the release of the mutex, and the save after it. -/
def Phase.left : Phase → Nat
  | .copySsid => 12
  | .copyPassword => 11
  | .clear => 10
  | .zero => 9
  | .flag => 8
  | .configure => 7
  | .start => 6
  | .wait => 5
  | .blocked => 4
  | .unflag _ => 3
  | .give _ => 2

def Holder.left : Holder → Nat
  | .scan => 1
  | .connect op => op.phase.left

namespace WifiManager

def work (s : WifiManager) : Nat :=
  13 * s.waiting.length + (s.holder.elim 0 Holder.left + s.connected.length)

/-- A task has the turn and can go on. -/
def advances (s : WifiManager) : WifiAction → Bool
  | .take i => s.holder.isNone && i < s.waiting.length
  | .run _ =>
      match s.holder with
      | none => false
      | some .scan => true
      | some (.connect op) => op.phase ≠ .blocked
  | .timeout =>
      match s.holder with
      | some (.connect op) => op.phase = .blocked
      | _ => false
  | .save i _ => i < s.connected.length
  | _ => false

/-- A call of one of the three functions. -/
def isCall : WifiAction → Bool
  | .connect .. => true
  | .connectSaved => true
  | .scan => true
  | _ => false

/-- No call is in progress. -/
def Idle (s : WifiManager) : Prop := s.waiting = [] ∧ s.holder = none ∧ s.connected = []

variable {s : WifiManager}

theorem work_wake (s : WifiManager) : s.wake.work ≤ s.work := by
  unfold wake
  split
  · rename_i op held
    split
    · rename_i blocked
      simp [work, held, Holder.left, Phase.left, blocked]
    · exact Nat.le_refl _
  · exact Nat.le_refl _

theorem work_espWifiConnect (accepted : Bool) (s : WifiManager) :
    (s.espWifiConnect accepted).work = s.work := by
  unfold espWifiConnect
  split <;> rfl

theorem work_onDisconnected (accepted : Bool) (s : WifiManager) :
    (s.onDisconnected accepted).work ≤ s.work := by
  unfold onDisconnected
  split
  · rw [work_espWifiConnect]
    exact Nat.le_refl _
  split
  · exact work_wake _
  · exact Nat.le_refl _

theorem work_onGotIp (association : StaConfig) (s : WifiManager) :
    (s.onGotIp association).work ≤ s.work := work_wake _

theorem work_goOn (op : ConnectOp) (phase : Phase) (s : WifiManager) :
    (s.goOn op phase).work =
      13 * s.waiting.length + (phase.left + s.connected.length) := rfl

/-- Going on from `here` to `next` is one step of those left. -/
theorem work_goOn_le {here next : Phase} (shorter : next.left < here.left) (op : ConnectOp)
    (s : WifiManager) :
    (s.goOn op next).work + (if here ≠ .blocked then 1 else 0) ≤
      13 * s.waiting.length + (here.left + s.connected.length) := by
  rw [work_goOn]
  split <;> omega

/-- A statement of a call. -/
theorem work_runConnect {op : ConnectOp} (held : s.holder = some (.connect op)) (ok : Bool) :
    (s.runConnect ok op).work + (if op.phase ≠ .blocked then 1 else 0) ≤ s.work := by
  have before : s.work = 13 * s.waiting.length + (op.phase.left + s.connected.length) := by
    rw [work, held]
    rfl
  rw [before]
  unfold runConnect
  cases phase : op.phase with
  | copySsid => exact work_goOn_le (by decide) _ s
  | copyPassword => exact work_goOn_le (by decide) _ s
  | clear => exact work_goOn_le (by decide) op { s with connectedBit := none, failBit := false }
  | zero => exact work_goOn_le (by decide) op { s with sRetryNum := 0 }
  | flag => exact work_goOn_le (by decide) op { s with sConnecting := true }
  | configure =>
      cases ok with
      | true => exact work_goOn_le (by decide) op { s with config := op.wifiConfig }
      | false => exact work_goOn_le (by simp only [Phase.left]; omega) op s
  | start =>
      cases ok with
      | true => exact work_goOn_le (by decide) op (s.espWifiConnect true)
      | false => exact work_goOn_le (by simp only [Phase.left]; omega) op s
  | wait =>
      dsimp only
      split
      · exact work_goOn_le (by simp only [Phase.left]; omega) op s
      · exact work_goOn_le (by decide) op s
  | blocked =>
      rw [phase] at before
      exact before.le
  | unflag acted =>
      exact work_goOn_le (by simp only [Phase.left]; omega) op { s with sConnecting := false }
  | give acted =>
      -- the mutex is given back; what has connected still saves
      cases acted with
      | none =>
          show 13 * s.waiting.length + (0 + s.connected.length) + 1 ≤ _
          simp only [Phase.left]
          omega
      | some acted =>
          show 13 * s.waiting.length + (0 + (s.connected ++ [_]).length) + 1 ≤ _
          simp only [Phase.left, List.length_append, List.length_singleton]
          omega

theorem work_takeMutex (i : Nat) (s : WifiManager) :
    (s.takeMutex i).work + (if s.advances (.take i) then 1 else 0) ≤ s.work := by
  unfold takeMutex
  cases held : s.holder with
  | some holder => simp [advances, held]
  | none =>
      cases here : s.waiting[i]? with
      | none =>
          have outside := List.getElem?_eq_none_iff.mp here
          simp [advances, outside]
      | some call =>
          obtain ⟨inside, -⟩ := List.getElem?_eq_some_iff.mp here
          have shorter := List.length_eraseIdx_of_lt inside
          cases call with
          | scan =>
              simp only [work, advances, held, shorter, inside, Option.elim, Holder.left]
              simp
              omega
          | connect args =>
              simp only [work, advances, held, shorter, inside, Option.elim, Holder.left, Phase.left]
              simp
              omega

theorem work_runHolder (ok : Bool) (s : WifiManager) :
    (s.runHolder ok).work + (if s.advances (.run ok) then 1 else 0) ≤ s.work := by
  unfold runHolder
  cases held : s.holder with
  | none => simp [advances, held]
  | some holder =>
      cases holder with
      | scan =>
          have before : s.work = 13 * s.waiting.length + (1 + s.connected.length) := by
            rw [work, held]
            rfl
          have free : ({ s with holder := none } : WifiManager).work =
              13 * s.waiting.length + (0 + s.connected.length) := rfl
          have runs : s.advances (.run ok) = true := by rw [advances, held]
          show ({ s with holder := none } : WifiManager).work + _ ≤ _
          rw [runs, if_pos rfl, before, free]
          omega
      | connect op =>
          have here : s.advances (.run ok) = decide (op.phase ≠ .blocked) := by
            rw [advances, held]
          rw [here]
          simpa using work_runConnect held ok

theorem work_timeOut (s : WifiManager) :
    s.timeOut.work + (if s.advances .timeout then 1 else 0) ≤ s.work := by
  unfold timeOut
  cases held : s.holder with
  | none => simp [advances, held]
  | some holder =>
      cases holder with
      | scan => simp [advances, held]
      | connect op =>
          by_cases blocked : op.phase = .blocked
          · have before : s.work = 13 * s.waiting.length + (4 + s.connected.length) := by
              rw [work, held]
              show _ = 13 * s.waiting.length + (Phase.blocked.left + s.connected.length)
              rw [← blocked]
              rfl
            have counts : s.advances .timeout = true := by
              rw [advances, held]
              exact decide_eq_true blocked
            show (if op.phase = .blocked then _ else s : WifiManager).work + _ ≤ _
            rw [if_pos blocked, counts, if_pos rfl, before, work_goOn]
            simp only [Phase.left]
            omega
          · simp [advances, held, blocked]

theorem work_saveAndReturn (codec : JsonCodec) (i : Nat) (o : Outcomes) (s : WifiManager) :
    (s.saveAndReturn codec i o).work + (if s.advances (.save i o) then 1 else 0) ≤ s.work := by
  unfold saveAndReturn
  cases here : s.connected[i]? with
  | none =>
      have outside := List.getElem?_eq_none_iff.mp here
      simp [advances, outside]
  | some call =>
      obtain ⟨inside, -⟩ := List.getElem?_eq_some_iff.mp here
      have shorter := List.length_eraseIdx_of_lt inside
      simp only [work, advances, shorter, inside]
      simp
      omega

/-- A call made waits for the mutex, if it does not return at once. -/
theorem work_enters (codec : JsonCodec) {action : WifiAction} (enters : isCall action = true)
    (s : WifiManager) : (s.step codec action).work ≤ s.work + 13 := by
  have one (call : Waiting) :
      work { s with waiting := s.waiting ++ [call] } ≤ s.work + 13 := by
    simp only [work, List.length_append, List.length_singleton]
    omega
  cases action with
  | connect ssid password =>
      simp only [step, wifiManagerConnect]
      split
      · exact Nat.le_add_right _ _
      split
      · exact Nat.le_add_right _ _
      · exact one _
  | connectSaved =>
      simp only [step, wifiManagerConnectSaved]
      split
      · exact Nat.le_add_right _ _
      split
      · exact Nat.le_add_right _ _
      · exact one _
  | scan =>
      simp only [step, wifiManagerScan]
      split
      · exact one _
      · exact Nat.le_add_right _ _
  | _ => exact absurd enters Bool.false_ne_true

/-- **One step**: a call made is 13 steps more, a step of a task one less, and an event no more. -/
theorem work_step (codec : JsonCodec) (s : WifiManager) (action : WifiAction) :
    (s.step codec action).work + (if s.advances action then 1 else 0) ≤
      s.work + 13 * (if isCall action then 1 else 0) := by
  by_cases enters : isCall action = true
  · have notTask : s.advances action = false := by
      cases action with
      | connect | connectSaved | scan => rfl
      | _ => exact absurd enters Bool.false_ne_true
    rw [if_pos enters, notTask]
    exact work_enters codec enters s
  rw [if_neg enters]
  cases action with
  | connect | connectSaved | scan => exact absurd rfl enters
  | take i => exact work_takeMutex i s
  | run ok => exact work_runHolder ok s
  | timeout => exact work_timeOut s
  | save i o => exact work_saveAndReturn codec i o s
  | dropped accepted => exact work_onDisconnected accepted s
  | renewed association => exact work_onGotIp association s
  | answered i gotIp accepted =>
      simp only [step, answer]
      split
      · exact Nat.le_refl _
      · cases gotIp with
        | true => exact work_onGotIp _ _
        | false => exact work_onDisconnected _ _
  | expire accepted =>
      simp only [step, reconnectTimerCb]
      split
      · exact (work_espWifiConnect _ _).le
      · exact Nat.le_refl _

/-! ### Who can go on -/

/-- **A call in progress never waits for nothing**: if no task can go on, none is in progress. -/
theorem idle_iff : s.Idle ↔ ∀ action, s.advances action = false := by
  constructor
  · rintro ⟨waiting, free, connected⟩ action
    cases action <;> simp [advances, waiting, free, connected]
  · intro stuck
    have saved : s.connected = [] := by
      have here := stuck (.save 0 .good)
      simp only [advances, decide_eq_false_iff_not, Nat.not_lt, Nat.le_zero] at here
      exact List.length_eq_zero_iff.mp here
    have free : s.holder = none := by
      cases held : s.holder with
      | none => rfl
      | some holder =>
          have runs := stuck (.run true)
          have times := stuck .timeout
          cases holder with
          | scan => simp [advances, held] at runs
          | connect op => simp_all [advances]
    have taken := stuck (.take 0)
    simp only [advances, free, Option.isNone_none, Bool.true_and, decide_eq_false_iff_not,
      Nat.not_lt, Nat.le_zero] at taken
    exact ⟨List.length_eq_zero_iff.mp taken, free, saved⟩

/-! ### Runs -/

/-- **Every call returns.** Whatever the driver accepts, however its events, the timer and the tasks
are ordered: the tasks take at most 13 steps for each call made; as long as a call is in progress,
one of them can go on; and when none is, the mutex is free, `s_connecting` is not set and a dropped
connection is retried. -/
theorem calls_return (codec : JsonCodec) (inited : Bool) (config : StaConfig) (creds : WifiCreds)
    (actions : List WifiAction) :
    let start := wifiManagerInit inited config creds
    let s := Run.after (step codec) start actions
    Run.total (step codec) (fun s a => if s.advances a then 1 else 0) start actions ≤
        13 * Run.total (step codec) (fun _ a => if isCall a then 1 else 0) start actions ∧
      (s.Idle ↔ ∀ action, s.advances action = false) ∧
      (s.Idle → s.sConnecting = false ∧ ∀ accepted, (s.onDisconnected accepted).sReconnectTimer) := by
  intro start s
  have paid := Run.potential (work_step codec) start actions
  rw [Run.total_mul, show start.work = 0 from rfl] at paid
  refine ⟨by omega, idle_iff, fun idle => ?_⟩
  have lowered : start.Raised := fun set => Bool.noConfusion (show false = true from set)
  have raised : s.Raised :=
    (Run.always_of_step (fun _ a raised => raised_step codec a raised) lowered actions).last
  have low : s.sConnecting = false := by
    cases set : s.sConnecting with
    | false => rfl
    | true =>
        obtain ⟨op, held, -⟩ := raised set
        cases idle.2.1.symm.trans held
  exact ⟨low, fun accepted => by simp [onDisconnected, low]⟩

end WifiManager

end Tab5
