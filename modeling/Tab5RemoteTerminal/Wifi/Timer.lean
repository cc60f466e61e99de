/-
**What the reconnect timer may disturb.**

The event handler arms the timer when a connection drops and no call is in progress; nothing but its
expiry disarms it. Until then a call may start, or an address may come back, and the callback then
calls `esp_wifi_connect` all the same.

* `TimerQuiet`: an expiry now would find no call in progress and no address;
* `timerQuiet_iff`: every state of a run is quiet exactly if the timer is not armed whenever
  `s_connecting` or `s_is_connected` is set (`Disarmed`), and then no expiry disturbs anything;
* `timerQuiet_fails`: a call within the five seconds after a drop.
-/

import Tab5RemoteTerminal.Library.JsonText
import Tab5RemoteTerminal.Library.Run
import Tab5RemoteTerminal.Wifi.Manager

namespace Tab5

namespace WifiManager

/-! ### The property and the condition -/

/-- The callback of the timer runs in this step, and calls `esp_wifi_connect`. -/
def TimerConnects (s : WifiManager) : WifiAction → Prop
  | .expire _ => s.sReconnectTimer = true
  | _ => False

/-- The timer does not expire during a call, nor while the station has its address. -/
def Harmless (s : WifiManager) (action : WifiAction) : Prop :=
  s.TimerConnects action → s.sConnecting = false ∧ s.sIsConnected = false

instance (s : WifiManager) (action : WifiAction) : Decidable (s.TimerConnects action) := by
  unfold TimerConnects
  split <;> infer_instance

instance (s : WifiManager) (action : WifiAction) : Decidable (s.Harmless action) :=
  inferInstanceAs (Decidable (_ → _))

/-- Nor would it, if it expired now. -/
def TimerQuiet (s : WifiManager) : Prop := ∀ accepted, s.Harmless (.expire accepted)

/-- The timer is not armed when a call sets `s_connecting`, nor when an address comes. -/
def Disarmed (s : WifiManager) : WifiAction → Prop
  | .run _ => ∀ op ∈ s.op, op.phase = .flag → s.sReconnectTimer = false
  | .answered i true _ => ∀ _attempt ∈ s.pending[i]?, s.sReconnectTimer = false
  | .renewed _ => s.sReconnectTimer = false
  | _ => True

/-! ### The timer and the two flags -/

variable {s : WifiManager}

theorem quiet_iff : s.TimerQuiet ↔
    (s.sReconnectTimer = true → s.sConnecting = false ∧ s.sIsConnected = false) :=
  ⟨fun quiet => quiet true, fun quiet _ => quiet⟩

/-- The timer and the flags are the same. -/
structure SameFlags (s after : WifiManager) : Prop where
  timer : after.sReconnectTimer = s.sReconnectTimer
  connecting : after.sConnecting = s.sConnecting
  connected : after.sIsConnected = s.sIsConnected

theorem SameFlags.refl (s : WifiManager) : SameFlags s s := ⟨rfl, rfl, rfl⟩

theorem SameFlags.trans {first second third : WifiManager} (one : SameFlags first second)
    (two : SameFlags second third) : SameFlags first third :=
  ⟨two.timer.trans one.timer, two.connecting.trans one.connecting,
    two.connected.trans one.connected⟩

theorem SameFlags.quiet {after : WifiManager} (same : SameFlags s after) :
    after.TimerQuiet ↔ s.TimerQuiet := by
  rw [quiet_iff, quiet_iff, same.timer, same.connecting, same.connected]

theorem sameFlags_wake (s : WifiManager) : SameFlags s s.wake := by
  unfold wake
  split
  · split
    · exact ⟨rfl, rfl, rfl⟩
    · exact .refl s
  · exact .refl s

theorem sameFlags_espWifiConnect (accepted : Bool) (s : WifiManager) :
    SameFlags s (s.espWifiConnect accepted) := by
  unfold espWifiConnect
  split
  · exact ⟨rfl, rfl, rfl⟩
  · exact .refl s

/-- No statement of a call but the two writes of `s_connecting` changes a flag. -/
theorem sameFlags_runConnect (ok : Bool) {op : ConnectOp} (notFlag : op.phase ≠ .flag)
    (notUnflag : ∀ acted, op.phase ≠ .unflag acted) : SameFlags s (s.runConnect ok op) := by
  have plain : ∀ (op : ConnectOp) (phase : Phase) (u : WifiManager), SameFlags u (u.goOn op phase) :=
    fun _ _ _ => ⟨rfl, rfl, rfl⟩
  unfold runConnect
  split
  · exact plain _ _ _
  · exact plain _ _ _
  · exact ⟨rfl, rfl, rfl⟩
  · exact ⟨rfl, rfl, rfl⟩
  · exact absurd ‹_› notFlag
  · split
    · exact ⟨rfl, rfl, rfl⟩
    · exact plain _ _ _
  · split
    · exact (sameFlags_espWifiConnect true s).trans (plain _ _ _)
    · exact plain _ _ _
  · split
    · exact plain _ _ _
    · exact plain _ _ _
  · exact .refl s
  · exact absurd ‹_› (notUnflag _)
  · split
    · exact ⟨rfl, rfl, rfl⟩
    · exact ⟨rfl, rfl, rfl⟩

/-! ### One step -/

/-- An address disturbs nothing exactly if the timer is not armed. -/
theorem quiet_onGotIp (s : WifiManager) (association : StaConfig) :
    (s.onGotIp association).TimerQuiet ↔ s.sReconnectTimer = false := by
  rw [onGotIp, setConnected, (sameFlags_wake _).quiet, quiet_iff]
  cases s.sReconnectTimer with
  | false => simp
  | true => simp

theorem quiet_onDisconnected (quiet : s.TimerQuiet) (accepted : Bool) :
    (s.onDisconnected accepted).TimerQuiet := by
  have flags := quiet_iff.mp quiet
  have down : TimerQuiet { s with sIsConnected := false } :=
    quiet_iff.mpr fun armed => ⟨(flags armed).1, rfl⟩
  unfold onDisconnected
  split
  · refine (sameFlags_espWifiConnect accepted _).quiet.mpr ?_
    exact down
  split
  · refine (sameFlags_wake _).quiet.mpr ?_
    exact down
  · rename_i idle
    exact quiet_iff.mpr fun _ => ⟨by simpa using idle, rfl⟩

/-- **One statement of a call.** -/
theorem quiet_runConnect (quiet : s.TimerQuiet) (ok : Bool) (op : ConnectOp) :
    (s.runConnect ok op).TimerQuiet ↔ (op.phase = .flag → s.sReconnectTimer = false) := by
  by_cases flag : op.phase = .flag
  · rw [runConnect, flag, quiet_iff]
    cases armed : s.sReconnectTimer with
    | false => simp [goOn]
    | true => simp [goOn]
  refine iff_of_true ?_ fun here => absurd here flag
  by_cases unflag : ∃ acted, op.phase = .unflag acted
  · obtain ⟨acted, unflag⟩ := unflag
    rw [runConnect, unflag, quiet_iff]
    exact fun armed => ⟨rfl, (quiet_iff.mp quiet armed).2⟩
  · exact (sameFlags_runConnect ok flag fun acted here => unflag ⟨acted, here⟩).quiet.mpr quiet

/-- **The exact condition of one step.** -/
theorem quiet_step (codec : JsonCodec) (s : WifiManager) (action : WifiAction)
    (quiet : s.TimerQuiet) : (s.step codec action).TimerQuiet ↔ s.Disarmed action := by
  have effect := step_to codec s action
  generalize s.step codec action = after at effect ⊢
  cases effect with
  | enters action outside more =>
      refine iff_of_true quiet ?_
      cases action with
      | connect | connectSaved | scan => trivial
      | _ => exact absurd outside id
  | notTaken | takenToScan | takenToConnect | notBlocked | timedOut | notSaved | saved | notArmed =>
      exact iff_of_true quiet trivial
  | noHolder ok free =>
      refine iff_of_true quiet fun op mine => ?_
      cases free.symm.trans (op_eq_some.mp mine)
  | scanned ok held =>
      refine iff_of_true quiet fun op mine => ?_
      cases held.symm.trans (op_eq_some.mp mine)
  | ran ok op held =>
      refine (quiet_runConnect quiet ok op).trans ⟨fun disarmed other mine => ?_, fun disarmed =>
        disarmed op (op_eq_some.mpr held)⟩
      cases held.symm.trans (op_eq_some.mp mine)
      exact disarmed
  | notAnswered i gotIp accepted gone =>
      refine iff_of_true quiet ?_
      cases gotIp with
      | false => trivial
      | true => exact fun _ here => by cases gone.symm.trans here
  | gotIp i accepted association here =>
      exact (quiet_onGotIp _ association).trans ⟨fun disarmed _ _ => disarmed, fun disarmed =>
        disarmed association here⟩
  | refused i accepted =>
      refine iff_of_true (quiet_onDisconnected ?_ accepted) trivial
      exact quiet
  | dropped accepted => exact iff_of_true (quiet_onDisconnected quiet accepted) trivial
  | renewed association => exact quiet_onGotIp s association
  | expired accepted =>
      refine iff_of_true ((sameFlags_espWifiConnect accepted _).quiet.mpr ?_) trivial
      exact quiet_iff.mpr fun armed => absurd armed Bool.false_ne_true

end WifiManager

open WifiManager

/-- **When the reconnect timer does not interfere.** In every run: an expiry would at no moment find
a call in progress or an address exactly if the timer is not armed whenever a call sets
`s_connecting` and whenever an address comes; and then none of the run's expiries does. -/
theorem timerQuiet_iff (codec : JsonCodec) (inited : Bool) (config : StaConfig) (creds : WifiCreds)
    (actions : List WifiAction) :
    (Run.Always (step codec) TimerQuiet (wifiManagerInit inited config creds) actions ↔
      Run.Meets (step codec) Disarmed (wifiManagerInit inited config creds) actions) ∧
    (Run.Meets (step codec) Disarmed (wifiManagerInit inited config creds) actions →
      Run.Meets (step codec) Harmless (wifiManagerInit inited config creds) actions) := by
  have start : (wifiManagerInit inited config creds).TimerQuiet := fun _ armed => nomatch armed
  have quiet : Run.Always (step codec) TimerQuiet (wifiManagerInit inited config creds) actions ↔
      Run.Meets (step codec) Disarmed (wifiManagerInit inited config creds) actions :=
    Run.always_iff_meets (quiet_step codec) start
  refine ⟨quiet, fun disarmed => ?_⟩
  refine Run.meets_of_always (fun s action here _ => ?_) (quiet.mpr disarmed)
  cases action with
  | expire accepted => exact here accepted
  | _ => exact fun connects => absurd connects id

/-- A connection, its drop, and a call that sets `s_connecting` before the timer expires. -/
def callAfterDrop : List WifiAction :=
  .connect (some (ascii ['a'])) none :: .take 0 :: List.replicate 8 (.run true) ++
    [.answered 0 true true, .run true, .run true, .save 0 .good, .dropped true,
      .connect (some (ascii ['b'])) none, .take 0, .run true, .run true, .run true, .run true,
      .run true, .expire true]

/-- The timer of a dropped connection expires during the next call. -/
theorem timerQuiet_fails :
    ¬ ∀ (codec : JsonCodec) (inited : Bool) (config : StaConfig) (creds : WifiCreds)
      (actions : List WifiAction),
      Run.Meets (step codec) Harmless (wifiManagerInit inited config creds) actions := by
  intro all
  have harmless := all flatJson true default .fresh callAfterDrop
  exact absurd harmless (by decide)

end Tab5
