/-
**When a dropped connection comes back.**

Once there was an address, `NeverAbandoned` says that a station without one and without a call in
progress has its timer armed or an attempt to be answered. The event handler sees to it: it arms the
timer unless `s_connecting` is set, and that is only while a call holds the mutex (`Raised`). It is
lost in two places: the callback of the timer ignores whether its attempt is accepted, and nothing
looks at the connection when a call returns.

* `neverAbandoned_iff`: a run in which no retry is lost (`RetriesKept`) never abandons the connection;
  and one that does not, and no other, meets `Watched`, which is about these two places;
* `neverAbandoned_fails`: the timer expires during a scan.
-/

import Mathlib.Data.List.Perm.Basic
import Tab5RemoteTerminal.Library.JsonText
import Tab5RemoteTerminal.Library.Run
import Tab5RemoteTerminal.Wifi.Manager

namespace Tab5

namespace WifiManager

/-! ### The property and the condition -/

/-- The number of calls of `wifi_manager_connect` that have not returned. -/
def calls (s : WifiManager) : Nat :=
  s.waiting.countP (· ≠ .scan) + s.op.toList.length + s.connected.length

/-- The station is connected, or will try to be. -/
def Covered (s : WifiManager) : Prop :=
  s.sIsConnected = true ∨ s.sReconnectTimer = true ∨ s.pending ≠ []

instance : DecidablePred Covered := fun _ => inferInstanceAs (Decidable (_ ∨ _ ∨ _))

def NeverAbandoned (s : WifiManager) : Prop :=
  s.hadIp = true → s.calls = 0 → s.sIsConnected = false →
    s.sReconnectTimer = true ∨ s.pending ≠ []

instance : DecidablePred NeverAbandoned := fun _ =>
  inferInstanceAs (Decidable (_ = true → _ = 0 → _ = false → _ ∨ _))

/-- The last call in progress does not return, and the timer does not expire to no avail, when
nothing else is under way. -/
def Watched (s : WifiManager) : WifiAction → Prop
  | .run _ => ∀ op ∈ s.op, op.phase = .give none → s.calls = 1 → s.hadIp = true → s.Covered
  | .save i _ => ∀ _call ∈ s.connected[i]?, s.calls = 1 → s.hadIp = true → s.Covered
  | .expire false => s.sReconnectTimer = true → s.calls = 0 → s.hadIp = true →
      s.sIsConnected = true ∨ s.pending ≠ []
  | _ => True

/-- No retry is lost: an attempt of the timer is accepted, and so is a retry during a call, of which
there is one left, unless something else is under way. -/
def RetriesKept (s : WifiManager) : WifiAction → Prop
  | .answered i false accepted => ∀ _attempt ∈ s.pending[i]?, s.sConnecting = true →
      s.sReconnectTimer = true ∨ s.pending.eraseIdx i ≠ [] ∨ (s.sRetryNum < 5 ∧ accepted = true)
  | .dropped accepted => s.sConnecting = true →
      s.sReconnectTimer = true ∨ s.pending ≠ [] ∨ (s.sRetryNum < 5 ∧ accepted = true)
  | .expire false => s.sReconnectTimer = true → s.sIsConnected = true ∨ s.pending ≠ []
  | _ => True

/-! ### Who sets `s_connecting` -/

end WifiManager

/-- Between the two writes of `s_connecting`. -/
def Phase.Raised : Phase → Prop
  | .configure | .start | .wait | .blocked | .unflag _ => True
  | _ => False

namespace WifiManager

/-- `s_connecting` is only set while a call is between its two writes of it. -/
def Raised (s : WifiManager) : Prop :=
  s.sConnecting = true → ∃ op, s.holder = some (.connect op) ∧ op.phase.Raised

variable {s : WifiManager}

theorem raised_wake (raised : s.Raised) : s.wake.Raised := by
  unfold wake
  split
  · split
    · exact fun _ => ⟨_, rfl, trivial⟩
    · exact raised
  · exact raised

theorem raised_espWifiConnect (raised : s.Raised) (accepted : Bool) :
    (s.espWifiConnect accepted).Raised := by
  unfold espWifiConnect
  split
  · exact raised
  · exact raised

theorem raised_onGotIp (raised : s.Raised) (association : StaConfig) :
    (s.onGotIp association).Raised := by
  refine raised_wake ?_
  exact raised

theorem raised_onDisconnected (raised : s.Raised) (accepted : Bool) :
    (s.onDisconnected accepted).Raised := by
  unfold onDisconnected
  split
  · refine raised_espWifiConnect ?_ accepted
    exact raised
  · split
    · refine raised_wake ?_
      exact raised
    · exact raised

theorem raised_goOn (op : ConnectOp) {phase : Phase} (between : phase.Raised) :
    (s.goOn op phase).Raised :=
  fun _ => ⟨_, rfl, between⟩

/-- When the holder is not between the writes, `s_connecting` is not set. -/
theorem lowered (raised : s.Raised) {op : ConnectOp} (held : s.holder = some (.connect op))
    (outside : ¬ op.phase.Raised) : s.sConnecting = false := by
  cases flag : s.sConnecting with
  | false => rfl
  | true =>
      obtain ⟨other, held', between⟩ := raised flag
      cases held.symm.trans held'
      exact absurd between outside

theorem raised_runConnect (raised : s.Raised) {op : ConnectOp}
    (held : s.holder = some (.connect op)) (ok : Bool) : (s.runConnect ok op).Raised := by
  have outside := lowered raised held
  unfold runConnect
  cases phase : op.phase <;> rw [phase] at outside <;> dsimp only
  case copySsid | copyPassword | clear | zero =>
    exact fun set => absurd (set.symm.trans (outside id)) (by decide)
  case flag => exact raised_goOn op trivial
  case configure | start =>
    split
    · exact raised_goOn op trivial
    · exact raised_goOn op trivial
  case wait =>
    split
    · exact raised_goOn op trivial
    · exact raised_goOn op trivial
  case blocked => exact raised
  case unflag => exact fun set => nomatch set
  case give acted =>
    cases acted with
    | none => exact fun set => absurd (set.symm.trans (outside id)) (by decide)
    | some acted => exact fun set => absurd (set.symm.trans (outside id)) (by decide)

theorem raised_step (codec : JsonCodec) (action : WifiAction) (raised : s.Raised) :
    (s.step codec action).Raised := by
  have effect := step_to codec s action
  generalize s.step codec action = after at effect ⊢
  cases effect with
  | takenToScan i free | takenToConnect i args free =>
      intro set
      obtain ⟨op, held, _⟩ := raised set
      cases free.symm.trans held
  | scanned ok scanning =>
      intro set
      obtain ⟨op, held, _⟩ := raised set
      cases scanning.symm.trans held
  | ran ok op held => exact raised_runConnect raised held ok
  | timedOut op => exact raised_goOn op trivial
  | gotIp i accepted association =>
      refine raised_onGotIp ?_ association
      exact raised
  | refused i accepted =>
      refine raised_onDisconnected ?_ accepted
      exact raised
  | dropped accepted => exact raised_onDisconnected raised accepted
  | renewed association => exact raised_onGotIp raised association
  | expired accepted =>
      refine raised_espWifiConnect ?_ accepted
      exact raised
  | _ => exact raised

/-! ### Calls in progress -/

theorem calls_pos {op : ConnectOp} (held : s.holder = some (.connect op)) : 0 < s.calls := by
  have here : s.op = some op := op_eq_some.mpr held
  simp only [calls, here, Option.toList_some, List.length_singleton]
  omega

theorem calls_goOn_pos (op : ConnectOp) (phase : Phase) : 0 < (s.goOn op phase).calls :=
  calls_pos rfl

/-- A call that is about to save is in progress. -/
theorem calls_pos_connected (some : s.connected ≠ []) : 0 < s.calls := by
  have length := List.length_pos_of_ne_nil some
  unfold calls
  omega

theorem calls_wake (s : WifiManager) : s.wake.calls = s.calls := by
  unfold wake
  split
  · rename_i op held
    have here : s.op = some op := op_eq_some.mpr held
    split
    · simp only [calls, here]
      rfl
    · rfl
  · rfl

theorem calls_espWifiConnect (accepted : Bool) (s : WifiManager) :
    (s.espWifiConnect accepted).calls = s.calls := by
  unfold espWifiConnect
  split
  · rfl
  · rfl

theorem calls_enter (s : WifiManager) (more : List Waiting) :
    calls { s with waiting := s.waiting ++ more } = s.calls + more.countP (· ≠ .scan) := by
  have same : WifiManager.op { s with waiting := s.waiting ++ more } = s.op := rfl
  simp only [calls, same, List.countP_append]
  omega

/-- A call that returns is one less. -/
theorem calls_release {op : ConnectOp} (held : s.holder = some (.connect op)) :
    calls { s with holder := none } + 1 = s.calls := by
  have here : s.op = some op := op_eq_some.mpr held
  have gone : WifiManager.op { s with holder := none } = none := rfl
  simp only [calls, here, gone, Option.toList_some, Option.toList_none, List.length_singleton,
    List.length_nil]
  omega

theorem calls_save {call : Connected} {i : Nat} (here : s.connected[i]? = some call)
    (creds : WifiCreds) (returned : List Success) :
    calls { s with connected := s.connected.eraseIdx i, creds, returned } + 1 = s.calls := by
  obtain ⟨inside, _⟩ := List.getElem?_eq_some_iff.mp here
  have shorter := List.length_eraseIdx_of_lt inside
  have same : WifiManager.op { s with connected := s.connected.eraseIdx i, creds, returned } =
      s.op := rfl
  simp only [calls, same]
  omega

/-! ### One step -/

theorem neverAbandoned_of_busy (busy : 0 < s.calls) : s.NeverAbandoned :=
  fun _ idle => absurd idle (Nat.ne_of_gt busy)

theorem neverAbandoned_of_covered (covered : s.Covered) : s.NeverAbandoned := by
  intro _ _ off
  rcases covered with on | rest
  · exact absurd (off.symm.trans on) (by simp)
  · exact rest

/-- Whatever it was, a drop outside a call arms the timer. -/
theorem neverAbandoned_onDisconnected (raised : s.Raised) (accepted : Bool) :
    (s.onDisconnected accepted).NeverAbandoned := by
  have busy : s.sConnecting = true → 0 < s.calls := by
    intro set
    obtain ⟨op, held, _⟩ := raised set
    exact calls_pos held
  unfold onDisconnected
  split
  · rename_i retry
    refine neverAbandoned_of_busy ?_
    rw [calls_espWifiConnect]
    exact busy retry.1
  · split
    · rename_i set
      refine neverAbandoned_of_busy ?_
      rw [setFail, calls_wake]
      exact busy set
    · exact neverAbandoned_of_covered (.inr (.inl rfl))

theorem sIsConnected_onGotIp (s : WifiManager) (association : StaConfig) :
    (s.onGotIp association).sIsConnected = true := by
  unfold onGotIp setConnected wake
  split
  · split
    · rfl
    · rfl
  · rfl

theorem neverAbandoned_onGotIp (s : WifiManager) (association : StaConfig) :
    (s.onGotIp association).NeverAbandoned :=
  neverAbandoned_of_covered (.inl (s.sIsConnected_onGotIp association))

theorem neverAbandoned_espWifiConnect (s : WifiManager) :
    (s.espWifiConnect true).NeverAbandoned :=
  neverAbandoned_of_covered (.inr (.inr (by simp [espWifiConnect])))

/-- A scan that takes the mutex was no call. -/
theorem calls_takenToScan {i : Nat} (free : s.holder = none) (here : s.waiting[i]? = some .scan) :
    calls { s with waiting := s.waiting.eraseIdx i, holder := some .scan } = s.calls := by
  have noOp : s.op = none := by rw [WifiManager.op, free]
  obtain ⟨inside, isScan⟩ := List.getElem?_eq_some_iff.mp here
  have others : (s.waiting.eraseIdx i).countP (· ≠ .scan) = s.waiting.countP (· ≠ .scan) := by
    have all := (List.getElem_cons_eraseIdx_perm inside).countP_eq (· ≠ .scan)
    rwa [isScan, List.countP_cons_of_neg (by simp)] at all
  simp only [calls, noOp, others]
  rfl

theorem neverAbandoned_runConnect {op : ConnectOp} (held : s.holder = some (.connect op))
    (returns : op.phase = .give none → s.calls = 1 → s.hadIp = true → s.Covered) (ok : Bool) :
    (s.runConnect ok op).NeverAbandoned := by
  unfold runConnect
  cases phase : op.phase <;> dsimp only
  case give acted =>
    cases acted with
    | none =>
        intro had idle off
        have last := calls_release held
        exact neverAbandoned_of_covered (s := { s with holder := none })
          (returns phase (by rw [← last, idle]) had) had idle off
    | some acted =>
        exact neverAbandoned_of_busy (calls_pos_connected (List.append_ne_nil_of_right_ne_nil _
          (List.cons_ne_nil _ _)))
  case configure | start | wait =>
    split
    · exact neverAbandoned_of_busy (calls_goOn_pos op _)
    · exact neverAbandoned_of_busy (calls_goOn_pos op _)
  case blocked => exact neverAbandoned_of_busy (calls_pos held)
  all_goals exact neverAbandoned_of_busy (calls_goOn_pos _ _)

theorem neverAbandoned_step (codec : JsonCodec) (action : WifiAction) (raised : s.Raised)
    (good : s.NeverAbandoned) (cond : s.Watched action) :
    (s.step codec action).NeverAbandoned := by
  have effect := step_to codec s action
  generalize s.step codec action = after at effect ⊢
  cases effect with
  | enters action outside more =>
      intro had idle off
      rw [calls_enter] at idle
      exact good had (Nat.eq_zero_of_add_eq_zero_right idle) off
  | takenToScan i free here =>
      intro had idle off
      rw [calls_takenToScan free here] at idle
      exact good had idle off
  | takenToConnect => exact neverAbandoned_of_busy (calls_pos rfl)
  | scanned ok held =>
      intro had idle off
      have noOp : s.op = none := by rw [WifiManager.op, held]
      refine good had ?_ off
      simp only [calls, noOp]
      exact idle
  | ran ok op held => exact neverAbandoned_runConnect held (cond op (op_eq_some.mpr held)) ok
  | timedOut op => exact neverAbandoned_of_busy (calls_goOn_pos op _)
  | saved i o call here =>
      intro had idle off
      have last := calls_save here
      have covered := cond call here (by rw [← last, idle]) had
      exact neverAbandoned_of_covered covered had idle off
  | gotIp => exact neverAbandoned_onGotIp _ _
  | refused i accepted =>
      refine neverAbandoned_onDisconnected ?_ accepted
      exact raised
  | dropped accepted => exact neverAbandoned_onDisconnected raised accepted
  | renewed association => exact neverAbandoned_onGotIp s association
  | expired accepted armed =>
      cases accepted with
      | true => exact neverAbandoned_espWifiConnect _
      | false =>
          intro had idle off
          rcases cond armed idle had with on | pending
          · exact absurd (off.symm.trans on) (by simp)
          · exact .inr pending
  | _ => exact good

theorem covered_of_neverAbandoned (good : s.NeverAbandoned) (had : s.hadIp = true)
    (idle : s.calls = 0) : s.Covered := by
  cases on : s.sIsConnected with
  | true => exact .inl on
  | false => exact .inr (good had idle on)

/-- Of a step after which the connection is not abandoned. -/
theorem watched_of_neverAbandoned (codec : JsonCodec) (action : WifiAction)
    (after : (s.step codec action).NeverAbandoned) : s.Watched action := by
  cases action with
  | run ok =>
      intro op here ends last had
      have held := op_eq_some.mp here
      have less := calls_release held
      have returned : s.step codec (.run ok) = { s with holder := none } := by
        simp only [step, runHolder, held, runConnect, ends]
      rw [returned] at after
      have covered := covered_of_neverAbandoned after had (Nat.succ.inj (less.trans last))
      exact covered
  | save i o =>
      intro call here last had
      have less := calls_save here
      simp only [step, saveAndReturn, show s.connected[i]? = some call from here] at after
      have covered := covered_of_neverAbandoned after had (Nat.succ.inj ((less _ _).trans last))
      exact covered
  | expire accepted =>
      cases accepted with
      | true => trivial
      | false =>
          intro armed idle had
          simp only [step, reconnectTimerCb, armed, if_true, espWifiConnect] at after
          rcases covered_of_neverAbandoned after had idle with on | set | pending
          · exact .inl on
          · cases set
          · exact .inr pending
  | answered i gotIp accepted =>
      cases gotIp with
      | true => trivial
      | false => trivial
  | _ => trivial

/-! ### Retries -/

/-- Once there was an address, the station is connected or will try to be, even during calls. -/
def Retrying (s : WifiManager) : Prop := s.hadIp = true → s.Covered

theorem neverAbandoned_of_retrying (retrying : s.Retrying) : s.NeverAbandoned :=
  fun had => neverAbandoned_of_covered (retrying had) had

theorem covered_wake (covered : s.Covered) : s.wake.Covered := by
  unfold wake
  split
  · split
    · exact covered
    · exact covered
  · exact covered

theorem covered_espWifiConnect (covered : s.Covered) (accepted : Bool) :
    (s.espWifiConnect accepted).Covered := by
  unfold espWifiConnect
  split
  · exact .inr (.inr (by simp))
  · exact covered

/-- A drop is retried, unless its retry is lost. -/
theorem covered_onDisconnected {accepted : Bool}
    (kept : s.sConnecting = true →
      s.sReconnectTimer = true ∨ s.pending ≠ [] ∨ (s.sRetryNum < 5 ∧ accepted = true)) :
    (s.onDisconnected accepted).Covered := by
  unfold onDisconnected
  split
  · rename_i retry
    rcases kept retry.1 with armed | pending | ⟨_, rfl⟩
    · refine covered_espWifiConnect ?_ accepted
      exact .inr (.inl armed)
    · refine covered_espWifiConnect ?_ accepted
      exact .inr (.inr pending)
    · exact .inr (.inr (by simp [espWifiConnect]))
  · rename_i noRetry
    split
    · rename_i set
      refine covered_wake ?_
      rcases kept set with armed | pending | ⟨left, _⟩
      · exact .inr (.inl armed)
      · exact .inr (.inr pending)
      · exact absurd ⟨set, left⟩ noRetry
    · exact .inr (.inl rfl)

theorem retrying_of {s' : WifiManager} (retrying : s.Retrying) (had : s'.hadIp = s.hadIp)
    (covered : s.Covered → s'.Covered) : s'.Retrying :=
  fun had' => covered (retrying (had.symm.trans had'))

/-- A call gives up nothing. -/
theorem retrying_runConnect (retrying : s.Retrying) (ok : Bool) (op : ConnectOp) :
    (s.runConnect ok op).Retrying := by
  unfold runConnect
  cases op.phase <;> dsimp only
  case give acted =>
    cases acted with
    | none => exact retrying
    | some acted => exact retrying
  case configure | wait =>
    split
    · exact retrying
    · exact retrying
  case start =>
    split
    · exact retrying_of retrying rfl fun covered => covered_espWifiConnect covered true
    · exact retrying
  all_goals exact retrying

theorem retrying_step (codec : JsonCodec) (action : WifiAction) (retrying : s.Retrying)
    (kept : s.RetriesKept action) : (s.step codec action).Retrying := by
  have effect := step_to codec s action
  generalize s.step codec action = after at effect ⊢
  cases effect with
  | ran ok op => exact retrying_runConnect retrying ok op
  | gotIp => exact fun _ => .inl (sIsConnected_onGotIp _ _)
  | refused i accepted attempt here => exact fun _ => covered_onDisconnected (kept attempt here)
  | dropped accepted => exact fun _ => covered_onDisconnected kept
  | renewed association => exact fun _ => .inl (sIsConnected_onGotIp s association)
  | expired accepted armed =>
      cases accepted with
      | true => exact fun _ => .inr (.inr (by simp [espWifiConnect]))
      | false =>
          intro _
          rcases kept armed with on | pending
          · exact .inl on
          · exact .inr (.inr pending)
  | _ => exact retrying

end WifiManager

open WifiManager

/-- **When a dropped connection is never abandoned.** In every run in which no retry is lost: the
attempts of the timer are accepted, and so is a retry left for every drop during a call. And in every
run exactly if, whenever the last call in progress returns, the station is connected, its timer armed
or an attempt to be answered, and whenever the timer expires and there is none of these and no call,
its attempt is accepted. -/
theorem neverAbandoned_iff (codec : JsonCodec) (inited : Bool) (config : StaConfig)
    (creds : WifiCreds) (actions : List WifiAction) :
    (Run.Meets (step codec) RetriesKept (wifiManagerInit inited config creds) actions →
      Run.Always (step codec) NeverAbandoned (wifiManagerInit inited config creds) actions) ∧
    (Run.Always (step codec) NeverAbandoned (wifiManagerInit inited config creds) actions ↔
      Run.Meets (step codec) Watched (wifiManagerInit inited config creds) actions) := by
  have raised : (wifiManagerInit inited config creds).Raised := fun set => nomatch set
  have good : (wifiManagerInit inited config creds).NeverAbandoned := fun had => nomatch had
  have retrying : (wifiManagerInit inited config creds).Retrying := fun had => nomatch had
  refine ⟨fun kept => ?_, ?_, fun watched => ?_⟩
  · exact (Run.always_of_meets (fun _ action inv cond => retrying_step codec action inv cond)
      retrying kept).mono fun _ inv => neverAbandoned_of_retrying inv
  · exact Run.meets_of_always fun _ action _ after => watched_of_neverAbandoned codec action after
  · have both : Run.Always (step codec) (fun s => s.Raised ∧ s.NeverAbandoned)
        (wifiManagerInit inited config creds) actions :=
      Run.always_of_meets (fun _ action inv cond => ⟨raised_step codec action inv.1,
        neverAbandoned_step codec action inv.1 inv.2 cond⟩) ⟨raised, good⟩ watched
    exact both.mono fun _ inv => inv.2

/-- The association is dropped, and the timer expires during a scan. -/
theorem neverAbandoned_fails :
    ¬ ∀ (codec : JsonCodec) (inited : Bool) (config : StaConfig) (creds : WifiCreds)
      (actions : List WifiAction),
      Run.Always (step codec) NeverAbandoned (wifiManagerInit inited config creds) actions := by
  intro all
  have last := (all flatJson true default .fresh
    [.connect (some (ascii ['a'])) none, .take 0, .run true, .run true, .run true, .run true,
      .run true, .run true, .run true, .answered 0 true true, .run true, .run true, .run true,
      .save 0 .good, .dropped true, .scan, .take 0, .expire false]).last
  exact absurd last (by decide)

end Tab5
