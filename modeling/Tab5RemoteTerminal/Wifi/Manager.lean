/-
**The WiFi manager** (`main/wifi_manager.c`).

`WifiManager` is the state of the module after `wifi_manager_init`, of the driver as far as it is
seen, and of every call in it; `step` runs one action. The calls of `wifi_manager_connect` and
`wifi_manager_scan` come from any number of tasks and take `s_op_mutex` in any order; the call that
holds it runs statement by statement (`ConnectOp.run`), and what follows the release of the mutex
is a step of its own (`save`). The event handler and the callback of the timer are one step each.

The driver: `esp_wifi_connect` is accepted or not, as the action says, and an accepted attempt is
answered once, at any later time, by an event of the configuration it was made with (`answered`).
Other events answer no attempt: the drop of an association, or a new address (`dropped`, `renewed`).

`StepTo` lists the effects an action can have; `step_to` is the case analysis of every step lemma.

Ghost state: which association set `WIFI_CONNECTED_BIT`, whether there ever was an address, and the
calls that have returned true.
-/

import Tab5RemoteTerminal.Store.WifiCreds

namespace Tab5

/-! ### Configurations and calls -/

inductive AuthMode where
  | authOpen
  | authWpa2Psk
deriving DecidableEq, Repr

/-- The fields of `wifi_config_t` that are set. -/
structure StaConfig where
  ssid : CStr 32
  password : CStr 64
  authmode : AuthMode
deriving DecidableEq

theorem ssidRoom : 0 < 32 := by decide
theorem passwordRoom : 0 < 64 := by decide

instance : Inhabited StaConfig where
  default := ⟨.empty 32 ssidRoom, .empty 64 passwordRoom, .authOpen⟩

namespace StaConfig

def setSsid (config : StaConfig) (ssid : List UInt8) : StaConfig :=
  { config with ssid := .copy 32 ssidRoom ssid }

/-- A password of NULL is the empty one. -/
def setPassword (config : StaConfig) (password : List UInt8) : StaConfig :=
  if password = [] then { config with authmode := .authOpen }
  else { config with password := .copy 64 passwordRoom password, authmode := .authWpa2Psk }

end StaConfig

/-- The arguments of a call: strings of the caller, or those of the first saved network. -/
inductive ConnectArgs where
  | given (ssid : List UInt8) (password : Option (List UInt8))
  | saved
deriving DecidableEq, Repr

namespace ConnectArgs

def ssid : ConnectArgs → StrPtr
  | given ssid _ => .external ssid
  | saved => .slotSsid 0

def password : ConnectArgs → Option StrPtr
  | given _ password => password.map .external
  | saved => some (.slotPassword 0)

/-- The SSID the arguments point at. -/
def ssidIn (args : ConnectArgs) (creds : WifiCreds) : List UInt8 := creds.deref args.ssid

def passwordIn (args : ConnectArgs) (creds : WifiCreds) : List UInt8 :=
  creds.derefPassword args.password

end ConnectArgs

/-- What a call that holds the mutex does next. -/
inductive Phase where
  /-- `strncpy` of the SSID into `wifi_config` -/
  | copySsid
  /-- `strncpy` of the password -/
  | copyPassword
  /-- `xEventGroupClearBits` -/
  | clear
  /-- `s_retry_num = 0` -/
  | zero
  /-- `s_connecting = true` -/
  | flag
  /-- `esp_wifi_set_config` -/
  | configure
  /-- `esp_wifi_connect` -/
  | start
  /-- `xEventGroupWaitBits` -/
  | wait
  /-- inside it, until a bit is set or the time is over -/
  | blocked
  /-- `s_connecting = false`; with the association, if the call is to return true -/
  | unflag (acted : Option StaConfig)
  /-- `xSemaphoreGive` -/
  | give (acted : Option StaConfig)
deriving DecidableEq

/-- A `wifi_manager_connect` that holds the mutex. -/
structure ConnectOp where
  args : ConnectArgs
  wifiConfig : StaConfig
  phase : Phase
deriving DecidableEq

/-- A call that waits for the mutex. -/
inductive Waiting where
  | scan
  | connect (args : ConnectArgs)
deriving DecidableEq, Repr

inductive Holder where
  | scan
  | connect (op : ConnectOp)
deriving DecidableEq

/-- A call that has released the mutex, and is about to save and return true. -/
structure Connected where
  args : ConnectArgs
  wifiConfig : StaConfig
  acted : StaConfig
deriving DecidableEq

/-- A call that has returned true: what it configured, the association it acted on, and what it
passed to `wifi_creds_save`. -/
structure Success where
  wifiConfig : StaConfig
  acted : StaConfig
  saved : List UInt8 × List UInt8
deriving DecidableEq

/-! ### The state -/

structure WifiManager where
  sInited : Bool
  sRetryNum : Nat
  sConnecting : Bool
  sIsConnected : Bool
  /-- `s_reconnect_timer` is armed. -/
  sReconnectTimer : Bool
  /-- `WIFI_CONNECTED_BIT`, with the association of the event that set it. -/
  connectedBit : Option StaConfig
  failBit : Bool
  /-- The calls before `xSemaphoreTake`. -/
  waiting : List Waiting
  /-- Who has `s_op_mutex`. -/
  holder : Option Holder
  /-- The calls between `xSemaphoreGive` and `return true`. -/
  connected : List Connected
  /-- The configuration of the driver. -/
  config : StaConfig
  /-- The attempts that have not been answered. -/
  pending : List StaConfig
  creds : WifiCreds
  hadIp : Bool
  returned : List Success

inductive WifiAction where
  | connect (ssid : Option (List UInt8)) (password : Option (List UInt8))
  | connectSaved
  | scan
  /-- The mutex is given to a call that waits. -/
  | take (i : Nat)
  /-- The next statement of the call that holds it; what a driver function returns. -/
  | run (ok : Bool)
  /-- The time of `xEventGroupWaitBits` is over. -/
  | timeout
  /-- `wifi_creds_save` and `return true`. -/
  | save (i : Nat) (o : Outcomes)
  /-- The event that answers an attempt; whether another one is accepted. -/
  | answered (i : Nat) (gotIp : Bool) (accepted : Bool)
  | dropped (accepted : Bool)
  | renewed (association : StaConfig)
  /-- The timer expires. -/
  | expire (accepted : Bool)

namespace WifiManager

/-- After `wifi_manager_init`. -/
def wifiManagerInit (inited : Bool) (config : StaConfig) (creds : WifiCreds) : WifiManager where
  sInited := inited
  sRetryNum := 0
  sConnecting := false
  sIsConnected := false
  sReconnectTimer := false
  connectedBit := none
  failBit := false
  waiting := []
  holder := none
  connected := []
  config := config
  pending := []
  creds := creds
  hadIp := false
  returned := []

/-- The call of `wifi_manager_connect` that holds the mutex. -/
def op (s : WifiManager) : Option ConnectOp :=
  match s.holder with
  | some (.connect op) => some op
  | _ => none

theorem op_eq_some {s : WifiManager} {op : ConnectOp} :
    s.op = some op ↔ s.holder = some (.connect op) := by
  unfold WifiManager.op
  split
  · rename_i held
    simp [held]
  · rename_i other
    exact iff_of_false (by simp) (other op)

/-! ### The driver and the event group -/

def espWifiConnect (accepted : Bool) (s : WifiManager) : WifiManager :=
  if accepted then { s with pending := s.pending ++ [s.config] } else s

/-- The call that is blocked returns with the bits as they are. -/
def wake (s : WifiManager) : WifiManager :=
  match s.holder with
  | some (.connect op) =>
      if op.phase = .blocked then
        { s with holder := some (.connect { op with phase := .unflag s.connectedBit }) }
      else s
  | _ => s

/-- `xEventGroupSetBits` of `WIFI_CONNECTED_BIT`: of several events since it was cleared, the first
one sets it. -/
def setConnected (association : StaConfig) (s : WifiManager) : WifiManager :=
  wake { s with connectedBit := some (s.connectedBit.getD association) }

/-- `xEventGroupSetBits` of `WIFI_FAIL_BIT`. -/
def setFail (s : WifiManager) : WifiManager := wake { s with failBit := true }

/-! ### Events -/

/-- `event_handler`, of `WIFI_EVENT_STA_DISCONNECTED`. `MAX_RETRY` is 5. -/
def onDisconnected (accepted : Bool) (s : WifiManager) : WifiManager :=
  if s.sConnecting = true ∧ s.sRetryNum < 5 then
    espWifiConnect accepted { s with sIsConnected := false, sRetryNum := s.sRetryNum + 1 }
  else if s.sConnecting = true then setFail { s with sIsConnected := false }
  -- `esp_timer_stop`, then `esp_timer_start_once`
  else { s with sIsConnected := false, sReconnectTimer := true }

/-- `event_handler`, of `IP_EVENT_STA_GOT_IP`. -/
def onGotIp (association : StaConfig) (s : WifiManager) : WifiManager :=
  setConnected association { s with sRetryNum := 0, sIsConnected := true, hadIp := true }

/-- The driver answers an attempt. -/
def answer (i : Nat) (gotIp accepted : Bool) (s : WifiManager) : WifiManager :=
  match s.pending[i]? with
  | none => s
  | some association =>
      let s := { s with pending := s.pending.eraseIdx i }
      if gotIp then s.onGotIp association else s.onDisconnected accepted

/-- `reconnect_timer_cb`, when the timer is armed: it has one shot. -/
def reconnectTimerCb (accepted : Bool) (s : WifiManager) : WifiManager :=
  if s.sReconnectTimer then espWifiConnect accepted { s with sReconnectTimer := false } else s

/-! ### Calls -/

/-- `wifi_manager_connect` up to `xSemaphoreTake`. -/
def wifiManagerConnect (ssid : Option (List UInt8)) (password : Option (List UInt8))
    (s : WifiManager) : WifiManager :=
  match ssid with
  | none => s
  | some ssid =>
      if s.sInited = false ∨ CStr.strlen ssid = [] then s
      else { s with waiting := s.waiting ++ [.connect (.given ssid password)] }

/-- `wifi_manager_connect_saved`, up to the same place. -/
def wifiManagerConnectSaved (s : WifiManager) : WifiManager :=
  match s.creds.wifiCredsGet 0 with
  | none => s
  | some net =>
      if s.sInited = false ∨ net.ssid.bytes = [] then s
      else { s with waiting := s.waiting ++ [.connect .saved] }

/-- `wifi_manager_scan`, up to `xSemaphoreTake`. -/
def wifiManagerScan (s : WifiManager) : WifiManager :=
  if s.sInited then { s with waiting := s.waiting ++ [.scan] } else s

/-- `xSemaphoreTake` of a call returns, when the mutex is free. -/
def takeMutex (i : Nat) (s : WifiManager) : WifiManager :=
  match s.holder, s.waiting[i]? with
  | none, some .scan => { s with waiting := s.waiting.eraseIdx i, holder := some .scan }
  | none, some (.connect args) =>
      { s with
        waiting := s.waiting.eraseIdx i
        holder := some (.connect { args, wifiConfig := default, phase := .copySsid }) }
  | _, _ => s

/-- The call goes on. -/
def goOn (op : ConnectOp) (phase : Phase) (s : WifiManager) : WifiManager :=
  { s with holder := some (.connect { op with phase }) }

/-- One statement of `wifi_manager_connect` between `xSemaphoreTake` and `xSemaphoreGive`. -/
def runConnect (ok : Bool) (op : ConnectOp) (s : WifiManager) : WifiManager :=
  match op.phase with
  | .copySsid =>
      goOn { op with wifiConfig := op.wifiConfig.setSsid (op.args.ssidIn s.creds) } .copyPassword s
  | .copyPassword =>
      goOn { op with wifiConfig := op.wifiConfig.setPassword (op.args.passwordIn s.creds) } .clear s
  | .clear => goOn op .zero { s with connectedBit := none, failBit := false }
  | .zero => goOn op .flag { s with sRetryNum := 0 }
  | .flag => goOn op .configure { s with sConnecting := true }
  | .configure =>
      if ok then goOn op .start { s with config := op.wifiConfig } else goOn op (.unflag none) s
  | .start =>
      if ok then goOn op .wait (s.espWifiConnect true) else goOn op (.unflag none) s
  | .wait =>
      if s.connectedBit.isSome ∨ s.failBit then goOn op (.unflag s.connectedBit) s
      else goOn op .blocked s
  | .blocked => s
  | .unflag acted => goOn op (.give acted) { s with sConnecting := false }
  | .give acted =>
      match acted with
      -- `return false`
      | none => { s with holder := none }
      | some acted =>
          { s with
            holder := none
            connected := s.connected ++ [{ args := op.args, wifiConfig := op.wifiConfig, acted }] }

def runHolder (ok : Bool) (s : WifiManager) : WifiManager :=
  match s.holder with
  | none => s
  -- the scan is over
  | some .scan => { s with holder := none }
  | some (.connect op) => s.runConnect ok op

def timeOut (s : WifiManager) : WifiManager :=
  match s.holder with
  | some (.connect op) => if op.phase = .blocked then goOn op (.unflag none) s else s
  | _ => s

/-- The end of a `wifi_manager_connect` that returns true. -/
def saveAndReturn (codec : JsonCodec) (i : Nat) (o : Outcomes) (s : WifiManager) : WifiManager :=
  match s.connected[i]? with
  | none => s
  | some call =>
      { s with
        connected := s.connected.eraseIdx i
        creds := (s.creds.wifiCredsSave codec o call.args.ssid call.args.password).2
        returned := s.returned ++ [{
          wifiConfig := call.wifiConfig
          acted := call.acted
          saved := (call.args.ssidIn s.creds, call.args.passwordIn s.creds) }] }

def step (codec : JsonCodec) (s : WifiManager) : WifiAction → WifiManager
  | .connect ssid password => s.wifiManagerConnect ssid password
  | .connectSaved => s.wifiManagerConnectSaved
  | .scan => s.wifiManagerScan
  | .take i => s.takeMutex i
  | .run ok => s.runHolder ok
  | .timeout => s.timeOut
  | .save i o => s.saveAndReturn codec i o
  | .answered i gotIp accepted => s.answer i gotIp accepted
  | .dropped accepted => s.onDisconnected accepted
  | .renewed association => s.onGotIp association
  | .expire accepted => s.reconnectTimerCb accepted

/-- The actions that are calls from outside. -/
def Enters : WifiAction → Prop
  | .connect _ _ | .connectSaved | .scan => True
  | _ => False

/-! ### What a step does -/

/-- The effects of an action, with what is so when it has them. -/
inductive StepTo (codec : JsonCodec) (s : WifiManager) : WifiAction → WifiManager → Prop where
  /-- A call waits for the mutex, or returns at once. -/
  | enters (action : WifiAction) (outside : Enters action) (more : List Waiting) :
      StepTo codec s action { s with waiting := s.waiting ++ more }
  | notTaken (i : Nat) : StepTo codec s (.take i) s
  | takenToScan (i : Nat) (free : s.holder = none) (here : s.waiting[i]? = some .scan) :
      StepTo codec s (.take i)
        { s with waiting := s.waiting.eraseIdx i, holder := some .scan }
  | takenToConnect (i : Nat) (args : ConnectArgs) (free : s.holder = none)
      (here : s.waiting[i]? = some (.connect args)) :
      StepTo codec s (.take i)
        { s with
          waiting := s.waiting.eraseIdx i
          holder := some (.connect { args, wifiConfig := default, phase := .copySsid }) }
  | noHolder (ok : Bool) (free : s.holder = none) : StepTo codec s (.run ok) s
  | scanned (ok : Bool) (held : s.holder = some .scan) :
      StepTo codec s (.run ok) { s with holder := none }
  | ran (ok : Bool) (op : ConnectOp) (held : s.holder = some (.connect op)) :
      StepTo codec s (.run ok) (s.runConnect ok op)
  | notBlocked : StepTo codec s .timeout s
  | timedOut (op : ConnectOp) (held : s.holder = some (.connect op))
      (blocked : op.phase = .blocked) : StepTo codec s .timeout (s.goOn op (.unflag none))
  | notSaved (i : Nat) (o : Outcomes) : StepTo codec s (.save i o) s
  | saved (i : Nat) (o : Outcomes) (call : Connected) (here : s.connected[i]? = some call) :
      StepTo codec s (.save i o)
        { s with
          connected := s.connected.eraseIdx i
          creds := (s.creds.wifiCredsSave codec o call.args.ssid call.args.password).2
          returned := s.returned ++ [{
            wifiConfig := call.wifiConfig
            acted := call.acted
            saved := (call.args.ssidIn s.creds, call.args.passwordIn s.creds) }] }
  | notAnswered (i : Nat) (gotIp accepted : Bool) (gone : s.pending[i]? = none) :
      StepTo codec s (.answered i gotIp accepted) s
  | gotIp (i : Nat) (accepted : Bool) (association : StaConfig)
      (here : s.pending[i]? = some association) :
      StepTo codec s (.answered i true accepted)
        (onGotIp association { s with pending := s.pending.eraseIdx i })
  | refused (i : Nat) (accepted : Bool) (association : StaConfig)
      (here : s.pending[i]? = some association) :
      StepTo codec s (.answered i false accepted)
        (onDisconnected accepted { s with pending := s.pending.eraseIdx i })
  | dropped (accepted : Bool) : StepTo codec s (.dropped accepted) (s.onDisconnected accepted)
  | renewed (association : StaConfig) :
      StepTo codec s (.renewed association) (s.onGotIp association)
  | notArmed (accepted : Bool) : StepTo codec s (.expire accepted) s
  | expired (accepted : Bool) (armed : s.sReconnectTimer = true) :
      StepTo codec s (.expire accepted)
        (espWifiConnect accepted { s with sReconnectTimer := false })

/-- A call that enters waits for the mutex, or returns at once. -/
theorem step_enters (codec : JsonCodec) (s : WifiManager) {action : WifiAction}
    (enters : Enters action) :
    ∃ more, s.step codec action = { s with waiting := s.waiting ++ more } := by
  have atOnce : s = { s with waiting := s.waiting ++ [] } := by rw [List.append_nil]
  cases action with
  | connect ssid password =>
      simp only [step, wifiManagerConnect]
      split
      · exact ⟨[], atOnce⟩
      · split
        · exact ⟨[], atOnce⟩
        · exact ⟨_, rfl⟩
  | connectSaved =>
      simp only [step, wifiManagerConnectSaved]
      split
      · exact ⟨[], atOnce⟩
      · split
        · exact ⟨[], atOnce⟩
        · exact ⟨_, rfl⟩
  | scan =>
      simp only [step, wifiManagerScan]
      split
      · exact ⟨_, rfl⟩
      · exact ⟨[], atOnce⟩
  | _ => exact absurd enters id

/-- **Every action has one of the effects.** -/
theorem step_to (codec : JsonCodec) (s : WifiManager) (action : WifiAction) :
    StepTo codec s action (s.step codec action) := by
  by_cases outside : Enters action
  · obtain ⟨more, entered⟩ := step_enters codec s outside
    rw [entered]
    exact .enters action outside more
  cases action with
  | connect | connectSaved | scan => exact absurd trivial outside
  | take i =>
      simp only [step, takeMutex]
      split
      · exact .takenToScan i ‹_› ‹_›
      · exact .takenToConnect i _ ‹_› ‹_›
      · exact .notTaken i
  | run ok =>
      simp only [step, runHolder]
      split
      · exact .noHolder ok ‹_›
      · exact .scanned ok ‹_›
      · exact .ran ok _ ‹_›
  | timeout =>
      simp only [step, timeOut]
      split
      · split
        · exact .timedOut _ ‹_› ‹_›
        · exact .notBlocked
      · exact .notBlocked
  | save i o =>
      simp only [step, saveAndReturn]
      split
      · exact .notSaved i o
      · exact .saved i o _ ‹_›
  | answered i gotIp accepted =>
      simp only [step, answer]
      split
      · exact .notAnswered i gotIp accepted ‹_›
      · cases gotIp with
        | true => exact .gotIp i accepted _ ‹_›
        | false => exact .refused i accepted _ ‹_›
  | dropped accepted => exact .dropped accepted
  | renewed association => exact .renewed association
  | expire accepted =>
      simp only [step, reconnectTimerCb]
      split
      · exact .expired accepted ‹_›
      · exact .notArmed accepted

end WifiManager

end Tab5
