/-
**What reaches the driver of an SSID and a password.**

`start_connect` keeps up to 32 and 64 bytes of them, and so does `wifi_creds_save`; the arrays of
`wifi_sta_config_t` have room for as many, but `wifi_manager_connect` leaves their last byte zero.
`intact_iff`: in every run, a call started from the screen configures the driver with exactly the
SSID and the password, and saves them, exactly if they have at most 31 and 63 bytes; what it saves
is right in any case (`pair_save_given`).
-/

import Tab5RemoteTerminal.Wifi.Screen
import Tab5RemoteTerminal.Wifi.Success

namespace Tab5

/-- What `connect_task` passes to `wifi_manager_connect`. -/
def ConnectTaskArgs.call (args : ConnectTaskArgs) : ConnectArgs :=
  .given args.ssid.bytes (some args.password.bytes)

/-- The strings of a call are those it was given. -/
theorem connectArgs_call {ssid password : List UInt8} (ssidNoNul : 0 ∉ ssid)
    (ssidFits : ssid.length ≤ 32) (passwordNoNul : 0 ∉ password)
    (passwordFits : password.length ≤ 64) :
    (WifiUi.connectArgs ssid password).call = .given ssid (some password) := by
  have first : (CStr.copy 33 apSsidRoom ssid).bytes = ssid :=
    (CStr.copy_eq_iff ssidNoNul).mpr (by omega)
  have second : (CStr.copy 65 apPasswordRoom password).bytes = password :=
    (CStr.copy_eq_iff passwordNoNul).mpr (by omega)
  rw [ConnectTaskArgs.call, WifiUi.connectArgs, first, second]

/-! ### What happens to a call -/

/-- What a step makes of the call that holds the mutex. -/
inductive OpStep (creds : WifiCreds) : Option ConnectOp → ConnectOp → Prop where
  | stays (op : ConnectOp) : OpStep creds (some op) op
  | takes (before : Option ConnectOp) (args : ConnectArgs) :
      OpStep creds before { args, wifiConfig := default, phase := .copySsid }
  | copiesSsid (op : ConnectOp) (here : op.phase = .copySsid) :
      OpStep creds (some op) { op with
        wifiConfig := op.wifiConfig.setSsid (op.args.ssidIn creds)
        phase := .copyPassword }
  | copiesPassword (op : ConnectOp) (here : op.phase = .copyPassword) :
      OpStep creds (some op) { op with
        wifiConfig := op.wifiConfig.setPassword (op.args.passwordIn creds)
        phase := .clear }
  | goesOn (op : ConnectOp) (phase : Phase) (complete : op.phase.Complete)
      (after : phase.Complete) : OpStep creds (some op) { op with phase }

namespace WifiManager

/-- The call that holds the mutex after a step comes from the one before it. -/
def Moves (s after : WifiManager) : Prop := ∀ op ∈ after.op, OpStep s.creds s.op op

variable {s : WifiManager}

theorem moves_of_op {after : WifiManager} (same : after.op = s.op) : Moves s after := by
  intro op mine
  rw [← same, mine]
  exact .stays op

theorem moves_goOn {after : WifiManager} {op : ConnectOp} {phase : Phase} (mine : s.op = some op)
    (complete : op.phase.Complete) (next : phase.Complete) : Moves s (after.goOn op phase) := by
  intro _ same
  cases same
  rw [mine]
  exact .goesOn op phase complete next

theorem moves_released {after : WifiManager} (released : after.op = none) : Moves s after := by
  intro op mine
  cases released.symm.trans mine

theorem moves_wake (s : WifiManager) : Moves s s.wake := by
  unfold wake
  split
  · rename_i op held
    split
    · rename_i blocked
      exact moves_goOn (op_eq_some.mpr held) (by rw [blocked]; trivial) trivial
    · exact moves_of_op rfl
  · exact moves_of_op rfl

theorem op_espWifiConnect (accepted : Bool) (s : WifiManager) :
    (s.espWifiConnect accepted).op = s.op := by
  unfold espWifiConnect
  split
  · rfl
  · rfl

theorem moves_onDisconnected (accepted : Bool) (s : WifiManager) :
    Moves s (s.onDisconnected accepted) := by
  unfold onDisconnected
  split
  · exact moves_of_op (op_espWifiConnect accepted _)
  split
  · exact moves_wake { s with sIsConnected := false, failBit := true }
  · exact moves_of_op rfl

theorem moves_onGotIp (association : StaConfig) (s : WifiManager) :
    Moves s (s.onGotIp association) :=
  moves_wake { s with
    sRetryNum := 0
    sIsConnected := true
    hadIp := true
    connectedBit := some (s.connectedBit.getD association) }

theorem moves_runConnect {op : ConnectOp} (mine : s.op = some op) (ok : Bool) :
    Moves s (s.runConnect ok op) := by
  unfold runConnect
  cases phase : op.phase <;> dsimp only
  case copySsid =>
    intro _ same
    cases same
    rw [mine]
    exact .copiesSsid op phase
  case copyPassword =>
    intro _ same
    cases same
    rw [mine]
    exact .copiesPassword op phase
  case clear | zero | flag | unflag =>
    exact moves_goOn mine (by rw [phase]; trivial) trivial
  case configure | start | wait =>
    split
    · exact moves_goOn mine (by rw [phase]; trivial) trivial
    · exact moves_goOn mine (by rw [phase]; trivial) trivial
  case blocked => exact moves_of_op rfl
  case give acted =>
    split
    · exact moves_released rfl
    · exact moves_released rfl

/-- **What a step makes of the call that holds the mutex.** -/
theorem step_moves (codec : JsonCodec) (s : WifiManager) (action : WifiAction) :
    Moves s (s.step codec action) := by
  have effect := step_to codec s action
  generalize s.step codec action = after at effect ⊢
  cases effect with
  | takenToScan | scanned => exact moves_released rfl
  | takenToConnect i args =>
      intro op mine
      cases mine
      exact .takes s.op args
  | ran ok op held => exact moves_runConnect (op_eq_some.mpr held) ok
  | timedOut op held blocked =>
      exact moves_goOn (op_eq_some.mpr held) (by rw [blocked]; trivial) trivial
  | gotIp i accepted association =>
      exact moves_onGotIp association { s with pending := s.pending.eraseIdx i }
  | refused i accepted =>
      exact moves_onDisconnected accepted { s with pending := s.pending.eraseIdx i }
  | dropped accepted => exact moves_onDisconnected accepted s
  | renewed association => exact moves_onGotIp association s
  | expired accepted => exact moves_of_op (op_espWifiConnect accepted _)
  | _ => exact moves_of_op rfl

end WifiManager

/-! ### What a call configures -/

/-- `strncpy` of an empty password would leave the zeros that are there too. -/
theorem setPassword_copy {config : StaConfig} (blank : config.password = .empty 64 passwordRoom)
    (password : List UInt8) :
    (config.setPassword password).password = .copy 64 passwordRoom password := by
  unfold StaConfig.setPassword
  split
  · rename_i empty
    rw [empty]
    exact blank
  · rfl

/-- What a call with these arguments has copied so far. -/
structure ConnectOp.Filled (ssid password : List UInt8) (op : ConnectOp) : Prop where
  ssid : op.phase.Copied → op.wifiConfig.ssid = .copy 32 ssidRoom ssid
  password : op.phase.Complete → op.wifiConfig.password = .copy 64 passwordRoom password
  blank : ¬ op.phase.Complete → op.wifiConfig.password = .empty 64 passwordRoom

open WifiManager

section

variable {ssid password : List UInt8}

/-- **One step** keeps it. -/
theorem OpStep.filled {creds : WifiCreds} {before : Option ConnectOp} {op : ConnectOp}
    (moves : OpStep creds before op) (ssidNoNul : 0 ∉ ssid) (passwordNoNul : 0 ∉ password)
    (filled : ∀ op ∈ before, op.args = .given ssid (some password) → op.Filled ssid password)
    (given : op.args = .given ssid (some password)) : op.Filled ssid password := by
  cases moves with
  | stays => exact filled op rfl given
  | takes args =>
      exact ⟨fun copied => absurd copied id, fun complete => absurd complete id, fun _ => rfl⟩
  | copiesSsid op here =>
      have source : op.args.ssidIn creds = ssid := by
        rw [given]
        exact CStr.strlen_of_noNul ssidNoNul
      refine ⟨fun _ => ?_, fun complete => absurd complete id, fun _ => ?_⟩
      · exact congrArg (CStr.copy 32 ssidRoom) source
      · exact (filled op rfl given).blank (by rw [here]; exact id)
  | copiesPassword op here =>
      have source : op.args.passwordIn creds = password := by
        rw [given]
        exact CStr.strlen_of_noNul passwordNoNul
      refine ⟨fun _ => ?_, fun _ => ?_, fun part => absurd trivial part⟩
      · exact (setPassword_ssid _ _).trans ((filled op rfl given).ssid (by rw [here]; trivial))
      · rw [source]
        exact setPassword_copy ((filled op rfl given).blank (by rw [here]; exact id)) password
  | goesOn op phase complete after =>
      have copied : op.phase.Copied := by
        cases phase : op.phase <;> rw [phase] at complete
        case copySsid => exact absurd complete id
        all_goals trivial
      have before := filled op rfl given
      exact ⟨fun _ => before.ssid copied, fun _ => before.password complete,
        fun part => absurd after part⟩

/-- **In every run** a call has copied its arguments. -/
theorem always_filled (ssidNoNul : 0 ∉ ssid) (passwordNoNul : 0 ∉ password) (codec : JsonCodec)
    (inited : Bool) (config : StaConfig) (creds : WifiCreds) (actions : List WifiAction) :
    Run.Always (step codec)
      (fun s => ∀ op ∈ s.op, op.args = .given ssid (some password) → op.Filled ssid password)
      (wifiManagerInit inited config creds) actions := by
  refine Run.always_of_step (fun s action filled op mine => ?_) ?_ actions
  · exact (step_moves codec s action op mine).filled ssidNoNul passwordNoNul filled
  · intro op mine
    cases mine

/-- **What a call saves** is what it was given, whatever else is saved. -/
theorem pair_save_given (codec : JsonCodec) (o : Outcomes) (creds : WifiCreds)
    (ssidOk : 0 ∉ ssid ∧ ssid.length ≤ 32) (passwordOk : 0 ∉ password ∧ password.length ≤ 64) :
    WifiCreds.pair ((creds.wifiCredsSave codec o (.external ssid)
      (some (.external password))).2.sNetworks.load 0) = (ssid, password) := by
  have ssidAt : creds.deref (.external ssid) = ssid := CStr.strlen_of_noNul ssidOk.1
  have passwordAt : creds.derefPassword (some (.external password)) = password :=
    CStr.strlen_of_noNul passwordOk.1
  have fits := @WifiCreds.pair_entry creds (.external ssid) (some (.external password))
    (by rw [ssidAt]; exact ssidOk.2) (by rw [passwordAt]; exact passwordOk.2)
  rw [WifiCreds.load_save, fits, ssidAt, passwordAt]

end

/-! ### The chain -/

/-- A call with the arguments of a connect task configures the SSID and the password, and saves
them in the first slot. -/
structure Intact (codec : JsonCodec) (ssid password : List UInt8) (s : WifiManager) : Prop where
  configured : ∀ op ∈ s.op, op.args = (WifiUi.connectArgs ssid password).call →
    op.phase = .configure →
      op.wifiConfig.ssid.array = CStr.zeroPadded 32 ssid ∧
        op.wifiConfig.password.array = CStr.zeroPadded 64 password
  saved : ∀ (i : Nat) (o : Outcomes), ∀ call ∈ s.connected[i]?,
    call.args = (WifiUi.connectArgs ssid password).call →
      WifiCreds.pair ((s.saveAndReturn codec i o).creds.sNetworks.load 0) = (ssid, password)

/-- A configuration that was filled holds its strings exactly if they fit with a terminator. -/
theorem filled_arrays_iff {ssid password : List UInt8} {op : ConnectOp} (ssidNoNul : 0 ∉ ssid)
    (passwordNoNul : 0 ∉ password) (filled : op.Filled ssid password)
    (complete : op.phase = .configure) :
    (op.wifiConfig.ssid.array = CStr.zeroPadded 32 ssid ∧
        op.wifiConfig.password.array = CStr.zeroPadded 64 password) ↔
      ssid.length ≤ 31 ∧ password.length ≤ 63 := by
  rw [CStr.array_eq_iff _ ssidNoNul, CStr.array_eq_iff _ passwordNoNul,
    filled.ssid (by rw [complete]; trivial), filled.password (by rw [complete]; trivial),
    CStr.copy_eq_iff ssidNoNul, CStr.copy_eq_iff passwordNoNul, Nat.lt_succ_iff, Nat.lt_succ_iff]

/-- A call with these arguments, up to `esp_wifi_set_config`. -/
def toConfigure (ssid password : List UInt8) : List WifiAction :=
  .connect (some ssid) (some password) :: .take 0 :: List.replicate 5 (.run true)

theorem reaches_configure (codec : JsonCodec) {ssid : List UInt8} (password : List UInt8)
    (named : CStr.strlen ssid ≠ []) :
    ∃ op, (Run.after (step codec) (wifiManagerInit true default .fresh)
        (toConfigure ssid password)).op = some op ∧
      op.args = .given ssid (some password) ∧ op.phase = .configure := by
  have entered : (wifiManagerInit true default .fresh).step codec
      (.connect (some ssid) (some password)) =
        { wifiManagerInit true default .fresh with
          waiting := [.connect (.given ssid (some password))] } := by
    rw [step, wifiManagerConnect]
    exact if_neg (by simp [wifiManagerInit, named])
  rw [toConfigure, Run.after_cons, entered]
  exact ⟨_, rfl, rfl, rfl⟩

/-- The strings that this call configures intact fit. -/
theorem fits_of_intact {codec : JsonCodec} {ssid password : List UInt8}
    (ssidOk : 0 ∉ ssid ∧ 1 ≤ ssid.length ∧ ssid.length ≤ 32)
    (passwordOk : 0 ∉ password ∧ password.length ≤ 64)
    (intact : Intact codec ssid password (Run.after (step codec)
      (wifiManagerInit true default .fresh) (toConfigure ssid password))) :
    ssid.length ≤ 31 ∧ password.length ≤ 63 := by
  obtain ⟨ssidNoNul, ssidSome, ssidFits⟩ := ssidOk
  obtain ⟨passwordNoNul, passwordFits⟩ := passwordOk
  have call := connectArgs_call ssidNoNul ssidFits passwordNoNul passwordFits
  have named : CStr.strlen ssid ≠ [] := by
    rw [CStr.strlen_of_noNul ssidNoNul]
    exact List.ne_nil_of_length_pos ssidSome
  obtain ⟨op, mine, given, here⟩ := reaches_configure codec password named
  have filled := (always_filled ssidNoNul passwordNoNul codec true default .fresh
    (toConfigure ssid password)).last
  exact (filled_arrays_iff ssidNoNul passwordNoNul (filled op mine given) here).mp
    (intact.configured op mine (given.trans call.symm) here)

/-- **SSID and password reach the driver intact**, in every run, exactly if `wifi_manager_connect`
has room for them and a terminator. -/
theorem intact_iff (codec : JsonCodec) (ssid password : List UInt8)
    (ssidOk : 0 ∉ ssid ∧ 1 ≤ ssid.length ∧ ssid.length ≤ 32)
    (passwordOk : 0 ∉ password ∧ password.length ≤ 64) :
    (∀ (inited : Bool) (config : StaConfig) (creds : WifiCreds) (actions : List WifiAction),
      Run.Always (step codec) (Intact codec ssid password) (wifiManagerInit inited config creds)
        actions) ↔
      ssid.length ≤ 31 ∧ password.length ≤ 63 := by
  constructor
  · exact fun intact => fits_of_intact ssidOk passwordOk (intact true default .fresh _).last
  · intro fits inited config creds actions
    have call := connectArgs_call ssidOk.1 ssidOk.2.2 passwordOk.1 passwordOk.2
    refine (always_filled ssidOk.1 passwordOk.1 codec inited config creds actions).mono
      fun s filled => ⟨fun op mine given here => ?_, fun i o ended here given => ?_⟩
    · exact (filled_arrays_iff ssidOk.1 passwordOk.1
        (filled op mine (given.trans call)) here).mpr fits
    · have saved := pair_save_given codec o s.creds ⟨ssidOk.1, ssidOk.2.2⟩ passwordOk
      rw [call] at given
      rw [saveAndReturn, Option.mem_def.mp here]
      dsimp only
      rw [given]
      exact saved

/-- The longest name and the longest password that reach it. -/
def longestSsid : List UInt8 := List.replicate 31 0x61
def longestPassword : List UInt8 := List.replicate 63 0x62

theorem intact_iff_longest :
    (∀ (inited : Bool) (config : StaConfig) (creds : WifiCreds) (actions : List WifiAction),
      Run.Always (step flatJson) (Intact flatJson longestSsid longestPassword)
        (wifiManagerInit inited config creds) actions) ↔
      longestSsid.length ≤ 31 ∧ longestPassword.length ≤ 63 :=
  intact_iff flatJson longestSsid longestPassword (by decide) (by decide)

/-- The last byte of a name of 32 bytes does not reach the driver. -/
theorem intact_fails :
    ¬ ∀ (codec : JsonCodec) (ssid password : List UInt8),
      (0 ∉ ssid ∧ 1 ≤ ssid.length ∧ ssid.length ≤ 32) → (0 ∉ password ∧ password.length ≤ 64) →
        ∀ (inited : Bool) (config : StaConfig) (creds : WifiCreds) (actions : List WifiAction),
          Run.Always (step codec) (Intact codec ssid password)
            (wifiManagerInit inited config creds) actions := by
  intro all
  have name : 0 ∉ List.replicate 32 (0x41 : UInt8) ∧ 1 ≤ (List.replicate 32 (0x41 : UInt8)).length ∧
      (List.replicate 32 (0x41 : UInt8)).length ≤ 32 := by decide
  have intact := all flatJson _ [] name (by decide) true default .fresh
  exact absurd (fits_of_intact name (by decide) (intact _).last) (by decide)

end Tab5
