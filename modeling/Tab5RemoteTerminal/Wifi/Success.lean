/-
**What a call that returns true stands for.**

A call is `Right` about its success if the association it acted on was made with what it configured,
and what it saved is that too. `Own` is the invariant: the association that a call will act on, as
things stand (`Phase.seen`), is of its own configuration, and its arguments still point at what it
has copied.

The attempts made since a call has set its configuration carry that configuration, whoever makes
them: the call, the retries of the event handler, the timer (`Fresh`). What can break `Own` is the
answer to an older attempt, an address that answers none, a string that does not fit, and a save
beside another (`OwnEvents`); no other step can. `Attempts` counts the older ones.

* `connect_own`: every success is right, in every run that meets that condition;
* `connect_own_fails`: the event of an attempt that was given up, in the next call.
-/

import Tab5RemoteTerminal.Library.JsonText
import Tab5RemoteTerminal.Library.Run
import Tab5RemoteTerminal.Wifi.Manager

namespace Tab5

open WifiManager

/-! ### The condition -/

/-- The two strings of a configuration. -/
def StaConfig.strings (config : StaConfig) : List UInt8 × List UInt8 :=
  (config.ssid.bytes, config.password.bytes)

/-- What a success should be. -/
def Success.Right (success : Success) : Prop :=
  success.acted = success.wifiConfig ∧ success.saved = success.wifiConfig.strings

instance : DecidablePred Success.Right := fun _ => inferInstanceAs (Decidable (_ ∧ _))

/-- Between its clearing of the bits and its reading them, a call acts on the bits set. -/
def Phase.Listens : Phase → Prop
  | .copySsid | .copyPassword | .clear | .unflag _ | .give _ => False
  | _ => True

/-- It has set its configuration, and listens. -/
def Phase.Configured : Phase → Prop
  | .start | .wait | .blocked => True
  | _ => False

/-- The SSID has been copied. -/
def Phase.Copied : Phase → Prop
  | .copySsid => False
  | _ => True

/-- So has the password. -/
def Phase.Complete : Phase → Prop
  | .copySsid | .copyPassword => False
  | _ => True

instance : DecidablePred Phase.Listens := fun phase => by
  unfold Phase.Listens
  split <;> infer_instance

instance : DecidablePred Phase.Configured := fun phase => by
  unfold Phase.Configured
  split <;> infer_instance

instance : DecidablePred Phase.Copied := fun phase => by
  unfold Phase.Copied
  split <;> infer_instance

instance : DecidablePred Phase.Complete := fun phase => by
  unfold Phase.Complete
  split <;> infer_instance

namespace WifiManager

/-- An association is the one of the call that will act on the next address, if there is one. -/
def Expects (s : WifiManager) (association : StaConfig) : Prop :=
  ∀ op ∈ s.op, op.phase.Listens → s.connectedBit = none → association = op.wifiConfig

/-- The strings a call of `wifi_manager_connect_saved` has copied and not saved yet are those of a
call that saves. -/
def SavesSame (s : WifiManager) (i : Nat) (call : Connected) : Prop :=
  (∀ op ∈ s.op, op.args = .saved →
    (op.phase.Copied → op.wifiConfig.ssid = call.wifiConfig.ssid) ∧
    (op.phase.Complete → op.wifiConfig.password = call.wifiConfig.password)) ∧
  ∀ other ∈ s.connected.eraseIdx i, other.args = .saved →
    other.wifiConfig.ssid = call.wifiConfig.ssid ∧
    other.wifiConfig.password = call.wifiConfig.password

instance (s : WifiManager) : DecidablePred s.Expects := fun _ =>
  inferInstanceAs (Decidable (∀ op ∈ s.op, _))

instance (s : WifiManager) (i : Nat) : DecidablePred (s.SavesSame i) := fun _ =>
  inferInstanceAs (Decidable ((∀ op ∈ s.op, _) ∧ ∀ other ∈ _, _))

end WifiManager

/-- The manager, and how many of the attempts not answered yet, the first ones, were made before the
last `esp_wifi_set_config`. -/
structure Attempts where
  manager : WifiManager
  older : Nat

namespace Attempts

def start (s : WifiManager) : Attempts := ⟨s, s.pending.length⟩

/-- All that wait for an answer are older than a configuration that is set now. -/
def olderAfter (r : Attempts) : WifiAction → Nat
  | .run ok =>
      if ok = true ∧ r.manager.op.map (·.phase) = some .configure then r.manager.pending.length
      else r.older
  | .answered i _ _ => if i < r.older then r.older - 1 else r.older
  | _ => r.older

def step (codec : JsonCodec) (r : Attempts) (action : WifiAction) : Attempts :=
  ⟨r.manager.step codec action, r.olderAfter action⟩

/-- An attempt made before the call that holds the mutex set its configuration. -/
def Older (r : Attempts) (i : Nat) : Prop :=
  ∀ op ∈ r.manager.op, op.phase.Configured → i < r.older

/-- The condition: the answer to an older attempt, and an address that answers none, are for the
network of the call that acts on it; the strings copied fit into the configuration; and while a call
uses the strings of the first saved network, no other call saves another one. -/
def OwnEvents (r : Attempts) : WifiAction → Prop
  | .answered i true _ => r.Older i → ∀ association ∈ r.manager.pending[i]?,
      r.manager.Expects association
  | .renewed association => r.manager.Expects association
  | .run _ => ∀ op ∈ r.manager.op,
      (op.phase = .copySsid → (op.args.ssidIn r.manager.creds).length ≤ 31) ∧
      (op.phase = .copyPassword → (op.args.passwordIn r.manager.creds).length ≤ 63)
  | .save i _ => ∀ call ∈ r.manager.connected[i]?, r.manager.SavesSame i call
  | _ => True

instance (r : Attempts) : DecidablePred r.Older := fun _ =>
  inferInstanceAs (Decidable (∀ op ∈ r.manager.op, _))

instance (r : Attempts) : DecidablePred r.OwnEvents := fun action => by
  unfold OwnEvents
  split <;> infer_instance

end Attempts

/-! ### The invariant -/

/-- The association a call will act on, as things stand. -/
def Phase.seen (bit : Option StaConfig) : Phase → Option StaConfig
  | .copySsid | .copyPassword | .clear => none
  | .unflag acted | .give acted => acted
  | _ => bit

/-- A call that holds the mutex will be right, as things stand: its arguments point at what it has
copied, and what it will act on is its own. -/
structure ConnectOp.Own (creds : WifiCreds) (bit : Option StaConfig) (op : ConnectOp) : Prop where
  ssid : op.phase.Copied → op.args.ssidIn creds = op.wifiConfig.ssid.bytes
  password : op.phase.Complete → op.args.passwordIn creds = op.wifiConfig.password.bytes
  blank : ¬ op.phase.Complete → op.wifiConfig.password.bytes = []
  seen : ∀ acted, op.phase.seen bit = some acted → acted = op.wifiConfig

/-- A call that has released it will be right. -/
structure Connected.Own (creds : WifiCreds) (call : Connected) : Prop where
  ssid : call.args.ssidIn creds = call.wifiConfig.ssid.bytes
  password : call.args.passwordIn creds = call.wifiConfig.password.bytes
  acted : call.acted = call.wifiConfig

namespace WifiManager

/-- What has been attempted since the configuration was set is attempted with it. -/
structure Fresh (s : WifiManager) (older : Nat) : Prop where
  few : older ≤ s.pending.length
  config : ∀ op ∈ s.op, op.phase.Configured → s.config = op.wifiConfig
  made : ∀ op ∈ s.op, op.phase.Configured →
    ∀ association ∈ s.pending.drop older, association = op.wifiConfig

structure Own (s : WifiManager) : Prop where
  op : ∀ op, s.holder = some (.connect op) → op.Own s.creds s.connectedBit
  connected : ∀ call ∈ s.connected, call.Own s.creds
  returned : ∀ success ∈ s.returned, success.Right

variable {s : WifiManager} {older : Nat}

/-! ### The attempts since the configuration was set -/

/-- No call has set a configuration that it listens for. -/
theorem fresh_of_none (few : older ≤ s.pending.length)
    (none : ∀ op ∈ s.op, ¬ op.phase.Configured) : s.Fresh older :=
  ⟨few, fun op held configured => absurd configured (none op held),
    fun op held configured => absurd configured (none op held)⟩

/-- What a step leaves alone. -/
theorem Fresh.of_same (fresh : s.Fresh older) {after : WifiManager} (op : after.op = s.op)
    (config : after.config = s.config) (pending : after.pending = s.pending) : after.Fresh older := by
  obtain ⟨few, made, attempts⟩ := fresh
  constructor
  · rw [pending]
    exact few
  · rw [op, config]
    exact made
  · rw [op, pending]
    exact attempts

/-- An attempt is made with the configuration that is set. -/
theorem fresh_espWifiConnect (fresh : s.Fresh older) (accepted : Bool) :
    (s.espWifiConnect accepted).Fresh older := by
  unfold espWifiConnect
  split
  · obtain ⟨few, config, made⟩ := fresh
    refine ⟨?_, config, fun op held configured association mem => ?_⟩
    · rw [List.length_append]
      exact Nat.le_add_right_of_le few
    · dsimp only at mem
      rw [List.drop_append_of_le_length few] at mem
      rcases List.mem_append.mp mem with before | new
      · exact made op held configured association before
      · rw [List.mem_singleton.mp new]
        exact config op held configured
  · exact fresh

theorem op_goOn (op : ConnectOp) (phase : Phase) : (s.goOn op phase).op = some { op with phase } := rfl

/-- The call goes on to a phase in which it does not listen for its configuration. -/
theorem fresh_goOn (few : older ≤ s.pending.length) (op : ConnectOp) {phase : Phase}
    (other : ¬ phase.Configured) : (s.goOn op phase).Fresh older := by
  refine fresh_of_none few fun op' held => ?_
  rw [op_goOn] at held
  cases held
  exact other

/-- It goes on listening. -/
theorem fresh_listens (fresh : s.Fresh older) {op : ConnectOp} (held : s.op = some op)
    (configured : op.phase.Configured) (phase : Phase) : (s.goOn op phase).Fresh older := by
  refine ⟨fresh.few, fun op' same _ => ?_, fun op' same _ => ?_⟩
  · rw [op_goOn] at same
    cases same
    exact fresh.config op held configured
  · rw [op_goOn] at same
    cases same
    exact fresh.made op held configured

theorem fresh_wake (fresh : s.Fresh older) : s.wake.Fresh older := by
  unfold wake
  split
  · split
    · exact fresh_goOn fresh.few _ id
    · exact fresh
  · exact fresh

theorem fresh_onGotIp (fresh : s.Fresh older) (association : StaConfig) :
    (s.onGotIp association).Fresh older := by
  refine fresh_wake ?_
  exact fresh.of_same rfl rfl rfl

theorem fresh_onDisconnected (fresh : s.Fresh older) (accepted : Bool) :
    (s.onDisconnected accepted).Fresh older := by
  unfold onDisconnected
  split
  · refine fresh_espWifiConnect ?_ accepted
    exact fresh.of_same rfl rfl rfl
  · split
    · refine fresh_wake ?_
      exact fresh.of_same rfl rfl rfl
    · exact fresh.of_same rfl rfl rfl

/-- The first ones of a list, when an item is taken out of it. -/
theorem mem_drop_eraseIdx {α : Type} {items : List α} {i n : Nat} {item : α}
    (mem : item ∈ (items.eraseIdx i).drop (if i < n then n - 1 else n)) : item ∈ items.drop n := by
  obtain ⟨k, found⟩ := List.mem_iff_getElem?.mp mem
  rw [List.getElem?_drop, List.getElem?_eraseIdx] at found
  by_cases before : i < n
  · rw [if_pos before, if_neg (by omega), show n - 1 + k + 1 = n + k by omega] at found
    exact List.mem_iff_getElem?.mpr ⟨k, by rwa [List.getElem?_drop]⟩
  · rw [if_neg before] at found
    split at found
    · exact List.mem_iff_getElem?.mpr ⟨k, by rwa [List.getElem?_drop]⟩
    · exact List.mem_iff_getElem?.mpr ⟨k + 1, by rwa [List.getElem?_drop]⟩

theorem fresh_answered (fresh : s.Fresh older) {i : Nat} {association : StaConfig}
    (here : s.pending[i]? = some association) :
    Fresh { s with pending := s.pending.eraseIdx i } (if i < older then older - 1 else older) := by
  obtain ⟨few, config, made⟩ := fresh
  have inside : i < s.pending.length := (List.getElem?_eq_some_iff.mp here).1
  refine ⟨?_, config, fun op held configured other mem => ?_⟩
  · rw [List.length_eraseIdx_of_lt inside]
    split <;> omega
  · exact made op held configured other (mem_drop_eraseIdx mem)

/-- `esp_wifi_set_config`: all that wait are older now, and the configuration is the call's. -/
theorem fresh_configure (few : older ≤ s.pending.length) {op : ConnectOp}
    (configures : op.phase = .configure) (ok : Bool) :
    (s.runConnect ok op).Fresh (if ok = true then s.pending.length else older) := by
  rw [runConnect, configures]
  cases ok with
  | true =>
      refine ⟨Nat.le_refl _, fun op' same _ => ?_, fun op' same _ association mem => ?_⟩
      · cases same
        rfl
      · have waits : association ∈ s.pending.drop s.pending.length := mem
        rw [List.drop_length] at waits
        exact absurd waits List.not_mem_nil
  | false => exact @fresh_goOn s older few op (.unflag none) id

/-- The other statements of a call. -/
theorem fresh_runConnect (fresh : s.Fresh older) {op : ConnectOp}
    (held : s.holder = some (.connect op)) (other : op.phase ≠ .configure) (ok : Bool) :
    (s.runConnect ok op).Fresh older := by
  have leaves (op' : ConnectOp) {phase : Phase} := @fresh_goOn s older fresh.few op' phase
  have listens := @fresh_listens s older fresh op (op_eq_some.mpr held)
  unfold runConnect
  cases phase : op.phase <;> rw [phase] at listens <;> dsimp only
  case configure => exact absurd phase other
  case start =>
    cases ok with
    | true =>
        have attempted := fresh_espWifiConnect fresh true
        exact @fresh_listens _ older attempted op (op_eq_some.mpr held) (by rw [phase]; trivial) .wait
    | false => exact leaves op id
  case wait =>
    split
    · exact leaves op id
    · exact listens trivial .blocked
  case blocked => exact fresh
  case give acted => cases acted <;> exact fresh_of_none fresh.few fun _ held => nomatch held
  all_goals
    refine fresh_goOn ?_ _ ?_
    · exact fresh.few
    · exact id

/-- **A step of the manager**, whatever it is. -/
theorem fresh_step (codec : JsonCodec) (r : Attempts) (action : WifiAction)
    (fresh : r.manager.Fresh r.older) :
    (r.step codec action).manager.Fresh (r.step codec action).older := by
  have effect := step_to codec r.manager action
  show (r.manager.step codec action).Fresh (r.olderAfter action)
  generalize r.manager.step codec action = after at effect ⊢
  cases effect with
  | enters action outside more =>
      have same : r.olderAfter action = r.older := by
        cases action <;> first | rfl | exact absurd outside id
      rw [same]
      exact fresh.of_same rfl rfl rfl
  | takenToScan => exact fresh_of_none fresh.few fun _ held => nomatch held
  | takenToConnect i args =>
      refine fresh_of_none fresh.few fun op held => ?_
      cases held
      exact id
  | noHolder ok free =>
      rw [Attempts.olderAfter, if_neg (by simp [WifiManager.op, free])]
      exact fresh
  | scanned ok held =>
      rw [Attempts.olderAfter, if_neg (by simp [WifiManager.op, held])]
      exact fresh_of_none fresh.few fun _ held => nomatch held
  | ran ok op held =>
      simp only [Attempts.olderAfter, op_eq_some.mpr held, Option.map_some, Option.some_inj]
      by_cases configures : op.phase = .configure
      · have configured := fresh_configure fresh.few configures ok
        simpa only [configures, and_true] using configured
      · rw [if_neg fun both => configures both.2]
        exact fresh_runConnect fresh held configures ok
  | timedOut op held => exact fresh_goOn fresh.few op id
  | notAnswered i gotIp accepted gone =>
      have few := fresh.few
      have outside := List.getElem?_eq_none_iff.mp gone
      rw [Attempts.olderAfter, if_neg (by omega)]
      exact fresh
  | gotIp i accepted association here => exact fresh_onGotIp (fresh_answered fresh here) association
  | refused i accepted association here =>
      exact fresh_onDisconnected (fresh_answered fresh here) accepted
  | dropped accepted => exact fresh_onDisconnected fresh accepted
  | renewed association => exact fresh_onGotIp fresh association
  | expired accepted =>
      refine fresh_espWifiConnect ?_ accepted
      exact fresh.of_same rfl rfl rfl
  | saved => exact fresh.of_same rfl rfl rfl
  | _ => exact fresh

/-- An attempt that is not older is one the call expects. -/
theorem Fresh.expects {r : Attempts} (fresh : r.manager.Fresh r.older) {i : Nat}
    {association : StaConfig} (here : r.manager.pending[i]? = some association)
    (older : r.Older i → r.manager.Expects association) : r.manager.Expects association := by
  intro op held listens unset
  by_cases isOlder : r.Older i
  · exact older isOlder op held listens unset
  · -- it is for the only call that holds the mutex, which has set its configuration
    obtain ⟨op', notOlder⟩ := not_forall.mp isOlder
    obtain ⟨held', notOlder⟩ := Classical.not_imp.mp notOlder
    obtain ⟨configured, later⟩ := Classical.not_imp.mp notOlder
    have same : op' = op := Option.some_inj.mp (held'.symm.trans held)
    subst same
    refine fresh.made op' held configured association ?_
    rw [List.mem_iff_getElem?]
    refine ⟨i - r.older, ?_⟩
    rw [List.getElem?_drop, Nat.add_sub_cancel' (Nat.le_of_not_lt later)]
    exact here

/-! ### Events -/

theorem own_espWifiConnect (own : s.Own) (accepted : Bool) : (s.espWifiConnect accepted).Own := by
  unfold espWifiConnect
  split
  · exact ⟨own.op, own.connected, own.returned⟩
  · exact own

/-- A call that wakes up acts on the bit it has waited for. -/
theorem own_wake (own : s.Own) : s.wake.Own := by
  unfold wake
  split
  · rename_i op held
    split
    · rename_i blocked
      obtain ⟨ssid, password, blank, seen⟩ := own.op op held
      rw [blocked] at ssid password seen
      refine ⟨fun op' same => ?_, own.connected, own.returned⟩
      cases same
      exact ⟨fun _ => ssid trivial, fun _ => password trivial, fun part => absurd trivial part,
        seen⟩
    · exact own
  · exact own

theorem own_setConnected (own : s.Own) {association : StaConfig}
    (expects : s.Expects association) : (s.setConnected association).Own := by
  refine own_wake ⟨fun op held => ?_, own.connected, own.returned⟩
  refine ⟨(own.op op held).ssid, (own.op op held).password, (own.op op held).blank,
    fun acted seen => ?_⟩
  have before := (own.op op held).seen acted
  have expected := expects op (op_eq_some.mpr held)
  cases phase : op.phase <;> rw [phase] at seen before expected
  case copySsid | copyPassword | clear => cases seen
  case unflag | give => exact before seen
  all_goals
    cases bit : s.connectedBit with
    | none =>
        rw [show Phase.seen _ _ = some (s.connectedBit.getD association) from rfl, bit] at seen
        cases seen
        exact expected trivial bit
    | some first =>
        rw [show Phase.seen _ _ = some (s.connectedBit.getD association) from rfl, bit] at seen
        exact before (bit.trans seen)

theorem own_onGotIp (own : s.Own) {association : StaConfig} (expects : s.Expects association) :
    (s.onGotIp association).Own := by
  refine own_setConnected ?_ ?_
  · exact ⟨own.op, own.connected, own.returned⟩
  · exact expects

theorem own_onDisconnected (own : s.Own) (accepted : Bool) : (s.onDisconnected accepted).Own := by
  unfold onDisconnected
  split
  · refine own_espWifiConnect ?_ accepted
    exact ⟨own.op, own.connected, own.returned⟩
  · split
    · refine own_wake ?_
      exact ⟨own.op, own.connected, own.returned⟩
    · exact ⟨own.op, own.connected, own.returned⟩

/-! ### Calls -/

/-- The call goes on to a phase from which it will be right. -/
theorem own_goOn (connected : ∀ call ∈ s.connected, call.Own s.creds)
    (returned : ∀ success ∈ s.returned, success.Right) {op : ConnectOp} {phase : Phase}
    (opOwn : { op with phase }.Own s.creds s.connectedBit) : (s.goOn op phase).Own := by
  refine ⟨fun op' same => ?_, connected, returned⟩
  cases same
  exact opOwn

/-- What a call with both strings copied keeps, whatever it does next. -/
theorem own_next {creds : WifiCreds} {bit bit' : Option StaConfig} {op : ConnectOp}
    (opOwn : op.Own creds bit) (complete : op.phase.Complete) {phase : Phase}
    (seen : ∀ acted, phase.seen bit' = some acted → op.phase.seen bit = some acted)
    (after : phase.Complete) : { op with phase }.Own creds bit' := by
  have copied : op.phase.Copied := by
    cases phase : op.phase <;> rw [phase] at complete
    case copySsid => exact absurd complete id
    all_goals trivial
  exact ⟨fun _ => opOwn.ssid copied, fun _ => opOwn.password complete,
    fun part => absurd after part, fun acted same => opOwn.seen acted (seen acted same)⟩

theorem own_release (own : s.Own) : Own { s with holder := none } :=
  ⟨fun _ same => (nomatch same), own.connected, own.returned⟩

theorem setSsid_ssid (config : StaConfig) {ssid : List UInt8} (noNul : 0 ∉ ssid)
    (fits : ssid.length ≤ 31) : (config.setSsid ssid).ssid.bytes = ssid := by
  have copied : CStr.copy 32 ssidRoom ssid = ⟨ssid, noNul, by omega⟩ :=
    CStr.copy_fits noNul (by omega)
  exact congrArg CStr.bytes copied

theorem setPassword_ssid (config : StaConfig) (password : List UInt8) :
    (config.setPassword password).ssid = config.ssid := by
  unfold StaConfig.setPassword
  split
  · rfl
  · rfl

/-- An empty password leaves the zeros that are there. -/
theorem setPassword_password {config : StaConfig} (blank : config.password.bytes = [])
    {password : List UInt8} (noNul : 0 ∉ password) (fits : password.length ≤ 63) :
    (config.setPassword password).password.bytes = password := by
  unfold StaConfig.setPassword
  split
  · rename_i empty
    rw [empty]
    exact blank
  · have copied : CStr.copy 64 passwordRoom password = ⟨password, noNul, by omega⟩ :=
      CStr.copy_fits noNul (by omega)
    exact congrArg CStr.bytes copied

/-- The SSID is copied. -/
theorem own_copySsid {creds : WifiCreds} {bit : Option StaConfig} {op : ConnectOp}
    (opOwn : op.Own creds bit) (first : op.phase = .copySsid)
    (fits : (op.args.ssidIn creds).length ≤ 31) :
    ConnectOp.Own creds bit { op with
      wifiConfig := op.wifiConfig.setSsid (op.args.ssidIn creds), phase := .copyPassword } where
  ssid _ := (setSsid_ssid op.wifiConfig (creds.deref_noNul op.args.ssid) fits).symm
  password complete := absurd complete id
  blank _ := opOwn.blank (by rw [first]; exact id)
  seen _ same := nomatch same

/-- The password is copied. -/
theorem own_copyPassword {creds : WifiCreds} {bit : Option StaConfig} {op : ConnectOp}
    (opOwn : op.Own creds bit) (second : op.phase = .copyPassword)
    (fits : (op.args.passwordIn creds).length ≤ 63) :
    ConnectOp.Own creds bit { op with
      wifiConfig := op.wifiConfig.setPassword (op.args.passwordIn creds), phase := .clear } where
  ssid _ := by
    rw [setPassword_ssid]
    exact opOwn.ssid (by rw [second]; trivial)
  password _ := by
    have blank := opOwn.blank (by rw [second]; exact id)
    exact (setPassword_password blank (creds.derefPassword_noNul op.args.password) fits).symm
  blank part := absurd trivial part
  seen _ same := nomatch same

theorem own_runConnect (own : s.Own) {op : ConnectOp} (held : s.holder = some (.connect op))
    (fits : (op.phase = .copySsid → (op.args.ssidIn s.creds).length ≤ 31) ∧
      (op.phase = .copyPassword → (op.args.passwordIn s.creds).length ≤ 63))
    (ok : Bool) : (s.runConnect ok op).Own := by
  have opOwn := own.op op held
  unfold runConnect
  cases phase : op.phase <;> dsimp only
  case copySsid =>
    have copied := own_copySsid opOwn phase (fits.1 phase)
    exact own_goOn own.connected own.returned copied
  case copyPassword =>
    have copied := own_copyPassword opOwn phase (fits.2 phase)
    exact own_goOn own.connected own.returned copied
  case clear =>
    refine own_goOn ?_ ?_ (own_next opOwn (by rw [phase]; trivial) ?_ trivial)
    · exact own.connected
    · exact own.returned
    · intro acted same
      cases same
  case zero | flag | unflag =>
    refine own_goOn ?_ ?_ (own_next opOwn (by rw [phase]; trivial) ?_ trivial)
    · exact own.connected
    · exact own.returned
    · intro acted same
      rw [phase]
      exact same
  case configure | start =>
    cases ok with
    | true =>
        refine own_goOn ?_ ?_ (own_next opOwn (by rw [phase]; trivial) ?_ trivial)
        · exact own.connected
        · exact own.returned
        · intro acted same
          rw [phase]
          exact same
    | false =>
        refine own_goOn own.connected own.returned
          (own_next opOwn (by rw [phase]; trivial) ?_ trivial)
        intro acted same
        cases same
  case wait =>
    split
    all_goals
      refine own_goOn own.connected own.returned
        (own_next opOwn (by rw [phase]; trivial) ?_ trivial)
      intro acted same
      rw [phase]
      exact same
  case blocked => exact own
  case give acted =>
    cases acted with
    | none => exact own_release own
    | some acted =>
        refine ⟨fun _ same => (nomatch same), fun call mem => ?_, own.returned⟩
        rcases List.mem_append.mp mem with before | new
        · exact own.connected call before
        · rw [List.mem_singleton.mp new]
          have complete : op.phase.Complete := by rw [phase]; trivial
          have copied : op.phase.Copied := by rw [phase]; trivial
          exact ⟨opOwn.ssid copied, opOwn.password complete,
            opOwn.seen acted (by rw [phase]; rfl)⟩

/-- The time of a call is over: it acts on nothing. -/
theorem own_timedOut (own : s.Own) {op : ConnectOp} (held : s.holder = some (.connect op))
    (blocked : op.phase = .blocked) : (s.goOn op (.unflag none)).Own := by
  refine own_goOn own.connected own.returned
    (own_next (own.op op held) (by rw [blocked]; trivial) ?_ trivial)
  intro acted same
  cases same

/-- A call that has just taken the mutex has copied nothing. -/
theorem own_fresh (creds : WifiCreds) (bit : Option StaConfig) (args : ConnectArgs) :
    ConnectOp.Own creds bit { args, wifiConfig := default, phase := .copySsid } :=
  ⟨fun copied => absurd copied id, fun complete => absurd complete id, fun _ => rfl,
    fun _ same => (nomatch same)⟩

/-! ### Saves -/

/-- After a save the first network is the pair of the call. -/
theorem pair_save {creds : WifiCreds} {call : Connected} (callOwn : call.Own creds)
    (codec : JsonCodec) (o : Outcomes) :
    let after := (creds.wifiCredsSave codec o call.args.ssid call.args.password).2
    (ConnectArgs.saved.ssidIn after, ConnectArgs.saved.passwordIn after) =
      call.wifiConfig.strings := by
  intro after
  have first := WifiCreds.load_save codec o creds call.args.ssid call.args.password
  have ssid : creds.deref call.args.ssid = call.wifiConfig.ssid.bytes := callOwn.ssid
  have password : creds.derefPassword call.args.password = call.wifiConfig.password.bytes :=
    callOwn.password
  have ssidFits := call.wifiConfig.ssid.fits
  have passwordFits := call.wifiConfig.password.fits
  calc (ConnectArgs.saved.ssidIn after, ConnectArgs.saved.passwordIn after)
      = WifiCreds.pair (creds.entry call.args.ssid call.args.password) := by rw [← first]; rfl
    _ = (creds.deref call.args.ssid, creds.derefPassword call.args.password) :=
        WifiCreds.pair_entry (by rw [ssid]; omega) (by rw [password]; omega)
    _ = call.wifiConfig.strings := by rw [ssid, password]; rfl

/-- **A save** leaves the SSID of every other call, if it points elsewhere or has copied the same
one. -/
theorem ssidIn_save {creds : WifiCreds} {call : Connected} (callOwn : call.Own creds)
    {codec : JsonCodec} {o : Outcomes} {args : ConnectArgs} {config : StaConfig}
    (before : args.ssidIn creds = config.ssid.bytes)
    (same : args = .saved → config.ssid = call.wifiConfig.ssid) :
    args.ssidIn (creds.wifiCredsSave codec o call.args.ssid call.args.password).2 =
      config.ssid.bytes := by
  cases args with
  | given ssid password => exact before
  | saved =>
      rw [same rfl]
      exact congrArg Prod.fst (pair_save callOwn codec o)

theorem passwordIn_save {creds : WifiCreds} {call : Connected} (callOwn : call.Own creds)
    {codec : JsonCodec} {o : Outcomes} {args : ConnectArgs} {config : StaConfig}
    (before : args.passwordIn creds = config.password.bytes)
    (same : args = .saved → config.password = call.wifiConfig.password) :
    args.passwordIn (creds.wifiCredsSave codec o call.args.ssid call.args.password).2 =
      config.password.bytes := by
  cases args with
  | given ssid password =>
      cases password with
      | none => exact before
      | some password => exact before
  | saved =>
      rw [same rfl]
      exact congrArg Prod.snd (pair_save callOwn codec o)

theorem own_saved (own : s.Own) {codec : JsonCodec} {i : Nat} {o : Outcomes} {call : Connected}
    (here : s.connected[i]? = some call) (same : s.SavesSame i call) :
    Own { s with
      connected := s.connected.eraseIdx i
      creds := (s.creds.wifiCredsSave codec o call.args.ssid call.args.password).2
      returned := s.returned ++ [{
        wifiConfig := call.wifiConfig
        acted := call.acted
        saved := (call.args.ssidIn s.creds, call.args.passwordIn s.creds) }] } := by
  have callOwn := own.connected call (List.mem_of_getElem? here)
  obtain ⟨sameOp, sameOthers⟩ := same
  refine ⟨fun op held => ?_, fun other mem => ?_, fun success mem => ?_⟩
  · have opOwn := own.op op held
    have sameOp := sameOp op (op_eq_some.mpr held)
    exact ⟨fun copied => ssidIn_save callOwn (opOwn.ssid copied)
        fun args => (sameOp args).1 copied,
      fun complete => passwordIn_save callOwn (opOwn.password complete)
        fun args => (sameOp args).2 complete,
      opOwn.blank, opOwn.seen⟩
  · have otherOwn := own.connected other (List.mem_of_mem_eraseIdx mem)
    have sameOther := sameOthers other mem
    exact ⟨ssidIn_save callOwn otherOwn.ssid fun args => (sameOther args).1,
      passwordIn_save callOwn otherOwn.password fun args => (sameOther args).2, otherOwn.acted⟩
  · rcases List.mem_append.mp mem with before | new
    · exact own.returned success before
    · rw [List.mem_singleton.mp new]
      exact ⟨callOwn.acted, Prod.ext callOwn.ssid callOwn.password⟩

/-! ### Steps and runs -/

theorem own_step (codec : JsonCodec) (r : Attempts) (action : WifiAction) (own : r.manager.Own)
    (fresh : r.manager.Fresh r.older) (cond : r.OwnEvents action) :
    (r.manager.step codec action).Own := by
  have effect := step_to codec r.manager action
  generalize r.manager.step codec action = after at effect ⊢
  cases effect with
  | enters => exact ⟨own.op, own.connected, own.returned⟩
  | takenToScan | scanned => exact ⟨fun _ same => (nomatch same), own.connected, own.returned⟩
  | takenToConnect i args =>
      refine ⟨fun op same => ?_, own.connected, own.returned⟩
      cases same
      exact own_fresh _ _ args
  | ran ok op held => exact own_runConnect own held (cond op (op_eq_some.mpr held)) ok
  | timedOut op held blocked => exact own_timedOut own held blocked
  | saved i o call here => exact own_saved own here (cond call here)
  | gotIp i accepted association here =>
      refine own_onGotIp ?_ (fresh.expects here fun older => cond older association here)
      exact ⟨own.op, own.connected, own.returned⟩
  | refused i accepted =>
      refine own_onDisconnected ?_ accepted
      exact ⟨own.op, own.connected, own.returned⟩
  | dropped accepted => exact own_onDisconnected own accepted
  | renewed association => exact own_onGotIp own cond
  | expired accepted =>
      refine own_espWifiConnect ?_ accepted
      exact ⟨own.op, own.connected, own.returned⟩
  | _ => exact own

end WifiManager

/-- **Every success is right**, in every run whose steps all meet the condition. -/
theorem connect_own (codec : JsonCodec) (inited : Bool) (config : StaConfig) (creds : WifiCreds)
    (actions : List WifiAction)
    (meets : Run.Meets (Attempts.step codec) Attempts.OwnEvents
      (.start (wifiManagerInit inited config creds)) actions) :
    Run.Always (WifiManager.step codec) (fun s => ∀ success ∈ s.returned, success.Right)
      (wifiManagerInit inited config creds) actions := by
  have own : (wifiManagerInit inited config creds).Own :=
    ⟨fun _ same => (nomatch same), fun _ mem => absurd mem List.not_mem_nil,
      fun _ mem => absurd mem List.not_mem_nil⟩
  have fresh : (wifiManagerInit inited config creds).Fresh 0 :=
    fresh_of_none (Nat.le_refl 0) fun _ held => nomatch held
  have keeps (r : Attempts) (action : WifiAction) (inv : r.manager.Own ∧ r.manager.Fresh r.older)
      (cond : r.OwnEvents action) : (r.step codec action).manager.Own ∧
        (r.step codec action).manager.Fresh (r.step codec action).older :=
    ⟨own_step codec r action inv.1 inv.2 cond, fresh_step codec r action inv.2⟩
  have always := Run.always_of_meets keeps ⟨own, fresh⟩ meets
  intro done isPrefix
  -- the manager takes the same steps, counted or not
  have same : (Run.after (Attempts.step codec) (.start (wifiManagerInit inited config creds))
      done).manager = Run.after (WifiManager.step codec) (wifiManagerInit inited config creds) done :=
    Run.part_after (fun _ _ => rfl) _ done
  rw [← same]
  exact (always done isPrefix).1.returned

/-- A call from the mutex to the wait. -/
def toWait : List WifiAction := .take 0 :: List.replicate 8 (.run true)

/-- The time of a call is over. The next one has set its configuration when the attempt of the first
fails, is retried, and obtains the address; it saves. -/
def retriedRun : List WifiAction :=
  .connect (some (ascii ['a'])) none :: toWait ++ [.timeout, .run true, .run true] ++
    .connect (some (ascii ['b'])) none :: toWait ++
      [.answered 0 false true, .answered 1 true true, .run true, .run true, .save 0 .good]

theorem connect_own_retried :
    Run.Always (WifiManager.step flatJson) (fun s => ∀ success ∈ s.returned, success.Right)
        (wifiManagerInit true default .fresh) retriedRun ∧
      (Run.after (WifiManager.step flatJson) (wifiManagerInit true default .fresh)
        retriedRun).returned.length = 1 :=
  ⟨connect_own flatJson true default .fresh retriedRun (by decide), by decide⟩

/-- The time of a call for one network is over; its address comes when the next call has cleared the
bits and not yet configured its own network. -/
theorem connect_own_fails :
    ¬ ∀ (codec : JsonCodec) (inited : Bool) (config : StaConfig) (creds : WifiCreds)
      (actions : List WifiAction),
      Run.Always (WifiManager.step codec) (fun s => ∀ success ∈ s.returned, success.Right)
        (wifiManagerInit inited config creds) actions := by
  intro all
  have last := (all flatJson true default .fresh
    (.connect (some (ascii ['a'])) none :: toWait ++
      [.timeout, .run true, .run true, .connect (some (ascii ['b'])) none, .take 0, .run true,
        .run true, .run true, .run true, .run true, .answered 0 true true, .run true, .run true,
        .run true, .run true, .run true, .save 0 .good])).last
  exact absurd last (by decide)

end Tab5
