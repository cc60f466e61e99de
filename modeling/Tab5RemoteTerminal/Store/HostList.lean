/-
**The host store as a bounded list.**

`HostCall.apply` is what the three operations are for: append, replace and remove on a list of at
most 64 hosts, each refused where it makes no sense. A call that is not refused changes the memory
as `apply` says and then persists it, whatever comes of that (`HostCall.run_applied`).

* `host_store_refines`: along any calls, when nothing fails, memory is that list, and every
  successful call leaves a file that loads as it;
* `host_store_atomic_iff`: when a call that fails has left the memory alone.
-/

import Tab5RemoteTerminal.Library.JsonText
import Tab5RemoteTerminal.Library.Run
import Tab5RemoteTerminal.Store.HostStore

namespace Tab5

open Slots HostStore

inductive HostCall where
  | add (host : HostEntry)
  | update (index : Int) (host : HostEntry)
  | delete (index : Int)
deriving DecidableEq

namespace HostCall

/-- The call, in the C code. -/
def run (codec : JsonCodec) (o : Outcomes) (s : HostStore) : HostCall → EspErr × HostStore
  | .add host => s.hostStoreAdd codec o host
  | .update index host => s.hostStoreUpdate codec o index host
  | .delete index => s.hostStoreDelete codec o index

/-- The call, on a list; `none` when it is refused. -/
def apply (hosts : List HostEntry) : HostCall → Option (List HostEntry)
  | .add host => if hosts.length < 64 then some (hosts ++ [host]) else none
  | .update index host =>
      if 0 ≤ index ∧ index < hosts.length then some (hosts.set index.toNat host) else none
  | .delete index =>
      if 0 ≤ index ∧ index < hosts.length then some (hosts.eraseIdx index.toNat) else none

/-- The only call that leaves the list as it is, replaces a host by itself. -/
theorem apply_same {s : HostStore} {call : HostCall} {hosts : List HostEntry}
    (applied : call.apply s.hosts = some hosts) :
    hosts = s.hosts ↔
      ∃ index host, call = .update index host ∧ s.hostStoreGet index = some host := by
  cases call with
  | add host =>
      simp only [apply, Option.ite_none_right_eq_some, Option.some.injEq] at applied
      obtain ⟨_, rfl⟩ := applied
      simp
  | update index host =>
      simp only [apply, Option.ite_none_right_eq_some, Option.some.injEq] at applied
      obtain ⟨inside, rfl⟩ := applied
      have get : s.hostStoreGet index = s.hosts[index.toNat]? := by
        rw [hostStoreGet_eq, if_neg (by omega)]
      constructor
      · intro same
        refine ⟨index, host, rfl, ?_⟩
        rw [get, ← same, List.getElem?_set_self (by omega)]
      · rintro ⟨_, _, same, here⟩
        cases same
        rw [get] at here
        obtain ⟨inside', rfl⟩ := List.getElem?_eq_some_iff.mp here
        exact List.set_getElem_self inside'
  | delete index =>
      simp only [apply, Option.ite_none_right_eq_some, Option.some.injEq] at applied
      obtain ⟨inside, rfl⟩ := applied
      have shorter := List.length_eraseIdx_of_lt (l := s.hosts) (i := index.toNat) (by omega)
      refine iff_of_false (fun same => ?_) (by simp)
      rw [same] at shorter
      omega

/-- A call that is refused changes nothing. -/
theorem run_refused (codec : JsonCodec) (o : Outcomes) {s : HostStore} {call : HostCall}
    (refused : call.apply s.hosts = none) :
    (call.run codec o s).1 ≠ .ok ∧ (call.run codec o s).2 = s := by
  have length := s.holds.count
  cases call with
  | add host =>
      have full : s.sHostCount ≥ 64 := by
        simp only [apply, ite_eq_right_iff, reduceCtorEq, imp_false] at refused
        omega
      simp [run, hostStoreAdd, full]
  | update index host =>
      have outside : index < 0 ∨ index ≥ s.sHostCount := by
        simp only [apply, ite_eq_right_iff, reduceCtorEq, imp_false] at refused
        omega
      simp [run, hostStoreUpdate, outside]
  | delete index =>
      have outside : index < 0 ∨ index ≥ s.sHostCount := by
        simp only [apply, ite_eq_right_iff, reduceCtorEq, imp_false] at refused
        omega
      simp [run, hostStoreDelete, outside]

/-- **A call that is not refused** changes the memory as it should, and persists it. -/
theorem run_applied (codec : JsonCodec) (o : Outcomes) {s : HostStore} {call : HostCall}
    {hosts : List HostEntry} (applied : call.apply s.hosts = some hosts) :
    ∃ changed : HostStore, changed.hosts = hosts ∧
      call.run codec o s = changed.persistToDisk codec o := by
  have held := s.holds
  have length := held.count
  cases call with
  | add host =>
      simp only [apply, Option.ite_none_right_eq_some, Option.some.injEq] at applied
      obtain ⟨room, rfl⟩ := applied
      have notFull : ¬ s.sHostCount ≥ 64 := by omega
      simp only [run, hostStoreAdd, notFull]
      exact ⟨_, hosts_eq (held.append (by omega) host), rfl⟩
  | update index host =>
      simp only [apply, Option.ite_none_right_eq_some, Option.some.injEq] at applied
      obtain ⟨inside, rfl⟩ := applied
      have notOutside : ¬ (index < 0 ∨ index ≥ s.sHostCount) := by omega
      simp only [run, hostStoreUpdate, notOutside]
      exact ⟨_, hosts_eq (held.set inside.1 (by omega) host), rfl⟩
  | delete index =>
      simp only [apply, Option.ite_none_right_eq_some, Option.some.injEq] at applied
      obtain ⟨inside, rfl⟩ := applied
      have notOutside : ¬ (index < 0 ∨ index ≥ s.sHostCount) := by omega
      simp only [run, hostStoreDelete, notOutside]
      exact ⟨_, hosts_eq (held.erase inside.1 (by omega)), rfl⟩

end HostCall

namespace HostStore

theorem persistToDisk_hosts (codec : JsonCodec) (o : Outcomes) (s : HostStore) :
    (s.persistToDisk codec o).2.hosts = s.hosts := rfl

theorem persistToDisk_ok (codec : JsonCodec) (o : Outcomes) (s : HostStore) :
    (s.persistToDisk codec o).1 = .ok ↔ o.Ok :=
  persist_fst codec o hostsName _ s.file

/-- Memory reads the same exactly if it holds the same list. -/
theorem hostStoreGet_ext {s s' : HostStore} :
    (∀ index, s.hostStoreGet index = s'.hostStoreGet index) ↔ s.hosts = s'.hosts := by
  constructor
  · intro same
    refine List.ext_getElem? fun k => ?_
    have here := same k
    rwa [hostStoreGet_eq, hostStoreGet_eq, if_neg (by omega), if_neg (by omega)] at here
  · intro same index
    rw [hostStoreGet_eq, hostStoreGet_eq, same]

theorem hostStoreCount_eq (s : HostStore) : s.hostStoreCount = s.hosts.length := s.holds.count

/-- **What a file that was just written loads as**, when nothing failed. -/
theorem load_persisted {codec : JsonCodec} (faithful : codec.Faithful) (s memory : HostStore) :
    (loadFromDisk codec { memory with file := (s.persistToDisk codec .good).2.file }).hosts =
      s.hosts := by
  refine (loaded_iff faithful ⟨rfl, rfl, rfl⟩ s memory).mpr (Or.inr ⟨rfl, rfl, fun i h _ => ?_⟩)
  exact ⟨rfl, ⟨.inl rfl, .inl rfl, .inl rfl, .inl rfl, .inl rfl, .inl rfl, .inl rfl, .inl rfl⟩⟩

end HostStore

/-! ### Runs of calls -/

/-- A call when nothing fails. -/
def HostStore.step (codec : JsonCodec) (s : HostStore) (call : HostCall) : HostStore :=
  (call.run codec .good s).2

/-- The list after some calls. -/
def hostList (calls : List HostCall) : List HostEntry :=
  calls.foldl (fun hosts call => (call.apply hosts).getD hosts) []

theorem step_hosts (codec : JsonCodec) (s : HostStore) (call : HostCall) :
    (s.step codec call).hosts = (call.apply s.hosts).getD s.hosts := by
  cases applied : call.apply s.hosts with
  | none => rw [HostStore.step, (call.run_refused codec .good applied).2]; rfl
  | some hosts =>
      obtain ⟨changed, same, run⟩ := call.run_applied codec .good applied
      rw [HostStore.step, run, persistToDisk_hosts, same]
      rfl

theorem hosts_after (codec : JsonCodec) (calls : List HostCall) :
    (Run.after (HostStore.step codec) .fresh calls).hosts = hostList calls := by
  unfold hostList
  induction calls using List.reverseRecOn with
  | nil => rfl
  | append_singleton calls call ih =>
      rw [Run.after_append, List.foldl_append, ← ih]
      exact step_hosts codec _ call

/-- **The store is the list.** After any calls from an empty store, when nothing fails: the count
and the hosts read are those of the list; the next call succeeds exactly if the list does not refuse
it; and if it succeeds, the file it has written loads, into any memory, as the list after it. -/
theorem host_store_refines (codec : JsonCodec) (faithful : codec.Faithful) (calls : List HostCall) :
    let s := Run.after (HostStore.step codec) .fresh calls
    s.hostStoreCount = (hostList calls).length ∧
      (∀ index, s.hostStoreGet index = if index < 0 then none else (hostList calls)[index.toNat]?) ∧
      ∀ call : HostCall,
        ((call.run codec .good s).1 = .ok ↔ (call.apply (hostList calls)).isSome) ∧
        ((call.run codec .good s).1 = .ok → ∀ memory : HostStore,
          (loadFromDisk codec { memory with file := (call.run codec .good s).2.file }).hosts =
            hostList (calls ++ [call])) := by
  intro s
  have hosts : s.hosts = hostList calls := hosts_after codec calls
  refine ⟨?_, ?_, fun call => ?_⟩
  · rw [hostStoreCount_eq, hosts]
  · intro index
    rw [hostStoreGet_eq, hosts]
  · rw [← hosts]
    have next : hostList (calls ++ [call]) = (call.apply s.hosts).getD s.hosts := by
      rw [hosts, hostList, List.foldl_append]
      rfl
    cases applied : call.apply s.hosts with
    | none =>
        have refused := (call.run_refused codec .good applied).1
        exact ⟨iff_of_false refused (by simp), fun ok => absurd ok refused⟩
    | some changed =>
        obtain ⟨s', same, run⟩ := call.run_applied codec .good applied
        rw [run, next, applied]
        refine ⟨iff_of_true ((persistToDisk_ok codec .good s').mpr ⟨rfl, rfl, rfl⟩) rfl, ?_⟩
        intro _ memory
        rw [load_persisted faithful s' memory, same]
        rfl

/-- A Telnet host on port 23. -/
def nas : HostEntry :=
  { (default : HostEntry) with
    name := ⟨ascii ['n', 'a', 's'], by decide, by decide⟩
    protocol := .telnet
    port := 23 }

/-- An SSH host. -/
def pi : HostEntry :=
  { (default : HostEntry) with
    name := ⟨ascii ['p', 'i'], by decide, by decide⟩
    protocol := .ssh
    port := 22 }

/-- Both are added, the second one moves to another port, and the first one is deleted; what is left
is loaded again. -/
theorem host_store_refines_edited :
    let s := Run.after (HostStore.step flatJson) .fresh
      [.add nas, .add pi, .update 1 { pi with port := 2222 }]
    (loadFromDisk flatJson { HostStore.fresh with
      file := ((HostCall.delete 0).run flatJson .good s).2.file }).hosts = [{ pi with port := 2222 }] :=
  have next := (host_store_refines flatJson flatJson_faithful
    [.add nas, .add pi, .update 1 { pi with port := 2222 }]).2.2 (.delete 0)
  next.2 (next.1.mpr rfl) .fresh

/-! ### Calls that fail -/

/-- **When a failed call has left the memory alone**: it was refused, or nothing kept it from being
saved, or it replaced a host by itself. -/
theorem host_store_atomic_iff (codec : JsonCodec) (o : Outcomes) (s : HostStore) (call : HostCall) :
    ((call.run codec o s).1 ≠ .ok →
        (call.run codec o s).2.hostStoreCount = s.hostStoreCount ∧
        ∀ index, (call.run codec o s).2.hostStoreGet index = s.hostStoreGet index) ↔
      call.apply s.hosts = none ∨ o.Ok ∨
        ∃ index host, call = .update index host ∧ s.hostStoreGet index = some host := by
  cases applied : call.apply s.hosts with
  | none =>
      have same := (call.run_refused codec o applied).2
      refine iff_of_true (fun _ => ?_) (Or.inl rfl)
      rw [same]
      exact ⟨rfl, fun _ => rfl⟩
  | some hosts =>
      obtain ⟨changed, same, run⟩ := call.run_applied codec o applied
      have unchanged : ((changed.persistToDisk codec o).2.hostStoreCount = s.hostStoreCount ∧
          ∀ index, (changed.persistToDisk codec o).2.hostStoreGet index = s.hostStoreGet index) ↔
          hosts = s.hosts := by
        rw [hostStoreGet_ext, persistToDisk_hosts, same]
        refine and_iff_right_of_imp fun equal => ?_
        rw [hostStoreCount_eq, hostStoreCount_eq, persistToDisk_hosts, same, equal]
      have onItself : hosts = s.hosts ↔
          ∃ index host, call = .update index host ∧ s.hostStoreGet index = some host :=
        call.apply_same applied
      rw [run, unchanged, onItself, ne_eq, persistToDisk_ok]
      simp only [reduceCtorEq, false_or]
      tauto

/-- The file cannot be opened: the host is refused, and in the list. -/
theorem host_store_atomic_fails :
    ¬ ∀ (codec : JsonCodec) (o : Outcomes) (s : HostStore) (call : HostCall),
      (call.run codec o s).1 ≠ .ok →
        (call.run codec o s).2.hostStoreCount = s.hostStoreCount ∧
        ∀ index, (call.run codec o s).2.hostStoreGet index = s.hostStoreGet index := by
  intro all
  have same := (all flatJson { Outcomes.good with fopen := false } .fresh (.add nas)
    (by decide)).1
  exact absurd same (by decide)

end Tab5
