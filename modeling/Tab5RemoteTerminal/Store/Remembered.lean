/-
**What the stores remember.**

* `saved_iff`: when a list that was saved with `ESP_OK` is the list that is loaded;
* `remembered_recent`: when nothing fails, the networks are the last eight used: along any saves and
  restarts, with the arguments of a save anywhere in memory, the list is `Recent.recent` of the
  saves so far.

The second is an invariant, `Remembers`: of the list and the saves, and of the file and the list.
-/

import Tab5RemoteTerminal.Library.Recent
import Tab5RemoteTerminal.Store.HostList
import Tab5RemoteTerminal.Store.WifiCreds

namespace Tab5

open Json Slots

/-! ### What `ESP_OK` means -/

theorem WifiCreds.persistToDisk_ok (codec : JsonCodec) (o : Outcomes) (s : WifiCreds) :
    (s.persistToDisk codec o).1 = .ok ↔ o.Ok :=
  persist_fst codec o networksName _ s.file

/-- **When `ESP_OK` means saved**: the root object, the text and the file were not all there, so
that it was not returned; or there was nothing to save; or the array was created, every byte written
and every element added, with every field that is not its default. -/
theorem saved_iff {codec : JsonCodec} (faithful : codec.Faithful) (o : Outcomes) (s : HostStore)
    (w : WifiCreds) :
    (((s.persistToDisk codec o).1 = .ok → ∀ memory : HostStore,
        (HostStore.loadFromDisk codec
          { memory with file := (s.persistToDisk codec o).2.file }).hosts = s.hosts) ↔
      ¬ o.Ok ∨ s.hosts = [] ∨ (o.array = true ∧ o.Whole (s.text codec o) ∧
        ∀ i h, s.hosts[i]? = some h → o.item i = true ∧ FieldsKept (o.field i) h)) ∧
    (((w.persistToDisk codec o).1 = .ok → ∀ memory : WifiCreds,
        (WifiCreds.wifiCredsInit codec
          { memory with file := (w.persistToDisk codec o).2.file }).networks = w.networks) ↔
      ¬ o.Ok ∨ w.networks = [] ∨ (o.array = true ∧ o.Whole (w.text codec o) ∧
        ∀ i net, w.networks[i]? = some net → o.item i = true ∧ o.field i 0 = true ∧
          (o.field i 1 = true ∨ net.password.bytes = []))) := by
  rw [HostStore.persistToDisk_ok, WifiCreds.persistToDisk_ok]
  by_cases ok : o.Ok
  · have hosts := fun memory => HostStore.loaded_iff faithful ok s memory
    have networks := fun memory => WifiCreds.loaded_iff faithful ok w memory
    simp only [ok, not_true_eq_false, false_or, forall_const]
    constructor
    · exact ⟨fun all => (hosts s).mp (all s), fun saved memory => (hosts memory).mpr saved⟩
    · exact ⟨fun all => (networks w).mp (all w), fun saved memory => (networks memory).mpr saved⟩
  · simp [ok]

/-- One host and one network, and nothing fails: both are there again. -/
theorem saved_iff_one :
    let s := (HostStore.fresh.hostStoreAdd flatJson .good nas).2
    let w := (WifiCreds.fresh.wifiCredsSave flatJson .good (.external (ascii ['a'])) none).2
    (HostStore.loadFromDisk flatJson
        { HostStore.fresh with file := (s.persistToDisk flatJson .good).2.file }).hosts = s.hosts ∧
      (WifiCreds.wifiCredsInit flatJson
        { WifiCreds.fresh with file := (w.persistToDisk flatJson .good).2.file }).networks =
        w.networks := by
  intro s w
  have both := saved_iff flatJson_faithful .good s w
  refine ⟨both.1.mpr (.inr (.inr ⟨rfl, rfl, fun i h _ => ⟨rfl, ?_⟩⟩)) rfl _,
    both.2.mpr (.inr (.inr ⟨rfl, rfl, fun i net _ => ⟨rfl, rfl, .inl rfl⟩⟩)) rfl _⟩
  exact ⟨.inl rfl, .inl rfl, .inl rfl, .inl rfl, .inl rfl, .inl rfl, .inl rfl, .inl rfl⟩

/-- The partition is full: no byte of the text is written, and `ESP_OK` is returned. -/
theorem saved_fails :
    (¬ ∀ (codec : JsonCodec), codec.Faithful → ∀ (o : Outcomes) (s : HostStore),
      (s.persistToDisk codec o).1 = .ok → ∀ memory : HostStore,
        (HostStore.loadFromDisk codec
          { memory with file := (s.persistToDisk codec o).2.file }).hosts = s.hosts) ∧
    (¬ ∀ (codec : JsonCodec), codec.Faithful → ∀ (o : Outcomes) (w : WifiCreds),
      (w.persistToDisk codec o).1 = .ok → ∀ memory : WifiCreds,
        (WifiCreds.wifiCredsInit codec
          { memory with file := (w.persistToDisk codec o).2.file }).networks = w.networks) := by
  constructor
  · intro all
    have same := all flatJson flatJson_faithful { Outcomes.good with written := some 0 }
      (HostStore.fresh.hostStoreAdd flatJson .good nas).2 (by decide) .fresh
    exact absurd same (by decide)
  · intro all
    have same := all flatJson flatJson_faithful { Outcomes.good with written := some 0 }
      (WifiCreds.fresh.wifiCredsSave flatJson .good (.external (ascii ['a'])) none).2 (by decide)
      .fresh
    exact absurd same (by decide)

/-! ### The networks used -/

namespace WifiCreds

/-- What happens to the store: a save, or a restart that finds the file last written. -/
inductive Use where
  | save (ssid : StrPtr) (password : Option StrPtr)
  | restart
deriving DecidableEq, Repr

/-- One use, when nothing fails. -/
def use (codec : JsonCodec) (s : WifiCreds) : Use → WifiCreds
  | .save ssid password => (s.wifiCredsSave codec .good ssid password).2
  | .restart => wifiCredsInit codec { fresh with file := s.file }

/-- The SSID and the password that a use saves: the strings its arguments point at. -/
def saves (s : WifiCreds) : Use → List (List UInt8 × List UInt8)
  | .save ssid password => [(s.deref ssid, s.derefPassword password)]
  | .restart => []

/-! ### One save -/

/-- A slot that is found has the SSID. -/
theorem findSlot_some {s : WifiCreds} {ssid : List UInt8} {i : Nat}
    (found : s.findSlot ssid = some i) :
    ∃ net, s.networks[i]? = some net ∧ net.ssid.bytes = ssid := by
  refine ⟨s.sNetworks.load i, s.load_network (findSlot_inside found), ?_⟩
  simpa using List.find?_some found

/-- When none is found, no network has it. -/
theorem findSlot_none {s : WifiCreds} {ssid : List UInt8} (missing : s.findSlot ssid = none) :
    ∀ net ∈ s.networks, net.ssid.bytes ≠ ssid := by
  intro net mem
  obtain ⟨i, at_i⟩ := List.mem_iff_getElem?.mp mem
  obtain ⟨inside, _⟩ := List.getElem?_eq_some_iff.mp at_i
  have count := s.holds.count
  have load := s.load_network (i := i) (by omega)
  have differs := List.find?_eq_none.mp missing i (List.mem_range.mpr (by omega))
  rw [Option.some.inj (at_i.symm.trans load)]
  simpa using differs

/-- **Taking out the slot found** takes out the SSID, when no two networks have it. -/
theorem without_findSlot {s : WifiCreds}
    (nodup : (s.networks.map fun net => net.ssid.bytes).Nodup) (ssid : List UInt8) :
    s.without (s.findSlot ssid) = s.networks.filter fun net => net.ssid.bytes ≠ ssid := by
  cases found : s.findSlot ssid with
  | none =>
      refine (List.filter_eq_self.mpr fun net mem => ?_).symm
      simpa using findSlot_none found net mem
  | some i =>
      obtain ⟨net, at_i, rfl⟩ := findSlot_some found
      exact Recent.eraseIdx_eq_filter nodup at_i

/-- **What is found**, when no two networks have one SSID. -/
theorem wifiCredsFind_mem {s : WifiCreds}
    (nodup : (s.networks.map fun net => net.ssid.bytes).Nodup) {net : WifiNetwork}
    (mem : net ∈ s.networks) : s.wifiCredsFind net.ssid.bytes = some net := by
  cases found : s.findSlot net.ssid.bytes with
  | none => exact absurd rfl (findSlot_none found net mem)
  | some i =>
      obtain ⟨other, at_i, same⟩ := findSlot_some found
      have equal : other = net :=
        List.inj_on_of_nodup_map nodup (List.mem_of_getElem? at_i) mem same
      have load := s.load_network (findSlot_inside found)
      rw [wifiCredsFind, found, Option.map_some, ← equal]
      exact load.symm.trans at_i

/-! ### Saves and restarts -/

/-- The list is that of the last eight used, and what a restart finds. -/
structure Remembers (codec : JsonCodec) (s : WifiCreds)
    (history : List (List UInt8 × List UInt8)) : Prop where
  recent : s.networks.map pair = Recent.recent Prod.fst 8 history
  file : s.file = (s.persistToDisk codec .good).2.file ∨ (s.file = none ∧ s.networks = [])

/-- The file a save writes, when nothing fails. -/
theorem persistToDisk_file (codec : JsonCodec) (s : WifiCreds) :
    (s.persistToDisk codec .good).2.file = some (s.text codec .good) :=
  congrArg Prod.snd (persist_ok ⟨rfl, rfl, rfl⟩ networksName _ s.file)

theorem text_congr {codec : JsonCodec} {o : Outcomes} {s s' : WifiCreds}
    (same : s.networks = s'.networks) : s.text codec o = s'.text codec o := by
  rw [text, text, same]

namespace Remembers

variable {codec : JsonCodec} {s : WifiCreds} {history : List (List UInt8 × List UInt8)}

theorem nodup (remembers : Remembers codec s history) :
    (s.networks.map fun net => net.ssid.bytes).Nodup := by
  have distinct := Recent.recent_nodup Prod.fst 8 history
  rw [← remembers.recent, List.map_map] at distinct
  exact distinct

theorem fresh (codec : JsonCodec) : Remembers codec .fresh [] := ⟨rfl, .inr ⟨rfl, rfl⟩⟩

/-- A save is one more use. -/
theorem save (remembers : Remembers codec s history) {ssid : StrPtr} {password : Option StrPtr}
    (ssidFits : (s.deref ssid).length ≤ 32)
    (passwordFits : (s.derefPassword password).length ≤ 64) :
    Remembers codec (s.wifiCredsSave codec .good ssid password).2
      (history ++ [(s.deref ssid, s.derefPassword password)]) := by
  refine ⟨?_, Or.inl ?_⟩
  · have others : ((s.networks.map pair).filter fun used => used.1 ≠ s.deref ssid) =
        (s.networks.filter fun net => net.ssid.bytes ≠ s.deref ssid).map pair := List.filter_map
    rw [networks_save, without_findSlot remembers.nodup, List.map_cons, List.map_take,
      pair_entry ssidFits passwordFits, Recent.recent_concat, ← remembers.recent, others]
  · rw [persistToDisk_file]
    exact (persistToDisk_file codec _).trans (congrArg some (text_congr rfl))

/-- A restart is none. -/
theorem restart (remembers : Remembers codec s history) (faithful : codec.Faithful) :
    Remembers codec (wifiCredsInit codec { WifiCreds.fresh with file := s.file }) history := by
  have same : (wifiCredsInit codec { WifiCreds.fresh with file := s.file }).networks =
      s.networks := by
    rcases remembers.file with written | ⟨none, empty⟩
    · rw [written]
      exact (loaded_iff faithful ⟨rfl, rfl, rfl⟩ s .fresh).mpr
        (.inr ⟨rfl, rfl, fun i net _ => ⟨rfl, rfl, .inl rfl⟩⟩)
    · rw [networks_init, empty]
      show ((loadItems codec networksName s.file).filterMap netOfItem).take 8 = []
      rw [none]
      rfl
  refine ⟨by rw [same, remembers.recent], ?_⟩
  rw [persistToDisk_file, text_congr same, ← persistToDisk_file, same]
  exact remembers.file

theorem use (remembers : Remembers codec s history) (faithful : codec.Faithful) (u : Use)
    (short : ∀ saved ∈ s.saves u, saved.1.length ≤ 32 ∧ saved.2.length ≤ 64) :
    Remembers codec (s.use codec u) (history ++ s.saves u) := by
  cases u with
  | save ssid password =>
      obtain ⟨ssidFits, passwordFits⟩ := short _ (List.mem_singleton.mpr rfl)
      exact remembers.save ssidFits passwordFits
  | restart =>
      rw [saves, List.append_nil]
      exact remembers.restart faithful

end Remembers

/-- The saves of some uses, in order. -/
def history (codec : JsonCodec) (uses : List Use) : List (List UInt8 × List UInt8) :=
  Run.emitted (use codec) saves fresh uses

theorem remembers_after {codec : JsonCodec} (faithful : codec.Faithful) {uses : List Use}
    (short : ∀ saved ∈ history codec uses, saved.1.length ≤ 32 ∧ saved.2.length ≤ 64) :
    Remembers codec (Run.after (use codec) fresh uses) (history codec uses) :=
  Run.emitted_rule_one (Remembers codec)
    (fun _ u _ remembers short => remembers.use faithful u short) (.fresh codec)
    (Run.meets_of_emitted short)

end WifiCreds

open WifiCreds

/-- **The networks are the last eight used.** After any saves and restarts from an empty store, of
SSIDs of at most 32 bytes and passwords of at most 64: the list is that of the last eight SSIDs
saved, newest first, each with the password of its last save. No SSID is there twice, the count is
that of the list and at most 8, and what is found of an SSID is its last save. Saving the first
network through pointers into its own slot is saving its strings. -/
theorem remembered_recent (codec : JsonCodec) (faithful : codec.Faithful) (uses : List Use)
    (short : ∀ saved ∈ history codec uses, saved.1.length ≤ 32 ∧ saved.2.length ≤ 64) :
    let s := Run.after (use codec) fresh uses
    s.networks.map pair = Recent.recent Prod.fst 8 (history codec uses) ∧
      (s.networks.map fun net => net.ssid.bytes).Nodup ∧
      (s.wifiCredsCount = s.networks.length ∧ s.wifiCredsCount ≤ 8) ∧
      (∀ net ∈ s.networks, s.wifiCredsFind net.ssid.bytes = some net ∧
        ((history codec uses).reverse.find? fun saved => saved.1 = net.ssid.bytes) =
          some (pair net)) ∧
      ∀ (o : Outcomes) (net : WifiNetwork), s.wifiCredsGet 0 = some net →
        s.wifiCredsSave codec o (.slotSsid 0) (some (.slotPassword 0)) =
          s.wifiCredsSave codec o (.external net.ssid.bytes)
            (some (.external net.password.bytes)) := by
  intro s
  have remembers : Remembers codec s (history codec uses) := remembers_after faithful short
  have count := s.holds.count
  have room := s.holds.room
  refine ⟨remembers.recent, remembers.nodup, ⟨count, ?_⟩, fun net mem => ⟨?_, ?_⟩, ?_⟩
  · rw [wifiCredsCount, count]
    omega
  · exact wifiCredsFind_mem remembers.nodup mem
  · have used : pair net ∈ Recent.recent Prod.fst 8 (history codec uses) := by
      rw [← remembers.recent]
      exact List.mem_map_of_mem mem
    exact Recent.recent_last used
  · intro o net first
    simp only [wifiCredsGet, Option.ite_none_left_eq_some, Option.some.injEq] at first
    obtain ⟨_, rfl⟩ := first
    have ssid : s.deref (.external (s.sNetworks.load 0).ssid.bytes) = s.deref (.slotSsid 0) :=
      CStr.strlen_of_noNul (s.sNetworks.load 0).ssid.noNul
    have password : s.deref (.external (s.sNetworks.load 0).password.bytes) =
        s.deref (.slotPassword 0) := CStr.strlen_of_noNul (s.sNetworks.load 0).password.noNul
    simp only [wifiCredsSave, entry, Option.map_some, ssid, password]

/-- Two networks, a restart, and the older one again, through its own slot. -/
theorem remembered_recent_again :
    (Run.after (use flatJson) fresh [.save (.external (ascii ['a'])) none,
      .save (.external (ascii ['b'])) (some (.external (ascii ['x']))), .restart,
      .save (.slotSsid 1) (some (.slotPassword 0))]).networks.map pair =
        [(ascii ['a'], ascii ['x']), (ascii ['b'], ascii ['x'])] :=
  (remembered_recent flatJson flatJson_faithful _ (by decide)).1.trans (by decide)

end Tab5
