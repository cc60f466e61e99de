/-
**The remembered networks** (`main/wifi_creds.c`).

`WifiCreds` is `s_networks` and `s_count` with the file, and carries the invariant that the first
`s_count` of the 8 elements are a list, `networks`. The arguments of `wifi_creds_save` are pointers,
which may point into that array (`StrPtr`); they are read before anything is moved.

* `netOfItem_iff`: when an item, added field by field, is read back as its network;
* `WifiCreds.networks_save`: what `wifi_creds_save` does to the list;
* `WifiCreds.loaded_iff`: when `wifi_creds_init` loads what was saved.
-/

import Tab5RemoteTerminal.Store.Persist

namespace Tab5

open Json Slots

/-! ### Networks -/

@[ext] structure WifiNetwork where
  ssid : CStr 33
  password : CStr 65
deriving DecidableEq

instance : Inhabited WifiNetwork where
  default := ⟨.empty 33 (by decide), .empty 65 (by decide)⟩

def networksName : List UInt8 := ascii ['n', 'e', 't', 'w', 'o', 'r', 'k', 's']

def ssidName : List UInt8 := ascii ['s', 's', 'i', 'd']
def passwordName : List UInt8 := ascii ['p', 'a', 's', 's', 'w', 'o', 'r', 'd']

/-- The fields `persist_to_disk` adds for a network, in order. -/
def netFields (net : WifiNetwork) : Fields := [
  (ssidName, .string net.ssid.bytes),
  (passwordName, .string net.password.bytes)]

/-- The body of the loop of `wifi_creds_init`: an item without an SSID is skipped. -/
def netOfItem (item : Json) : Option WifiNetwork :=
  match (item.getItem ssidName).bind asString with
  | none => none
  | some ssid => some
      { ssid := .copy 33 (by decide) ssid
        password := (((item.getItem passwordName).bind asString).map (.copy 65 (by decide))).getD
          (.empty 65 (by decide)) }

/-- **When an item is read back as its network**: it has its SSID, and its password unless that is
empty. -/
theorem netOfItem_iff (added : Nat → Bool) (net : WifiNetwork) :
    netOfItem (.object (addFields added (netFields net))) = some net ↔
      added 0 = true ∧ (added 1 = true ∨ net.password.bytes = []) := by
  have distinct : (netFields net).Pairwise
      fun first second => sameName second.1 first.1 = false := by
    have names : [ssidName, passwordName].Pairwise
        fun first second => sameName second first = false := by decide
    exact List.pairwise_map.mp (show ((netFields net).map Prod.fst).Pairwise _ from names)
  have get : ∀ (j : Nat) {field : List UInt8 × Json}, (netFields net)[j]? = some field →
      (Json.object (addFields added (netFields net))).getItem field.1 =
        if added j then some field.2 else none :=
    fun _ _ at_j => findMember_addFields distinct at_j
  have ssid : (Json.object (addFields added (netFields net))).getItem ssidName =
      if added 0 then some (.string net.ssid.bytes) else none := get 0 rfl
  have password : (Json.object (addFields added (netFields net))).getItem passwordName =
      if added 1 then some (.string net.password.bytes) else none := get 1 rfl
  rw [netOfItem, ssid, password]
  cases added 0 with
  | false => simp
  | true =>
      cases added 1 with
      | true => simp [asString]
      | false => simp [asString, WifiNetwork.ext_iff, CStr.ext_iff, CStr.empty, eq_comm]

theorem netFields_flat (networks : List WifiNetwork) : Flat (networks.map netFields) := by
  intro fields mem
  obtain ⟨net, _, rfl⟩ := List.mem_map.mp mem
  simp only [netFields, List.forall_mem_cons]
  exact ⟨⟨by decide, net.ssid.noNul⟩, ⟨by decide, net.password.noNul⟩,
    fun field mem => absurd mem List.not_mem_nil⟩

/-! ### The store -/

/-- `WIFI_CREDS_MAX_NETWORKS` is 8. -/
structure WifiCreds where
  sNetworks : Block 8 WifiNetwork
  sCount : Int
  file : File
  held : ∃ networks, Holds sNetworks sCount networks

/-- A `const char *`: to a string elsewhere, or into a slot of `s_networks`. -/
inductive StrPtr where
  | external (source : List UInt8)
  | slotSsid (i : Int)
  | slotPassword (i : Int)
deriving DecidableEq, Repr

namespace WifiCreds

/-- The networks in memory, most recently used first. -/
def networks (s : WifiCreds) : List WifiNetwork := s.sNetworks.slice 0 s.sCount.toNat

theorem holds (s : WifiCreds) : Holds s.sNetworks s.sCount s.networks := by
  obtain ⟨networks, held⟩ := s.held
  rw [WifiCreds.networks, held.slice]
  exact held

theorem networks_eq {s : WifiCreds} {networks : List WifiNetwork}
    (held : Holds s.sNetworks s.sCount networks) : s.networks = networks :=
  held.slice

/-- The slots from the first on are the list. -/
theorem load_network (s : WifiCreds) {i : Nat} (inside : (i : Int) < s.sCount) :
    s.networks[i]? = some (s.sNetworks.load i) := by
  have count := s.holds.count
  exact s.holds.cells i (by omega)

/-- Static memory, and no file. -/
def fresh : WifiCreds where
  sNetworks := Block.filled 8 default
  sCount := 0
  file := none
  held := ⟨[], .empty rfl⟩

/-- The string a pointer points at. -/
def deref (s : WifiCreds) : StrPtr → List UInt8
  | .external source => CStr.strlen source
  | .slotSsid i => (s.sNetworks.load i).ssid.bytes
  | .slotPassword i => (s.sNetworks.load i).password.bytes

/-- The string of a password, where NULL is the empty one. -/
def derefPassword (s : WifiCreds) (password : Option StrPtr) : List UInt8 :=
  (password.map s.deref).getD []

def persistToDisk (codec : JsonCodec) (o : Outcomes) (s : WifiCreds) : EspErr × WifiCreds :=
  let saved := persist codec o networksName (s.networks.map netFields) s.file
  (saved.1, { s with file := saved.2 })

def wifiCredsInit (codec : JsonCodec) (s : WifiCreds) : WifiCreds :=
  let loaded := fill netOfItem (loadItems codec networksName s.file) (s.sNetworks, 0)
  { s with
    sNetworks := loaded.1
    sCount := loaded.2
    held := ⟨_, (Holds.empty s.holds.clean).fill _ _⟩ }

def wifiCredsCount (s : WifiCreds) : Int := s.sCount

def wifiCredsGet (s : WifiCreds) (index : Int) : Option WifiNetwork :=
  if index < 0 ∨ index ≥ s.sCount then none else some (s.sNetworks.load index)

/-- The first slot with an SSID: the loop of `wifi_creds_find` and of `wifi_creds_save`. -/
def findSlot (s : WifiCreds) (ssid : List UInt8) : Option Nat :=
  (List.range s.sCount.toNat).find? fun i => (s.sNetworks.load i).ssid.bytes = ssid

def wifiCredsFind (s : WifiCreds) (ssid : List UInt8) : Option WifiNetwork :=
  (s.findSlot ssid).map fun i : Nat => s.sNetworks.load i

/-! ### `wifi_creds_save` -/

/-- The network the arguments name; a password of NULL is the empty one. -/
def entry (s : WifiCreds) (ssid : StrPtr) (password : Option StrPtr) : WifiNetwork where
  ssid := .copy 33 (by decide) (s.deref ssid)
  password := .copy 65 (by decide) ((password.map s.deref).getD [])

/-- The slots and their number when the network found before has been taken out. -/
def takeOut (s : WifiCreds) (existing : Option Nat) : Block 8 WifiNetwork × Int :=
  match existing with
  | none => (s.sNetworks, s.sCount)
  | some existing =>
      (CLoop.forLoop existing (s.sCount - 1)
        (fun i networks => networks.store i (networks.load (i + 1))) s.sNetworks, s.sCount - 1)

/-- The list without the element that was found. -/
def without (s : WifiCreds) (existing : Option Nat) : List WifiNetwork :=
  match existing with
  | none => s.networks
  | some existing => s.networks.eraseIdx existing

theorem findSlot_inside {s : WifiCreds} {ssid : List UInt8} {i : Nat}
    (found : s.findSlot ssid = some i) : (i : Int) < s.sCount := by
  have inside := List.mem_range.mp (List.mem_of_find?_eq_some found)
  omega

theorem holds_takeOut (s : WifiCreds) (ssid : List UInt8) :
    Holds (s.takeOut (s.findSlot ssid)).1 (s.takeOut (s.findSlot ssid)).2
      (s.without (s.findSlot ssid)) := by
  cases found : s.findSlot ssid with
  | none => exact s.holds
  | some existing =>
      have inside := findSlot_inside found
      exact s.holds.erase (Int.natCast_nonneg existing) inside

/-- `(s_count < WIFI_CREDS_MAX_NETWORKS) ? s_count : WIFI_CREDS_MAX_NETWORKS - 1`. -/
def insertCount (count : Int) : Int := if count < 8 then count else 7

theorem insertCount_range {networks : Block 8 WifiNetwork} {count : Int}
    {list : List WifiNetwork} (holds : Holds networks count list) :
    0 ≤ insertCount count ∧ insertCount count ≤ count ∧ insertCount count < 8 := by
  have length := holds.count
  have room := holds.room
  unfold insertCount
  split <;> omega

def wifiCredsSave (codec : JsonCodec) (o : Outcomes) (s : WifiCreds) (ssid : StrPtr)
    (password : Option StrPtr) : EspErr × WifiCreds :=
  let entry := s.entry ssid password
  let rest := s.takeOut (s.findSlot (s.deref ssid))
  have holds := s.holds_takeOut (s.deref ssid)
  have range := insertCount_range holds
  persistToDisk codec o { s with
    -- `for (int i = insert_count; i > 0; i--)`
    sNetworks := (shiftUp (insertCount rest.2) rest.1).store 0 entry
    sCount := insertCount rest.2 + 1
    held := ⟨_, holds.insertFront range.1 range.2.1 range.2.2 entry⟩ }

/-- **What `wifi_creds_save` does to the list**, whatever comes of persisting it. -/
theorem networks_save (codec : JsonCodec) (o : Outcomes) (s : WifiCreds) (ssid : StrPtr)
    (password : Option StrPtr) :
    (s.wifiCredsSave codec o ssid password).2.networks =
      s.entry ssid password :: (s.without (s.findSlot (s.deref ssid))).take 7 := by
  have holds := s.holds_takeOut (s.deref ssid)
  obtain ⟨low, atMost, room⟩ := insertCount_range holds
  have inserted := holds.insertFront low atMost room (s.entry ssid password)
  have length := holds.count
  have same : (s.without (s.findSlot (s.deref ssid))).take
      (insertCount (s.takeOut (s.findSlot (s.deref ssid))).2).toNat =
        (s.without (s.findSlot (s.deref ssid))).take 7 := by
    unfold insertCount
    split
    · rw [List.take_of_length_le (by omega), List.take_of_length_le (by omega)]
    · rfl
  rw [same] at inserted
  exact networks_eq inserted

/-- The network saved is the first one. -/
theorem load_save (codec : JsonCodec) (o : Outcomes) (s : WifiCreds) (ssid : StrPtr)
    (password : Option StrPtr) :
    (s.wifiCredsSave codec o ssid password).2.sNetworks.load 0 = s.entry ssid password := by
  have networks := networks_save codec o s ssid password
  have count := (s.wifiCredsSave codec o ssid password).2.holds.count
  rw [networks, List.length_cons] at count
  have first := load_network (s.wifiCredsSave codec o ssid password).2 (i := 0) (by omega)
  rw [networks] at first
  exact (Option.some.inj first).symm

/-- An SSID and a password, as the strings they are. -/
def pair (net : WifiNetwork) : List UInt8 × List UInt8 := (net.ssid.bytes, net.password.bytes)

theorem deref_noNul (s : WifiCreds) (p : StrPtr) : 0 ∉ s.deref p := by
  cases p with
  | external source => exact CStr.strlen_noNul source
  | slotSsid i => exact (s.sNetworks.load i).ssid.noNul
  | slotPassword i => exact (s.sNetworks.load i).password.noNul

theorem derefPassword_noNul (s : WifiCreds) (password : Option StrPtr) :
    0 ∉ s.derefPassword password := by
  cases password with
  | none => exact List.not_mem_nil
  | some p => exact s.deref_noNul p

/-- Strings that fit are saved as they are. -/
theorem pair_entry {s : WifiCreds} {ssid : StrPtr} {password : Option StrPtr}
    (ssidFits : (s.deref ssid).length ≤ 32)
    (passwordFits : (s.derefPassword password).length ≤ 64) :
    pair (s.entry ssid password) = (s.deref ssid, s.derefPassword password) := by
  have first : CStr.copy 33 (by decide) (s.deref ssid) = ⟨s.deref ssid, _, _⟩ :=
    CStr.copy_fits (s.deref_noNul ssid) (by omega)
  have second : CStr.copy 65 (by decide) (s.derefPassword password) =
      ⟨s.derefPassword password, _, _⟩ :=
    CStr.copy_fits (s.derefPassword_noNul password) (by omega)
  exact Prod.ext (congrArg CStr.bytes first) (congrArg CStr.bytes second)

/-! ### Saving and loading -/

/-- **What `wifi_creds_init` leaves in memory**, as far as there is room. -/
theorem networks_init (codec : JsonCodec) (s : WifiCreds) :
    (s.wifiCredsInit codec).networks =
      ((loadItems codec networksName s.file).filterMap netOfItem).take 8 :=
  networks_eq ((Holds.empty s.holds.clean).fill netOfItem (loadItems codec networksName s.file))

/-- The text `persist_to_disk` prints. -/
def text (codec : JsonCodec) (o : Outcomes) (s : WifiCreds) : List UInt8 :=
  codec.print (document o networksName (s.networks.map netFields))

/-- **When a file that was just written loads as what was in memory**: there was nothing to lose, or
the array was created, the whole text was written, and every network was added with its SSID and,
unless it is empty, its password. -/
theorem loaded_iff {codec : JsonCodec} (faithful : codec.Faithful) {o : Outcomes} (ok : o.Ok)
    (s memory : WifiCreds) :
    (wifiCredsInit codec { memory with file := (s.persistToDisk codec o).2.file }).networks =
        s.networks ↔
      s.networks = [] ∨ (o.array = true ∧ o.Whole (s.text codec o) ∧
        ∀ i net, s.networks[i]? = some net → o.item i = true ∧ o.field i 0 = true ∧
          (o.field i 1 = true ∨ net.password.bytes = [])) := by
  have noNul : 0 ∉ networksName := by decide
  have flat := netFields_flat s.networks
  have file : (s.persistToDisk codec o).2.file = some (o.keep (s.text codec o)) :=
    congrArg Prod.snd (persist_ok ok networksName _ s.file)
  have fits : ((loadItems codec networksName (some (o.keep (s.text codec o)))).filterMap
      netOfItem).take 8 =
        (loadItems codec networksName (some (o.keep (s.text codec o)))).filterMap netOfItem := by
    have saved := loadItems_length faithful (o := o) noNul flat
    rw [List.length_map] at saved
    exact List.take_of_length_le
      ((List.length_filterMap_le _ _).trans (saved.trans s.holds.room))
  rw [networks_init, file, fits]
  refine (loadItems_iff faithful noNul flat).trans ?_
  simp only [Outcomes.Keeps, netOfItem_iff]
  rfl

end WifiCreds

end Tab5
