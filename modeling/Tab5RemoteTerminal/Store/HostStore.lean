/-
**The host list** (`main/host_store.c`).

`HostStore` is `s_hosts` and `s_host_count` with the file, and carries the invariant that the first
`s_host_count` of the 64 elements are a list and no access has left the array; `hosts` is that list.
A `host_entry_t` is a `HostEntry`: its strings end inside their arrays and are zero behind their
ends, as `save_btn_click_cb` and `load_from_disk` fill them.

* `hostOfItem_iff`: when an item, added field by field, is read back as its host;
* `HostStore.hosts_loadFromDisk`: what `load_from_disk` leaves in memory;
* `HostStore.loaded_iff`: when that is what `persist_to_disk` has saved.
-/

import Tab5RemoteTerminal.Store.Persist

namespace Tab5

open Json Slots

/-! ### Hosts -/

inductive HostProtocol where
  | ssh
  | telnet
  | serial
deriving DecidableEq, Repr

inductive HostAuthType where
  | password
  | key
deriving DecidableEq, Repr

@[ext] structure HostEntry where
  name : CStr 64
  group : CStr 64
  protocol : HostProtocol
  address : CStr 64
  port : UInt16
  username : CStr 32
  authType : HostAuthType
  keepaliveSec : UInt16
deriving DecidableEq

/-- After `memset(h, 0, sizeof(*h))`. -/
instance : Inhabited HostEntry where
  default := {
    name := .empty 64 (by decide)
    group := .empty 64 (by decide)
    protocol := .ssh
    address := .empty 64 (by decide)
    port := 0
    username := .empty 32 (by decide)
    authType := .password
    keepaliveSec := 0 }

def protocolToStr : HostProtocol → List UInt8
  | .ssh => ascii ['s', 's', 'h']
  | .telnet => ascii ['t', 'e', 'l', 'n', 'e', 't']
  | .serial => ascii ['s', 'e', 'r', 'i', 'a', 'l']

def protocolFromStr (s : List UInt8) : HostProtocol :=
  if s = ascii ['t', 'e', 'l', 'n', 'e', 't'] then .telnet
  else if s = ascii ['s', 'e', 'r', 'i', 'a', 'l'] then .serial
  else .ssh

def authTypeToStr : HostAuthType → List UInt8
  | .key => ascii ['k', 'e', 'y']
  | .password => ascii ['p', 'a', 's', 's', 'w', 'o', 'r', 'd']

def authTypeFromStr (s : List UInt8) : HostAuthType :=
  if s = ascii ['k', 'e', 'y'] then .key else .password

@[simp] theorem protocolFromStr_toStr (p : HostProtocol) :
    protocolFromStr (protocolToStr p) = p := by
  cases p <;> decide

@[simp] theorem authTypeFromStr_toStr (a : HostAuthType) :
    authTypeFromStr (authTypeToStr a) = a := by
  cases a <;> decide

/-! ### A host as an item -/

def hostsName : List UInt8 := ascii ['h', 'o', 's', 't', 's']

def nameName : List UInt8 := ascii ['n', 'a', 'm', 'e']
def groupName : List UInt8 := ascii ['g', 'r', 'o', 'u', 'p']
def protocolName : List UInt8 := ascii ['p', 'r', 'o', 't', 'o', 'c', 'o', 'l']
def addressName : List UInt8 := ascii ['a', 'd', 'd', 'r', 'e', 's', 's']
def portName : List UInt8 := ascii ['p', 'o', 'r', 't']
def usernameName : List UInt8 := ascii ['u', 's', 'e', 'r', 'n', 'a', 'm', 'e']
def authTypeName : List UInt8 := ascii ['a', 'u', 't', 'h', '_', 't', 'y', 'p', 'e']
def keepaliveSecName : List UInt8 :=
  ascii ['k', 'e', 'e', 'p', 'a', 'l', 'i', 'v', 'e', '_', 's', 'e', 'c']

/-- The fields `persist_to_disk` adds for a host, in order. -/
def hostFields (h : HostEntry) : Fields := [
  (nameName, .string h.name.bytes),
  (groupName, .string h.group.bytes),
  (protocolName, .string (protocolToStr h.protocol)),
  (addressName, .string h.address.bytes),
  (portName, .number h.port.toNat),
  (usernameName, .string h.username.bytes),
  (authTypeName, .string (authTypeToStr h.authType)),
  (keepaliveSecName, .number h.keepaliveSec.toNat)]

/-- The body of the loop of `load_from_disk`: what an item does not say stays zero, and a number is
cast to `uint16_t`. -/
def hostOfItem (item : Json) : HostEntry :=
  let string := fun name => (item.getItem name).bind asString
  let number := fun name => (item.getItem name).bind asNumber
  let zero : HostEntry := default
  { name := ((string nameName).map (.copy 64 (by decide))).getD zero.name
    group := ((string groupName).map (.copy 64 (by decide))).getD zero.group
    protocol := ((string protocolName).map protocolFromStr).getD zero.protocol
    address := ((string addressName).map (.copy 64 (by decide))).getD zero.address
    port := ((number portName).map UInt16.ofInt).getD zero.port
    username := ((string usernameName).map (.copy 32 (by decide))).getD zero.username
    authType := ((string authTypeName).map authTypeFromStr).getD zero.authType
    keepaliveSec := ((number keepaliveSecName).map UInt16.ofInt).getD zero.keepaliveSec }

/-- Every field of the host is added or zero anyway. -/
structure FieldsKept (added : Nat → Bool) (h : HostEntry) : Prop where
  name : added 0 = true ∨ h.name = (default : HostEntry).name
  group : added 1 = true ∨ h.group = (default : HostEntry).group
  protocol : added 2 = true ∨ h.protocol = .ssh
  address : added 3 = true ∨ h.address = (default : HostEntry).address
  port : added 4 = true ∨ h.port = 0
  username : added 5 = true ∨ h.username = (default : HostEntry).username
  authType : added 6 = true ∨ h.authType = .password
  keepaliveSec : added 7 = true ∨ h.keepaliveSec = 0

theorem hostFields_distinct (h : HostEntry) :
    (hostFields h).Pairwise fun first second => sameName second.1 first.1 = false := by
  have names : ((hostFields h).map Prod.fst).Pairwise
      fun first second => sameName second first = false := by
    show [nameName, groupName, protocolName, addressName, portName, usernameName, authTypeName,
      keepaliveSecName].Pairwise _
    decide
  exact List.pairwise_map.mp names

/-- The `j`-th field of the item, read back. -/
theorem getItem_hostFields {added : Nat → Bool} {h : HostEntry} {j : Nat}
    {field : List UInt8 × Json} (at_j : (hostFields h)[j]? = some field) :
    (Json.object (addFields added (hostFields h))).getItem field.1 =
      if added j then some field.2 else none :=
  findMember_addFields (hostFields_distinct h) at_j

theorem ofInt_valueint (value : UInt16) :
    UInt16.ofInt (max (-2147483648) (min (value.toNat : Int) 2147483647)) = value := by
  have small : value.toNat < 65536 := value.toNat_lt
  have same : max (-2147483648) (min (value.toNat : Int) 2147483647) = value.toNat := by omega
  have reduced : ((value.toNat : Int) % 2 ^ 16).toNat = value.toNat := by omega
  rw [UInt16.ofInt, same, reduced, UInt16.ofNat_toNat]

/-- A field that is added is read back, and one that is not is zero. -/
theorem read_iff {α β : Type} {added : Bool} {value zero : α} {found : Option Json} {json : Json}
    {as : Json → Option β} {read : β → α} (get : found = if added then some json else none)
    (back : (as json).map read = some value) :
    ((found.bind as).map read).getD zero = value ↔ added = true ∨ value = zero := by
  rw [get]
  cases added with
  | false => simp [eq_comm]
  | true => simp [back]

/-- **When an item is read back as its host.** -/
theorem hostOfItem_iff (added : Nat → Bool) (h : HostEntry) :
    hostOfItem (.object (addFields added (hostFields h))) = h ↔ FieldsKept added h := by
  have get : ∀ (j : Nat) {field : List UInt8 × Json}, (hostFields h)[j]? = some field →
      (Json.object (addFields added (hostFields h))).getItem field.1 =
        if added j then some field.2 else none := fun _ _ at_j => getItem_hostFields at_j
  have string : ∀ {n : Nat} {room : 0 < n} (s : CStr n),
      (asString (.string s.bytes)).map (CStr.copy n room) = some s := by
    intro n room s
    exact congrArg some (CStr.copy_bytes s)
  have number : ∀ value : UInt16, (asNumber (.number value.toNat)).map UInt16.ofInt = some value :=
    fun value => congrArg some (ofInt_valueint value)
  let item : Json := .object (addFields added (hostFields h))
  have name : (hostOfItem item).name = h.name ↔
      added 0 = true ∨ h.name = (default : HostEntry).name :=
    read_iff (get 0 rfl) (string h.name)
  have group : (hostOfItem item).group = h.group ↔
      added 1 = true ∨ h.group = (default : HostEntry).group :=
    read_iff (get 1 rfl) (string h.group)
  have protocol : (hostOfItem item).protocol = h.protocol ↔ added 2 = true ∨ h.protocol = .ssh :=
    read_iff (get 2 rfl) (congrArg some (protocolFromStr_toStr h.protocol))
  have address : (hostOfItem item).address = h.address ↔
      added 3 = true ∨ h.address = (default : HostEntry).address :=
    read_iff (get 3 rfl) (string h.address)
  have port : (hostOfItem item).port = h.port ↔ added 4 = true ∨ h.port = 0 :=
    read_iff (get 4 rfl) (number h.port)
  have username : (hostOfItem item).username = h.username ↔
      added 5 = true ∨ h.username = (default : HostEntry).username :=
    read_iff (get 5 rfl) (string h.username)
  have authType : (hostOfItem item).authType = h.authType ↔
      added 6 = true ∨ h.authType = .password :=
    read_iff (get 6 rfl) (congrArg some (authTypeFromStr_toStr h.authType))
  have keepaliveSec : (hostOfItem item).keepaliveSec = h.keepaliveSec ↔
      added 7 = true ∨ h.keepaliveSec = 0 :=
    read_iff (get 7 rfl) (number h.keepaliveSec)
  rw [HostEntry.ext_iff, name, group, protocol, address, port, username, authType, keepaliveSec]
  constructor
  · rintro ⟨name, group, protocol, address, port, username, authType, keepaliveSec⟩
    exact ⟨name, group, protocol, address, port, username, authType, keepaliveSec⟩
  · rintro ⟨name, group, protocol, address, port, username, authType, keepaliveSec⟩
    exact ⟨name, group, protocol, address, port, username, authType, keepaliveSec⟩

theorem hostFields_flat (hosts : List HostEntry) : Flat (hosts.map hostFields) := by
  intro fields mem
  obtain ⟨h, _, rfl⟩ := List.mem_map.mp mem
  have small : ∀ value : UInt16, (Json.number value.toNat).IsScalar := by
    intro value
    have := value.toNat_lt
    exact ⟨by omega, by omega⟩
  have protocol : 0 ∉ protocolToStr h.protocol := by cases h.protocol <;> decide
  have authType : 0 ∉ authTypeToStr h.authType := by cases h.authType <;> decide
  simp only [hostFields, List.forall_mem_cons]
  refine ⟨⟨by decide, h.name.noNul⟩, ⟨by decide, h.group.noNul⟩, ⟨by decide, protocol⟩,
    ⟨by decide, h.address.noNul⟩, ⟨by decide, small h.port⟩, ⟨by decide, h.username.noNul⟩,
    ⟨by decide, authType⟩, ⟨by decide, small h.keepaliveSec⟩, ?_⟩
  exact fun field mem => absurd mem List.not_mem_nil

/-! ### The store -/

/-- `HOST_STORE_MAX_HOSTS` is 64. -/
structure HostStore where
  sHosts : Block 64 HostEntry
  sHostCount : Int
  file : File
  held : ∃ hosts, Holds sHosts sHostCount hosts

namespace HostStore

/-- The hosts in memory. -/
def hosts (s : HostStore) : List HostEntry := s.sHosts.slice 0 s.sHostCount.toNat

theorem holds (s : HostStore) : Holds s.sHosts s.sHostCount s.hosts := by
  obtain ⟨hosts, held⟩ := s.held
  rw [HostStore.hosts, held.slice]
  exact held

theorem hosts_eq {s : HostStore} {hosts : List HostEntry}
    (held : Holds s.sHosts s.sHostCount hosts) : s.hosts = hosts :=
  held.slice

/-- Static memory, and no file. -/
def fresh : HostStore where
  sHosts := Block.filled 64 default
  sHostCount := 0
  file := none
  held := ⟨[], .empty rfl⟩

/-- `persist_to_disk`. -/
def persistToDisk (codec : JsonCodec) (o : Outcomes) (s : HostStore) : EspErr × HostStore :=
  let saved := persist codec o hostsName (s.hosts.map hostFields) s.file
  (saved.1, { s with file := saved.2 })

/-- `load_from_disk`. -/
def loadFromDisk (codec : JsonCodec) (s : HostStore) : HostStore :=
  let loaded := fill (fun item => some (hostOfItem item)) (loadItems codec hostsName s.file)
    (s.sHosts, 0)
  { s with
    sHosts := loaded.1
    sHostCount := loaded.2
    held := ⟨_, (Holds.empty s.holds.clean).fill _ _⟩ }

def hostStoreCount (s : HostStore) : Int := s.sHostCount

def hostStoreGet (s : HostStore) (index : Int) : Option HostEntry :=
  if index < 0 ∨ index ≥ s.sHostCount then none else some (s.sHosts.load index)

def hostStoreAdd (codec : JsonCodec) (o : Outcomes) (s : HostStore) (host : HostEntry) :
    EspErr × HostStore :=
  if full : s.sHostCount ≥ 64 then (.noMem, s)
  else
    persistToDisk codec o { s with
      sHosts := s.sHosts.store s.sHostCount host
      sHostCount := s.sHostCount + 1
      held := ⟨_, s.holds.append (by omega) host⟩ }

def hostStoreUpdate (codec : JsonCodec) (o : Outcomes) (s : HostStore) (index : Int)
    (host : HostEntry) : EspErr × HostStore :=
  if outside : index < 0 ∨ index ≥ s.sHostCount then (.invalidArg, s)
  else
    persistToDisk codec o { s with
      sHosts := s.sHosts.store index host
      held := ⟨_, s.holds.set (by omega) (by omega) host⟩ }

def hostStoreDelete (codec : JsonCodec) (o : Outcomes) (s : HostStore) (index : Int) :
    EspErr × HostStore :=
  if outside : index < 0 ∨ index ≥ s.sHostCount then (.invalidArg, s)
  else
    persistToDisk codec o { s with
      sHosts := CLoop.forLoop index (s.sHostCount - 1)
        (fun i hosts => hosts.store i (hosts.load (i + 1))) s.sHosts
      sHostCount := s.sHostCount - 1
      held := ⟨_, s.holds.erase (by omega) (by omega)⟩ }

/-- `host_store_get`, over the list. -/
theorem hostStoreGet_eq (s : HostStore) (index : Int) :
    s.hostStoreGet index = if index < 0 then none else s.hosts[index.toNat]? := by
  have held := s.holds
  have length := held.count
  unfold hostStoreGet
  by_cases low : index < 0
  · rw [if_pos (Or.inl low), if_pos low]
  · rw [if_neg low]
    by_cases high : index ≥ s.sHostCount
    · rw [if_pos (Or.inr high), List.getElem?_eq_none (by omega)]
    · have cast : ((index.toNat : Nat) : Int) = index := by omega
      rw [if_neg (by omega), held.cells index.toNat (by omega), cast]

/-- **What `load_from_disk` leaves in memory**, as far as there is room. -/
theorem hosts_loadFromDisk (codec : JsonCodec) (s : HostStore) :
    (s.loadFromDisk codec).hosts =
      ((loadItems codec hostsName s.file).map hostOfItem).take 64 := by
  have filled := (Holds.empty s.holds.clean).fill (fun item => some (hostOfItem item))
    (loadItems codec hostsName s.file)
  rw [List.filterMap_eq_map'] at filled
  exact hosts_eq filled

/-- The text `persist_to_disk` prints. -/
def text (codec : JsonCodec) (o : Outcomes) (s : HostStore) : List UInt8 :=
  codec.print (document o hostsName (s.hosts.map hostFields))

/-- **When a file that was just written loads as what was in memory**: there was nothing to lose, or
the array was created, the whole text was written, and every host was added with every field of it
that is not zero. -/
theorem loaded_iff {codec : JsonCodec} (faithful : codec.Faithful) {o : Outcomes} (ok : o.Ok)
    (s memory : HostStore) :
    (loadFromDisk codec { memory with file := (s.persistToDisk codec o).2.file }).hosts = s.hosts ↔
      s.hosts = [] ∨ (o.array = true ∧ o.Whole (s.text codec o) ∧
        ∀ i h, s.hosts[i]? = some h → o.item i = true ∧ FieldsKept (o.field i) h) := by
  have noNul : 0 ∉ hostsName := by decide
  have flat := hostFields_flat s.hosts
  have file : (s.persistToDisk codec o).2.file = some (o.keep (s.text codec o)) :=
    congrArg Prod.snd (persist_ok ok hostsName _ s.file)
  have fits : ((loadItems codec hostsName (some (o.keep (s.text codec o)))).map hostOfItem).take 64 =
      (loadItems codec hostsName (some (o.keep (s.text codec o)))).filterMap
        (some ∘ hostOfItem) := by
    have saved := loadItems_length faithful (o := o) noNul flat
    rw [List.length_map] at saved
    rw [List.filterMap_eq_map, List.take_of_length_le]
    rw [List.length_map]
    exact saved.trans s.holds.room
  rw [hosts_loadFromDisk, file, fits]
  refine (loadItems_iff faithful noNul flat).trans ?_
  simp only [Outcomes.Keeps, Function.comp_apply, Option.some.injEq, hostOfItem_iff]
  rfl

end HostStore

end Tab5
