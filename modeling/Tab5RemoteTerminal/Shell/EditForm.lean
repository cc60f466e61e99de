/-
**The edit form** (`main/ui_shell.c`, lines 279 to 456).

`showEditScreen` fills the form, `saveBtnClickCb` makes an entry of what is typed and adds it to the
host list. A port or keepalive number goes through `atoi` and a cast to `uint16_t`; a number in
`hosts.json` goes through the parser's `int` and the same cast. Neither path checks the range.

* `typedKept_iff`: a typed number is what is stored, and shown again, if the entry is refused or the
  number has at most 16 bits;
* `loadedKept_iff`: which numbers of the file are stored as they are, or as zero;
* `numberField_iff`: both.
-/

import Tab5RemoteTerminal.Store.HostList
import Tab5RemoteTerminal.Terminal.Control

namespace Tab5

open Json HostStore

/-! ### The form -/

/-- A text of digits, which is all a number field accepts. -/
structure DigitText where
  bytes : List UInt8
  digits : ∀ c ∈ bytes, isDigit c = true

/-- The number it spells, zero for the empty text. -/
def DigitText.value (text : DigitText) : Int := fieldValue text.bytes

/-- `snprintf` of a `uint16_t` with `"%u"`; its buffers hold five digits. -/
def unsignedText (value : UInt16) : DigitText := ⟨printNat value.toNat, printNat_digits value.toNat⟩

/-- The widgets of `s_edit`. -/
structure EditForm where
  /-- Negative while a new host is added. -/
  index : Int
  name : List UInt8
  group : List UInt8
  protocol : HostProtocol
  address : List UInt8
  port : DigitText
  username : List UInt8
  authType : HostAuthType
  keepalive : DigitText

def defaultPortForProtocol : HostProtocol → UInt16
  | .ssh => 22
  | .telnet => 23
  | .serial => 0

/-- `show_edit_screen`: the host at the index, or an empty form. -/
def showEditScreen (s : HostStore) (hostIndex : Int) : EditForm :=
  match if hostIndex ≥ 0 then s.hostStoreGet hostIndex else none with
  | some existing =>
      { index := hostIndex
        name := existing.name.bytes
        group := existing.group.bytes
        protocol := existing.protocol
        address := existing.address.bytes
        port := unsignedText existing.port
        username := existing.username.bytes
        authType := existing.authType
        keepalive := unsignedText existing.keepaliveSec }
  | none =>
      { index := hostIndex
        name := []
        group := []
        protocol := .ssh
        address := []
        port := unsignedText (defaultPortForProtocol .ssh)
        username := []
        authType := .password
        keepalive := unsignedText 0 }

/-- `atoi` of digits: `strtol` stops at `LONG_MAX`, which an `int` holds. -/
def atoi (text : DigitText) : Int := min text.value 2147483647

theorem roomFor64 : 0 < 64 := by decide

theorem roomFor32 : 0 < 32 := by decide

namespace EditForm

/-- The entry `save_btn_click_cb` fills. -/
def entry (form : EditForm) : HostEntry where
  name := .copy 64 roomFor64 form.name
  group := .copy 64 roomFor64 form.group
  protocol := form.protocol
  address := .copy 64 roomFor64 form.address
  port := UInt16.ofInt (atoi form.port)
  username := .copy 32 roomFor32 form.username
  authType := form.authType
  keepaliveSec := UInt16.ofInt (atoi form.keepalive)

/-- The call it makes. -/
def call (form : EditForm) : HostCall :=
  if form.index < 0 then .add form.entry else .update form.index form.entry

/-- Where the entry goes. -/
def place (form : EditForm) (s : HostStore) : Int :=
  if form.index < 0 then s.hostStoreCount else form.index

/-- The entry cannot be saved: it has no name, the list is full, or there is no host to replace. -/
def Refused (form : EditForm) (s : HostStore) : Prop :=
  CStr.strlen form.name = [] ∨
    if form.index < 0 then s.hostStoreCount ≥ 64 else form.index ≥ s.hostStoreCount

end EditForm

/-- `save_btn_click_cb`: what the store's call returns, if it is made. On `ESP_OK` the home screen is
shown, else the form stays. -/
def saveBtnClickCb (codec : JsonCodec) (o : Outcomes) (form : EditForm) (s : HostStore) :
    Option EspErr × HostStore :=
  if form.entry.name.bytes = [] then (none, s)
  else
    let saved := form.call.run codec o s
    (some saved.1, saved.2)

/-! ### The two number fields -/

inductive NumberField where
  | port
  | keepalive
deriving DecidableEq, Repr

namespace NumberField

/-- What is in the field of the form. -/
def text : NumberField → EditForm → DigitText
  | .port => EditForm.port
  | .keepalive => EditForm.keepalive

/-- The field of the entry. -/
def stored : NumberField → HostEntry → UInt16
  | .port => HostEntry.port
  | .keepalive => HostEntry.keepaliveSec

/-- Its name in the file. -/
def key : NumberField → List UInt8
  | .port => portName
  | .keepalive => keepaliveSecName

end NumberField

/-- A number that is stored as it is, or left at the default. -/
def StoredAs (value : UInt16) (number : Int) : Prop := value.toNat = number ∨ value = 0

/-- What should become of a typed number, unless the entry is refused: whatever comes of writing the
file, the entry in the list holds the number or zero; and if nothing fails, the number is shown when
the form is opened again after a restart. -/
def TypedKept (codec : JsonCodec) (f : NumberField) (form : EditForm) (s : HostStore) : Prop :=
  (saveBtnClickCb codec .good form s).1 = some .ok →
    (∀ o : Outcomes, ∃ h, (saveBtnClickCb codec o form s).2.hostStoreGet (form.place s) = some h ∧
      StoredAs (f.stored h) (f.text form).value) ∧
    ∀ memory : HostStore,
      (f.text (showEditScreen (loadFromDisk codec { memory with
        file := (saveBtnClickCb codec .good form s).2.file }) (form.place s))).value =
          (f.text form).value

/-- What should become of a number of the file: the host loaded for the item, if it is loaded, holds
it or zero. -/
def LoadedKept (codec : JsonCodec) (f : NumberField) (s : HostStore) (i : Nat) (number : Int) :
    Prop :=
  ∀ h, (s.loadFromDisk codec).hostStoreGet i = some h → StoredAs (f.stored h) number

/-! ### Two casts -/

theorem DigitText.value_nonneg (text : DigitText) : 0 ≤ text.value := fieldValue_nonneg text.digits

@[simp] theorem value_unsignedText (value : UInt16) : (unsignedText value).value = value.toNat :=
  fieldValue_printNat value.toNat

theorem toNat_ofInt (i : Int) : ((UInt16.ofInt i).toNat : Int) = i % 65536 := by
  rw [UInt16.ofInt, UInt16.toNat_ofNat_of_lt' (by rw [UInt16.size]; omega)]
  omega

theorem ofInt_eq_zero {i : Int} : UInt16.ofInt i = 0 ↔ 65536 ∣ i := by
  rw [← UInt16.toNat_inj, UInt16.toNat_zero]
  have value := toNat_ofInt i
  omega

/-- **The cast keeps a typed number** of 16 bits, and no other. -/
theorem ofInt_atoi (text : DigitText) :
    ((UInt16.ofInt (atoi text)).toNat : Int) = text.value ↔ text.value ≤ 65535 := by
  have low := text.value_nonneg
  rw [toNat_ofInt, atoi]
  omega

/-- **What the cast makes of a number of the file.** -/
theorem storedAs_valueint (number : Int) :
    StoredAs (UInt16.ofInt (max (-2147483648) (min number 2147483647))) number ↔
      (0 ≤ number ∧ number ≤ 65535) ∨ number ≤ -2147483648 ∨
        (number < 2147483647 ∧ 65536 ∣ number) := by
  rw [StoredAs, toNat_ofInt, ofInt_eq_zero]
  omega

theorem stored_entry (f : NumberField) (form : EditForm) :
    f.stored form.entry = UInt16.ofInt (atoi (f.text form)) := by
  cases f <;> rfl

/-! ### The typed number -/

namespace EditForm

theorem name_empty_iff (form : EditForm) :
    form.entry.name.bytes = [] ↔ CStr.strlen form.name = [] := by
  show (CStr.strlen form.name).take 63 = [] ↔ _
  simp

/-- A call that the store does not refuse puts the entry at its place. -/
theorem apply_call {form : EditForm} {s : HostStore} (accepted : ¬ form.Refused s) :
    ∃ hosts, form.call.apply s.hosts = some hosts ∧ 0 ≤ form.place s ∧
      hosts[(form.place s).toNat]? = some form.entry := by
  have length := s.hostStoreCount_eq
  unfold Refused at accepted
  unfold call place
  by_cases adds : form.index < 0
  · rw [if_pos adds] at accepted ⊢
    rw [if_pos adds]
    refine ⟨s.hosts ++ [form.entry], if_pos (by omega), by omega, ?_⟩
    rw [length, Int.toNat_natCast, List.getElem?_concat_length]
  · rw [if_neg adds] at accepted ⊢
    rw [if_neg adds]
    refine ⟨s.hosts.set form.index.toNat form.entry, if_pos (by omega), by omega, ?_⟩
    exact List.getElem?_set_self (by omega)

theorem refused_apply {form : EditForm} {s : HostStore} (named : CStr.strlen form.name ≠ [])
    (refused : form.Refused s) : form.call.apply s.hosts = none := by
  have length := s.hostStoreCount_eq
  have noRoom := refused.resolve_left named
  unfold call
  by_cases adds : form.index < 0
  · rw [if_pos adds] at noRoom ⊢
    exact if_neg (by omega)
  · rw [if_neg adds] at noRoom ⊢
    exact if_neg (by omega)

end EditForm

/-- A refused entry is not saved. -/
theorem saveBtnClickCb_refused {form : EditForm} {s : HostStore} (refused : form.Refused s)
    (codec : JsonCodec) (o : Outcomes) : (saveBtnClickCb codec o form s).1 ≠ some .ok := by
  unfold saveBtnClickCb
  by_cases nameless : CStr.strlen form.name = []
  · rw [if_pos (form.name_empty_iff.mpr nameless)]
    exact Option.some_ne_none _ ∘ Eq.symm
  · rw [if_neg (mt form.name_empty_iff.mp nameless)]
    have failed := (HostCall.run_refused codec o (EditForm.refused_apply nameless refused)).1
    exact fun ok => failed (Option.some.inj ok)

/-- **An entry that is not refused** is in the list at its place, and what is written is that list. -/
theorem saveBtnClickCb_accepted {form : EditForm} {s : HostStore} (accepted : ¬ form.Refused s)
    (codec : JsonCodec) (o : Outcomes) :
    ∃ changed : HostStore, changed.hostStoreGet (form.place s) = some form.entry ∧
      saveBtnClickCb codec o form s =
        (some (changed.persistToDisk codec o).1, (changed.persistToDisk codec o).2) := by
  obtain ⟨hosts, applied, low, here⟩ := EditForm.apply_call accepted
  obtain ⟨changed, same, run⟩ := HostCall.run_applied codec o applied
  have named : ¬ form.entry.name.bytes = [] := fun empty =>
    accepted (Or.inl (form.name_empty_iff.mp empty))
  refine ⟨changed, ?_, ?_⟩
  · rw [hostStoreGet_eq, if_neg (by omega), same, here]
  · rw [saveBtnClickCb, if_neg named, run]

theorem showEditScreen_text (f : NumberField) {s : HostStore} {index : Int} {h : HostEntry}
    (low : 0 ≤ index) (here : s.hostStoreGet index = some h) :
    f.text (showEditScreen s index) = unsignedText (f.stored h) := by
  rw [showEditScreen, if_pos low, here]
  cases f <;> rfl

/-- **When a typed number is kept**: the entry is refused, or the number has at most 16 bits. -/
theorem typedKept_iff {codec : JsonCodec} (faithful : codec.Faithful) (f : NumberField)
    (form : EditForm) (s : HostStore) :
    TypedKept codec f form s ↔ form.Refused s ∨ (f.text form).value ≤ 65535 := by
  by_cases refused : form.Refused s
  · exact iff_of_true (fun ok => absurd ok (saveBtnClickCb_refused refused codec .good))
      (Or.inl refused)
  rw [or_iff_right refused]
  obtain ⟨saved, inList, click⟩ := saveBtnClickCb_accepted refused codec .good
  have low : 0 ≤ form.place s := (EditForm.apply_call refused).choose_spec.2.1
  have ok : (saveBtnClickCb codec .good form s).1 = some .ok := by
    rw [click]
    exact congrArg some ((persistToDisk_ok codec .good saved).mpr ⟨rfl, rfl, rfl⟩)
  have shown : ∀ memory : HostStore,
      f.text (showEditScreen (loadFromDisk codec { memory with
        file := (saveBtnClickCb codec .good form s).2.file }) (form.place s)) =
        unsignedText (f.stored form.entry) := by
    intro memory
    refine showEditScreen_text f low ?_
    have loaded := load_persisted faithful saved memory
    rw [click, hostStoreGet_ext.mpr loaded, inList]
  constructor
  · intro kept
    have typed := (kept ok).2 s
    rw [shown, value_unsignedText, stored_entry] at typed
    exact (ofInt_atoi _).mp typed
  · intro small _
    have same : ((f.stored form.entry).toNat : Int) = (f.text form).value := by
      rw [stored_entry]
      exact (ofInt_atoi _).mpr small
    refine ⟨fun o => ?_, fun memory => ?_⟩
    · obtain ⟨changed, inList, click⟩ := saveBtnClickCb_accepted refused codec o
      refine ⟨form.entry, ?_, Or.inl same⟩
      rw [click]
      exact inList
    · rw [shown, value_unsignedText, same]

/-! ### A number of the file -/

theorem stored_hostOfItem (f : NumberField) {item : Json} {number : Int}
    (found : item.getItem f.key = some (.number number)) :
    f.stored (hostOfItem item) =
      UInt16.ofInt (max (-2147483648) (min number 2147483647)) := by
  cases f with
  | port =>
      have found : item.getItem portName = some (.number number) := found
      simp [NumberField.stored, hostOfItem, found, asNumber]
  | keepalive =>
      have found : item.getItem keepaliveSecName = some (.number number) := found
      simp [NumberField.stored, hostOfItem, found, asNumber]

/-- **When a number of the file is kept**: the item is one too many, the number has at most 16 bits,
or the casts make zero of it. -/
theorem loadedKept_iff (codec : JsonCodec) (f : NumberField) (s : HostStore) {i : Nat} {item : Json}
    {number : Int} (here : (loadItems codec hostsName s.file)[i]? = some item)
    (found : item.getItem f.key = some (.number number)) :
    LoadedKept codec f s i number ↔
      64 ≤ i ∨ (0 ≤ number ∧ number ≤ 65535) ∨ number ≤ -2147483648 ∨
        (number < 2147483647 ∧ 65536 ∣ number) := by
  have get : (s.loadFromDisk codec).hostStoreGet i =
      if i < 64 then some (hostOfItem item) else none := by
    rw [hostStoreGet_eq, if_neg (by omega), hosts_loadFromDisk, Int.toNat_natCast, List.getElem?_take]
    split
    · rw [List.getElem?_map, here]
      rfl
    · rfl
  unfold LoadedKept
  rw [get]
  by_cases room : i < 64
  · rw [if_pos room, or_iff_right (by omega), ← storedAs_valueint, ← stored_hostOfItem f found]
    constructor
    · exact fun kept => kept _ rfl
    · rintro stored h same
      rw [← Option.some.inj same]
      exact stored
  · rw [if_neg room]
    exact iff_of_true (fun h none => absurd none (by simp)) (Or.inl (by omega))

/-! ### Both paths -/

/-- **When a port or keepalive number is kept**, typed or in the file. -/
theorem numberField_iff {codec : JsonCodec} (faithful : codec.Faithful) (f : NumberField) :
    (∀ (form : EditForm) (s : HostStore),
      TypedKept codec f form s ↔ form.Refused s ∨ (f.text form).value ≤ 65535) ∧
    ∀ (s : HostStore) (i : Nat) (item : Json) (number : Int),
      (loadItems codec hostsName s.file)[i]? = some item →
      item.getItem f.key = some (.number number) →
      (LoadedKept codec f s i number ↔
        64 ≤ i ∨ (0 ≤ number ∧ number ≤ 65535) ∨ number ≤ -2147483648 ∨
          (number < 2147483647 ∧ 65536 ∣ number)) :=
  ⟨typedKept_iff faithful f, fun s _ _ _ here found => loadedKept_iff codec f s here found⟩

/-- The form for a new host, with a name and a port. -/
def newHost (port : DigitText) : EditForm :=
  { showEditScreen .fresh (-1) with name := ascii ['n', 'a', 's'], port := port }

def port2222 : DigitText := ⟨ascii ['2', '2', '2', '2'], List.all_eq_true.mp rfl⟩

theorem numberField_iff_2222 : TypedKept flatJson .port (newHost port2222) .fresh :=
  ((numberField_iff flatJson_faithful .port).1 (newHost port2222) .fresh).mpr
    (Or.inr (by decide))

def port70000 : DigitText := ⟨ascii ['7', '0', '0', '0', '0'], List.all_eq_true.mp rfl⟩

/-- Port 70000 is stored as 4464. -/
theorem numberField_fails :
    ¬ ∀ codec : JsonCodec, codec.Faithful → ∀ (f : NumberField) (form : EditForm) (s : HostStore),
      TypedKept codec f form s := by
  intro all
  have kept := all flatJson flatJson_faithful .port (newHost port70000) .fresh (by decide)
  obtain ⟨h, here, stored⟩ := kept.1 .good
  have wrong : ((saveBtnClickCb flatJson .good (newHost port70000) .fresh).2.hostStoreGet
      ((newHost port70000).place .fresh)).map HostEntry.port = some 4464 := by decide
  rw [here] at wrong
  have port : h.port = 4464 := Option.some.inj wrong
  rw [NumberField.stored, port] at stored
  exact absurd stored (by unfold StoredAs; decide)

end Tab5
