/-
**What the shell is for: a list of hosts.**

`Roster` says it in its own terms: a list of hosts, and on the screen either those that match a
search, or a draft of one host, new or taken from the list. `Roster.step` is what an input means
for it. The shell keeps indices in the user data of its rows and in `s_edit`, texts in its form, and
the hosts in the array of the store; `Depicts` connects the two.

* `Depicts.step`: every step of the shell is the step of the roster it means;
* `shell_refines`: so is every run, and what is on the screen survives a restart, as long as the
  file can be written.
-/

import Tab5RemoteTerminal.Library.Run
import Tab5RemoteTerminal.Shell.Machine

namespace Tab5

open HostStore

/-! ### The roster -/

inductive RosterScreen where
  /-- The search, and whether its hosts are listed at all; and a message above them. -/
  | list (search : List UInt8) (listed : Bool) (banner : List UInt8)
  /-- A host as it is to be: a new one, or the one at a place of the list. -/
  | draft (target : Option Nat) (host : HostEntry)
  | other

structure Roster where
  hosts : List HostEntry
  notice : CStr 128
  screen : RosterScreen

/-- A field of the draft gets a value. -/
inductive HostChange where
  | name (value : CStr 64)
  | group (value : CStr 64)
  | protocol (value : HostProtocol)
  | address (value : CStr 64)
  | port (value : UInt16)
  | username (value : CStr 32)
  | authType (value : HostAuthType)
  | keepaliveSec (value : UInt16)

/-- The port follows the protocol as long as the host is new. -/
def HostChange.apply (target : Option Nat) (h : HostEntry) : HostChange → HostEntry
  | .name value => { h with name := value }
  | .group value => { h with group := value }
  | .protocol value =>
      { h with
        protocol := value
        port := if target.isSome then h.port else defaultPortForProtocol value }
  | .address value => { h with address := value }
  | .port value => { h with port := value }
  | .username value => { h with username := value }
  | .authType value => { h with authType := value }
  | .keepaliveSec value => { h with keepaliveSec := value }

inductive RosterAction where
  | search (text : List UInt8) (listed : Bool)
  | choose (index : Int) (opened : Bool)
  | edit (index : Int)
  | add
  | leave
  | change (change : HostChange)
  /-- The draft is saved; `written` is whether the file is. -/
  | save (written : Bool) (listed : Bool)
  | remove (listed : Bool)
  | showList (listed : Bool)
  | cancel (listed : Bool)
  | notify (notice : CStr 128)

namespace Roster

/-- A new host. -/
def newHost : HostEntry := { (default : HostEntry) with port := defaultPortForProtocol .ssh }

/-- The host at an index, if it is listed. -/
def listed (r : Roster) (search : List UInt8) (index : Int) : Option HostEntry :=
  if index < 0 then none
  else r.hosts[index.toNat]?.filter fun h => matchesFilter h search

def showList (r : Roster) (listed : Bool) : Roster :=
  { r with
    notice := .empty 128 roomFor128
    screen := .list [] listed r.notice.bytes }

/-- What saving a draft does to the list. -/
def draftCall (target : Option Nat) (h : HostEntry) : HostCall :=
  match target with
  | none => .add h
  | some i => .update i h

def save (r : Roster) (target : Option Nat) (h : HostEntry) (written listed : Bool) : Roster :=
  if h.name.bytes = [] then r
  else
    match (draftCall target h).apply r.hosts with
    | none => r
    | some hosts => if written then { r with hosts := hosts }.showList listed
        else { r with hosts := hosts }

def step (r : Roster) (a : RosterAction) : Roster :=
  match r.screen, a with
  | _, .showList listed => r.showList listed
  | _, .notify notice => { r with notice := notice }
  | .list _ _ banner, .search text listed => { r with screen := .list text listed banner }
  | .list search true _, .choose index opened =>
      match r.listed search index with
      | none => r
      | some h =>
          if h.protocol = .serial then { r with screen := .draft (some index.toNat) h }
          else if opened then { r with screen := .other }
          else r
  | .list search true _, .edit index =>
      match r.listed search index with
      | none => r
      | some h => { r with screen := .draft (some index.toNat) h }
  | .list _ _ _, .add => { r with screen := .draft none newHost }
  | .list _ _ _, .leave => { r with screen := .other }
  | .draft target h, .change change => { r with screen := .draft target (change.apply target h) }
  | .draft target h, .save written listed => r.save target h written listed
  | .draft (some i) _, .remove listed => { r with hosts := r.hosts.eraseIdx i }.showList listed
  | .draft _ _, .cancel listed => r.showList listed
  | _, _ => r

end Roster

/-! ### What an input means -/

/-- The bits a number field stores. -/
def DigitText.bits (text : DigitText) : UInt16 := UInt16.ofNat text.value.toNat

def FormInput.meaning : FormInput → HostChange
  | .name text => .name (.copy 64 roomFor64 text)
  | .group text => .group (.copy 64 roomFor64 text)
  | .protocol selected => .protocol selected
  | .address text => .address (.copy 64 roomFor64 text)
  | .port text => .port text.bits
  | .username text => .username (.copy 32 roomFor32 text)
  | .authType selected => .authType selected
  | .keepalive text => .keepaliveSec text.bits

def ShellAction.meaning : ShellAction → RosterAction
  | .search text allocated => .search text allocated
  | .tapRow index opened => .choose index opened
  | .longPressRow index => .edit index
  | .addBtn => .add
  | .wifiBtn => .leave
  | .enter input => .change input.meaning
  | .saveBtn o allocated => .save (decide o.Ok) allocated
  | .deleteBtn _ allocated => .remove allocated
  | .cancelBtn allocated => .cancel allocated
  | .showHome allocated => .showList allocated
  | .setStatusMessage none => .notify (.empty 128 roomFor128)
  | .setStatusMessage (some msg) => .notify (.copy 128 roomFor128 msg)

/-- A number that is entered has at most 16 bits. -/
def ShellAction.Fits : ShellAction → Prop
  | .enter (.port text) => text.value ≤ 65535
  | .enter (.keepalive text) => text.value ≤ 65535
  | _ => True

/-! ### The shell shows the roster -/

/-- The index `s_edit` keeps for a target. -/
def targetIndex : Option Nat → Int
  | none => -1
  | some i => i

/-- The form holds the draft. -/
structure EditForm.Holds (form : EditForm) (hosts : List HostEntry) (target : Option Nat)
    (host : HostEntry) : Prop where
  index : form.index = targetIndex target
  inList : ∀ i ∈ target, i < hosts.length
  entry : form.entry = host

/-- What is on the screen. -/
inductive DepictsScreen (store : HostStore) : ShellScreen → RosterScreen → Prop
  | list (search : List UInt8) (listed : Bool) (banner : List UInt8) :
      DepictsScreen store (.home search (rebuildHostList listed search store) banner)
        (.list search listed banner)
  | draft {form : EditForm} {target : Option Nat} {host : HostEntry}
      (holds : form.Holds store.hosts target host) :
      DepictsScreen store (.edit form target.isSome) (.draft target host)
  | other : DepictsScreen store .other .other

structure Depicts (s : Shell) (r : Roster) : Prop where
  hosts : s.store.hosts = r.hosts
  notice : s.sStatusMessage = r.notice
  screen : DepictsScreen s.store s.screen r.screen

/-! ### The form and the draft -/

theorem ofInt_natCast (value : UInt16) : UInt16.ofInt (value.toNat : Int) = value := by
  rw [UInt16.ofInt]
  have small : value.toNat < 65536 := value.toNat_lt
  have reduced : ((value.toNat : Int) % 2 ^ 16).toNat = value.toNat := by omega
  rw [reduced, UInt16.ofNat_toNat]

/-- **A number that is shown is read back.** -/
theorem ofInt_atoi_unsignedText (value : UInt16) :
    UInt16.ofInt (atoi (unsignedText value)) = value := by
  have small : value.toNat < 65536 := value.toNat_lt
  have same : atoi (unsignedText value) = value.toNat := by
    rw [atoi, value_unsignedText]
    omega
  rw [same, ofInt_natCast]

theorem ofInt_atoi_bits {text : DigitText} (fits : text.value ≤ 65535) :
    UInt16.ofInt (atoi text) = text.bits := by
  have low := text.value_nonneg
  have same : atoi text = text.value := by
    rw [atoi]
    omega
  have reduced : (text.value % 2 ^ 16).toNat = text.value.toNat := by omega
  rw [same, UInt16.ofInt, reduced, DigitText.bits]

/-- **The form of a host is saved as that host.** -/
theorem showEditScreen_entry {s : HostStore} {index : Int} {h : HostEntry} (low : 0 ≤ index)
    (here : s.hostStoreGet index = some h) :
    (showEditScreen s index).entry = h ∧ (showEditScreen s index).index = index := by
  rw [showEditScreen, if_pos low, here]
  refine ⟨?_, rfl⟩
  simp only [EditForm.entry, CStr.copy_bytes, ofInt_atoi_unsignedText]

/-- The empty form is saved as a new host. -/
theorem showEditScreen_new (s : HostStore) :
    (showEditScreen s (-1)).entry = Roster.newHost ∧ (showEditScreen s (-1)).index = -1 := by
  rw [showEditScreen, if_neg (by decide)]
  refine ⟨?_, rfl⟩
  simp only [EditForm.entry, ofInt_atoi_unsignedText]
  rfl

namespace EditForm

theorem Holds.index_neg {form : EditForm} {hosts : List HostEntry} {target : Option Nat}
    {host : HostEntry} (holds : form.Holds hosts target host) :
    form.index < 0 ↔ target = none := by
  rw [holds.index]
  cases target with
  | none => exact iff_of_true (by decide) rfl
  | some i => exact iff_of_false (by simp [targetIndex]) (by simp)

/-- What is entered changes the draft. -/
theorem Holds.enter {form : EditForm} {hosts : List HostEntry} {target : Option Nat}
    {host : HostEntry} (holds : form.Holds hosts target host) {input : FormInput}
    (fits : (ShellAction.enter input).Fits) :
    (form.enter input).Holds hosts target (input.meaning.apply target host) := by
  have negative := holds.index_neg
  obtain ⟨index, inList, rfl⟩ := holds
  cases input with
  | name text => exact ⟨index, inList, rfl⟩
  | group text => exact ⟨index, inList, rfl⟩
  | address text => exact ⟨index, inList, rfl⟩
  | username text => exact ⟨index, inList, rfl⟩
  | authType selected => exact ⟨index, inList, rfl⟩
  | port text =>
      refine ⟨index, inList, ?_⟩
      show { form.entry with port := UInt16.ofInt (atoi text) } = _
      rw [ofInt_atoi_bits fits]
      rfl
  | keepalive text =>
      refine ⟨index, inList, ?_⟩
      show { form.entry with keepaliveSec := UInt16.ofInt (atoi text) } = _
      rw [ofInt_atoi_bits fits]
      rfl
  | protocol selected =>
      rw [EditForm.enter, protocolDdChangedCb]
      dsimp only
      cases target with
      | none =>
          rw [if_neg (by have := negative.mpr rfl; omega)]
          refine ⟨index, inList, ?_⟩
          show { form.entry with
            protocol := selected
            port := UInt16.ofInt (atoi (unsignedText (defaultPortForProtocol selected))) } = _
          rw [ofInt_atoi_unsignedText]
          rfl
      | some i =>
          have low : ¬ form.index < 0 := fun low => by simpa using negative.mp low
          rw [if_pos (by omega)]
          exact ⟨index, inList, rfl⟩

theorem Holds.call {form : EditForm} {hosts : List HostEntry} {target : Option Nat}
    {host : HostEntry} (holds : form.Holds hosts target host) :
    form.call = Roster.draftCall target host := by
  have negative := holds.index_neg
  rw [EditForm.call, holds.entry]
  cases target with
  | none => exact if_pos (negative.mpr rfl)
  | some i =>
      rw [if_neg fun low => by simpa using negative.mp low, holds.index]
      rfl

end EditForm

/-! ### The rows and the list -/

theorem listed_eq {s : HostStore} {r : Roster} (same : s.hosts = r.hosts) (search : List UInt8)
    (index : Int) :
    r.listed search index = (s.hostStoreGet index).filter fun h => matchesFilter h search := by
  rw [Roster.listed, hostStoreGet_eq, same]
  split <;> rfl

/-- The rows lead to the hosts listed. -/
theorem leads_iff {callback : HostRow → Int} (own : ∀ row, callback (hostRow row) = row.1)
    {s : HostStore} {r : Roster} (same : s.hosts = r.hosts) (search : List UInt8) (index : Int) :
    Shell.Leads callback (rebuildHostList true search s) index ↔
      ∃ h, r.listed search index = some h := by
  have members (row : HostRow) : row ∈ (rebuildHostList true search s).filterMap ListItem.asRow ↔
      row ∈ (matchingRows search s).map hostRow := (rows_perm search s).mem_iff
  unfold Shell.Leads
  rw [listed_eq same]
  constructor
  · rintro ⟨row, mem, rfl⟩
    obtain ⟨found, inside, rfl⟩ := List.mem_map.mp ((members row).mp mem)
    obtain ⟨here, matching⟩ := mem_matchingRows.mp inside
    refine ⟨found.2, ?_⟩
    rw [own, here]
    exact Option.filter_eq_some_iff.mpr ⟨rfl, matching⟩
  · rintro ⟨h, here⟩
    obtain ⟨here, matching⟩ := Option.filter_eq_some_iff.mp here
    refine ⟨hostRow (index, h), (members _).mpr (List.mem_map.mpr ⟨(index, h), ?_, rfl⟩), own _⟩
    exact mem_matchingRows.mpr ⟨here, matching⟩

theorem not_leads (callback : HostRow → Int) (search : List UInt8) (s : HostStore) (index : Int) :
    ¬ Shell.Leads callback (rebuildHostList false search s) index := by
  rintro ⟨row, mem, _⟩
  exact absurd mem List.not_mem_nil

/-! ### One step -/

namespace Depicts

variable {codec : JsonCodec} {s : Shell} {r : Roster}

theorem showList (depicts : Depicts s r) (allocated : Bool) :
    Depicts (s.uiShellShowHome allocated) (r.showList allocated) := by
  refine ⟨depicts.hosts, rfl, ?_⟩
  rw [Shell.uiShellShowHome, Roster.showList, depicts.notice]
  exact .list [] allocated r.notice.bytes

/-- The form of a host that is listed. -/
theorem showEdit (depicts : Depicts s r) {search : List UInt8} {index : Int} {h : HostEntry}
    (here : r.listed search index = some h) :
    Depicts (s.showEdit index) { r with screen := .draft (some index.toNat) h } := by
  rw [listed_eq depicts.hosts] at here
  have get := (Option.filter_eq_some_iff.mp here).1
  have read := get
  rw [hostStoreGet_eq, Option.ite_none_left_eq_some] at read
  have low : 0 ≤ index := by omega
  obtain ⟨entry, place⟩ := showEditScreen_entry low get
  have inside := (List.getElem?_eq_some_iff.mp read.2).1
  have deletable : (if index ≥ 0 then s.store.hostStoreGet index else none).isSome =
      (some index.toNat).isSome := by
    rw [if_pos low, get]
    rfl
  refine ⟨depicts.hosts, depicts.notice, ?_⟩
  rw [Shell.showEdit, deletable]
  refine .draft ⟨?_, ?_, entry⟩
  · rw [place, targetIndex]
    omega
  · intro i mem
    rw [← Option.some.inj mem]
    exact inside

theorem showEdit_new (depicts : Depicts s r) :
    Depicts (s.showEdit (-1)) { r with screen := .draft none Roster.newHost } := by
  obtain ⟨entry, place⟩ := showEditScreen_new s.store
  refine ⟨depicts.hosts, depicts.notice, ?_⟩
  rw [Shell.showEdit, if_neg (by decide)]
  have holds : (showEditScreen s.store (-1)).Holds s.store.hosts none Roster.newHost :=
    ⟨place, fun i mem => (by cases mem), entry⟩
  exact .draft holds

/-- A tap on a row that leads to a host. -/
theorem tapHost (depicts : Depicts s r) {search : List UInt8} {index : Int} {h : HostEntry}
    (here : r.listed search index = some h) (opened : Bool) :
    Depicts (s.tapHost index opened)
      (if h.protocol = .serial then { r with screen := .draft (some index.toNat) h }
        else if opened then { r with screen := .other } else r) := by
  have get : s.store.hostStoreGet index = some h := by
    rw [listed_eq depicts.hosts] at here
    exact (Option.filter_eq_some_iff.mp here).1
  have goes : Depicts (if opened then { s with screen := .other } else s)
      (if opened then { r with screen := .other } else r) := by
    cases opened with
    | true => exact ⟨depicts.hosts, depicts.notice, .other⟩
    | false => exact depicts
  rw [Shell.tapHost, hostRowClickCb, get]
  dsimp only
  cases protocol : h.protocol with
  | telnet => exact goes
  | ssh => exact goes
  | serial => exact depicts.showEdit here

/-- **Saving the form** does to the list what saving the draft does. -/
theorem save (depicts : Depicts s r) {form : EditForm} {target : Option Nat} {host : HostEntry}
    (shown : s.screen = .edit form target.isSome) (draft : r.screen = .draft target host)
    (holds : form.Holds s.store.hosts target host) (o : Outcomes) (allocated : Bool) :
    Depicts (s.save codec o form allocated) (r.save target host (decide o.Ok) allocated) := by
  have call := holds.call
  rw [Shell.save, saveBtnClickCb, Roster.save, holds.entry, call, ← depicts.hosts]
  by_cases nameless : host.name.bytes = []
  · rw [if_pos nameless, if_pos nameless]
    exact depicts
  rw [if_neg nameless, if_neg nameless]
  dsimp only
  cases applied : (Roster.draftCall target host).apply s.store.hosts with
  | none =>
      obtain ⟨failed, same⟩ := HostCall.run_refused codec o applied
      rw [same, if_neg fun ok => failed (Option.some.inj ok)]
      exact depicts
  | some hosts =>
      obtain ⟨changed, same, run⟩ := HostCall.run_applied codec o applied
      have stored : (changed.persistToDisk codec o).2.hosts = hosts := same
      have result : some (changed.persistToDisk codec o).1 = some EspErr.ok ↔ o.Ok := by
        rw [Option.some.injEq]
        exact persistToDisk_ok codec o changed
      rw [run]
      dsimp only
      by_cases written : o.Ok
      · have after : Depicts { s with store := (changed.persistToDisk codec o).2, screen := .other }
            { r with hosts := hosts, screen := .other } := ⟨stored, depicts.notice, .other⟩
        rw [if_pos (result.mpr written), decide_eq_true written]
        exact after.showList allocated
      · rw [if_neg fun ok => written (result.mp ok), decide_eq_false written]
        refine ⟨stored, depicts.notice, ?_⟩
        show DepictsScreen _ s.screen r.screen
        rw [shown, draft]
        refine .draft ⟨holds.index, fun i mem => ?_, holds.entry⟩
        have inside := holds.inList i mem
        rw [Option.mem_def] at mem
        rw [mem, Roster.draftCall, HostCall.apply, Option.ite_none_right_eq_some] at applied
        rw [stored, ← Option.some.inj applied.2, List.length_set]
        exact inside

/-- **Deleting the host of the form** takes it off the list. -/
theorem delete (depicts : Depicts s r) {form : EditForm} {i : Nat} {host : HostEntry}
    (holds : form.Holds s.store.hosts (some i) host) (o : Outcomes) (allocated : Bool) :
    Depicts (s.delete codec o form allocated)
      ({ r with hosts := r.hosts.eraseIdx i }.showList allocated) := by
  have inside := holds.inList i rfl
  have place : form.index = i := holds.index
  have applied : (HostCall.delete i).apply s.store.hosts = some (r.hosts.eraseIdx i) := by
    rw [HostCall.apply, if_pos ⟨by omega, by omega⟩, depicts.hosts]
    rfl
  obtain ⟨changed, same, run⟩ := HostCall.run_applied codec o applied
  have stored : (s.store.hostStoreDelete codec o form.index).2.hosts = r.hosts.eraseIdx i := by
    rw [place]
    exact (congrArg (fun ret => ret.2.hosts) run).trans same
  have after : Depicts
      { s with store := (s.store.hostStoreDelete codec o form.index).2, screen := .other }
      { r with hosts := r.hosts.eraseIdx i, screen := .other } := ⟨stored, depicts.notice, .other⟩
  rw [Shell.delete, if_pos (by omega)]
  exact after.showList allocated

/-- What a row does, the host it leads to means. -/
theorem onRow (depicts : Depicts s r) (callback : HostRow → Int)
    (own : ∀ row, callback (hostRow row) = row.1) (search : List UInt8) (index : Int)
    {tapped : Shell} {chosen : HostEntry → Roster}
    (each : ∀ h, r.listed search index = some h → Depicts tapped (chosen h)) :
    Depicts
      (if Shell.Leads callback (rebuildHostList true search s.store) index then tapped else s)
      (match r.listed search index with
        | none => r
        | some h => chosen h) := by
  have leads := leads_iff own depicts.hosts search index
  cases here : r.listed search index with
  | none =>
      rw [here] at leads
      rw [if_neg fun found => by simpa using leads.mp found]
      exact depicts
  | some h =>
      rw [if_pos (leads.mpr ⟨h, here⟩)]
      exact each h here

/-- No row, no tap. -/
theorem offRow (depicts : Depicts s r) (callback : HostRow → Int) (search : List UInt8)
    (index : Int) (tapped : Shell) :
    Depicts
      (if Shell.Leads callback (rebuildHostList false search s.store) index then tapped else s) r := by
  rw [if_neg (not_leads callback search s.store index)]
  exact depicts

/-- **Every step of the shell is the step of the roster it means.** -/
theorem step (depicts : Depicts s r) {a : ShellAction} (fits : a.Fits) :
    Depicts (s.step codec a) (r.step a.meaning) := by
  obtain ⟨store, message, screen⟩ := s
  obtain ⟨hosts, notice, shown⟩ := r
  have onScreen := depicts.screen
  dsimp only at onScreen
  cases a with
  | showHome allocated => cases onScreen <;> exact depicts.showList allocated
  | setStatusMessage msg =>
      cases onScreen <;> cases msg <;> exact ⟨depicts.hosts, rfl, depicts.screen⟩
  | search text allocated =>
      cases onScreen with
      | list search listed banner =>
          exact ⟨depicts.hosts, depicts.notice, .list text allocated banner⟩
      | draft holds => exact depicts
      | other => exact depicts
  | tapRow index opened =>
      cases onScreen with
      | list search listed banner =>
          cases listed with
          | false =>
              let unlisted : Shell := ⟨store, message, .home search [] banner⟩
              exact depicts.offRow HostRow.click search index (unlisted.tapHost index opened)
          | true =>
              have tapped := depicts.onRow HostRow.click (fun _ => rfl) search index
                fun h here => depicts.tapHost here opened
              exact tapped
      | draft holds => exact depicts
      | other => exact depicts
  | longPressRow index =>
      cases onScreen with
      | list search listed banner =>
          cases listed with
          | false =>
              let unlisted : Shell := ⟨store, message, .home search [] banner⟩
              exact depicts.offRow HostRow.longPress search index (unlisted.showEdit index)
          | true =>
              have pressed := depicts.onRow HostRow.longPress (fun _ => rfl) search index
                fun h here => depicts.showEdit here
              exact pressed
      | draft holds => exact depicts
      | other => exact depicts
  | addBtn =>
      cases onScreen with
      | list search listed banner => exact depicts.showEdit_new
      | draft holds => exact depicts
      | other => exact depicts
  | wifiBtn =>
      cases onScreen with
      | list search listed banner => exact ⟨depicts.hosts, depicts.notice, .other⟩
      | draft holds => exact depicts
      | other => exact depicts
  | enter input =>
      cases onScreen with
      | list search listed banner => exact depicts
      | draft holds => exact ⟨depicts.hosts, depicts.notice, .draft (holds.enter fits)⟩
      | other => exact depicts
  | saveBtn o allocated =>
      cases onScreen with
      | list search listed banner => exact depicts
      | draft holds => exact depicts.save rfl rfl holds o allocated
      | other => exact depicts
  | deleteBtn o allocated =>
      cases onScreen with
      | list search listed banner => exact depicts
      | @draft form target host holds =>
          cases target with
          | none => exact depicts
          | some i => exact depicts.delete holds o allocated
      | other => exact depicts
  | cancelBtn allocated =>
      cases onScreen with
      | list search listed banner => exact depicts
      | draft holds => exact depicts.showList allocated
      | other => exact depicts

end Depicts

/-! ### What a restart shows -/

/-- The outcome of the writes of the file. -/
def ShellAction.outcomes : ShellAction → Option Outcomes
  | .saveBtn o _ => some o
  | .deleteBtn o _ => some o
  | _ => none

/-- **Only the two buttons change the store**, each with one call. -/
theorem Shell.store_step (codec : JsonCodec) (s : Shell) (a : ShellAction) :
    (s.step codec a).store = s.store ∨ ∃ (o : Outcomes) (call : HostCall), a.outcomes = some o ∧
      (s.step codec a).store = (call.run codec o s.store).2 := by
  obtain ⟨store, message, screen⟩ := s
  cases a with
  | saveBtn o allocated =>
      cases screen with
      | edit form deletable =>
          show (Shell.save codec o _ form allocated).store = store ∨ _
          have stored : (Shell.save codec o ⟨store, message, .edit form deletable⟩ form
              allocated).store = (saveBtnClickCb codec o form store).2 := by
            rw [Shell.save]
            dsimp only
            split <;> rfl
          rw [stored, saveBtnClickCb]
          split
          · exact .inl rfl
          · refine .inr ⟨o, form.call, rfl, ?_⟩
            refine stored.trans ?_
            rw [saveBtnClickCb, if_neg ‹_›]
      | _ => exact .inl rfl
  | deleteBtn o allocated =>
      cases screen with
      | edit form deletable =>
          cases deletable with
          | false => exact .inl rfl
          | true =>
              by_cases low : form.index ≥ 0
              · refine .inr ⟨o, .delete form.index, rfl, ?_⟩
                exact if_pos low
              · exact .inl (if_neg low)
      | _ => exact .inl rfl
  | tapRow index opened =>
      refine .inl ?_
      cases screen with
      | home search items banner =>
          show (if _ then Shell.tapHost _ index opened else _).store = store
          split
          · rw [Shell.tapHost]
            split
            · split <;> rfl
            · split <;> rfl
            · rfl
          · rfl
      | _ => rfl
  | longPressRow index =>
      refine .inl ?_
      cases screen with
      | home search items banner =>
          show (if _ then Shell.showEdit _ index else _).store = store
          split <;> rfl
      | _ => rfl
  | setStatusMessage msg => cases msg <;> cases screen <;> exact .inl rfl
  | _ => cases screen <;> exact .inl rfl

/-- A restart reads the hosts there are. -/
def Shell.Lasting (codec : JsonCodec) (s : Shell) : Prop :=
  ∀ allocated, (Shell.booted codec s.store.file allocated).store.hosts = s.store.hosts

theorem Shell.lasting_step {codec : JsonCodec} (faithful : codec.Faithful) {s : Shell}
    {a : ShellAction} (lasting : s.Lasting codec) (written : ∀ o ∈ a.outcomes, o = .good) :
    (s.step codec a).Lasting codec := by
  intro allocated
  rcases s.store_step codec a with same | ⟨o, call, outcome, changes⟩
  · rw [same]
    exact lasting allocated
  · rw [written o outcome] at changes
    rw [changes]
    cases applied : call.apply s.store.hosts with
    | none =>
        rw [(call.run_refused codec .good applied).2]
        exact lasting allocated
    | some hosts =>
        obtain ⟨changed, _, run⟩ := call.run_applied codec .good applied
        rw [run]
        exact load_persisted faithful changed HostStore.fresh

theorem Shell.lasting_booted (codec : JsonCodec) (file : File) (allocated : Bool) :
    (Shell.booted codec file allocated).Lasting codec := fun _ => rfl

/-- The roster that is shown first. -/
def Roster.booted (hosts : List HostEntry) (listed : Bool) : Roster where
  hosts := hosts
  notice := .empty 128 roomFor128
  screen := .list [] listed []

theorem depicts_booted (codec : JsonCodec) (file : File) (allocated : Bool) :
    Depicts (Shell.booted codec file allocated)
      (Roster.booted (Shell.booted codec file allocated).store.hosts allocated) :=
  ⟨rfl, rfl, .list [] allocated []⟩

/-- **The shell is the roster.** Whatever is tapped and entered, in whatever order, as long as no
number of more than 16 bits is entered: after every step the store holds the roster's hosts, the
rows are those of the hosts that match the search, and the form is the draft, for the host it was
opened for. And while every write of the file succeeds, a restart shows the same hosts. -/
theorem shell_refines {codec : JsonCodec} (faithful : codec.Faithful) (file : File)
    (allocated : Bool) (acts : List ShellAction) (fits : ∀ a ∈ acts, a.Fits) :
    let boot := Shell.booted codec file allocated
    (∀ done, done <+: acts → Depicts (Run.after (Shell.step codec) boot done)
      (Run.after Roster.step (.booted boot.store.hosts allocated)
        (done.map ShellAction.meaning))) ∧
    ((∀ a ∈ acts, ∀ o ∈ a.outcomes, o = .good) →
      Run.Always (Shell.step codec) (Shell.Lasting codec) boot acts) := by
  intro boot
  constructor
  · intro done isPrefix
    have each : Run.Meets (Shell.step codec) (fun _ a => a.Fits) boot done :=
      Run.meets_of_forall (fun a mem _ => fits a (isPrefix.subset mem)) boot
    exact Run.simulates (fun _ _ _ depicts fits => depicts.step fits)
      (depicts_booted codec file allocated) each
  · intro written
    have each : Run.Meets (Shell.step codec) (fun _ a => ∀ o ∈ a.outcomes, o = .good) boot acts :=
      Run.meets_of_forall (fun a mem _ => written a mem) boot
    exact Run.always_of_meets (fun _ _ lasting good => Shell.lasting_step faithful lasting good)
      (Shell.lasting_booted codec file allocated) each

/-- A new host is named, gets a port, and is saved; then it is opened again and deleted. -/
def oneHost : List ShellAction :=
  [.addBtn, .enter (.name (ascii ['n', 'a', 's'])), .enter (.port port2222), .saveBtn .good true,
    .longPressRow 0, .deleteBtn .good true]

theorem shell_refines_oneHost :
    (∀ done, done <+: oneHost → Depicts
      (Run.after (Shell.step flatJson) (Shell.booted flatJson none true) done)
      (Run.after Roster.step (.booted (Shell.booted flatJson none true).store.hosts true)
        (done.map ShellAction.meaning))) ∧
    ((∀ a ∈ oneHost, ∀ o ∈ a.outcomes, o = .good) → Run.Always (Shell.step flatJson)
      (Shell.Lasting flatJson) (Shell.booted flatJson none true) oneHost) := by
  refine shell_refines flatJson_faithful none true oneHost ?_
  simp only [oneHost, List.forall_mem_cons, List.not_mem_nil, false_implies, implies_true, and_true]
  have small : port2222.value ≤ 65535 := by decide
  exact ⟨trivial, trivial, small, trivial, trivial, trivial⟩

end Tab5
