/-
**The widgets behind the screens** (`main/ui_shell.c`, `main/ui_wifi.c` and the screens of
`main/session_ui.c`).

The screens as the calls on LVGL that make them, use them and leave them: the widgets that something
refers to or that take keys, the focus groups, the timer of the WiFi status, and the variables that
point at widgets and groups. A callback runs when its widget is there. A task in the background holds
the display lock for what it does here, and finds the screen that is there by then.

A call that names what has gone is `none`. The address of what has gone is not used again, and LVGL
has memory for what is created. Labels inside buttons, layout and style are left out.

* `Screens.Inv`: the variables of the screen that is shown point at its widgets, the others are never
  followed without `lv_obj_is_valid`, and no two of them hold the same group;
* `screens_live`: no run follows a pointer to what has gone.
-/

import Tab5RemoteTerminal.Library.Run
import Tab5RemoteTerminal.Library.Toolkit
import Tab5RemoteTerminal.Shell.HostRows

namespace Tab5

open Toolkit

/-! ### The widgets -/

inductive UiWidget where
  -- the home screen
  | searchTa | wifiStatusLbl | wifiBtn | addBtn | banner | listContainer
  /-- A row of the host list, a button. -/
  | hostRow (k : Nat)
  /-- A header or a note in the list. -/
  | hostLabel (k : Nat)
  -- the form
  | nameTa | groupTa | protocolDd | addressTa | portTa | usernameTa | authDd | keepaliveTa
  | saveBtn | deleteBtn | cancelBtn
  -- the WiFi screens
  | rescanBtn | backBtn | statusLabel | apList | pwTa | pwConnectBtn | pwCancelBtn
  | apRow (k : Nat)
  -- the SSH login
  | sshPwTa | sshStatusLbl | sshConnectBtn | sshCancelBtn
  -- a session
  | infoLbl | jumpLiveBtn | echoBtn | echoBtnLbl | disconnectBtn | canvas
deriving DecidableEq, Repr

abbrev Pointer := Option (Handle UiWidget)

/-- The children of `s_list_container`, for the `k`-th and all that follow. -/
def listPlan (k : Nat) : List ListItem → Plan UiWidget
  | [] => []
  | item :: items =>
      (match item.asRow with
        | some _ => (.hostRow k, true)
        | none => (.hostLabel k, false)) :: listPlan (k + 1) items

def homePlan (banner : Bool) : Plan UiWidget :=
  [(.searchTa, true), (.wifiStatusLbl, false), (.wifiBtn, true), (.addBtn, true)] ++
    (if banner then [(.banner, false)] else []) ++ [(.listContainer, false)]

def editPlan (existing : Bool) : Plan UiWidget :=
  [(.nameTa, true), (.groupTa, true), (.protocolDd, true), (.addressTa, true), (.portTa, true),
    (.usernameTa, true), (.authDd, true), (.keepaliveTa, true), (.saveBtn, true)] ++
    (if existing then [(.deleteBtn, true)] else []) ++ [(.cancelBtn, true)]

def scanPlan : Plan UiWidget :=
  [(.rescanBtn, true), (.backBtn, true), (.statusLabel, false), (.apList, false)]

/-- The rows of `scan_task`. -/
def apPlan (count : Nat) : Plan UiWidget := (List.range count).map fun k => (.apRow k, true)

def passwordPlan : Plan UiWidget :=
  [(.pwTa, true), (.statusLabel, false), (.pwConnectBtn, true), (.pwCancelBtn, true)]

def sshPasswordPlan : Plan UiWidget :=
  [(.sshPwTa, true), (.sshStatusLbl, false), (.sshConnectBtn, true), (.sshCancelBtn, true)]

def sessionWidgets : List UiWidget :=
  [.infoLbl, .jumpLiveBtn, .echoBtn, .echoBtnLbl, .disconnectBtn, .canvas]

/-- The pointers of `s_edit`. -/
def editFields : List UiWidget :=
  [.nameTa, .groupTa, .protocolDd, .addressTa, .portTa, .usernameTa, .authDd, .keepaliveTa]

def UiWidget.isHostItem : UiWidget → Bool
  | .hostRow _ | .hostLabel _ => true
  | _ => false

def UiWidget.isApRow : UiWidget → Bool
  | .apRow _ => true
  | _ => false

/-! ### The pages -/

inductive UiPage where
  | home | edit | scan | password | sshPassword | session
deriving DecidableEq, Repr

/-- The pages a widget can be on. -/
def UiWidget.pages : UiWidget → List UiPage
  | .searchTa | .wifiStatusLbl | .wifiBtn | .addBtn | .banner | .listContainer | .hostRow _
  | .hostLabel _ => [.home]
  | .nameTa | .groupTa | .protocolDd | .addressTa | .portTa | .usernameTa | .authDd | .keepaliveTa
  | .saveBtn | .deleteBtn | .cancelBtn => [.edit]
  | .rescanBtn | .backBtn | .apList | .apRow _ => [.scan]
  | .statusLabel => [.scan, .password]
  | .pwTa | .pwConnectBtn | .pwCancelBtn => [.password]
  | .sshPwTa | .sshStatusLbl | .sshConnectBtn | .sshCancelBtn => [.sshPassword]
  | .infoLbl | .jumpLiveBtn | .echoBtn | .echoBtnLbl | .disconnectBtn | .canvas => [.session]

/-- Outside a session, the fields, lists and buttons take keys. -/
def UiWidget.takesKeys : UiWidget → Bool
  | .searchTa | .wifiBtn | .addBtn | .hostRow _ | .nameTa | .groupTa | .protocolDd | .addressTa
  | .portTa | .usernameTa | .authDd | .keepaliveTa | .saveBtn | .deleteBtn | .cancelBtn | .rescanBtn
  | .backBtn | .pwTa | .pwConnectBtn | .pwCancelBtn | .apRow _ | .sshPwTa | .sshConnectBtn
  | .sshCancelBtn => true
  | _ => false

/-! ### The state -/

structure Screens where
  gui : Gui UiWidget
  /-- `s_group`, `s_search_ta` and `s_list_container` of `main/ui_shell.c`. -/
  sGroup : Option Nat
  sSearchTa : Pointer
  sListContainer : Pointer
  /-- The pointers and the index in `s_edit`. -/
  sEdit : List (Handle UiWidget)
  sEditIndex : Int
  /-- Whether `s_status_message` has a text. -/
  sStatusMessage : Bool
  /-- `s_group`, `s_list_container`, `s_status_label` and `s_pw_ta` of `main/ui_wifi.c`. -/
  wifiGroup : Option Nat
  wifiListContainer : Pointer
  wifiStatusLabel : Pointer
  wifiPwTa : Pointer
  /-- The pointers of `main/session_ui.c`; `sTerm` is the canvas of `s_term`. -/
  sSshPwTa : Pointer
  sSshStatusLbl : Pointer
  sInfoLbl : Pointer
  sEchoBtnLbl : Pointer
  sJumpLiveBtn : Pointer
  sTerm : Pointer
  scanTasks : Nat
  connectTasks : Nat
  sshConnectTasks : Nat
  ioTasks : Nat
  /-- The groups of the SSH logins that were shown. -/
  sshGroups : List Nat

/-- Static memory, and LVGL's first screen. -/
def Screens.start : Screens where
  gui :=
    { screens := fun n => if n = 0 then some [] else none
      active := 0
      groups := fun _ => none
      timers := fun _ => none
      attached := fun _ => none
      keys := none
      fresh := 1 }
  sGroup := none
  sSearchTa := none
  sListContainer := none
  sEdit := []
  sEditIndex := 0
  sStatusMessage := false
  wifiGroup := none
  wifiListContainer := none
  wifiStatusLabel := none
  wifiPwTa := none
  sSshPwTa := none
  sSshStatusLbl := none
  sInfoLbl := none
  sEchoBtnLbl := none
  sJumpLiveBtn := none
  sTerm := none
  scanTasks := 0
  connectTasks := 0
  sshConnectTasks := 0
  ioTasks := 0
  sshGroups := []

/-- What a tap on a host leads to. -/
inductive HostTap where
  | telnet (connected : Bool)
  | ssh (keyAuth : Bool)
  | edit (index : Int) (existing : Bool)
deriving DecidableEq, Repr

/-- What a tap on an access point leads to. -/
inductive ApTap where
  | ignored
  | connects (allocated : Bool)
  | asks
deriving DecidableEq, Repr

/-- What can happen next; `items` is what `rebuild_host_list` finds to show. -/
inductive ScreenEvent where
  | search (items : List ListItem)
  | tapHost (k : Nat) (leads : HostTap)
  | longPressHost (k : Nat) (index : Int) (existing : Bool)
  | addBtn
  | wifiBtn
  | tick (timer : Nat)
  | protocolDd
  | saveBtn (saved : Bool) (items : List ListItem)
  | deleteBtn (items : List ListItem)
  | cancelBtn (items : List ListItem)
  | rescanBtn
  | backBtn (items : List ListItem)
  | tapAp (k : Nat) (leads : ApTap)
  | pwConnectBtn (allocated : Bool)
  | pwCancelBtn
  | sshConnectBtn (allocated : Bool)
  | sshCancelBtn (items : List ListItem)
  | echoBtn
  | jumpLiveBtn
  | canvas
  /-- The ends of the background tasks. -/
  | scanned (count : Nat)
  | wifiConnected (ok : Bool) (items : List ListItem)
  | sshConnected (ok : Bool)
  /-- The locked blocks of an io task: a render, the label of the WiFi status, the end. -/
  | ioDraws
  | ioLabels
  | ioEnds (message : Bool) (items : List ListItem)

namespace Screens

/-! ### Pointers -/

/-- A call on what a variable points at, which may be NULL. -/
def follow (s : Screens) (p : Pointer) : Option Screens := do
  let h ← p
  let gui ← s.gui.touch h
  some { s with gui := gui }

/-- `lv_obj_is_valid`. -/
def isValid (s : Screens) (p : Pointer) : Bool := p.any fun h => s.gui.Valid h

/-! ### The host list and the form -/

def rebuildHostList (s : Screens) (items : List ListItem) : Option Screens := do
  let list ← s.sListContainer
  let gui ← s.gui.touch list
  let gui ← gui.delete list.screen UiWidget.isHostItem
  let search ← s.sSearchTa
  let gui ← gui.touch search
  let group ← s.sGroup
  let gui ← gui.createAll list.screen group (listPlan 0 items)
  some { s with gui := gui }

/-- `ui_shell_show_home`; the list is filled on the way. -/
def uiShellShowHome (s : Screens) (items : List ListItem) : Option Screens := do
  let (screen, group, gui) ←
    s.gui.present (homePlan s.sStatusMessage ++ listPlan 0 items) (some .wifiStatusLbl) s.sGroup
  some { s with
    gui := gui
    sGroup := some group
    sSearchTa := some ⟨screen, .searchTa⟩
    sListContainer := some ⟨screen, .listContainer⟩
    sStatusMessage := false }

/-- `existing` is whether there is such a host. -/
def showEditScreen (s : Screens) (index : Int) (existing : Bool) : Option Screens := do
  let (screen, group, gui) ← s.gui.present (editPlan existing) none s.sGroup
  some { s with
    gui := gui
    sGroup := some group
    sEdit := editFields.map (⟨screen, ·⟩)
    sEditIndex := index }

/-- The fields of the form are read. -/
def readForm (s : Screens) : List (Handle UiWidget) → Option Screens
  | [] => some s
  | h :: rest => do
      let s ← s.follow (some h)
      s.readForm rest

def saveBtnClickCb (s : Screens) (saved : Bool) (items : List ListItem) : Option Screens := do
  let s ← s.readForm s.sEdit
  if saved then s.uiShellShowHome items else some s

/-- The protocol is read, and the port of a new host written. -/
def protocolDdChangedCb (s : Screens) : Option Screens :=
  if s.sEditIndex ≥ 0 then some s
  else s.readForm (s.sEdit.filter fun h => h.widget = .protocolDd ∨ h.widget = .portTa)

def wifiStatusTimerCb (s : Screens) (timer : Nat) : Option Screens :=
  match s.gui.timers timer with
  | some label => s.follow (some label)
  | none => some s

/-! ### The WiFi screens -/

def showScanScreen (s : Screens) : Option Screens := do
  let (screen, group, gui) ← s.gui.present scanPlan none s.wifiGroup
  some { s with
    gui := gui
    wifiGroup := some group
    wifiListContainer := some ⟨screen, .apList⟩
    wifiStatusLabel := some ⟨screen, .statusLabel⟩
    scanTasks := s.scanTasks + 1 }

def showPasswordScreen (s : Screens) : Option Screens := do
  let (screen, group, gui) ← s.gui.present passwordPlan none s.wifiGroup
  some { s with
    gui := gui
    wifiGroup := some group
    wifiPwTa := some ⟨screen, .pwTa⟩
    wifiStatusLabel := some ⟨screen, .statusLabel⟩ }

/-- A text for a label, if it is still there. -/
def setValid (s : Screens) (p : Pointer) : Option Screens :=
  if s.isValid p then s.follow p else some s

def startConnect (s : Screens) (allocated : Bool) : Option Screens :=
  if allocated then do
    let s ← s.setValid s.wifiStatusLabel
    some { s with connectTasks := s.connectTasks + 1 }
  else some s

def apRowClickCb (s : Screens) : ApTap → Option Screens
  | .ignored => some s
  | .connects allocated => s.startConnect allocated
  | .asks => s.showPasswordScreen

def connectBtnClickCb (s : Screens) (allocated : Bool) : Option Screens := do
  let s ← s.follow s.wifiPwTa
  s.startConnect allocated

def connectTask (s : Screens) (ok : Bool) (items : List ListItem) : Option Screens :=
  if ok then s.uiShellShowHome items else s.setValid s.wifiStatusLabel

def scanTask (s : Screens) (count : Nat) : Option Screens :=
  if !s.isValid s.wifiListContainer || !s.isValid s.wifiStatusLabel then some s
  else do
    let list ← s.wifiListContainer
    let gui ← s.gui.delete list.screen UiWidget.isApRow
    let status ← s.wifiStatusLabel
    let gui ← gui.touch status
    let group ← s.wifiGroup
    let gui ← gui.createAll list.screen group (apPlan count)
    some { s with gui := gui }

/-! ### The SSH login and the session -/

/-- Its group is in no variable. -/
def showSshPasswordScreen (s : Screens) : Option Screens := do
  let (screen, group, gui) ← s.gui.present sshPasswordPlan none none
  some { s with
    gui := gui
    sSshPwTa := some ⟨screen, .sshPwTa⟩
    sSshStatusLbl := some ⟨screen, .sshStatusLbl⟩
    sshGroups := group :: s.sshGroups }

def sshConnectBtnClickCb (s : Screens) (allocated : Bool) : Option Screens :=
  if allocated then do
    let s ← s.follow s.sSshPwTa
    let s ← s.follow s.sSshStatusLbl
    some { s with sshConnectTasks := s.sshConnectTasks + 1 }
  else some s

def openSessionScreen (s : Screens) : Option Screens := do
  let (screen, gui) ← s.gui.presentBare sessionWidgets
  some { s with
    gui := gui
    sInfoLbl := some ⟨screen, .infoLbl⟩
    sJumpLiveBtn := some ⟨screen, .jumpLiveBtn⟩
    sEchoBtnLbl := some ⟨screen, .echoBtnLbl⟩
    sTerm := some ⟨screen, .canvas⟩
    ioTasks := s.ioTasks + 1 }

def hostRowClickCb (s : Screens) : HostTap → Option Screens
  | .telnet connected => if connected then s.openSessionScreen else some s
  | .ssh keyAuth => if keyAuth then some s else s.showSshPasswordScreen
  | .edit index existing => s.showEditScreen index existing

def sshConnectTask (s : Screens) (ok : Bool) : Option Screens :=
  if ok then s.openSessionScreen else s.setValid s.sSshStatusLbl

/-- `terminal_render`, and `update_scroll_indicator`. -/
def drawTerm (s : Screens) : Option Screens := do
  let s ← s.follow s.sTerm
  s.follow s.sJumpLiveBtn

/-- The end of `session_io_task`. -/
def sessionIoTask (s : Screens) (message : Bool) (items : List ListItem) : Option Screens := do
  let canvas ← s.sTerm
  let gui ← s.gui.touch canvas
  let gui ← gui.delete canvas.screen (· = .canvas)
  let s := { s with
    gui := gui
    sTerm := none
    sStatusMessage := message || s.sStatusMessage
    ioTasks := s.ioTasks - 1 }
  s.uiShellShowHome items

/-! ### One step -/

/-- What happens behind a widget, if it is there. -/
def onWidget (s : Screens) (w : UiWidget) (callback : Option Screens) : Option Screens :=
  if s.gui.Valid ⟨s.gui.active, w⟩ then callback else some s

def step (s : Screens) : ScreenEvent → Option Screens
  | .search items => s.onWidget .searchTa (s.rebuildHostList items)
  | .tapHost k leads => s.onWidget (.hostRow k) (s.hostRowClickCb leads)
  | .longPressHost k index existing => s.onWidget (.hostRow k) (s.showEditScreen index existing)
  | .addBtn => s.onWidget .addBtn (s.showEditScreen (-1) false)
  | .wifiBtn => s.onWidget .wifiBtn s.showScanScreen
  | .tick timer => s.wifiStatusTimerCb timer
  | .protocolDd => s.onWidget .protocolDd s.protocolDdChangedCb
  | .saveBtn saved items => s.onWidget .saveBtn (s.saveBtnClickCb saved items)
  | .deleteBtn items => s.onWidget .deleteBtn (s.uiShellShowHome items)
  | .cancelBtn items => s.onWidget .cancelBtn (s.uiShellShowHome items)
  | .rescanBtn => s.onWidget .rescanBtn s.showScanScreen
  | .backBtn items => s.onWidget .backBtn (s.uiShellShowHome items)
  | .tapAp k leads => s.onWidget (.apRow k) (s.apRowClickCb leads)
  | .pwConnectBtn allocated => s.onWidget .pwConnectBtn (s.connectBtnClickCb allocated)
  | .pwCancelBtn => s.onWidget .pwCancelBtn s.showScanScreen
  | .sshConnectBtn allocated => s.onWidget .sshConnectBtn (s.sshConnectBtnClickCb allocated)
  | .sshCancelBtn items => s.onWidget .sshCancelBtn (s.uiShellShowHome items)
  | .echoBtn => s.onWidget .echoBtn (s.follow s.sEchoBtnLbl)
  | .jumpLiveBtn => s.onWidget .jumpLiveBtn s.drawTerm
  | .canvas => s.onWidget .canvas s.drawTerm
  | .scanned count =>
      if 0 < s.scanTasks then { s with scanTasks := s.scanTasks - 1 }.scanTask count else some s
  | .wifiConnected ok items =>
      if 0 < s.connectTasks then { s with connectTasks := s.connectTasks - 1 }.connectTask ok items
      else some s
  | .sshConnected ok =>
      if 0 < s.sshConnectTasks then
        { s with sshConnectTasks := s.sshConnectTasks - 1 }.sshConnectTask ok
      else some s
  | .ioDraws => if 0 < s.ioTasks then s.drawTerm else some s
  | .ioLabels => if 0 < s.ioTasks then s.follow s.sInfoLbl else some s
  | .ioEnds message items => if 0 < s.ioTasks then s.sessionIoTask message items else some s

/-! ### What holds between the steps -/

/-- The groups that have not been deleted. -/
def owned (s : Screens) : List Nat := s.sGroup.toList ++ s.wifiGroup.toList ++ s.sshGroups

/-- The toolkit is at rest, no group is in two variables, and a variable has pointed at one widget
only. -/
structure Rest (s : Screens) (plan : Plan UiWidget) (clock : Option (Nat × UiWidget)) : Prop where
  settled : Settled s.gui plan s.owned clock
  once : s.owned.Nodup
  apList : ∀ h ∈ s.wifiListContainer, h.widget = .apList
  statusLabel : ∀ h ∈ s.wifiStatusLabel, h.widget = .statusLabel
  sshStatusLbl : ∀ h ∈ s.sSshStatusLbl, h.widget = .sshStatusLbl

/-- Which screen is shown, and which variables point at it. -/
inductive Layout (s : Screens) : UiPage → Plan UiWidget → Option (Nat × UiWidget) → Prop where
  | home (banner : Bool) (items : List ListItem) (timer k : Nat) (quiet : s.ioTasks = 0)
      (group : s.sGroup = some k) (keys : s.gui.keys = some k)
      (search : s.sSearchTa = some ⟨s.gui.active, .searchTa⟩)
      (list : s.sListContainer = some ⟨s.gui.active, .listContainer⟩) :
      Layout s .home (homePlan banner ++ listPlan 0 items) (some (timer, .wifiStatusLbl))
  | edit (existing : Bool) (k : Nat) (quiet : s.ioTasks = 0) (keys : s.gui.keys = some k)
      (fields : s.sEdit = editFields.map (⟨s.gui.active, ·⟩)) :
      Layout s .edit (editPlan existing) none
  | scan (count k : Nat) (quiet : s.ioTasks = 0) (group : s.wifiGroup = some k)
      (keys : s.gui.keys = some k) (list : s.wifiListContainer = some ⟨s.gui.active, .apList⟩)
      (status : s.wifiStatusLabel = some ⟨s.gui.active, .statusLabel⟩) :
      Layout s .scan (scanPlan ++ apPlan count) none
  | password (k : Nat) (quiet : s.ioTasks = 0) (keys : s.gui.keys = some k)
      (pwTa : s.wifiPwTa = some ⟨s.gui.active, .pwTa⟩) : Layout s .password passwordPlan none
  | sshPassword (k : Nat) (quiet : s.ioTasks = 0) (keys : s.gui.keys = some k)
      (pwTa : s.sSshPwTa = some ⟨s.gui.active, .sshPwTa⟩)
      (status : s.sSshStatusLbl = some ⟨s.gui.active, .sshStatusLbl⟩) :
      Layout s .sshPassword sshPasswordPlan none
  | session (k : Nat) (one : s.ioTasks = 1) (keys : s.gui.keys = some k)
      (info : s.sInfoLbl = some ⟨s.gui.active, .infoLbl⟩)
      (jump : s.sJumpLiveBtn = some ⟨s.gui.active, .jumpLiveBtn⟩)
      (echo : s.sEchoBtnLbl = some ⟨s.gui.active, .echoBtnLbl⟩)
      (term : s.sTerm = some ⟨s.gui.active, .canvas⟩) :
      Layout s .session (.bare sessionWidgets) none

def Inv (s : Screens) : Prop := ∃ page plan clock, s.Rest plan clock ∧ s.Layout page plan clock

/-- Nothing that has gone is named, and the invariant holds afterwards. -/
def Runs (result : Option Screens) : Prop := ∃ s, result = some s ∧ s.Inv

variable {s : Screens} {plan : Plan UiWidget} {clock : Option (Nat × UiWidget)}

/-! ### Groups -/

/-- Deleting the group of one variable leaves those of the others. -/
theorem mem_others {first rest : List Nat} {p : Option Nat}
    (once : (first ++ p.toList ++ rest).Nodup) (k : Nat) :
    (k ∈ first ++ p.toList ++ rest ∧ p ≠ some k) ↔ k ∈ first ++ rest := by
  cases p with
  | none => simp
  | some g =>
      rw [Option.toList_some, List.append_assoc, List.singleton_append] at once ⊢
      have outside := List.nodup_middle.mp once
      have notThere : g ∉ first ++ rest := (List.nodup_cons.mp outside).1
      have split : k ∈ first ++ g :: rest ↔ k = g ∨ k ∈ first ++ rest := by
        rw [List.mem_append, List.mem_cons, List.mem_append, or_left_comm]
      rw [split]
      constructor
      · rintro ⟨rfl | others, other⟩
        · exact absurd rfl other
        · exact others
      · intro others
        refine ⟨.inr others, fun same => notThere ?_⟩
        rw [Option.some.inj same]
        exact others

/-- A group that is new takes the place of the one before it. -/
theorem replaced {first rest : List Nat} {p : Option Nat} {new : Nat}
    (once : (first ++ p.toList ++ rest).Nodup) (fresh : new ∉ first ++ p.toList ++ rest) :
    (first ++ (some new).toList ++ rest).Nodup ∧
      ∀ k, k ∈ new :: (first ++ p.toList ++ rest).filter (fun k => p ≠ some k) ↔
        k ∈ first ++ (some new).toList ++ rest := by
  have others : (first ++ rest).Nodup := by
    cases p with
    | none => rwa [Option.toList_none, List.append_nil] at once
    | some g =>
        rw [Option.toList_some, List.append_assoc, List.singleton_append] at once
        exact (List.nodup_cons.mp (List.nodup_middle.mp once)).2
  have notThere : new ∉ first ++ rest := fun there => fresh ((mem_others once new).mpr there).1
  rw [Option.toList_some, List.append_assoc, List.append_assoc, List.singleton_append]
  refine ⟨List.nodup_middle.mpr (List.nodup_cons.mpr ⟨notThere, others⟩), fun k => ?_⟩
  have kept : k ∈ (first ++ (p.toList ++ rest)).filter (fun k => p ≠ some k) ↔
      k ∈ first ++ rest := by
    rw [List.mem_filter, decide_eq_true_eq, ← List.append_assoc]
    exact mem_others once k
  rw [List.mem_cons, kept, List.mem_append, List.mem_append, List.mem_cons, or_left_comm]

/-! ### Screens -/

/-- A screen whose group takes the place of the one in `p`. -/
theorem Rest.present (rest : s.Rest plan clock) {first others : List Nat} {p : Option Nat}
    (groups : s.owned = first ++ p.toList ++ others) (plan' : Plan UiWidget)
    (painted : Option UiWidget) (onScreen : ∀ w ∈ painted, w ∈ plan'.widgets) :
    ∃ gui, s.gui.present plan' painted p = some (s.gui.fresh, s.gui.fresh + 1, gui) ∧
      gui.active = s.gui.fresh ∧ gui.keys = some (s.gui.fresh + 1) ∧
      (first ++ (some (s.gui.fresh + 1)).toList ++ others).Nodup ∧
      Settled gui plan' (first ++ (some (s.gui.fresh + 1)).toList ++ others)
        (painted.map fun w => (s.gui.fresh + 2, w)) := by
  have inOwned : ∀ k ∈ p, k ∈ s.owned := by
    intro k mine
    rw [groups, List.mem_append, List.mem_append]
    exact .inl (.inr (Option.mem_toList.mpr mine))
  obtain ⟨gui, presents, active, keys, _, settled⟩ := rest.settled.present onScreen inOwned
  have new : s.gui.fresh + 1 ∉ s.owned := fun there => by
    have := rest.settled.groupsOld _ there
    omega
  have once := rest.once
  rw [groups] at settled new once
  obtain ⟨once', same⟩ := replaced once new
  exact ⟨gui, presents, active, keys, once', settled.congr same⟩

theorem homePlan_wifiStatusLbl (banner : Bool) (items : List ListItem) :
    ∀ w ∈ some UiWidget.wifiStatusLbl, w ∈ Plan.widgets (homePlan banner ++ listPlan 0 items) := by
  rintro _ ⟨⟩
  rw [Plan.widgets_append]
  exact List.mem_append_left _ (by cases banner <;> decide)

theorem owned_shell (s : Screens) :
    s.owned = [] ++ s.sGroup.toList ++ (s.wifiGroup.toList ++ s.sshGroups) := List.append_assoc ..

theorem owned_wifi (s : Screens) :
    s.owned = s.sGroup.toList ++ s.wifiGroup.toList ++ s.sshGroups := rfl

theorem owned_ssh (s : Screens) :
    s.owned =
      (s.sGroup.toList ++ s.wifiGroup.toList) ++ (none : Option Nat).toList ++ s.sshGroups := by
  rw [Option.toList_none, List.append_nil]
  rfl

/-- **The home screen**, from any other without a session. -/
theorem Rest.showHome (rest : s.Rest plan clock) (quiet : s.ioTasks = 0) (items : List ListItem) :
    Runs (s.uiShellShowHome items) := by
  obtain ⟨gui, presents, active, keys, once, settled⟩ :=
    rest.present s.owned_shell _ _ (homePlan_wifiStatusLbl s.sStatusMessage items)
  unfold uiShellShowHome
  rw [presents]
  refine ⟨_, rfl, _, _, _, ⟨?_, ?_, rest.apList, rest.statusLabel, rest.sshStatusLbl⟩,
    .home s.sStatusMessage items (s.gui.fresh + 2) (s.gui.fresh + 1) quiet rfl keys ?_ ?_⟩
  · rw [owned_shell]
    exact settled
  · rw [owned_shell]
    exact once
  · rw [active]
  · rw [active]

theorem Rest.showEdit (rest : s.Rest plan clock) (quiet : s.ioTasks = 0) (index : Int)
    (existing : Bool) : Runs (s.showEditScreen index existing) := by
  obtain ⟨gui, presents, active, keys, once, settled⟩ :=
    rest.present s.owned_shell (editPlan existing) none (by rintro _ ⟨⟩)
  unfold showEditScreen
  rw [presents]
  refine ⟨_, rfl, _, _, _, ⟨?_, ?_, rest.apList, rest.statusLabel, rest.sshStatusLbl⟩,
    .edit existing (s.gui.fresh + 1) quiet keys ?_⟩
  · rw [owned_shell]
    exact settled
  · rw [owned_shell]
    exact once
  · rw [active]

theorem Rest.showScan (rest : s.Rest plan clock) (quiet : s.ioTasks = 0) :
    Runs s.showScanScreen := by
  obtain ⟨gui, presents, active, keys, once, settled⟩ :=
    rest.present s.owned_wifi scanPlan none (by rintro _ ⟨⟩)
  unfold showScanScreen
  rw [presents]
  refine ⟨_, rfl, _, _, _, ⟨settled, once, ?_, ?_, rest.sshStatusLbl⟩,
    .scan 0 (s.gui.fresh + 1) quiet rfl keys ?_ ?_⟩
  · rintro _ ⟨⟩
    rfl
  · rintro _ ⟨⟩
    rfl
  · rw [active]
  · rw [active]

theorem Rest.showPassword (rest : s.Rest plan clock) (quiet : s.ioTasks = 0) :
    Runs s.showPasswordScreen := by
  obtain ⟨gui, presents, active, keys, once, settled⟩ :=
    rest.present s.owned_wifi passwordPlan none (by rintro _ ⟨⟩)
  unfold showPasswordScreen
  rw [presents]
  refine ⟨_, rfl, _, _, _, ⟨settled, once, rest.apList, ?_, rest.sshStatusLbl⟩,
    .password (s.gui.fresh + 1) quiet keys ?_⟩
  · rintro _ ⟨⟩
    rfl
  · rw [active]

theorem Rest.showSshPassword (rest : s.Rest plan clock) (quiet : s.ioTasks = 0) :
    Runs s.showSshPasswordScreen := by
  obtain ⟨gui, presents, active, keys, once, settled⟩ :=
    rest.present s.owned_ssh sshPasswordPlan none (by rintro _ ⟨⟩)
  rw [Option.toList_some, List.append_assoc, List.singleton_append] at once settled
  unfold showSshPasswordScreen
  rw [presents]
  refine ⟨_, rfl, _, _, _, ⟨settled, once, rest.apList, rest.statusLabel, ?_⟩,
    .sshPassword (s.gui.fresh + 1) quiet keys ?_ ?_⟩
  · rintro _ ⟨⟩
    rfl
  · rw [active]
  · rw [active]

/-- **A session's screen**; the keyboard keeps its group, which is empty by then. -/
theorem Rest.openSession (rest : s.Rest plan clock) (quiet : s.ioTasks = 0) {k : Nat}
    (bound : s.gui.keys = some k) : Runs s.openSessionScreen := by
  obtain ⟨gui, presents, active, keys, _, settled⟩ := rest.settled.presentBare sessionWidgets
  unfold openSessionScreen
  rw [presents]
  refine ⟨_, rfl, _, _, _, ⟨settled, rest.once, rest.apList, rest.statusLabel, rest.sshStatusLbl⟩,
    .session k ?_ (keys.trans bound) ?_ ?_ ?_ ?_⟩
  · show s.ioTasks + 1 = 1
    rw [quiet]
  · rw [active]
  · rw [active]
  · rw [active]
  · rw [active]

/-! ### Pointers -/

theorem follow_eq {h : Handle UiWidget} {p : Pointer} (points : p = some h)
    (valid : s.gui.Valid h) : s.follow p = some s := by
  rw [follow, points, Option.bind_eq_bind, Option.bind_some, Gui.touch_eq valid]
  rfl

theorem setValid_eq (s : Screens) (p : Pointer) : s.setValid p = some s := by
  unfold setValid
  cases p with
  | none => rfl
  | some h =>
      by_cases valid : s.gui.Valid h
      · rw [follow_eq rfl valid, ite_self]
      · rw [if_neg]
        simp [isValid, valid]

theorem Rest.valid (rest : s.Rest plan clock) {w : UiWidget} (mem : w ∈ plan.widgets) :
    s.gui.Valid ⟨s.gui.active, w⟩ := rest.settled.valid_iff.mpr ⟨rfl, mem⟩

/-! ### Pages -/

theorem listPlan_items (k : Nat) (items : List ListItem) :
    ∀ part ∈ listPlan k items, part.1.isHostItem = true ∧ .home ∈ part.1.pages ∧
      part.2 = part.1.takesKeys := by
  induction items generalizing k with
  | nil => exact fun _ mem => absurd mem List.not_mem_nil
  | cons item items ih =>
      intro part mem
      rcases List.mem_cons.mp mem with rfl | later
      · split <;> exact ⟨rfl, List.mem_cons_self, rfl⟩
      · exact ih (k + 1) part later

theorem homePlan_parts (banner : Bool) : ∀ part ∈ homePlan banner,
    part.1.isHostItem = false ∧ .home ∈ part.1.pages ∧ part.2 = part.1.takesKeys := by
  cases banner <;> decide

theorem scanPlan_parts : ∀ part ∈ scanPlan,
    part.1.isApRow = false ∧ .scan ∈ part.1.pages ∧ part.2 = part.1.takesKeys := by
  decide

/-- A widget is on a page for it, and in the group if it takes keys. -/
theorem Layout.parts {page : UiPage} (layout : s.Layout page plan clock) :
    ∀ part ∈ plan, page ∈ part.1.pages ∧ part.2 = part.1.takesKeys := by
  cases layout with
  | home banner items =>
      intro part mem
      rcases List.mem_append.mp mem with top | item
      · exact (homePlan_parts banner part top).2
      · exact (listPlan_items 0 items part item).2
  | edit existing => cases existing <;> decide
  | scan count =>
      intro part mem
      rcases List.mem_append.mp mem with top | row
      · exact (scanPlan_parts part top).2
      · obtain ⟨k, _, rfl⟩ := List.mem_map.mp row
        exact ⟨List.mem_cons_self, rfl⟩
  | password => decide
  | sshPassword => decide
  | session => decide

theorem Layout.page_of_mem {page : UiPage} (layout : s.Layout page plan clock) {w : UiWidget}
    (mem : w ∈ plan.widgets) : page ∈ w.pages := by
  obtain ⟨part, inside, rfl⟩ := List.mem_map.mp mem
  exact (layout.parts part inside).1

/-- **A callback runs on its own page.** -/
theorem onWidget_runs (inv : s.Inv) {w : UiWidget} {page : UiPage} (only : w.pages = [page])
    {callback : Option Screens}
    (runs : ∀ plan clock, s.Rest plan clock → s.Layout page plan clock → Runs callback) :
    Runs (s.onWidget w callback) := by
  obtain ⟨now, plan, clock, rest, layout⟩ := inv
  unfold onWidget
  split
  · rename_i valid
    have on := layout.page_of_mem (rest.settled.valid_iff.mp valid).2
    rw [only] at on
    cases List.mem_singleton.mp on
    exact runs plan clock rest layout
  · exact ⟨s, rfl, now, plan, clock, rest, layout⟩

/-! ### The host list and the rows of a scan -/

theorem without_left {kept going : Plan UiWidget} {goes : UiWidget → Bool}
    (stay : ∀ part ∈ kept, goes part.1 = false) (go : ∀ part ∈ going, goes part.1 = true) :
    Plan.without (kept ++ going) goes = kept := by
  have all : going.filter (fun part => !goes part.1) = [] :=
    List.filter_eq_nil_iff.mpr fun part mem => by simp [go part mem]
  have none : kept.filter (fun part => !goes part.1) = kept :=
    List.filter_eq_self.mpr fun part mem => by simp [stay part mem]
  rw [Plan.without, List.filter_append, all, none, List.append_nil]

/-- **The rows are made again**: those before go, with their places in the group. -/
theorem Rest.refill (rest : s.Rest plan clock) {kept going : Plan UiWidget}
    (parts : plan = kept ++ going) {goes : UiWidget → Bool}
    (stay : ∀ part ∈ kept, goes part.1 = false) (go : ∀ part ∈ going, goes part.1 = true)
    (painted : ∀ c ∈ clock, goes c.2 = false) {k : Nat} (keys : s.gui.keys = some k)
    (more : Plan UiWidget) :
    ∃ cleaned gui, s.gui.delete s.gui.active goes = some cleaned ∧
      (∀ w ∈ kept.widgets, cleaned.Valid ⟨s.gui.active, w⟩) ∧
      cleaned.createAll s.gui.active k more = some gui ∧ gui.active = s.gui.active ∧
      gui.keys = some k ∧ Settled gui (kept ++ more) s.owned clock := by
  obtain ⟨cleaned, deletes, active, keysKept, _, settled⟩ := rest.settled.delete goes painted
  rw [parts, without_left stay go] at settled
  obtain ⟨gui, creates, active', keys', _, settled'⟩ :=
    settled.extend (keysKept.trans keys) more
  rw [active] at creates
  refine ⟨cleaned, gui, deletes, fun w mem => ?_, creates, active'.trans active,
    keys'.trans (keysKept.trans keys), settled'⟩
  exact settled.valid_iff.mpr ⟨active.symm, mem⟩

theorem Rest.rebuild (rest : s.Rest plan clock) (layout : s.Layout .home plan clock)
    (items : List ListItem) : Runs (s.rebuildHostList items) := by
  cases layout with
  | home banner before timer k quiet group keys search list =>
      have top : ∀ w ∈ [UiWidget.searchTa, .listContainer], w ∈ (homePlan banner).widgets := by
        cases banner <;> decide
      have listed : s.gui.Valid ⟨s.gui.active, .listContainer⟩ := by
        refine rest.valid ?_
        rw [Plan.widgets_append]
        exact List.mem_append_left _ (top _ (by decide))
      obtain ⟨cleaned, gui, deletes, valid, creates, active, keys', settled⟩ :=
        rest.refill rfl (fun part mem => (homePlan_parts banner part mem).1)
          (fun part mem => (listPlan_items 0 before part mem).1) (by rintro _ ⟨⟩; rfl) keys
          (listPlan 0 items)
      have searched := valid _ (top .searchTa (by decide))
      have result : s.rebuildHostList items = some { s with gui := gui } := by
        rw [rebuildHostList, list, search, group]
        simp only [Option.bind_eq_bind, Option.bind_some, Gui.touch_eq listed, deletes,
          Gui.touch_eq searched, creates]
      refine ⟨_, result, _, _, _, ⟨settled, rest.once, rest.apList, rest.statusLabel,
        rest.sshStatusLbl⟩, .home banner items timer k quiet group keys' ?_ ?_⟩
      · rw [active]
        exact search
      · rw [active]
        exact list

/-- How many background tasks run matters to nothing on the screen. -/
theorem Inv.tasks (inv : s.Inv) (scans connects sshConnects : Nat) :
    Inv { s with
      scanTasks := scans
      connectTasks := connects
      sshConnectTasks := sshConnects } := by
  obtain ⟨page, plan, clock, rest, layout⟩ := inv
  refine ⟨page, plan, clock, { rest with }, ?_⟩
  cases layout with
  | home banner items timer k quiet group keys search list =>
      exact .home banner items timer k quiet group keys search list
  | edit existing k quiet keys fields => exact .edit existing k quiet keys fields
  | scan count k quiet group keys list status => exact .scan count k quiet group keys list status
  | password k quiet keys pwTa => exact .password k quiet keys pwTa
  | sshPassword k quiet keys pwTa status => exact .sshPassword k quiet keys pwTa status
  | session k one keys info jump echo term => exact .session k one keys info jump echo term

theorem isValid_some {p : Pointer} (valid : s.isValid p = true) :
    ∃ h, p = some h ∧ s.gui.Valid h := by
  cases p with
  | none => cases valid
  | some h => exact ⟨h, rfl, of_decide_eq_true valid⟩

/-- **The end of a scan**, whatever screen is there by then. -/
theorem scanTask_runs (inv : s.Inv) (count : Nat) : Runs (s.scanTask count) := by
  by_cases gone : (!s.isValid s.wifiListContainer || !s.isValid s.wifiStatusLabel) = true
  · rw [scanTask, if_pos gone]
    exact ⟨s, rfl, inv⟩
  have listed : s.isValid s.wifiListContainer = true := by
    by_contra notListed
    exact gone (by simp [notListed])
  obtain ⟨page, plan, clock, rest, layout⟩ := inv
  obtain ⟨h, points, valid⟩ := isValid_some listed
  have mem := (rest.settled.valid_iff.mp valid).2
  rw [rest.apList h points] at mem
  have isScan := List.mem_singleton.mp (layout.page_of_mem mem)
  subst isScan
  cases layout with
  | scan rows k quiet group keys list status =>
      obtain ⟨cleaned, gui, deletes, kept, creates, active, keys', settled⟩ :=
        rest.refill rfl (fun part mem => (scanPlan_parts part mem).1)
          (fun part mem => by obtain ⟨i, _, rfl⟩ := List.mem_map.mp mem; rfl) (by rintro _ ⟨⟩) keys
          (apPlan count)
      have labelled := kept .statusLabel (by decide)
      have result : s.scanTask count = some { s with gui := gui } := by
        rw [scanTask, if_neg gone, list, status, group]
        simp only [Option.bind_eq_bind, Option.bind_some, deletes, Gui.touch_eq labelled, creates]
      refine ⟨_, result, _, _, _, ⟨settled, rest.once, rest.apList, rest.statusLabel,
        rest.sshStatusLbl⟩, .scan count k quiet group keys' ?_ ?_⟩
      · rw [active]
        exact list
      · rw [active]
        exact status

/-! ### The other callbacks -/

theorem startConnect_runs (inv : s.Inv) (allocated : Bool) : Runs (s.startConnect allocated) := by
  unfold startConnect
  split
  · rw [setValid_eq]
    exact ⟨_, rfl, inv.tasks s.scanTasks (s.connectTasks + 1) s.sshConnectTasks⟩
  · exact ⟨s, rfl, inv⟩

theorem apRowClickCb_runs (inv : s.Inv) (rest : s.Rest plan clock) (quiet : s.ioTasks = 0)
    (leads : ApTap) : Runs (s.apRowClickCb leads) := by
  cases leads with
  | ignored => exact ⟨s, rfl, inv⟩
  | connects allocated => exact startConnect_runs inv allocated
  | asks => exact rest.showPassword quiet

theorem readForm_eq (fields : List (Handle UiWidget)) (valid : ∀ h ∈ fields, s.gui.Valid h) :
    s.readForm fields = some s := by
  induction fields with
  | nil => rfl
  | cons h fields ih =>
      obtain ⟨first, others⟩ := List.forall_mem_cons.mp valid
      rw [readForm, follow_eq rfl first, Option.bind_eq_bind, Option.bind_some]
      exact ih others

theorem Layout.quiet {page : UiPage} (layout : s.Layout page plan clock) (other : page ≠ .session) :
    s.ioTasks = 0 := by
  cases layout with
  | session => exact absurd rfl other
  | _ => assumption

theorem Layout.keys {page : UiPage} (layout : s.Layout page plan clock) :
    ∃ k, s.gui.keys = some k := by
  cases layout <;> exact ⟨_, ‹s.gui.keys = some _›⟩

theorem editFields_valid (rest : s.Rest plan clock) (layout : s.Layout .edit plan clock) :
    ∀ h ∈ s.sEdit, s.gui.Valid h := by
  cases layout with
  | edit existing k quiet keys fields =>
      have all : ∀ w ∈ editFields, w ∈ (editPlan existing).widgets := by
        cases existing <;> decide
      rw [fields]
      intro h mem
      obtain ⟨w, isField, rfl⟩ := List.mem_map.mp mem
      exact rest.valid (all w isField)

theorem saveBtnClickCb_runs (rest : s.Rest plan clock) (layout : s.Layout .edit plan clock)
    (saved : Bool) (items : List ListItem) : Runs (s.saveBtnClickCb saved items) := by
  rw [saveBtnClickCb, readForm_eq _ (editFields_valid rest layout), Option.bind_eq_bind,
    Option.bind_some]
  split
  · exact rest.showHome (layout.quiet (by decide)) items
  · exact ⟨s, rfl, _, _, _, rest, layout⟩

theorem protocolDdChangedCb_runs (rest : s.Rest plan clock) (layout : s.Layout .edit plan clock) :
    Runs s.protocolDdChangedCb := by
  have same : s.protocolDdChangedCb = some s := by
    unfold protocolDdChangedCb
    split
    · rfl
    · exact readForm_eq _ fun h mem => editFields_valid rest layout h (List.mem_filter.mp mem).1
  exact ⟨s, same, _, _, _, rest, layout⟩

theorem connectBtnClickCb_runs (rest : s.Rest plan clock) (layout : s.Layout .password plan clock)
    (allocated : Bool) : Runs (s.connectBtnClickCb allocated) := by
  have inv : s.Inv := ⟨_, _, _, rest, layout⟩
  cases layout with
  | password k quiet keys pwTa =>
      rw [connectBtnClickCb, follow_eq pwTa (rest.valid (by decide)), Option.bind_eq_bind,
        Option.bind_some]
      exact startConnect_runs inv allocated

theorem sshConnectBtnClickCb_runs (rest : s.Rest plan clock)
    (layout : s.Layout .sshPassword plan clock) (allocated : Bool) :
    Runs (s.sshConnectBtnClickCb allocated) := by
  have inv : s.Inv := ⟨_, _, _, rest, layout⟩
  cases layout with
  | sshPassword k quiet keys pwTa status =>
      unfold sshConnectBtnClickCb
      split
      · rw [follow_eq pwTa (rest.valid (by decide)), Option.bind_eq_bind, Option.bind_some,
          follow_eq status (rest.valid (by decide)), Option.bind_some]
        exact ⟨_, rfl, inv.tasks s.scanTasks s.connectTasks (s.sshConnectTasks + 1)⟩
      · exact ⟨s, rfl, inv⟩

theorem hostRowClickCb_runs (rest : s.Rest plan clock) (layout : s.Layout .home plan clock)
    (leads : HostTap) : Runs (s.hostRowClickCb leads) := by
  have inv : s.Inv := ⟨_, _, _, rest, layout⟩
  have quiet := layout.quiet (by decide)
  obtain ⟨k, keys⟩ := layout.keys
  cases leads with
  | telnet connected =>
      cases connected with
      | true => exact rest.openSession quiet keys
      | false => exact ⟨s, rfl, inv⟩
  | ssh keyAuth =>
      cases keyAuth with
      | true => exact ⟨s, rfl, inv⟩
      | false => exact rest.showSshPassword quiet
  | edit index existing => exact rest.showEdit quiet index existing

/-- What a session draws and writes on is there. -/
theorem Layout.session_eq (rest : s.Rest plan clock) (layout : s.Layout .session plan clock) :
    s.drawTerm = some s ∧ s.follow s.sInfoLbl = some s ∧ s.follow s.sEchoBtnLbl = some s := by
  cases layout with
  | session k one keys info jump echo term =>
      refine ⟨?_, follow_eq info (rest.valid (by decide)), follow_eq echo (rest.valid (by decide))⟩
      rw [drawTerm, follow_eq term (rest.valid (by decide)), Option.bind_eq_bind, Option.bind_some]
      exact follow_eq jump (rest.valid (by decide))

/-- **The end of a session.** -/
theorem sessionIoTask_runs (rest : s.Rest plan clock) (layout : s.Layout .session plan clock)
    (message : Bool) (items : List ListItem) : Runs (s.sessionIoTask message items) := by
  cases layout with
  | session k one keys info jump echo term =>
      have drawn : s.gui.Valid ⟨s.gui.active, .canvas⟩ := rest.valid (by decide)
      obtain ⟨gui, deletes, _, _, _, settled⟩ :=
        rest.settled.delete (fun w => w = .canvas) (by rintro _ ⟨⟩)
      have after : Rest { s with
          gui := gui
          sTerm := none
          sStatusMessage := message || s.sStatusMessage
          ioTasks := s.ioTasks - 1 } _ none :=
        ⟨settled, rest.once, rest.apList, rest.statusLabel, rest.sshStatusLbl⟩
      have quiet : s.ioTasks - 1 = 0 := by rw [one]
      have runs := after.showHome quiet items
      rw [sessionIoTask, term]
      simp only [Option.bind_eq_bind, Option.bind_some, Gui.touch_eq drawn, deletes]
      exact runs

/-- The timer paints a label that is there. -/
theorem wifiStatusTimerCb_runs (inv : s.Inv) (timer : Nat) : Runs (s.wifiStatusTimerCb timer) := by
  obtain ⟨page, plan, clock, rest, layout⟩ := inv
  refine ⟨s, ?_, page, plan, clock, rest, layout⟩
  unfold wifiStatusTimerCb
  split
  · rename_i label ticks
    exact follow_eq rfl (rest.settled.valid_of_timer ticks)
  · rfl

/-! ### The background tasks -/

theorem connectTask_runs (inv : s.Inv) (ok : Bool) (quiet : ok = true → s.ioTasks = 0)
    (items : List ListItem) : Runs (s.connectTask ok items) := by
  cases ok with
  | true =>
      obtain ⟨page, plan, clock, rest, _⟩ := inv
      exact rest.showHome (quiet rfl) items
  | false => exact ⟨s, setValid_eq s s.wifiStatusLabel, inv⟩

theorem sshConnectTask_runs (inv : s.Inv) (ok : Bool) (quiet : ok = true → s.ioTasks = 0) :
    Runs (s.sshConnectTask ok) := by
  cases ok with
  | true =>
      obtain ⟨page, plan, clock, rest, layout⟩ := inv
      obtain ⟨k, keys⟩ := layout.keys
      exact rest.openSession (quiet rfl) keys
  | false => exact ⟨s, setValid_eq s s.sSshStatusLbl, inv⟩

/-- A step of the io task runs on the page of a session. -/
theorem onSession_runs (inv : s.Inv) {call : Option Screens}
    (runs : ∀ plan clock, s.Rest plan clock → s.Layout .session plan clock → Runs call) :
    Runs (if 0 < s.ioTasks then call else some s) := by
  split
  · rename_i busy
    obtain ⟨page, plan, clock, rest, layout⟩ := inv
    have isSession : page = .session := by
      by_contra other
      rw [layout.quiet other] at busy
      exact Nat.lt_irrefl 0 busy
    subst isSession
    exact runs plan clock rest layout
  · exact ⟨s, rfl, inv⟩

/-- The end of a background task that leads to another screen. -/
def connects (s : Screens) : ScreenEvent → Bool
  | .wifiConnected ok _ => ok && decide (0 < s.connectTasks)
  | .sshConnected ok => ok && decide (0 < s.sshConnectTasks)
  | _ => false

/-- No connection is made in the background while a session is open. -/
def Alone (s : Screens) (e : ScreenEvent) : Prop := s.connects e = true → s.ioTasks = 0

instance (s : Screens) (e : ScreenEvent) : Decidable (s.Alone e) :=
  inferInstanceAs (Decidable (_ → _))

/-- **One step.** -/
theorem step_runs (inv : s.Inv) (e : ScreenEvent) (alone : s.Alone e) : Runs (s.step e) := by
  cases e with
  | search items =>
      exact onWidget_runs inv rfl fun plan clock rest layout =>
        rest.rebuild layout items
  | tapHost k leads =>
      exact onWidget_runs inv rfl fun plan clock rest layout =>
        hostRowClickCb_runs rest layout leads
  | longPressHost k index existing =>
      exact onWidget_runs inv rfl fun plan clock rest layout =>
        rest.showEdit (layout.quiet (by decide)) index existing
  | addBtn =>
      exact onWidget_runs inv rfl fun plan clock rest layout =>
        rest.showEdit (layout.quiet (by decide)) (-1) false
  | wifiBtn =>
      exact onWidget_runs inv rfl fun plan clock rest layout =>
        rest.showScan (layout.quiet (by decide))
  | tick timer => exact wifiStatusTimerCb_runs inv timer
  | protocolDd =>
      exact onWidget_runs inv rfl fun plan clock rest layout =>
        protocolDdChangedCb_runs rest layout
  | saveBtn saved items =>
      exact onWidget_runs inv rfl fun plan clock rest layout =>
        saveBtnClickCb_runs rest layout saved items
  | deleteBtn items =>
      exact onWidget_runs inv rfl fun plan clock rest layout =>
        rest.showHome (layout.quiet (by decide)) items
  | cancelBtn items =>
      exact onWidget_runs inv rfl fun plan clock rest layout =>
        rest.showHome (layout.quiet (by decide)) items
  | rescanBtn =>
      exact onWidget_runs inv rfl fun plan clock rest layout =>
        rest.showScan (layout.quiet (by decide))
  | backBtn items =>
      exact onWidget_runs inv rfl fun plan clock rest layout =>
        rest.showHome (layout.quiet (by decide)) items
  | tapAp k leads =>
      exact onWidget_runs inv rfl fun plan clock rest layout =>
        apRowClickCb_runs inv rest (layout.quiet (by decide)) leads
  | pwConnectBtn allocated =>
      exact onWidget_runs inv rfl fun plan clock rest layout =>
        connectBtnClickCb_runs rest layout allocated
  | pwCancelBtn =>
      exact onWidget_runs inv rfl fun plan clock rest layout =>
        rest.showScan (layout.quiet (by decide))
  | sshConnectBtn allocated =>
      exact onWidget_runs inv rfl fun plan clock rest layout =>
        sshConnectBtnClickCb_runs rest layout allocated
  | sshCancelBtn items =>
      exact onWidget_runs inv rfl fun plan clock rest layout =>
        rest.showHome (layout.quiet (by decide)) items
  | echoBtn =>
      exact onWidget_runs inv rfl fun plan clock rest layout =>
        ⟨s, (layout.session_eq rest).2.2, inv⟩
  | jumpLiveBtn =>
      exact onWidget_runs inv rfl fun plan clock rest layout =>
        ⟨s, (layout.session_eq rest).1, inv⟩
  | canvas =>
      exact onWidget_runs inv rfl fun plan clock rest layout =>
        ⟨s, (layout.session_eq rest).1, inv⟩
  | scanned count =>
      dsimp only [step]
      split
      · exact scanTask_runs (inv.tasks (s.scanTasks - 1) s.connectTasks s.sshConnectTasks) count
      · exact ⟨s, rfl, inv⟩
  | wifiConnected ok items =>
      dsimp only [step]
      split
      · rename_i pending
        exact connectTask_runs (inv.tasks s.scanTasks (s.connectTasks - 1) s.sshConnectTasks) ok
          (fun isOk => alone (by rw [connects, isOk, decide_eq_true pending, Bool.and_self])) items
      · exact ⟨s, rfl, inv⟩
  | sshConnected ok =>
      dsimp only [step]
      split
      · rename_i pending
        exact sshConnectTask_runs (inv.tasks s.scanTasks s.connectTasks (s.sshConnectTasks - 1)) ok
          fun isOk => alone (by rw [connects, isOk, decide_eq_true pending, Bool.and_self])
      · exact ⟨s, rfl, inv⟩
  | ioDraws =>
      exact onSession_runs inv fun plan clock rest layout => ⟨s, (layout.session_eq rest).1, inv⟩
  | ioLabels =>
      exact onSession_runs inv fun plan clock rest layout => ⟨s, (layout.session_eq rest).2.1, inv⟩
  | ioEnds message items =>
      exact onSession_runs inv fun plan clock rest layout =>
        sessionIoTask_runs rest layout message items

/-! ### Runs -/

/-- Power-on, up to the home screen of `app_main`. -/
def boot (items : List ListItem) : Option Screens := start.uiShellShowHome items

theorem boot_runs (items : List ListItem) : Runs (boot items) := by
  have settled : Settled start.gui [] start.owned none :=
    { screens := fun _ => rfl
      groups := fun _ => rfl
      keys := by rintro k ⟨⟩
      timers := fun _ => rfl
      attached := fun n => (ite_self none).symm
      painted := by rintro c ⟨⟩
      screenOld := Nat.one_pos
      groupsOld := fun k none => absurd none List.not_mem_nil
      timersOld := by rintro c ⟨⟩ }
  have rest : Rest start [] none :=
    ⟨settled, List.nodup_nil, by rintro h ⟨⟩, by rintro h ⟨⟩, by rintro h ⟨⟩⟩
  exact rest.showHome rfl items

/-- The steps of a run, until one names what has gone. -/
def next (now : Option Screens) (e : ScreenEvent) : Option Screens := now.bind (·.step e)

/-- The widgets of the screen that is shown. -/
def shown (s : Screens) : List UiWidget := (s.gui.screens s.gui.active).getD []

/-- What a user and the keyboard find. -/
structure Sound (s : Screens) : Prop where
  oneScreen : ∀ n, (s.gui.screens n).isSome ↔ n = s.gui.active
  /-- The keyboard goes through the fields and buttons of the screen, in order. -/
  focus : ∃ k, s.gui.keys = some k ∧ s.gui.groups k =
    some ((s.shown.filter UiWidget.takesKeys).map (⟨s.gui.active, ·⟩))
  /-- The other groups are empty, each in one variable or one of a login's. -/
  groups : ∀ k, (s.gui.groups k).isSome ↔ k ∈ s.owned
  once : s.owned.Nodup
  empty : ∀ k, s.gui.keys ≠ some k → ∀ members ∈ s.gui.groups k, members = []
  /-- The home screen has a timer, and no other screen has. -/
  timers : ∀ h, (∃ t, s.gui.timers t = some h) ↔
    h = ⟨s.gui.active, .wifiStatusLbl⟩ ∧ .wifiStatusLbl ∈ s.shown
  oneTimer : ∀ t t', (s.gui.timers t).isSome → (s.gui.timers t').isSome → t = t'

theorem Layout.handles {page : UiPage} (layout : s.Layout page plan clock) (n : Nat) :
    plan.handles n = (plan.widgets.filter UiWidget.takesKeys).map (⟨n, ·⟩) := by
  have same : plan.filter Prod.snd = plan.filter fun part => part.1.takesKeys :=
    List.filter_congr fun part mem => (layout.parts part mem).2
  rw [Plan.handles, same, Plan.widgets, List.filter_map, List.map_map]
  rfl

/-- The timer is the home screen's. -/
theorem Layout.ticking {page : UiPage} (layout : s.Layout page plan clock) :
    (∃ t, clock = some (t, .wifiStatusLbl)) ∧ .wifiStatusLbl ∈ plan.widgets ∨
      clock = none ∧ .wifiStatusLbl ∉ plan.widgets := by
  have away (other : page ≠ .home) : .wifiStatusLbl ∉ plan.widgets := fun mem =>
    other (List.mem_singleton.mp (layout.page_of_mem mem))
  cases layout with
  | home banner items timer =>
      exact .inl ⟨⟨timer, rfl⟩, homePlan_wifiStatusLbl banner items _ rfl⟩
  | edit => exact .inr ⟨rfl, away (by decide)⟩
  | scan => exact .inr ⟨rfl, away (by decide)⟩
  | password => exact .inr ⟨rfl, away (by decide)⟩
  | sshPassword => exact .inr ⟨rfl, away (by decide)⟩
  | session => exact .inr ⟨rfl, away (by decide)⟩

theorem Inv.sound (inv : s.Inv) : s.Sound := by
  obtain ⟨page, plan, clock, rest, layout⟩ := inv
  have here : s.shown = plan.widgets := by
    rw [shown, rest.settled.screens, if_pos rfl]
    rfl
  obtain ⟨k, keys⟩ := layout.keys
  refine
    { oneScreen := fun n => ?_, focus := ⟨k, keys, ?_⟩, groups := fun k => ?_, once := rest.once
      empty := fun k other members held => ?_, timers := fun h => ?_
      oneTimer := fun t t' first second => ?_ }
  · rw [rest.settled.screens]
    split <;> simp_all
  · rw [rest.settled.groups, if_pos (rest.settled.keys k keys), if_pos keys, here,
      layout.handles]
  · rw [rest.settled.groups]
    split <;> simp_all
  · rw [rest.settled.groups, if_neg other] at held
    exact (Option.some.inj (Option.ite_none_right_eq_some.mp held).2).symm
  · simp only [rest.settled.timers, here]
    rcases layout.ticking with ⟨⟨t, rfl⟩, mem⟩ | ⟨rfl, notMem⟩
    · simp [paints, mem, eq_comm]
    · simp [paints, notMem]
  · rw [rest.settled.timers] at first second
    rcases layout.ticking with ⟨⟨c, rfl⟩, _⟩ | ⟨rfl, _⟩
    · simp_all [paints]
    · cases first

/-- **The screens live as long as they are used.** From power-on, through whatever the user does and
whenever the background tasks end, as long as no connection is made in the background while a
session is open: no call names a widget, a group, a timer or a screen that has been deleted. One
screen is there at a time; the keyboard goes through its fields and buttons and no others; no group
is deleted twice or forgotten, but for one empty group for each SSH login shown; and the timer of
the WiFi status is there exactly with its label. -/
theorem screens_live (items : List ListItem) (events : List ScreenEvent)
    (alone : Run.Meets next (fun now e => ∀ s ∈ now, s.Alone e) (boot items) events) :
    Run.Always next (fun now => ∃ s, now = some s ∧ s.Sound) (boot items) events := by
  have runs : Run.Always next Runs (boot items) events := by
    refine Run.always_of_meets (fun now e here meets => ?_) (boot_runs items) alone
    obtain ⟨s, rfl, inv⟩ := here
    exact step_runs inv e (meets s rfl)
  exact runs.mono fun now here => by
    obtain ⟨s, isNow, inv⟩ := here
    exact ⟨s, isNow, inv.sound⟩

/-- A scan ends after the user has gone back, a login leads to a session, and the session ends. -/
def loginRun : List ScreenEvent :=
  [.wifiBtn, .scanned 2, .tapAp 1 (.connects true), .rescanBtn, .backBtn [], .scanned 3,
    .wifiConnected true [.row ⟨0, 0, []⟩], .tick 13, .tapHost 0 (.ssh false), .sshConnectBtn true,
    .sshConnected true, .canvas, .ioDraws, .ioEnds true [.row ⟨0, 0, []⟩], .search []]

theorem screens_live_login :
    Run.Always next (fun now => ∃ s, now = some s ∧ s.Sound) (boot []) loginRun :=
  screens_live [] loginRun (by decide)

end Screens

end Tab5
