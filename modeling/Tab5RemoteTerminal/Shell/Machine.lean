/-
**The home screen and the edit form as a machine** (`main/ui_shell.c`).

The state is the host store, `s_status_message`, and what is on the screen: the rows of the host
list as they were last built, or the form. Other screens are one here; a session that ends or a
WiFi connect that succeeds shows the home screen from whatever screen there is. A tap on a widget
that is not on the screen does nothing.
-/

import Tab5RemoteTerminal.Shell.HostRows

namespace Tab5

open HostStore

inductive ShellScreen where
  /-- The search text, the children of `s_list_container`, and the text of the banner. -/
  | home (search : List UInt8) (items : List ListItem) (banner : List UInt8)
  /-- The form, and whether it has a Delete button. -/
  | edit (form : EditForm) (deletable : Bool)
  | other

structure Shell where
  store : HostStore
  sStatusMessage : CStr 128
  screen : ShellScreen

/-- What is entered into a widget of the form. -/
inductive FormInput where
  | name (text : List UInt8)
  | group (text : List UInt8)
  | protocol (selected : HostProtocol)
  | address (text : List UInt8)
  | port (text : DigitText)
  | username (text : List UInt8)
  | authType (selected : HostAuthType)
  | keepalive (text : DigitText)

/-- What can happen next; `allocated` is whether the `malloc` of `rebuild_host_list` succeeds. -/
inductive ShellAction where
  | search (text : List UInt8) (allocated : Bool)
  /-- The row of a host; `opened` is whether a session screen is loaded. -/
  | tapRow (index : Int) (opened : Bool)
  | longPressRow (index : Int)
  | addBtn
  | wifiBtn
  | enter (input : FormInput)
  | saveBtn (o : Outcomes) (allocated : Bool)
  | deleteBtn (o : Outcomes) (allocated : Bool)
  | cancelBtn (allocated : Bool)
  /-- `ui_shell_show_home`, called from elsewhere. -/
  | showHome (allocated : Bool)
  | setStatusMessage (msg : Option (List UInt8))

theorem roomFor128 : 0 < 128 := by decide

namespace EditForm

/-- The port of a new host follows the protocol. -/
def protocolDdChangedCb (form : EditForm) (selected : HostProtocol) : EditForm :=
  let form := { form with protocol := selected }
  if form.index ≥ 0 then form
  else { form with port := unsignedText (defaultPortForProtocol selected) }

def enter (form : EditForm) : FormInput → EditForm
  | .name text => { form with name := text }
  | .group text => { form with group := text }
  | .protocol selected => form.protocolDdChangedCb selected
  | .address text => { form with address := text }
  | .port text => { form with port := text }
  | .username text => { form with username := text }
  | .authType selected => { form with authType := selected }
  | .keepalive text => { form with keepalive := text }

end EditForm

namespace Shell

/-- `ui_shell_set_status_message`. -/
def setStatusMessage (s : Shell) : Option (List UInt8) → Shell
  | none => { s with sStatusMessage := .empty 128 roomFor128 }
  | some msg => { s with sStatusMessage := .copy 128 roomFor128 msg }

/-- `ui_shell_show_home`: the message is shown once. -/
def uiShellShowHome (s : Shell) (allocated : Bool) : Shell :=
  { s with
    screen := .home [] (rebuildHostList allocated [] s.store) s.sStatusMessage.bytes
    sStatusMessage := .empty 128 roomFor128 }

/-- `show_edit_screen`: a host there is can be deleted. -/
def showEdit (s : Shell) (index : Int) : Shell :=
  { s with
    screen := .edit (showEditScreen s.store index)
      (if index ≥ 0 then s.store.hostStoreGet index else none).isSome }

/-- `host_row_click_cb`. -/
def tapHost (s : Shell) (index : Int) (opened : Bool) : Shell :=
  match hostRowClickCb s.store index with
  | .openTelnet _ => if opened then { s with screen := .other } else s
  | .openSsh _ => if opened then { s with screen := .other } else s
  | .edit _ => s.showEdit index

/-- `save_btn_click_cb`, with the screen behind it. -/
def save (codec : JsonCodec) (o : Outcomes) (s : Shell) (form : EditForm) (allocated : Bool) :
    Shell :=
  let saved := saveBtnClickCb codec o form s.store
  if saved.1 = some .ok then { s with store := saved.2 }.uiShellShowHome allocated
  else { s with store := saved.2 }

/-- `delete_btn_click_cb`: what the store returns is ignored. -/
def delete (codec : JsonCodec) (o : Outcomes) (s : Shell) (form : EditForm) (allocated : Bool) :
    Shell :=
  let store := if form.index ≥ 0 then (s.store.hostStoreDelete codec o form.index).2 else s.store
  { s with store := store }.uiShellShowHome allocated

/-- A row of the list has this index as the user data of a callback. -/
def Leads (callback : HostRow → Int) (items : List ListItem) (index : Int) : Prop :=
  ∃ r ∈ items.filterMap ListItem.asRow, callback r = index

instance (callback : HostRow → Int) (items : List ListItem) (index : Int) :
    Decidable (Leads callback items index) :=
  inferInstanceAs (Decidable (∃ r ∈ _, _))

def step (codec : JsonCodec) (s : Shell) (a : ShellAction) : Shell :=
  match s.screen, a with
  | _, .showHome allocated => s.uiShellShowHome allocated
  | _, .setStatusMessage msg => s.setStatusMessage msg
  | .home _ _ banner, .search text allocated =>
      { s with screen := .home text (rebuildHostList allocated text s.store) banner }
  | .home _ items _, .tapRow index opened =>
      if Leads HostRow.click items index then s.tapHost index opened else s
  | .home _ items _, .longPressRow index =>
      if Leads HostRow.longPress items index then s.showEdit index else s
  | .home _ _ _, .addBtn => s.showEdit (-1)
  | .home _ _ _, .wifiBtn => { s with screen := .other }
  | .edit form deletable, .enter input => { s with screen := .edit (form.enter input) deletable }
  | .edit form _, .saveBtn o allocated => s.save codec o form allocated
  | .edit form deletable, .deleteBtn o allocated =>
      if deletable then s.delete codec o form allocated else s
  | .edit _ _, .cancelBtn allocated => s.uiShellShowHome allocated
  | _, _ => s

/-- After `host_store_init` and the first `ui_shell_show_home` of `app_main`. -/
def booted (codec : JsonCodec) (file : File) (allocated : Bool) : Shell :=
  uiShellShowHome
    { store := loadFromDisk codec { HostStore.fresh with file := file }
      sStatusMessage := .empty 128 roomFor128
      screen := .other } allocated

end Shell

end Tab5
