/-
**The session screen as a machine** (`main/session_ui.c`, with the screens around it).

The state is the globals of `session_ui.c`, the screen LVGL shows, the registered key callback and
the tasks that run. An `Action` is one thing that can happen next: a tap, a key, the end of a
background connect, or the next step of one of the running `session_io_task`s; `SessionUi.step` is
what it does. A tap on a widget that is not on the current screen does nothing, and neither does a
step of a task that does not run.

* A session is numbered when it is opened. Its transport, its terminal and that terminal's canvas
  go by its number; `opened`, `closed`, `destroyed` and `deletedCanvases` keep count of them.
* What the display lock covers is one step; outside it, each statement of `session_io_task` that
  reads or writes what others share is a step of its own (`IoPhase`).
* Allocations and task creation succeed, but for the `malloc`s whose failure the code handles. What
  only labels show (host names, status texts) is left out.
-/

import Tab5RemoteTerminal.Library.Run
import Tab5RemoteTerminal.Session.Keys
import Tab5RemoteTerminal.Terminal.View

namespace Tab5

open CLoop

/-! ### The state -/

/-- The screens, each up to the widgets that matter here; a session's has its terminal's canvas
until that is deleted. -/
inductive Screen where
  | home
  | edit
  | wifi
  | sshPassword
  | session (canvas : Option Nat)
deriving DecidableEq, Repr

/-- The canvas among the children of a screen. -/
def Screen.canvas : Screen → Option Nat
  | .session canvas => canvas
  | _ => none

/-- A `session_key_event_t` on the queue, and how many sessions had been opened when its key was
pressed. `raw_key_cb` queues presses only. -/
structure KeyEvent where
  key : UInt32
  pressedIn : Nat
deriving DecidableEq, Repr

/-- Where a `session_io_task` is. -/
inductive IoPhase where
  /-- `while (!s_stop_requested)` -/
  | check
  /-- `s_transport.read`, and what is done with what it read -/
  | read
  /-- `while (xQueueReceive(s_key_queue, &evt, 0) == pdTRUE)` -/
  | receive
  /-- the body of that loop -/
  | send (evt : KeyEvent)
  /-- `keyboard_indev_set_raw_cb(NULL)` -/
  | unhook
  /-- `s_transport.close(s_transport.ctx)` -/
  | close
  /-- the locked block at the end, from `terminal_destroy(s_term)` on -/
  | finish
deriving DecidableEq, Repr

/-- A running `session_io_task`, and the session it was created for. -/
structure IoTask where
  session : Nat
  phase : IoPhase
deriving DecidableEq, Repr

/-- What `s_term` points at. -/
structure SessionTerm where
  session : Nat
  terminal : Terminal

/-- One `s_transport.write` of `send_key`: to which session's transport, for which event. -/
structure Write where
  session : Nat
  evt : KeyEvent
  bytes : List UInt8
deriving DecidableEq, Repr

structure SessionUi where
  screen : Screen
  sTerm : Option SessionTerm
  sTransport : Option Nat
  sStopRequested : Bool
  sLocalEcho : Bool
  sDragPanPx : Int
  sLastScrollRenderUs : Int
  sKeyQueue : List KeyEvent
  /-- Whether `s_raw_cb` is `raw_key_cb`; it is NULL otherwise. -/
  sRawCb : Bool
  /-- Running `ssh_connect_task`s, and running `connect_task`s of the WiFi screen. -/
  sshConnectTasks : Nat
  wifiConnectTasks : Nat
  ioTasks : List IoTask
  opened : Nat
  closed : List Nat
  destroyed : List Nat
  deletedCanvases : List Nat
  sent : List Write

/-- After `session_ui_init` and the first `ui_shell_show_home` of `app_main`. -/
def booted : SessionUi where
  screen := .home
  sTerm := none
  sTransport := none
  sStopRequested := false
  sLocalEcho := false
  sDragPanPx := 0
  sLastScrollRenderUs := 0
  sKeyQueue := []
  sRawCb := false
  sshConnectTasks := 0
  wifiConnectTasks := 0
  ioTasks := []
  opened := 0
  closed := []
  destroyed := []
  deletedCanvases := []
  sent := []

/-- What a `read` of the transport returns: a chunk, with the chunks that the zero-timeout reads
after it return; 0; or a negative number. -/
inductive ReadResult where
  | data (chunk : List UInt8) (drained : List (List UInt8))
  | timeout
  | closed
deriving DecidableEq, Repr

inductive Action where
  | tapTelnetHost (connected : Bool)
  | tapSshHost (keyAuth : Bool)
  | editHost
  | closeEdit
  | openWifi
  | closeWifi
  | startWifiConnect (allocated : Bool)
  | wifiConnected (ok : Bool)
  | sshConnectBtn (allocated : Bool)
  | sshCancelBtn
  | sshConnected (ok : Bool)
  | disconnectBtn
  | echoToggleBtn
  | jumpToLiveBtn
  | canvasPressing (dy now : Int)
  | canvasReleased (now : Int)
  | key (key : UInt32) (pressed : Bool)
  | ioStep (i : Nat) (read : ReadResult)
deriving DecidableEq, Repr

namespace SessionUi

/-! ### Screens -/

/-- `lv_screen_load_anim` with `auto_del`: the screen before it goes, with its children. -/
def loadScreen (s : SessionUi) (next : Screen) : SessionUi :=
  { s with
    screen := next
    deletedCanvases := s.deletedCanvases ++ s.screen.canvas.toList }

def uiShellShowHome (s : SessionUi) : SessionUi := s.loadScreen .home

/-- A call on `s_term`. -/
def onTerm (s : SessionUi) (call : Terminal → Terminal) : SessionUi :=
  { s with sTerm := s.sTerm.map fun term => { term with terminal := call term.terminal } }

def isScrolled (s : SessionUi) : Bool := s.sTerm.any fun term => term.terminal.scrollOffset > 0

def appCursorKeys (s : SessionUi) : Bool := s.sTerm.any fun term => term.terminal.appCursorKeys

/-! ### Opening a session -/

def openSessionScreen (s : SessionUi) : SessionUi :=
  let session := s.opened + 1
  let s := s.loadScreen (.session (some session))
  { s with
    sTerm := some ⟨session, (terminalRender terminalCreate).1⟩
    sTransport := some session
    sStopRequested := false
    sLocalEcho := false
    sDragPanPx := 0
    sLastScrollRenderUs := 0
    sRawCb := true
    ioTasks := s.ioTasks ++ [⟨session, .check⟩]
    opened := session }

def sessionUiOpenTelnet (s : SessionUi) (connected : Bool) : SessionUi :=
  if connected then s.openSessionScreen else s

/-- Key authentication is refused; otherwise the password screen is shown. -/
def sessionUiOpenSsh (s : SessionUi) (keyAuth : Bool) : SessionUi :=
  if keyAuth then s else s.loadScreen .sshPassword

def sshConnectBtnClickCb (s : SessionUi) (allocated : Bool) : SessionUi :=
  if allocated then { s with sshConnectTasks := s.sshConnectTasks + 1 } else s

/-- The end of an `ssh_connect_task`. A failure only sets a label, if that still exists. -/
def sshConnectTask (s : SessionUi) (ok : Bool) : SessionUi :=
  let s := { s with sshConnectTasks := s.sshConnectTasks - 1 }
  if ok then s.openSessionScreen else s

/-- The end of the WiFi screen's `connect_task`, likewise. -/
def wifiConnectTask (s : SessionUi) (ok : Bool) : SessionUi :=
  let s := { s with wifiConnectTasks := s.wifiConnectTasks - 1 }
  if ok then s.uiShellShowHome else s

/-! ### Keys -/

/-- `raw_key_cb`, with `xQueueSend` dropping the event when the 32 slots are taken. -/
def rawKeyCb (s : SessionUi) (key : UInt32) (pressed : Bool) : SessionUi :=
  if pressed ∧ s.sKeyQueue.length < 32 then
    { s with sKeyQueue := s.sKeyQueue ++ [⟨key, s.opened⟩] }
  else s

/-- The end of `handle_key_event`: a key goes to the callback if there is one, to LVGL if not. -/
def keyEvent (s : SessionUi) (key : UInt32) (pressed : Bool) : SessionUi :=
  if s.sRawCb then s.rawKeyCb key pressed else s

/-- The writes of `send_key(evt.key)`. -/
def sendKeyWrites (s : SessionUi) (evt : KeyEvent) : List Write :=
  match s.sTransport, sendKey s.appCursorKeys evt.key with
  | some session, some bytes => [⟨session, evt, bytes⟩]
  | _, _ => []

/-- The body of the key loop: a scrolled-back view snaps to live, the key is sent, and echoed. -/
def forwardKey (s : SessionUi) (evt : KeyEvent) : SessionUi :=
  let scrolled := s.isScrolled
  let s := { s with sDragPanPx := if scrolled then 0 else s.sDragPanPx }
  let s := s.onTerm fun t => if scrolled then (terminalRender (terminalScroll t (-100000))).1 else t
  let s := { s with sent := s.sent ++ s.sendKeyWrites evt }
  s.onTerm fun t => if s.sLocalEcho then (terminalRender (localEchoFeed t evt.key)).1 else t

/-! ### The buttons and the canvas of the session screen -/

def disconnectBtnClickCb (s : SessionUi) : SessionUi := { s with sStopRequested := true }

def echoToggleBtnClickCb (s : SessionUi) : SessionUi := { s with sLocalEcho := !s.sLocalEcho }

def jumpToLiveBtnClickCb (s : SessionUi) : SessionUi :=
  let s := s.onTerm fun t => (terminalRender (terminalScroll t (-100000))).1
  { s with sDragPanPx := 0 }

/-- Whole lines of 16 pixels become a scroll, the rest stays a pan. -/
def catchUpScroll (s : SessionUi) (now : Int) : SessionUi :=
  let lines := s.sDragPanPx.tdiv 16
  let s := { s with
    sDragPanPx := s.sDragPanPx - lines * 16
    sLastScrollRenderUs := now }
  s.onTerm fun t => (terminalRender (if lines ≠ 0 then terminalScroll t lines else t)).1

def canvasPressingCb (s : SessionUi) (dy now : Int) : SessionUi :=
  if dy = 0 then s
  else
    let s := { s with sDragPanPx := wrap32 (s.sDragPanPx + dy) }
    if now - s.sLastScrollRenderUs ≥ 40000 ∨ s.sDragPanPx ≥ 160 ∨ s.sDragPanPx ≤ -160 then
      s.catchUpScroll now
    else s

def canvasReleasedCb (s : SessionUi) (now : Int) : SessionUi :=
  { s.catchUpScroll now with sDragPanPx := 0 }

/-! ### The io task -/

/-- Task `i` goes on to another phase. -/
def goto (s : SessionUi) (i : Nat) (task : IoTask) (phase : IoPhase) : SessionUi :=
  { s with ioTasks := s.ioTasks.set i { task with phase := phase } }

/-- `terminal_destroy(s_term)`: its canvas goes, from the screen too if it is still on it. -/
def terminalDestroy (s : SessionUi) : SessionUi :=
  let term := s.sTerm.map (·.session)
  { s with
    screen := if s.screen = .session term then .session none else s.screen
    destroyed := s.destroyed ++ term.toList
    deletedCanvases := s.deletedCanvases ++ term.toList }

/-- The next step of task `i` of `ioTasks`, which is `task`. -/
def sessionIoTask (s : SessionUi) (i : Nat) (task : IoTask) (read : ReadResult) : SessionUi :=
  match task.phase with
  | .check => s.goto i task (if s.sStopRequested then .unhook else .read)
  | .read =>
      match read with
      | .data chunk drained =>
          -- the coalescing loop reads at most eight more chunks
          (s.onTerm fun t =>
            (terminalRender ((chunk :: drained.take 8).foldl terminalFeed t)).1).goto i task .receive
      | .timeout => s.goto i task .receive
      | .closed => s.goto i task .unhook
  | .receive =>
      match s.sKeyQueue with
      | [] => s.goto i task .check
      | evt :: rest => { s with sKeyQueue := rest }.goto i task (.send evt)
  | .send evt => (s.forwardKey evt).goto i task .receive
  | .unhook => { s with sRawCb := false }.goto i task .close
  | .close => { s with closed := s.closed ++ s.sTransport.toList }.goto i task .finish
  | .finish =>
      { s.terminalDestroy with
        sTerm := none
        ioTasks := s.ioTasks.eraseIdx i }.uiShellShowHome

/-! ### One step -/

/-- The widgets of the session screen are on it as long as it is shown. -/
def onSession (s : SessionUi) (callback : SessionUi) : SessionUi :=
  match s.screen with
  | .session _ => callback
  | _ => s

def step (s : SessionUi) : Action → SessionUi
  | .tapTelnetHost connected => if s.screen = .home then s.sessionUiOpenTelnet connected else s
  | .tapSshHost keyAuth => if s.screen = .home then s.sessionUiOpenSsh keyAuth else s
  | .editHost => if s.screen = .home then s.loadScreen .edit else s
  | .closeEdit => if s.screen = .edit then s.uiShellShowHome else s
  | .openWifi => if s.screen = .home then s.loadScreen .wifi else s
  | .closeWifi => if s.screen = .wifi then s.uiShellShowHome else s
  | .startWifiConnect allocated =>
      if s.screen = .wifi ∧ allocated then { s with wifiConnectTasks := s.wifiConnectTasks + 1 }
      else s
  | .wifiConnected ok => if 0 < s.wifiConnectTasks then s.wifiConnectTask ok else s
  | .sshConnectBtn allocated =>
      if s.screen = .sshPassword then s.sshConnectBtnClickCb allocated else s
  | .sshCancelBtn => if s.screen = .sshPassword then s.uiShellShowHome else s
  | .sshConnected ok => if 0 < s.sshConnectTasks then s.sshConnectTask ok else s
  | .disconnectBtn => s.onSession s.disconnectBtnClickCb
  | .echoToggleBtn => s.onSession s.echoToggleBtnClickCb
  | .jumpToLiveBtn => s.onSession s.jumpToLiveBtnClickCb
  | .canvasPressing dy now => s.onSession (s.canvasPressingCb dy now)
  | .canvasReleased now => s.onSession (s.canvasReleasedCb now)
  | .key key pressed => s.keyEvent key pressed
  | .ioStep i read =>
      match s.ioTasks[i]? with
      | some task => s.sessionIoTask i task read
      | none => s

/-- The steps that open a session: a telnet host answers, or a pending SSH connect succeeds. -/
def Opens (s : SessionUi) : Action → Prop
  | .tapTelnetHost connected => s.screen = .home ∧ connected = true
  | .sshConnected ok => 0 < s.sshConnectTasks ∧ ok = true
  | _ => False

instance (s : SessionUi) (a : Action) : Decidable (s.Opens a) := by
  unfold Opens
  split <;> infer_instance

end SessionUi

end Tab5
