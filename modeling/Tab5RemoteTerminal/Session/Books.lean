/-
**The books of the sessions.**

Screens, scrolling and echo do not matter to who owns what and to which keys go where. `Books` is
the rest of the state, and `BookStep` what a step that opens no session may do to it; over these a
session's life is: opened, keys queued and sent, closed, destroyed.

* `step_books_opens`: a step that opens a session does to the books what `Books.openSession` says;
* `step_books`: every other step of the machine is a `BookStep`.
-/

import Tab5RemoteTerminal.Session.Machine

namespace Tab5

/-! ### Books -/

structure Books where
  ioTasks : List IoTask
  term : Option Nat
  transport : Option Nat
  keyQueue : List KeyEvent
  opened : Nat
  closed : List Nat
  destroyed : List Nat
  sent : List Write

def SessionUi.books (s : SessionUi) : Books where
  ioTasks := s.ioTasks
  term := s.sTerm.map (·.session)
  transport := s.sTransport
  keyQueue := s.sKeyQueue
  opened := s.opened
  closed := s.closed
  destroyed := s.destroyed
  sent := s.sent

namespace Books

/-- The next session is opened. -/
def openSession (b : Books) : Books :=
  { b with
    ioTasks := b.ioTasks ++ [⟨b.opened + 1, .check⟩]
    term := some (b.opened + 1)
    transport := some (b.opened + 1)
    opened := b.opened + 1 }

/-- Task `i` goes on to another phase. -/
def goto (b : Books) (i : Nat) (task : IoTask) (phase : IoPhase) : Books :=
  { b with ioTasks := b.ioTasks.set i { task with phase := phase } }

/-- The writes of `send_key`, in one of the two cursor key modes. -/
def writes (b : Books) (appMode : Bool) (evt : KeyEvent) : List Write :=
  match b.transport, sendKey appMode evt.key with
  | some session, some bytes => [⟨session, evt, bytes⟩]
  | _, _ => []

end Books

/-- The phases between which an io task moves on without touching the books. -/
def IoPhase.Moving : IoPhase → Prop
  | .check => True
  | .read => True
  | .receive => True
  | .unhook => True
  | .close => True
  | .send _ => False
  | .finish => False

/-- What a step that opens no session does to the books. -/
inductive BookStep (b : Books) : Books → Prop
  | idle : BookStep b b
  | queues (key : UInt32) : BookStep b { b with keyQueue := b.keyQueue ++ [⟨key, b.opened⟩] }
  | moves {i : Nat} {task : IoTask} {phase : IoPhase} (running : b.ioTasks[i]? = some task)
      (before : task.phase.Moving) (after : phase.Moving) : BookStep b (b.goto i task phase)
  | receives {i : Nat} {task : IoTask} {evt : KeyEvent} {rest : List KeyEvent}
      (running : b.ioTasks[i]? = some task) (phase : task.phase = .receive)
      (queue : b.keyQueue = evt :: rest) :
      BookStep b ({ b with keyQueue := rest }.goto i task (.send evt))
  | sends {i : Nat} {task : IoTask} {evt : KeyEvent} (appMode : Bool)
      (running : b.ioTasks[i]? = some task) (phase : task.phase = .send evt) :
      BookStep b ({ b with sent := b.sent ++ b.writes appMode evt }.goto i task .receive)
  | closes {i : Nat} {task : IoTask} (running : b.ioTasks[i]? = some task)
      (phase : task.phase = .close) :
      BookStep b ({ b with closed := b.closed ++ b.transport.toList }.goto i task .finish)
  | finishes {i : Nat} {task : IoTask} (running : b.ioTasks[i]? = some task)
      (phase : task.phase = .finish) :
      BookStep b { b with
        term := none
        destroyed := b.destroyed ++ b.term.toList
        ioTasks := b.ioTasks.eraseIdx i }

/-! ### Everything but the books -/

namespace SessionUi

@[simp] theorem books_loadScreen (s : SessionUi) (next : Screen) :
    (s.loadScreen next).books = s.books := rfl

@[simp] theorem books_uiShellShowHome (s : SessionUi) : s.uiShellShowHome.books = s.books := rfl

@[simp] theorem books_onTerm (s : SessionUi) (call : Terminal → Terminal) :
    (s.onTerm call).books = s.books := by
  simp [books, onTerm, Function.comp_def]

@[simp] theorem books_goto (s : SessionUi) (i : Nat) (task : IoTask) (phase : IoPhase) :
    (s.goto i task phase).books = s.books.goto i task phase := rfl

theorem books_openSessionScreen (s : SessionUi) : s.openSessionScreen.books = s.books.openSession :=
  rfl

@[simp] theorem books_catchUpScroll (s : SessionUi) (now : Int) :
    (s.catchUpScroll now).books = s.books := by
  rw [catchUpScroll, books_onTerm]
  rfl

@[simp] theorem books_canvasPressingCb (s : SessionUi) (dy now : Int) :
    (s.canvasPressingCb dy now).books = s.books := by
  unfold canvasPressingCb
  split
  · rfl
  · simp only
    split
    · rw [books_catchUpScroll]
      rfl
    · rfl

@[simp] theorem books_canvasReleasedCb (s : SessionUi) (now : Int) :
    (s.canvasReleasedCb now).books = s.books :=
  books_catchUpScroll s now

@[simp] theorem books_jumpToLiveBtnClickCb (s : SessionUi) :
    s.jumpToLiveBtnClickCb.books = s.books :=
  books_onTerm s fun t => (terminalRender (terminalScroll t (-100000))).1

/-- A callback that leaves the books alone does so whether or not its widget is shown. -/
theorem books_onSession {s callback : SessionUi} (same : callback.books = s.books) :
    (s.onSession callback).books = s.books := by
  unfold onSession
  split
  · exact same
  · rfl

/-! ### Keys and the io task -/

theorem rawKeyCb_books (s : SessionUi) (key : UInt32) (pressed : Bool) :
    BookStep s.books (s.rawKeyCb key pressed).books := by
  unfold rawKeyCb
  split
  · exact .queues key
  · exact .idle

theorem appCursorKeys_onTerm (s : SessionUi) {call : Terminal → Terminal}
    (keeps : ∀ t, (call t).appCursorKeys = t.appCursorKeys) :
    (s.onTerm call).appCursorKeys = s.appCursorKeys := by
  simp [appCursorKeys, onTerm, Option.any_map, keeps]

/-- Scrolling and drawing do not change the cursor key mode. -/
theorem terminalRender_appCursorKeys (t : Terminal) :
    (terminalRender t).1.appCursorKeys = t.appCursorKeys := by
  unfold terminalRender
  split <;> rfl

/-- The key is sent in the cursor key mode the terminal is in. -/
theorem forwardKey_books_mode (s : SessionUi) (evt : KeyEvent) :
    (s.forwardKey evt).books =
      { s.books with sent := s.books.sent ++ s.books.writes s.appCursorKeys evt } := by
  let live := s.onTerm fun t =>
    if s.isScrolled then (terminalRender (terminalScroll t (-100000))).1 else t
  have same : live.books = s.books := books_onTerm s _
  have mode : live.appCursorKeys = s.appCursorKeys := by
    refine appCursorKeys_onTerm s fun t => ?_
    split
    · exact terminalRender_appCursorKeys _
    · rfl
  rw [forwardKey, books_onTerm]
  show { live.books with sent := s.sent ++ s.books.writes live.appCursorKeys evt } = _
  rw [same, mode]
  rfl

theorem forwardKey_books (s : SessionUi) (evt : KeyEvent) :
    ∃ appMode, (s.forwardKey evt).books =
      { s.books with sent := s.books.sent ++ s.books.writes appMode evt } :=
  ⟨s.appCursorKeys, s.forwardKey_books_mode evt⟩

theorem sessionIoTask_books {s : SessionUi} {i : Nat} {task : IoTask}
    (running : s.ioTasks[i]? = some task) (read : ReadResult) :
    BookStep s.books (s.sessionIoTask i task read).books := by
  unfold sessionIoTask
  cases phase : task.phase with
  | check =>
      refine .moves running (by rw [phase]; trivial) ?_
      split <;> trivial
  | read =>
      have before : task.phase.Moving := by rw [phase]; trivial
      cases read with
      | data chunk drained =>
          simp only [books_goto, books_onTerm]
          exact .moves running before trivial
      | timeout => exact .moves running before trivial
      | closed => exact .moves running before trivial
  | receive =>
      cases queue : s.sKeyQueue with
      | nil => exact .moves running (by rw [phase]; trivial) trivial
      | cons evt rest => exact .receives running phase queue
  | send evt =>
      obtain ⟨appMode, forwarded⟩ := s.forwardKey_books evt
      simp only [books_goto, forwarded]
      exact .sends appMode running phase
  | unhook => exact .moves running (by rw [phase]; trivial) trivial
  | close => exact .closes running phase
  | finish => exact .finishes running phase

/-! ### Steps -/

/-- A step that opens a session calls `open_session_screen`, with the books as they were. -/
theorem step_opens {s : SessionUi} {a : Action} (opens : s.Opens a) :
    ∃ caller : SessionUi, caller.books = s.books ∧ s.step a = caller.openSessionScreen := by
  cases a with
  | tapTelnetHost connected =>
      obtain ⟨home, rfl⟩ := opens
      refine ⟨s, rfl, ?_⟩
      rw [step, if_pos home]
      rfl
  | sshConnected ok =>
      obtain ⟨pending, rfl⟩ := opens
      refine ⟨{ s with sshConnectTasks := s.sshConnectTasks - 1 }, rfl, ?_⟩
      rw [step, if_pos pending]
      rfl
  | _ => exact absurd opens id

theorem step_books_opens {s : SessionUi} {a : Action} (opens : s.Opens a) :
    (s.step a).books = s.books.openSession := by
  obtain ⟨caller, same, opened⟩ := step_opens opens
  rw [opened, books_openSessionScreen, same]

/-- What happens behind a condition leaves the books alone if it does so where the condition holds. -/
theorem books_gate {s callback : SessionUi} {cond : Prop} [Decidable cond]
    (same : cond → callback.books = s.books) : (if cond then callback else s).books = s.books := by
  split
  · exact same ‹_›
  · rfl

/-- What is neither a key nor a step of an io task, and opens no session, leaves the books alone. -/
theorem step_books_same {s : SessionUi} {a : Action} (quiet : ¬ s.Opens a)
    (noKey : ∀ key pressed, a ≠ .key key pressed) (noTurn : ∀ i read, a ≠ .ioStep i read) :
    (s.step a).books = s.books := by
  cases a with
  | tapTelnetHost connected =>
      refine books_gate fun home => ?_
      cases connected with
      | false => rfl
      | true => exact absurd ⟨home, rfl⟩ quiet
  | sshConnected ok =>
      refine books_gate fun pending => ?_
      cases ok with
      | false => rfl
      | true => exact absurd ⟨pending, rfl⟩ quiet
  | tapSshHost keyAuth => exact books_gate fun _ => by cases keyAuth <;> rfl
  | wifiConnected ok => exact books_gate fun _ => by cases ok <;> rfl
  | sshConnectBtn allocated => exact books_gate fun _ => by cases allocated <;> rfl
  | editHost => exact books_gate fun _ => s.books_loadScreen .edit
  | closeEdit => exact books_gate fun _ => s.books_uiShellShowHome
  | openWifi => exact books_gate fun _ => s.books_loadScreen .wifi
  | closeWifi => exact books_gate fun _ => s.books_uiShellShowHome
  | startWifiConnect allocated => exact books_gate fun _ => rfl
  | sshCancelBtn => exact books_gate fun _ => s.books_uiShellShowHome
  | disconnectBtn => exact books_onSession rfl
  | echoToggleBtn => exact books_onSession rfl
  | jumpToLiveBtn => exact books_onSession (books_jumpToLiveBtnClickCb s)
  | canvasPressing dy now => exact books_onSession (books_canvasPressingCb s dy now)
  | canvasReleased now => exact books_onSession (books_canvasReleasedCb s now)
  | key key pressed => exact absurd rfl (noKey key pressed)
  | ioStep i read => exact absurd rfl (noTurn i read)

/-- **Every other step is a `BookStep`.** -/
theorem step_books {s : SessionUi} {a : Action} (quiet : ¬ s.Opens a) :
    BookStep s.books (s.step a).books := by
  cases a with
  | key key pressed =>
      rw [step, keyEvent]
      split
      · exact rawKeyCb_books s key pressed
      · exact .idle
  | ioStep i read =>
      rw [step]
      split
      · exact sessionIoTask_books ‹_› read
      · exact .idle
  | _ =>
      rw [step_books_same quiet (by simp) (by simp)]
      exact .idle

end SessionUi

end Tab5
