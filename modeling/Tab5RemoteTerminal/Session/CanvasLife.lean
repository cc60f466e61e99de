/-
**How long a canvas lives.**

A canvas is deleted by `terminal_destroy`, or with the screen it is on when another one is loaded.
`session_io_task` relies on the first: it destroys the terminal before it loads the home screen. A
background task that loads a screen meanwhile deletes the canvas under it.

* `OnScreen`: while an io task runs, its session's screen is shown, with the canvas; and a canvas is
  deleted when its terminal is destroyed, and not otherwise;
* `canvas_alive`: then every call on `s_term` finds its canvas, and each is deleted once, in every
  run in which no other task loads a screen while an io task runs;
* `canvas_alive_fails`: a WiFi connect that succeeds during a session.
-/

import Tab5RemoteTerminal.Session.Ownership

namespace Tab5

namespace SessionUi

/-! ### The property and the condition -/

/-- `s_term` points at a terminal whose canvas has not been deleted. -/
def TermAlive (s : SessionUi) : Prop := ∃ term ∈ s.sTerm, term.session ∉ s.deletedCanvases

/-- The steps that call `terminal_render` or `terminal_get_widget` on `s_term`. -/
def CallsTerm (s : SessionUi) : Action → Prop
  | .jumpToLiveBtn => ∃ canvas, s.screen = .session canvas
  | .canvasPressing dy _ => (∃ canvas, s.screen = .session canvas) ∧ dy ≠ 0
  | .canvasReleased _ => ∃ canvas, s.screen = .session canvas
  | .ioStep i read => ∃ task ∈ s.ioTasks[i]?,
      (task.phase = .read ∧ ∃ chunk drained, read = .data chunk drained) ∨
      (∃ evt, task.phase = .send evt ∧ (s.isScrolled = true ∨ s.sLocalEcho = true))
  | _ => False

/-- The steps that call `terminal_destroy` on `s_term`, which may be NULL. -/
def DestroysTerm (s : SessionUi) : Action → Prop
  | .ioStep i _ => ∃ task ∈ s.ioTasks[i]?, task.phase = .finish
  | _ => False

/-- A step that uses `s_term` finds its canvas. -/
def FindsCanvas (s : SessionUi) (a : Action) : Prop :=
  (s.CallsTerm a → s.TermAlive) ∧ (s.DestroysTerm a → s.sTerm.isSome = true → s.TermAlive)

/-- Every canvas is deleted once, when it leaves the screen. -/
structure CanvasesOnce (s : SessionUi) : Prop where
  once : s.deletedCanvases.Nodup
  gone : ∀ session, 1 ≤ session → session ≤ s.opened →
    (session ∈ s.deletedCanvases ↔ s.screen.canvas ≠ some session)

/-- The steps of background tasks and callbacks that can load a screen beside a session: one is
opened, or a pending WiFi connect succeeds. -/
def LoadsScreen (s : SessionUi) : Action → Prop
  | .wifiConnected ok => 0 < s.wifiConnectTasks ∧ ok = true
  | a => s.Opens a

instance (s : SessionUi) (a : Action) : Decidable (s.LoadsScreen a) := by
  unfold LoadsScreen
  split <;> infer_instance

/-- They happen only when no io task runs. -/
def LoadsAlone (s : SessionUi) (a : Action) : Prop := s.LoadsScreen a → s.ioTasks = []

instance (s : SessionUi) (a : Action) : Decidable (s.LoadsAlone a) :=
  inferInstanceAs (Decidable (s.LoadsScreen a → s.ioTasks = []))

theorem opensAlone_of_loadsAlone {s : SessionUi} {a : Action} (alone : s.LoadsAlone a) :
    OpensAlone s a := by
  intro opens
  cases a with
  | tapTelnetHost connected => exact alone opens
  | sshConnected ok => exact alone opens
  | _ => exact absurd opens id

/-! ### Screens -/

/-- Each session has its screen while it runs, and its canvas as long as its terminal. -/
structure OnScreen (s : SessionUi) : Prop where
  shown : ∀ task ∈ s.ioTasks, s.screen = .session (some task.session)
  quiet : s.ioTasks = [] → ∀ canvas, s.screen ≠ .session canvas
  deleted : s.deletedCanvases = s.destroyed

namespace OnScreen

variable {s : SessionUi}

/-- Without a session screen, no canvas goes with the screen. -/
theorem canvas_none (onScreen : s.OnScreen) (noTask : s.ioTasks = []) : s.screen.canvas = none := by
  have other := onScreen.quiet noTask
  cases screen : s.screen with
  | session canvas => exact absurd screen (other canvas)
  | _ => rfl

/-- From one screen to another, with no session. -/
theorem loadScreen (onScreen : s.OnScreen) (noTask : s.ioTasks = []) {next : Screen}
    (other : ∀ canvas, next ≠ .session canvas) : (s.loadScreen next).OnScreen where
  shown := by
    intro task mem
    have none : s.ioTasks = [] := noTask
    rw [show (s.loadScreen next).ioTasks = s.ioTasks from rfl, none] at mem
    exact absurd mem List.not_mem_nil
  quiet := fun _ => other
  deleted := by
    show s.deletedCanvases ++ s.screen.canvas.toList = s.destroyed
    rw [onScreen.canvas_none noTask, Option.toList_none, List.append_nil]
    exact onScreen.deleted

theorem openSessionScreen (onScreen : s.OnScreen) (noTask : s.ioTasks = []) :
    s.openSessionScreen.OnScreen where
  shown := by
    intro task mem
    have tasks : s.openSessionScreen.ioTasks = s.ioTasks ++ [⟨s.opened + 1, .check⟩] := rfl
    rw [tasks, noTask, List.nil_append, List.mem_singleton] at mem
    rw [mem]
    rfl
  quiet := by
    intro none
    exact absurd none (List.append_ne_nil_of_right_ne_nil _ (List.cons_ne_nil _ _))
  deleted := by
    show s.deletedCanvases ++ s.screen.canvas.toList = s.destroyed
    rw [onScreen.canvas_none noTask, Option.toList_none, List.append_nil]
    exact onScreen.deleted

/-- What touches neither tasks, screen nor canvases keeps it. -/
theorem frame (onScreen : s.OnScreen) {s' : SessionUi} (tasks : s'.ioTasks = s.ioTasks)
    (screen : s'.screen = s.screen) (deleted : s'.deletedCanvases = s.deletedCanvases)
    (destroyed : s'.destroyed = s.destroyed) : s'.OnScreen where
  shown := by
    rw [tasks, screen]
    exact onScreen.shown
  quiet := by
    rw [tasks, screen]
    exact onScreen.quiet
  deleted := by
    rw [deleted, destroyed]
    exact onScreen.deleted

/-- The task goes on. -/
theorem goto (onScreen : s.OnScreen) {i : Nat} {task : IoTask} (running : s.ioTasks[i]? = some task)
    (phase : IoPhase) : (s.goto i task phase).OnScreen where
  shown := by
    intro other mem
    rcases List.mem_or_eq_of_mem_set mem with before | rfl
    · exact onScreen.shown other before
    · exact onScreen.shown task (List.mem_of_getElem? running)
  quiet := by
    intro none
    have empty : s.ioTasks = [] := (List.set_eq_nil_iff i _).mp none
    rw [empty] at running
    exact absurd running (by simp)
  deleted := onScreen.deleted

/-- The end of the only io task: the terminal is destroyed before its screen is left. -/
theorem finish (onScreen : s.OnScreen) {task : IoTask} (oneTask : s.ioTasks = [task])
    (term : s.sTerm.map (·.session) = some task.session) :
    ({ s.terminalDestroy with
        sTerm := none
        ioTasks := s.ioTasks.eraseIdx 0 }.uiShellShowHome).OnScreen where
  shown := by
    intro other mem
    have left : s.ioTasks.eraseIdx 0 = [] := by rw [oneTask]; rfl
    exact absurd (left ▸ mem) List.not_mem_nil
  quiet := fun _ _ same => nomatch same
  deleted := by
    have screen : s.screen = .session (some task.session) :=
      onScreen.shown task (by rw [oneTask]; exact List.mem_singleton_self task)
    have off : s.terminalDestroy.screen.canvas = none := by
      rw [terminalDestroy]
      simp only [term, screen, if_true]
      rfl
    show (s.deletedCanvases ++ (s.sTerm.map (·.session)).toList) ++
      s.terminalDestroy.screen.canvas.toList = s.destroyed ++ (s.sTerm.map (·.session)).toList
    rw [off, Option.toList_none, List.append_nil, onScreen.deleted]

theorem sessionIoTask (onScreen : s.OnScreen) (orderly : Orderly s.books) {i : Nat} {task : IoTask}
    (running : s.ioTasks[i]? = some task) (read : ReadResult) :
    (s.sessionIoTask i task read).OnScreen := by
  unfold SessionUi.sessionIoTask
  cases phase : task.phase with
  | check => exact onScreen.goto running _
  | read =>
      cases read with
      | data chunk drained =>
          have fed : (s.onTerm fun t => (terminalRender
              ((chunk :: drained.take 8).foldl terminalFeed t)).1).OnScreen :=
            onScreen.frame rfl rfl rfl rfl
          exact fed.goto running .receive
      | timeout => exact onScreen.goto running .receive
      | closed => exact onScreen.goto running .unhook
  | receive =>
      cases s.sKeyQueue with
      | nil => exact onScreen.goto running .check
      | cons evt rest =>
          have received : OnScreen { s with sKeyQueue := rest } := onScreen.frame rfl rfl rfl rfl
          exact received.goto running (.send evt)
  | send evt =>
      have forwarded : (s.forwardKey evt).OnScreen := onScreen.frame rfl rfl rfl rfl
      exact forwarded.goto running .receive
  | unhook =>
      have unhooked : OnScreen { s with sRawCb := false } := onScreen.frame rfl rfl rfl rfl
      exact unhooked.goto running .close
  | close =>
      have closed : OnScreen { s with closed := s.closed ++ s.sTransport.toList } :=
        onScreen.frame rfl rfl rfl rfl
      exact closed.goto running .finish
  | finish =>
      cases orderly with
      | quiet noTask =>
          have none : s.ioTasks = [] := noTask
          rw [none] at running
          exact absurd running (by simp)
      | live only oneTask term =>
          obtain ⟨rfl, rfl⟩ := only_task oneTask running
          exact onScreen.finish oneTask term

/-- A callback of the session screen that keeps tasks, screen and canvases. -/
theorem onSession (onScreen : s.OnScreen) {callback : SessionUi} (kept : callback.OnScreen) :
    (s.onSession callback).OnScreen := by
  unfold SessionUi.onSession
  split
  · exact kept
  · exact onScreen

/-- While a session runs, no other screen is shown. -/
theorem noTask_of_screen (onScreen : s.OnScreen) (other : ∀ canvas, s.screen ≠ .session canvas) :
    s.ioTasks = [] := by
  cases tasks : s.ioTasks with
  | nil => rfl
  | cons task rest =>
      exact absurd (onScreen.shown task (by rw [tasks]; exact List.mem_cons_self)) (other _)

/-- **One step** keeps every session on its screen. -/
theorem step (onScreen : s.OnScreen) (orderly : Orderly s.books) {a : Action}
    (alone : s.LoadsAlone a) : (s.step a).OnScreen := by
  have gate : ∀ {screen next : Screen}, (∀ canvas, screen ≠ .session canvas) →
      (∀ canvas, next ≠ .session canvas) →
      (if s.screen = screen then s.loadScreen next else s).OnScreen := by
    intro screen next here other
    split
    · rename_i shown
      exact onScreen.loadScreen (onScreen.noTask_of_screen (shown ▸ here)) other
    · exact onScreen
  cases a with
  | tapTelnetHost connected =>
      rw [SessionUi.step]
      split
      · rename_i home
        cases connected with
        | true => exact onScreen.openSessionScreen (alone ⟨home, rfl⟩)
        | false => exact onScreen
      · exact onScreen
  | tapSshHost keyAuth =>
      cases keyAuth with
      | true =>
          rw [SessionUi.step]
          split
          · exact onScreen
          · exact onScreen
      | false => exact gate (by simp) (by simp)
  | editHost => exact gate (by simp) (by simp)
  | closeEdit => exact gate (by simp) (by simp)
  | openWifi => exact gate (by simp) (by simp)
  | closeWifi => exact gate (by simp) (by simp)
  | sshCancelBtn => exact gate (by simp) (by simp)
  | startWifiConnect allocated =>
      rw [SessionUi.step]
      split
      · exact onScreen.frame rfl rfl rfl rfl
      · exact onScreen
  | wifiConnected ok =>
      rw [SessionUi.step]
      split
      · rename_i pending
        have done : OnScreen { s with wifiConnectTasks := s.wifiConnectTasks - 1 } :=
          onScreen.frame rfl rfl rfl rfl
        cases ok with
        | true => exact done.loadScreen (alone ⟨pending, rfl⟩) (by simp)
        | false => exact done
      · exact onScreen
  | sshConnectBtn allocated =>
      rw [SessionUi.step]
      split
      · cases allocated with
        | true => exact onScreen.frame rfl rfl rfl rfl
        | false => exact onScreen
      · exact onScreen
  | sshConnected ok =>
      rw [SessionUi.step]
      split
      · rename_i pending
        have done : OnScreen { s with sshConnectTasks := s.sshConnectTasks - 1 } :=
          onScreen.frame rfl rfl rfl rfl
        cases ok with
        | true => exact done.openSessionScreen (alone ⟨pending, rfl⟩)
        | false => exact done
      · exact onScreen
  | disconnectBtn => exact onScreen.onSession (onScreen.frame rfl rfl rfl rfl)
  | echoToggleBtn => exact onScreen.onSession (onScreen.frame rfl rfl rfl rfl)
  | jumpToLiveBtn => exact onScreen.onSession (onScreen.frame rfl rfl rfl rfl)
  | canvasPressing dy now =>
      refine onScreen.onSession ?_
      unfold canvasPressingCb
      split
      · exact onScreen
      · simp only
        split
        · exact onScreen.frame rfl rfl rfl rfl
        · exact onScreen.frame rfl rfl rfl rfl
  | canvasReleased now => exact onScreen.onSession (onScreen.frame rfl rfl rfl rfl)
  | key key pressed =>
      rw [SessionUi.step, keyEvent]
      split
      · unfold rawKeyCb
        split
        · exact onScreen.frame rfl rfl rfl rfl
        · exact onScreen
      · exact onScreen
  | ioStep i read =>
      rw [SessionUi.step]
      split
      · exact onScreen.sessionIoTask orderly ‹_› read
      · exact onScreen

/-! ### What every step finds -/

/-- The canvas of the session that runs is there. -/
theorem termAlive (onScreen : s.OnScreen) (orderly : Orderly s.books) (busy : s.ioTasks ≠ []) :
    s.TermAlive := by
  cases orderly with
  | quiet noTask => exact absurd noTask busy
  | live task oneTask term transport transports terminals =>
      have session : s.sTerm.map (·.session) = some task.session := term
      obtain ⟨own, isTerm, same⟩ := Option.map_eq_some_iff.mp session
      refine ⟨own, isTerm, ?_⟩
      rw [onScreen.deleted, same]
      exact (List.nodup_cons.mp (terminals.balance.nodup_iff.mpr terminals.acquiredOnce)).1

/-- What a session screen or an io task does is done while an io task runs. -/
theorem findsCanvas (onScreen : s.OnScreen) (orderly : Orderly s.books) (a : Action) :
    s.FindsCanvas a := by
  have running : ∀ {i : Nat} {task : IoTask}, task ∈ s.ioTasks[i]? → s.TermAlive := by
    intro i task mem
    have inside := List.mem_of_getElem? mem
    exact onScreen.termAlive orderly (List.ne_nil_of_mem inside)
  have shown : (∃ canvas, s.screen = .session canvas) → s.TermAlive := by
    rintro ⟨canvas, screen⟩
    exact onScreen.termAlive orderly fun none => onScreen.quiet none canvas screen
  constructor
  · intro calls
    cases a with
    | jumpToLiveBtn => exact shown calls
    | canvasPressing dy now => exact shown calls.1
    | canvasReleased now => exact shown calls
    | ioStep i read =>
        obtain ⟨task, mem, _⟩ := calls
        exact running mem
    | _ => exact absurd calls id
  · intro destroys _
    cases a with
    | ioStep i read =>
        obtain ⟨task, mem, _⟩ := destroys
        exact running mem
    | _ => exact absurd destroys id

/-- The canvases that have been deleted are those of the sessions that have ended. -/
theorem canvasesOnce (onScreen : s.OnScreen) (orderly : Orderly s.books) : s.CanvasesOnce := by
  cases orderly with
  | quiet noTask transports terminals =>
      refine ⟨onScreen.deleted ▸ terminals.released_once, fun session first last => ?_⟩
      rw [onScreen.canvas_none noTask, onScreen.deleted]
      rcases terminals.held_or_released (mem_sessions.mpr ⟨first, last⟩) with held | destroyed
      · exact absurd held List.not_mem_nil
      · exact iff_of_true destroyed (by simp)
  | live task oneTask term transport transports terminals =>
      have once := terminals.balance.nodup_iff.mpr terminals.acquiredOnce
      refine ⟨onScreen.deleted ▸ terminals.released_once, fun session first last => ?_⟩
      have one : s.ioTasks = [task] := oneTask
      have screen : s.screen = .session (some task.session) :=
        onScreen.shown task (by rw [one]; exact List.mem_singleton_self task)
      rw [screen, onScreen.deleted]
      show session ∈ s.destroyed ↔ some task.session ≠ some session
      rcases terminals.held_or_released (mem_sessions.mpr ⟨first, last⟩) with held | destroyed
      · rw [List.mem_singleton.mp held]
        exact iff_of_false (List.nodup_cons.mp once).1 (by simp)
      · refine iff_of_true destroyed fun same => ?_
        rw [Option.some.inj same] at once
        exact (List.nodup_cons.mp once).1 destroyed

end OnScreen

theorem onScreen_booted : booted.OnScreen := ⟨by simp [booted], by simp [booted], rfl⟩

end SessionUi

open SessionUi

/-- **A session's canvas outlives its io task**, in every run in which no session is opened and no
WiFi connect succeeds while an io task runs: whatever step is taken in a state reached, if it uses
`s_term` then its canvas is there; and every canvas is deleted once, when it leaves the screen. -/
theorem canvas_alive (acts : List Action)
    (alone : Run.Meets SessionUi.step LoadsAlone booted acts) :
    Run.Always SessionUi.step (fun s => (∀ a, s.FindsCanvas a) ∧ s.CanvasesOnce) booted acts := by
  have both : Run.Always SessionUi.step (fun s => Orderly s.books ∧ s.OnScreen) booted acts :=
    Run.always_of_meets
      (fun _ _ inv alone => ⟨inv.1.step (opensAlone_of_loadsAlone alone), inv.2.step inv.1 alone⟩)
      ⟨orderly_booted, onScreen_booted⟩ alone
  exact both.mono fun _ inv => ⟨inv.2.findsCanvas inv.1, inv.2.canvasesOnce inv.1⟩

/-- A session that is opened, scrolled and closed by the other side. -/
theorem canvas_alive_session :
    Run.Always SessionUi.step (fun s => (∀ a, s.FindsCanvas a) ∧ s.CanvasesOnce) booted
      [.tapTelnetHost true, .ioStep 0 .timeout, .canvasReleased 0, .ioStep 0 .closed,
        .ioStep 0 .closed, .ioStep 0 .closed, .ioStep 0 .closed, .wifiConnected true] :=
  canvas_alive _ (by decide)

/-- A WiFi connect that was started before succeeds during a session: the next chunk is drawn on the
canvas that went with the screen, and when the session ends it is deleted again. -/
theorem canvas_alive_fails :
    ¬ ∀ acts : List Action,
      Run.Always SessionUi.step (fun s => (∀ a, s.FindsCanvas a) ∧ s.CanvasesOnce) booted acts := by
  intro all
  have last := (all [.openWifi, .startWifiConnect true, .closeWifi, .tapTelnetHost true,
    .wifiConnected true, .ioStep 0 .timeout, .ioStep 0 (.data [0x61] []), .ioStep 0 .timeout,
    .ioStep 0 .timeout, .ioStep 0 .closed, .ioStep 0 .closed, .ioStep 0 .closed,
    .ioStep 0 .closed]).last
  exact absurd last.2.once (by decide)

end Tab5
