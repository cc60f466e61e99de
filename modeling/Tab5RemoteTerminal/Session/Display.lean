/-
**The session's terminal, as its operations.**

Whatever happens on the session screen, `s_term` is only fed, scrolled and rendered: `termOps` are
the operations a step does on it. So everything that holds of any run of a terminal's interface
holds of the terminal of a session (`step_term`). Every callback and every locked block of the io
task that changes the terminal ends in a render (`termOps_renders`).

`display_shows`: with the canvas beside the machine, whatever the order of taps, keys and data, the
canvas of the session shows its terminal as soon as the display lock is free.
-/

import Tab5RemoteTerminal.Session.CanvasLife
import Tab5RemoteTerminal.Terminal.Canvas

namespace Tab5

open CLoop

namespace SessionUi

/-! ### The operations of a step -/

/-- `terminal_feed` of a buffer. -/
def feedOps (data : List UInt8) : List Op := data.map .feed

/-- `terminal_scroll(s_term, -SCROLLBACK_JUMP_LINES)` and a render. -/
def liveOps : List Op := [.scroll (-100000), .render]

def catchUpOps (pan : Int) : List Op :=
  (if pan.tdiv 16 ≠ 0 then [.scroll (pan.tdiv 16)] else []) ++ [.render]

/-- `canvas_pressing_cb` catches up. -/
def CatchesUp (s : SessionUi) (dy now : Int) : Prop :=
  dy ≠ 0 ∧ (now - s.sLastScrollRenderUs ≥ 40000 ∨ wrap32 (s.sDragPanPx + dy) ≥ 160 ∨
    wrap32 (s.sDragPanPx + dy) ≤ -160)

instance (s : SessionUi) (dy now : Int) : Decidable (s.CatchesUp dy now) :=
  inferInstanceAs (Decidable (_ ∧ _))

/-- The body of the key loop: the snap to live, and the echo. -/
def forwardOps (s : SessionUi) (evt : KeyEvent) : List Op :=
  (if s.isScrolled then liveOps else []) ++
    if s.sLocalEcho then feedOps (localEcho s.appCursorKeys evt.key) ++ [.render] else []

/-- What a step of an io task does. -/
def taskOps (s : SessionUi) (task : IoTask) (read : ReadResult) : List Op :=
  match task.phase, read with
  | .read, .data chunk drained => feedOps (chunk :: drained.take 8).flatten ++ [.render]
  | .send evt, _ => s.forwardOps evt
  | _, _ => []

/-- What a callback of the session screen does. -/
def screenOps (s : SessionUi) (ops : List Op) : List Op :=
  match s.screen with
  | .session _ => ops
  | _ => []

/-- What a step that opens no session does on `s_term`. -/
def termOps (s : SessionUi) : Action → List Op
  | .jumpToLiveBtn => s.screenOps liveOps
  | .canvasPressing dy now =>
      s.screenOps (if s.CatchesUp dy now then catchUpOps (wrap32 (s.sDragPanPx + dy)) else [])
  | .canvasReleased _ => s.screenOps (catchUpOps s.sDragPanPx)
  | .ioStep i read =>
      match s.ioTasks[i]? with
      | some task => s.taskOps task read
      | none => []
  | _ => []

/-! ### The terminal after a step -/

theorem sTerm_openSessionScreen (s : SessionUi) : s.openSessionScreen.sTerm =
    some ⟨s.opened + 1, (terminalRender terminalCreate).1⟩ := rfl

/-- What some operations leave of `s_term`. -/
def termAfter (s : SessionUi) (ops : List Op) : Option SessionTerm :=
  s.sTerm.map fun term => { term with terminal := Run.after Op.step term.terminal ops }

@[simp] theorem termAfter_nil (s : SessionUi) : s.termAfter [] = s.sTerm := by
  unfold termAfter
  cases s.sTerm <;> rfl

theorem sTerm_onTerm {s : SessionUi} {call : Terminal → Terminal} {ops : List Op}
    (runs : ∀ term, s.sTerm = some term → call term.terminal = Run.after Op.step term.terminal ops) :
    (s.onTerm call).sTerm = s.termAfter ops := by
  unfold onTerm termAfter
  cases here : s.sTerm with
  | none => rfl
  | some term => exact congrArg (fun t => some { term with terminal := t }) (runs term here)

theorem termAfter_append {s s' : SessionUi} {first : List Op} (before : s'.sTerm = s.termAfter first)
    (second : List Op) : s'.termAfter second = s.termAfter (first ++ second) := by
  unfold termAfter at before ⊢
  rw [before, Option.map_map]
  simp only [Function.comp_def, Run.after_append]

theorem live_runs (t : Terminal) :
    (terminalRender (terminalScroll t (-100000))).1 = Run.after Op.step t liveOps := rfl

theorem catchUp_runs (t : Terminal) (pan : Int) :
    (terminalRender (if pan.tdiv 16 ≠ 0 then terminalScroll t (pan.tdiv 16) else t)).1 =
      Run.after Op.step t (catchUpOps pan) := by
  unfold catchUpOps
  split <;> rfl

/-- Chunks fed one after the other are fed as one. -/
theorem feedChunks_runs (chunks : List (List UInt8)) (t : Terminal) :
    chunks.foldl terminalFeed t = Run.after Op.step t (feedOps chunks.flatten) := by
  induction chunks generalizing t with
  | nil => rfl
  | cons chunk chunks ih =>
      rw [List.foldl_cons, ih, terminalFeed_eq_run, List.flatten_cons, feedOps, feedOps,
        List.map_append, Run.after_append]

theorem data_runs (chunks : List (List UInt8)) (t : Terminal) :
    (terminalRender (chunks.foldl terminalFeed t)).1 =
      Run.after Op.step t (feedOps chunks.flatten ++ [.render]) := by
  rw [feedChunks_runs, Run.after_append]
  rfl

theorem sTerm_catchUpScroll (s : SessionUi) (now : Int) :
    (s.catchUpScroll now).sTerm = s.termAfter (catchUpOps s.sDragPanPx) :=
  sTerm_onTerm fun term _ => catchUp_runs term.terminal s.sDragPanPx

theorem sTerm_canvasPressingCb (s : SessionUi) (dy now : Int) :
    (s.canvasPressingCb dy now).sTerm =
      s.termAfter (if s.CatchesUp dy now then catchUpOps (wrap32 (s.sDragPanPx + dy)) else []) := by
  unfold canvasPressingCb
  by_cases still : dy = 0
  · have quiet : ¬ s.CatchesUp dy now := fun catches => catches.1 still
    rw [if_pos still, if_neg quiet, termAfter_nil]
  · rw [if_neg still]
    dsimp only
    by_cases due : now - s.sLastScrollRenderUs ≥ 40000 ∨ wrap32 (s.sDragPanPx + dy) ≥ 160 ∨
        wrap32 (s.sDragPanPx + dy) ≤ -160
    · have catches : s.CatchesUp dy now := ⟨still, due⟩
      rw [if_pos due, if_pos catches]
      exact sTerm_catchUpScroll _ now
    · have quiet : ¬ s.CatchesUp dy now := fun catches => due catches.2
      rw [if_neg due, if_neg quiet, termAfter_nil]

/-- The echo is fed in the cursor key mode the terminal is in. -/
theorem echo_runs {t : Terminal} {appMode : Bool} (mode : t.appCursorKeys = appMode)
    (key : UInt32) : (terminalRender (localEchoFeed t key)).1 =
      Run.after Op.step t (feedOps (localEcho appMode key) ++ [.render]) := by
  rw [localEchoFeed, mode, terminalFeed_eq_run, Run.after_append]
  rfl

theorem sTerm_forwardKey (s : SessionUi) (evt : KeyEvent) :
    (s.forwardKey evt).sTerm = s.termAfter (s.forwardOps evt) := by
  let live := s.onTerm fun t =>
    if s.isScrolled then (terminalRender (terminalScroll t (-100000))).1 else t
  have snapped : live.sTerm = s.termAfter (if s.isScrolled then liveOps else []) := by
    refine sTerm_onTerm fun term _ => ?_
    split <;> rfl
  have mode : live.appCursorKeys = s.appCursorKeys := by
    refine appCursorKeys_onTerm s fun t => ?_
    split
    · exact terminalRender_appCursorKeys _
    · rfl
  have echoed : (s.forwardKey evt).sTerm = live.termAfter
      (if s.sLocalEcho then feedOps (localEcho s.appCursorKeys evt.key) ++ [.render] else []) := by
    refine @sTerm_onTerm { live with
      sDragPanPx := if s.isScrolled then 0 else s.sDragPanPx
      sent := s.sent ++ { live with
        sDragPanPx := if s.isScrolled then 0 else s.sDragPanPx }.sendKeyWrites evt } _ _ ?_
    intro term here
    have here : live.sTerm = some term := here
    have shown : term.terminal.appCursorKeys = s.appCursorKeys := by
      rw [← mode, appCursorKeys, here]
      rfl
    show (if s.sLocalEcho then (terminalRender (localEchoFeed term.terminal evt.key)).1
      else term.terminal) = _
    split
    · exact echo_runs shown evt.key
    · rfl
  exact echoed.trans (termAfter_append snapped _)

/-- A callback of the session screen does its operations if the screen is shown. -/
theorem sTerm_onSession {s callback : SessionUi} {ops : List Op}
    (done : callback.sTerm = s.termAfter ops) :
    (s.onSession callback).sTerm = s.termAfter (s.screenOps ops) := by
  unfold onSession screenOps
  cases s.screen with
  | session canvas => exact done
  | _ => exact (termAfter_nil s).symm

/-- A step of an io task does its operations, and the last one destroys the terminal. -/
theorem sTerm_sessionIoTask (s : SessionUi) (i : Nat) (task : IoTask) (read : ReadResult) :
    (s.sessionIoTask i task read).sTerm = s.termAfter (s.taskOps task read) ∨
      (s.sessionIoTask i task read).sTerm = none := by
  unfold sessionIoTask taskOps
  cases task.phase with
  | check => exact .inl (termAfter_nil s).symm
  | read =>
      cases read with
      | data chunk drained =>
          have fed : (s.onTerm fun t => (terminalRender
              ((chunk :: drained.take 8).foldl terminalFeed t)).1).sTerm =
                s.termAfter (feedOps (chunk :: drained.take 8).flatten ++ [.render]) :=
            sTerm_onTerm fun term _ => data_runs _ term.terminal
          exact .inl fed
      | timeout => exact .inl (termAfter_nil s).symm
      | closed => exact .inl (termAfter_nil s).symm
  | receive =>
      refine .inl ?_
      cases s.sKeyQueue with
      | nil => exact (termAfter_nil s).symm
      | cons evt rest => exact (termAfter_nil s).symm
  | send evt => exact .inl (s.sTerm_forwardKey evt)
  | unhook => exact .inl (termAfter_nil s).symm
  | close => exact .inl (termAfter_nil s).symm
  | finish => exact .inr rfl

/-- What happens behind a condition leaves `s_term` alone if it does so where the condition holds. -/
theorem sTerm_gate {s callback : SessionUi} {cond : Prop} [Decidable cond]
    (same : cond → callback.sTerm = s.sTerm) :
    (if cond then callback else s).sTerm = s.termAfter [] := by
  rw [termAfter_nil]
  split
  · exact same ‹_›
  · rfl

/-- **One step does its operations**, or destroys the terminal. -/
theorem step_term {s : SessionUi} {a : Action} (quiet : ¬ s.Opens a) :
    (s.step a).sTerm = s.termAfter (s.termOps a) ∨ (s.step a).sTerm = none := by
  cases a with
  | tapTelnetHost connected =>
      refine .inl (sTerm_gate fun home => ?_)
      cases connected with
      | false => rfl
      | true => exact absurd ⟨home, rfl⟩ quiet
  | sshConnected ok =>
      refine .inl (sTerm_gate fun pending => ?_)
      cases ok with
      | false => rfl
      | true => exact absurd ⟨pending, rfl⟩ quiet
  | tapSshHost keyAuth => exact .inl (sTerm_gate fun _ => by cases keyAuth <;> rfl)
  | wifiConnected ok => exact .inl (sTerm_gate fun _ => by cases ok <;> rfl)
  | sshConnectBtn allocated => exact .inl (sTerm_gate fun _ => by cases allocated <;> rfl)
  | editHost => exact .inl (sTerm_gate fun _ => rfl)
  | closeEdit => exact .inl (sTerm_gate fun _ => rfl)
  | openWifi => exact .inl (sTerm_gate fun _ => rfl)
  | closeWifi => exact .inl (sTerm_gate fun _ => rfl)
  | startWifiConnect allocated => exact .inl (sTerm_gate fun _ => rfl)
  | sshCancelBtn => exact .inl (sTerm_gate fun _ => rfl)
  | disconnectBtn =>
      have same : (s.onSession s.disconnectBtnClickCb).sTerm = s.sTerm := by
        rw [onSession]
        split <;> rfl
      exact .inl (same.trans (termAfter_nil s).symm)
  | echoToggleBtn =>
      have same : (s.onSession s.echoToggleBtnClickCb).sTerm = s.sTerm := by
        rw [onSession]
        split <;> rfl
      exact .inl (same.trans (termAfter_nil s).symm)
  | jumpToLiveBtn =>
      have snapped : (s.onTerm fun t => (terminalRender (terminalScroll t (-100000))).1).sTerm =
          s.termAfter liveOps :=
        sTerm_onTerm fun term _ => live_runs term.terminal
      exact .inl (sTerm_onSession snapped)
  | canvasPressing dy now => exact .inl (sTerm_onSession (s.sTerm_canvasPressingCb dy now))
  | canvasReleased now => exact .inl (sTerm_onSession (s.sTerm_catchUpScroll now))
  | key key pressed =>
      have same : (s.keyEvent key pressed).sTerm = s.sTerm := by
        rw [keyEvent]
        split
        · rw [rawKeyCb]
          split <;> rfl
        · rfl
      exact .inl (same.trans (termAfter_nil s).symm)
  | ioStep i read =>
      rw [step, termOps]
      cases s.ioTasks[i]? with
      | none => exact .inl (termAfter_nil s).symm
      | some task => exact s.sTerm_sessionIoTask i task read

/-! ### Every change is drawn -/

/-- Nothing is done, or a render is the last thing done. -/
def Rendered (ops : List Op) : Prop := ops = [] ∨ ∃ before, ops = before ++ [.render]

theorem rendered_append {first second : List Op} (one : Rendered first) (two : Rendered second) :
    Rendered (first ++ second) := by
  rcases two with rfl | ⟨before, rfl⟩
  · rwa [List.append_nil]
  · exact .inr ⟨first ++ before, (List.append_assoc ..).symm⟩

theorem rendered_ite {cond : Prop} [Decidable cond] {ops : List Op} (rendered : Rendered ops) :
    Rendered (if cond then ops else []) := by
  split
  · exact rendered
  · exact .inl rfl

theorem rendered_screenOps (s : SessionUi) {ops : List Op} (rendered : Rendered ops) :
    Rendered (s.screenOps ops) := by
  unfold screenOps
  split
  · exact rendered
  · exact .inl rfl

/-- **Whatever is done to the terminal is drawn before the lock is given back.** -/
theorem termOps_rendered (s : SessionUi) (a : Action) : Rendered (s.termOps a) := by
  have live : Rendered liveOps := .inr ⟨[.scroll (-100000)], rfl⟩
  have catchUp (pan : Int) : Rendered (catchUpOps pan) := .inr ⟨_, rfl⟩
  cases a with
  | jumpToLiveBtn => exact s.rendered_screenOps live
  | canvasPressing dy now => exact s.rendered_screenOps (rendered_ite (catchUp _))
  | canvasReleased now => exact s.rendered_screenOps (catchUp _)
  | ioStep i read =>
      unfold termOps
      dsimp only
      split
      · unfold taskOps
        split
        · exact .inr ⟨_, rfl⟩
        · exact rendered_append (rendered_ite live) (rendered_ite (.inr ⟨_, rfl⟩))
        · exact .inl rfl
      · exact .inl rfl
  | _ => exact .inl rfl

end SessionUi

/-! ### The machine with its canvas -/

/-- The canvas shows the terminal, and `terminal_render` has it on record. -/
structure Shows (w : Widget) : Prop where
  inv : Invariant w.terminal
  tracks : Tracks w.terminal w.canvas
  shows : w.canvas = shown w.terminal

namespace Shows

/-- **One render draws it all.** -/
theorem render {t : Terminal} {canvas : Canvas} (inv : Invariant t) (tracks : Tracks t canvas) :
    Shows ⟨(terminalRender t).1, paintAll (terminalRender t).2 canvas⟩ := by
  obtain ⟨painted, same, recorded⟩ := terminalRender_shown inv.cursor inv.view.1 tracks
  exact ⟨inv.render, fun _ => painted.trans recorded.symm, painted.trans same.symm⟩

/-- What ends in a render keeps the canvas showing the terminal. -/
theorem after {w : Widget} (shows : Shows w) {ops : List Op} (rendered : SessionUi.Rendered ops)
    (fits : Run.Meets Op.step NoOverflow w.terminal ops) : Shows (Run.after Widget.step w ops) := by
  rcases rendered with rfl | ⟨before, rfl⟩
  · exact shows
  have invs : Run.Always Op.step Invariant w.terminal (before ++ [.render]) :=
    Run.always_of_meets (fun _ op here fit => (step_invariant_iff here op).mpr fit) shows.inv fits
  have undrawn := invs.shorter (List.prefix_append before [.render])
  have last := undrawn.last
  rw [← Widget.after_terminal] at last
  rw [Run.after_append]
  exact .render last (Widget.run_tracks undrawn shows.tracks)

/-- A new terminal is drawn whole. -/
theorem fresh (memory : Canvas) :
    Shows ⟨(terminalRender terminalCreate).1, paintAll (terminalRender terminalCreate).2 memory⟩ := by
  have never : ¬ 0 ≤ terminalCreate.renderedScrollOffset := by decide
  exact .render terminalCreate_invariant fun rendered => absurd rendered never

/-- So is that of a session that is opened. -/
theorem opened {s : SessionUi} {term : SessionTerm} (here : s.openSessionScreen.sTerm = some term)
    (memory : Canvas) :
    Shows ⟨term.terminal, paintAll (terminalRender terminalCreate).2 memory⟩ := by
  obtain ⟨session, terminal⟩ := term
  rw [SessionUi.sTerm_openSessionScreen, Option.some.injEq, SessionTerm.mk.injEq] at here
  show Shows ⟨terminal, _⟩
  rw [← here.2]
  exact fresh memory

end Shows

/-- The session screen and the pixels of `s_term`'s canvas. -/
structure Display where
  ui : SessionUi
  canvas : Canvas

namespace Display

/-- A step, and what it paints; the buffer of a new terminal's canvas holds `memory`. -/
def step (memory : Nat → Canvas) (d : Display) (a : Action) : Display where
  ui := d.ui.step a
  canvas :=
    if d.ui.Opens a then
      paintAll (terminalRender terminalCreate).2 (memory d.ui.opened)
    else
      match d.ui.sTerm with
      | some term => (Run.after Widget.step ⟨term.terminal, d.canvas⟩ (d.ui.termOps a)).canvas
      | none => d.canvas

theorem canvas_opens {memory : Nat → Canvas} {d : Display} {a : Action} (opens : d.ui.Opens a) :
    (d.step memory a).canvas = paintAll (terminalRender terminalCreate).2 (memory d.ui.opened) :=
  if_pos opens

/-- No CUD or CUF that the step feeds overflows, and no screen is loaded beside a running task. -/
structure Fits (ui : SessionUi) (a : Action) : Prop where
  alone : ui.LoadsAlone a
  fits : ∀ term ∈ ui.sTerm, Run.Meets Op.step NoOverflow term.terminal (ui.termOps a)

/-- What a step keeps: the screens of the sessions, and what the canvas shows. -/
structure Inv (d : Display) : Prop where
  orderly : Orderly d.ui.books
  onScreen : d.ui.OnScreen
  shows : ∀ term ∈ d.ui.sTerm, Shows ⟨term.terminal, d.canvas⟩

theorem shows_step {memory : Nat → Canvas} {d : Display} {a : Action}
    (shows : ∀ term ∈ d.ui.sTerm, Shows ⟨term.terminal, d.canvas⟩)
    (fits : ∀ term ∈ d.ui.sTerm, Run.Meets Op.step NoOverflow term.terminal (d.ui.termOps a)) :
    ∀ term ∈ (d.step memory a).ui.sTerm, Shows ⟨term.terminal, (d.step memory a).canvas⟩ := by
  intro term here
  rw [Option.mem_def] at here
  by_cases opens : d.ui.Opens a
  · obtain ⟨caller, _, opened⟩ := SessionUi.step_opens opens
    have created : caller.openSessionScreen.sTerm = some term := opened ▸ here
    rw [canvas_opens opens]
    exact Shows.opened created (memory d.ui.opened)
  · rcases SessionUi.step_term opens with done | gone
    · have left : d.ui.termAfter (d.ui.termOps a) = some term := done.symm.trans here
      obtain ⟨before, was, rfl⟩ := Option.map_eq_some_iff.mp left
      have after := (shows before was).after (d.ui.termOps_rendered a) (fits before was)
      rw [Display.step, if_neg opens, was]
      dsimp only
      rw [← Widget.after_terminal ⟨before.terminal, d.canvas⟩]
      exact after
    · have none : some term = Option.none := here.symm.trans gone
      exact absurd none (by simp)

theorem inv_step {memory : Nat → Canvas} {d : Display} {a : Action} (inv : d.Inv)
    (fits : Fits d.ui a) : (d.step memory a).Inv where
  orderly := inv.orderly.step (SessionUi.opensAlone_of_loadsAlone fits.alone)
  onScreen := inv.onScreen.step inv.orderly fits.alone
  shows := shows_step inv.shows fits.fits

/-- A session that is opened when no io task runs. -/
theorem inv_opened {s : SessionUi} (orderly : Orderly s.books) (onScreen : s.OnScreen)
    (noTask : s.ioTasks = []) (memory : Canvas) :
    Inv ⟨s.openSessionScreen, paintAll (terminalRender terminalCreate).2 memory⟩ where
  orderly := orderly.openSession noTask
  onScreen := onScreen.openSessionScreen noTask
  shows := by
    intro term here
    dsimp only at here ⊢
    exact Shows.opened here memory

/-- The session of each io task is on the screen, and its canvas shows the rows and the cursor of its
terminal, as drawing them all on a blank canvas does. -/
def Showing (d : Display) : Prop :=
  ∀ task ∈ d.ui.ioTasks, d.ui.screen = .session (some task.session) ∧
    task.session ∉ d.ui.deletedCanvases ∧ ∃ term ∈ d.ui.sTerm, term.session = task.session ∧
      d.canvas = shown term.terminal ∧ d.canvas = paintAll (fullRedraw term.terminal) blankCanvas

theorem Inv.showing {d : Display} (inv : d.Inv) : d.Showing := by
  intro task mem
  have busy : d.ui.ioTasks ≠ [] := List.ne_nil_of_mem mem
  obtain ⟨term, isTerm, alive⟩ := inv.onScreen.termAlive inv.orderly busy
  have own : term.session = task.session := by
    cases inv.orderly with
    | quiet noTask => exact absurd noTask busy
    | live only oneTask session =>
        have one : d.ui.ioTasks = [only] := oneTask
        rw [one, List.mem_singleton] at mem
        have named : d.ui.sTerm.map (·.session) = some only.session := session
        rw [Option.mem_def.mp isTerm] at named
        rw [mem]
        exact Option.some.inj named
  have shows := inv.shows term isTerm
  refine ⟨inv.onScreen.shown task mem, own ▸ alive, term, isTerm, own, shows.shows, ?_⟩
  rw [fullRedraw_shown shows.inv.cursor]
  exact shows.shows

end Display

/-- **What is on the screen is the session.** Whatever the order of taps, drags, keys, data and the
ends of background connects, and whatever the memory of a new canvas holds: as long as no screen is
loaded beside an io task and no CUD or CUF overflows, whenever the display lock is free the screen
of the running session is shown, and its canvas is a full redraw of its terminal. -/
theorem display_shows (memory : Nat → Canvas) (blank : Canvas) (acts : List Action)
    (fits : Run.Meets (Display.step memory) (fun d a => Display.Fits d.ui a) ⟨booted, blank⟩ acts) :
    Run.Always (Display.step memory) Display.Showing ⟨booted, blank⟩ acts := by
  have start : Display.Inv ⟨booted, blank⟩ :=
    ⟨orderly_booted, SessionUi.onScreen_booted, fun term here => nomatch here⟩
  have inv : Run.Always (Display.step memory) Display.Inv ⟨booted, blank⟩ acts :=
    Run.always_of_meets (fun _ _ inv fits => Display.inv_step inv fits) start fits
  exact inv.mono fun _ inv => inv.showing

/-- A session that is opened, gets a letter and is dragged. -/
theorem display_shows_letter :
    Run.Always (Display.step fun _ => blankCanvas) Display.Showing ⟨booted, blankCanvas⟩
      [.tapTelnetHost true, .ioStep 0 .timeout, .ioStep 0 (.data [0x41] []), .canvasReleased 0] := by
  refine display_shows (fun _ => blankCanvas) blankCanvas _ ⟨?_, ?_, ?_, ?_, trivial⟩
  · exact ⟨fun _ => rfl, fun term here => nomatch here⟩
  · exact ⟨fun opens => absurd opens id, fun _ _ => trivial⟩
  · refine ⟨fun opens => absurd opens id, fun _ _ => ⟨fun _ _ => ?_, trivial, trivial⟩⟩
    exact ⟨fun down => absurd down (by decide), fun right => absurd right (by decide)⟩
  · exact ⟨fun opens => absurd opens id, fun _ _ => ⟨trivial, trivial⟩⟩

end Tab5
