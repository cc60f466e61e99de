/-
**What the widgets of a session say** (`main/session_ui.c`, lines 157 to 246).

The Live button, the label of the echo button and the offset the canvas is drawn at, beside the
machine of the session screen. `Chrome` has the callbacks with the calls on these widgets where they
stand in the source; without the widgets they are those of `SessionUi` (`Chrome.step_ui`).

* `Inv.step`: the widgets say what is the case (`Agrees`);
* `drag_view`: what a finger drags stays under it, whenever the redraws come, and `release_view`: it
  is off by less than a line when the finger is lifted;
* `live_view`: the Live button leads back to the live screen;
* `session_chrome`: all of it, in every run.
-/

import Tab5RemoteTerminal.Session.Display
import Tab5RemoteTerminal.Terminal.Anchor

namespace Tab5

open CLoop

/-! ### The machine with its widgets -/

structure Chrome where
  ui : SessionUi
  /-- `s_jump_live_btn` is not hidden. -/
  jumpLiveShown : Bool
  /-- `s_echo_btn_lbl` reads "Echo: On", and not "Echo: Off". -/
  echoOn : Bool
  /-- The `translate_y` of the canvas of `s_term`. -/
  translateY : Int

namespace Chrome

def booted : Chrome := ⟨Tab5.booted, false, false, 0⟩

def updateEchoBtnLabel (c : Chrome) : Chrome := { c with echoOn := c.ui.sLocalEcho }

def updateScrollIndicator (c : Chrome) : Chrome := { c with jumpLiveShown := c.ui.isScrolled }

/-- `lv_obj_set_style_translate_y`. -/
def setTranslateY (c : Chrome) (y : Int) : Chrome := { c with translateY := y }

def openSessionScreen (c : Chrome) : Chrome :=
  { c with
    ui := c.ui.openSessionScreen
    jumpLiveShown := false
    translateY := 0 }.updateEchoBtnLabel

def echoToggleBtnClickCb (c : Chrome) : Chrome :=
  { c with ui := c.ui.echoToggleBtnClickCb }.updateEchoBtnLabel

def jumpToLiveBtnClickCb (c : Chrome) : Chrome :=
  ({ c with ui := c.ui.jumpToLiveBtnClickCb }.setTranslateY 0).updateScrollIndicator

def catchUpScroll (c : Chrome) (now : Int) : Chrome :=
  let c := { c with ui := c.ui.catchUpScroll now }
  (c.setTranslateY c.ui.sDragPanPx).updateScrollIndicator

def canvasPressingCb (c : Chrome) (dy now : Int) : Chrome :=
  if dy = 0 then c
  else
    let c := { c with ui := { c.ui with sDragPanPx := wrap32 (c.ui.sDragPanPx + dy) } }
    let c := c.setTranslateY c.ui.sDragPanPx
    if now - c.ui.sLastScrollRenderUs ≥ 40000 ∨ c.ui.sDragPanPx ≥ 160 ∨ c.ui.sDragPanPx ≤ -160 then
      c.catchUpScroll now
    else c

def canvasReleasedCb (c : Chrome) (now : Int) : Chrome :=
  let c := c.catchUpScroll now
  { c with ui := { c.ui with sDragPanPx := 0 } }.setTranslateY 0

/-- The key loop snaps to live with the calls of `jump_to_live_btn_click_cb`. -/
def forwardKey (c : Chrome) (evt : KeyEvent) : Chrome :=
  let snapped := if c.ui.isScrolled then c.jumpToLiveBtnClickCb else c
  { snapped with ui := c.ui.forwardKey evt }

def sessionIoTask (c : Chrome) (i : Nat) (task : IoTask) (read : ReadResult) : Chrome :=
  match task.phase with
  | .send evt => { c.forwardKey evt with ui := c.ui.sessionIoTask i task read }
  | _ => { c with ui := c.ui.sessionIoTask i task read }

def onSession (c callback : Chrome) : Chrome :=
  match c.ui.screen with
  | .session _ => callback
  | _ => c

def step (c : Chrome) : Action → Chrome
  | .tapTelnetHost true => if c.ui.screen = .home then c.openSessionScreen else c
  | .sshConnected true =>
      if 0 < c.ui.sshConnectTasks then
        { c with ui := { c.ui with sshConnectTasks := c.ui.sshConnectTasks - 1 } }.openSessionScreen
      else c
  | .echoToggleBtn => c.onSession c.echoToggleBtnClickCb
  | .jumpToLiveBtn => c.onSession c.jumpToLiveBtnClickCb
  | .canvasPressing dy now => c.onSession (c.canvasPressingCb dy now)
  | .canvasReleased now => c.onSession (c.canvasReleasedCb now)
  | .ioStep i read =>
      match c.ui.ioTasks[i]? with
      | some task => c.sessionIoTask i task read
      | none => c
  | a => { c with ui := c.ui.step a }

/-! ### The machine without them -/

theorem onSession_ui {c callback : Chrome} {ui : SessionUi} (same : callback.ui = ui) :
    (c.onSession callback).ui = c.ui.onSession ui := by
  unfold onSession SessionUi.onSession
  cases c.ui.screen with
  | session canvas => exact same
  | _ => rfl

theorem canvasPressingCb_ui (c : Chrome) (dy now : Int) :
    (c.canvasPressingCb dy now).ui = c.ui.canvasPressingCb dy now := by
  unfold canvasPressingCb SessionUi.canvasPressingCb
  by_cases still : dy = 0
  · rw [if_pos still, if_pos still]
  · rw [if_neg still, if_neg still]
    exact apply_ite Chrome.ui _ _ _

theorem sessionIoTask_ui (c : Chrome) (i : Nat) (task : IoTask) (read : ReadResult) :
    (c.sessionIoTask i task read).ui = c.ui.sessionIoTask i task read := by
  unfold sessionIoTask
  split <;> rfl

/-- **Without its widgets**, the screen is the machine of `SessionUi`. -/
theorem step_ui (c : Chrome) (a : Action) : (c.step a).ui = c.ui.step a := by
  cases a with
  | tapTelnetHost connected =>
      cases connected with
      | false => rfl
      | true => exact apply_ite Chrome.ui _ _ _
  | sshConnected ok =>
      cases ok with
      | false => rfl
      | true => exact apply_ite Chrome.ui _ _ _
  | echoToggleBtn => exact onSession_ui rfl
  | jumpToLiveBtn => exact onSession_ui rfl
  | canvasPressing dy now => exact onSession_ui (c.canvasPressingCb_ui dy now)
  | canvasReleased now => exact onSession_ui rfl
  | ioStep i read =>
      rw [step, SessionUi.step]
      cases c.ui.ioTasks[i]? with
      | none => rfl
      | some task => exact c.sessionIoTask_ui i task read
  | _ => rfl

end Chrome

/-! ### Whether the view is scrolled back -/

section Scrolled

variable {t : Terminal}

/-- Lines that arrive move a view that is scrolled back, and leave it scrolled back. -/
theorem scrolled_pushScrollback (ok : Buffered t) (row : Int) :
    0 < (pushScrollback t row).scrollOffset ↔ 0 < t.scrollOffset := by
  obtain ⟨_, offsetHigh, _⟩ := ok.view
  unfold pushScrollback
  split
  · exact Iff.rfl
  · dsimp only
    split
    · split <;> split <;> omega
    · exact Iff.rfl

theorem scrolled_lineFeed (ok : Buffered t) :
    0 < (termLineFeed t).scrollOffset ↔ 0 < t.scrollOffset := by
  have written (u : Terminal) (g : Grid) : (u.setActiveGrid g).scrollOffset = u.scrollOffset := by
    obtain ⟨_, _, same⟩ := setActiveGrid_touches u g
    rw [same]
  unfold termLineFeed
  split
  · rw [termScrollRegionUp, written]
    split
    · exact scrolled_pushScrollback ok 0
    · exact Iff.rfl
  · split <;> exact Iff.rfl

theorem scrolled_putc (ok : Buffered t) (c : UInt8) :
    0 < (termPutc t c).scrollOffset ↔ 0 < t.scrollOffset := by
  by_cases lineFeeds : LineFeeds t c
  · obtain ⟨normal, rfl | ⟨printable, pending⟩⟩ := lineFeeds
    · have cleared : Buffered { t with pendingWrap := false } := { ok with }
      rw [termPutc_normal normal]
      exact scrolled_lineFeed cleared
    · have home : Buffered { t with curCol := 0 } := { ok with }
      obtain ⟨_, _, _, _, put⟩ := putCell_touches (autowrap t) c
      rw [termPutc_print normal printable, termPutcPrint, put, autowrap_of_pending pending]
      exact scrolled_lineFeed home
  · rw [(termPutc_buffer lineFeeds).2]

theorem scrollOffset_render (t : Terminal) : (terminalRender t).1.scrollOffset = t.scrollOffset := by
  obtain ⟨_, _, _, _, _, _, same⟩ := terminalRender_fst t
  rw [same]

theorem scrollbackCount_render (t : Terminal) :
    (terminalRender t).1.scrollbackCount = t.scrollbackCount := by
  obtain ⟨_, _, _, _, _, _, same⟩ := terminalRender_fst t
  rw [same]

/-- Only a scroll brings a view back to live, or back from it. -/
theorem scrolled_after (ok : Buffered t) {ops : List Op} (still : ∀ lines, Op.scroll lines ∉ ops) :
    0 < (Run.after Op.step t ops).scrollOffset ↔ 0 < t.scrollOffset := by
  induction ops generalizing t with
  | nil => exact Iff.rfl
  | cons op ops ih =>
      rw [Run.after_cons, ih (ok.step op) fun lines mem => still lines (List.mem_cons_of_mem op mem)]
      cases op with
      | feed c => exact scrolled_putc ok c
      | scroll lines => exact absurd List.mem_cons_self (still lines)
      | render => rw [Op.step, scrollOffset_render]

/-- A jump of 100000 lines ends at the live screen. -/
theorem scroll_live (ok : Buffered t) :
    let after := Run.after Op.step t SessionUi.liveOps
    after.scrollOffset = 0 ∧ after.scrollbackCount = t.scrollbackCount := by
  obtain ⟨offsetLow, offsetHigh, countHigh⟩ := ok.view
  unfold scrollbackLines at countHigh
  have jumps : terminalScroll t (-100000) = { t with scrollOffset := 0 } := by
    have below : t.scrollOffset + -100000 < 0 := by omega
    rw [terminalScroll, wrap32_of_range (by omega) (by omega), if_pos below, if_neg (by omega)]
  show (terminalRender (terminalScroll t (-100000))).1.scrollOffset = 0 ∧
    (terminalRender (terminalScroll t (-100000))).1.scrollbackCount = t.scrollbackCount
  rw [scrollOffset_render, scrollbackCount_render, jumps]
  exact ⟨rfl, rfl⟩

end Scrolled

namespace SessionUi

variable {s s' : SessionUi} {ops : List Op}

def AllBuffered (s : SessionUi) : Prop := ∀ term ∈ s.sTerm, Buffered term.terminal

theorem AllBuffered.after (ok : s.AllBuffered) (done : s'.sTerm = s.termAfter ops) :
    s'.AllBuffered := by
  intro term here
  obtain ⟨before, was, rfl⟩ := Option.map_eq_some_iff.mp (done.symm.trans here)
  exact ((ok before was).always ops).last

theorem isScrolled_after (ok : s.AllBuffered) (done : s'.sTerm = s.termAfter ops)
    (still : ∀ lines, Op.scroll lines ∉ ops) : s'.isScrolled = s.isScrolled := by
  rw [isScrolled, done, termAfter, isScrolled]
  cases here : s.sTerm with
  | none => rfl
  | some term => exact decide_eq_decide.mpr (scrolled_after (ok term here) still)

theorem isScrolled_live (ok : s.AllBuffered) (done : s'.sTerm = s.termAfter liveOps) :
    s'.isScrolled = false := by
  rw [isScrolled, done, termAfter]
  cases here : s.sTerm with
  | none => rfl
  | some term =>
      refine decide_eq_false ?_
      rw [(scroll_live (ok term here)).1]
      decide

/-- What is received or echoed is fed and rendered, never scrolled. -/
theorem not_mem_rendered (data : List UInt8) (lines : Int) :
    Op.scroll lines ∉ feedOps data ++ [.render] := by
  intro mem
  rcases List.mem_append.mp mem with fed | rendered
  · obtain ⟨c, _, same⟩ := List.mem_map.mp fed
    cases same
  · cases List.mem_singleton.mp rendered

end SessionUi

namespace Chrome

/-! ### What the widgets say -/

/-- Within the ten lines at which a drag is caught up with. -/
def Small (pan : Int) : Prop := -160 < pan ∧ pan < 160

theorem small_zero : Small 0 := ⟨by decide, by decide⟩

/-- The Live button is shown exactly while the view is scrolled back, the echo button says whether
keys are echoed, and the canvas is off by the part of a drag that has not been scrolled. -/
structure Agrees (c : Chrome) : Prop where
  live : c.ui.sTerm.isSome = true → c.jumpLiveShown = c.ui.isScrolled
  echo : c.echoOn = c.ui.sLocalEcho
  pan : c.translateY = c.ui.sDragPanPx
  small : Small c.translateY

structure Inv (c : Chrome) : Prop extends Agrees c where
  buffered : c.ui.AllBuffered

variable {c : Chrome}

/-- A step that neither scrolls nor touches the widgets. -/
theorem Inv.still (inv : c.Inv) {ui : SessionUi} {ops : List Op}
    (done : ui.sTerm = c.ui.termAfter ops) (still : ∀ lines, Op.scroll lines ∉ ops)
    (echo : ui.sLocalEcho = c.ui.sLocalEcho) (pan : ui.sDragPanPx = c.ui.sDragPanPx) :
    Inv { c with ui := ui } where
  live := by
    intro here
    have was : c.ui.sTerm.isSome = true := by
      rw [done, SessionUi.termAfter, Option.isSome_map] at here
      exact here
    exact (inv.live was).trans (SessionUi.isScrolled_after inv.buffered done still).symm
  echo := inv.echo.trans echo.symm
  pan := inv.pan.trans pan.symm
  small := inv.small
  buffered := inv.buffered.after done

/-- The same, with nothing done to the terminal. -/
theorem Inv.frame (inv : c.Inv) {ui : SessionUi} (same : ui.sTerm = c.ui.sTerm)
    (echo : ui.sLocalEcho = c.ui.sLocalEcho) (pan : ui.sDragPanPx = c.ui.sDragPanPx) :
    Inv { c with ui := ui } :=
  inv.still (same.trans (SessionUi.termAfter_nil c.ui).symm) (fun _ => List.not_mem_nil) echo pan

theorem openSession_inv (c : Chrome) : c.openSessionScreen.Inv where
  live := by
    intro _
    show false = decide ((terminalRender terminalCreate).1.scrollOffset > 0)
    rw [scrollOffset_render]
    rfl
  echo := rfl
  pan := rfl
  small := small_zero
  buffered := by
    rintro _ ⟨⟩
    exact terminalCreate_buffered.step .render

theorem Inv.echoToggle (inv : c.Inv) : c.echoToggleBtnClickCb.Inv where
  live := inv.live
  echo := rfl
  pan := inv.pan
  small := inv.small
  buffered := inv.buffered

theorem sTerm_jumpToLive (c : Chrome) :
    c.jumpToLiveBtnClickCb.ui.sTerm = c.ui.termAfter SessionUi.liveOps := by
  have snapped : (c.ui.onTerm fun t => (terminalRender (terminalScroll t (-100000))).1).sTerm =
      c.ui.termAfter SessionUi.liveOps :=
    SessionUi.sTerm_onTerm fun term _ => SessionUi.live_runs term.terminal
  exact snapped

theorem Inv.jumpToLive (inv : c.Inv) : c.jumpToLiveBtnClickCb.Inv where
  live := fun _ => rfl
  echo := inv.echo
  pan := rfl
  small := small_zero
  buffered := inv.buffered.after c.sTerm_jumpToLive

/-- What is left of a pan when the whole lines have gone. -/
theorem tdiv_left (pan : Int) : -16 < pan - pan.tdiv 16 * 16 ∧ pan - pan.tdiv 16 * 16 < 16 := by
  have left : pan - pan.tdiv 16 * 16 = pan.tmod 16 := by
    have := Int.mul_tdiv_add_tmod pan 16
    omega
  rw [left]
  exact ⟨Int.lt_tmod_of_pos pan (by decide), Int.tmod_lt_of_pos pan (by decide)⟩

/-- Whatever the pan was. -/
theorem catchUp_inv (echo : c.echoOn = c.ui.sLocalEcho) (buffered : c.ui.AllBuffered) (now : Int) :
    (c.catchUpScroll now).Inv where
  live := fun _ => rfl
  echo := echo
  pan := rfl
  small := by
    have left := tdiv_left c.ui.sDragPanPx
    show Small (c.ui.sDragPanPx - c.ui.sDragPanPx.tdiv 16 * 16)
    unfold Small
    omega
  buffered := buffered.after (c.ui.sTerm_catchUpScroll now)

theorem Inv.pressing (inv : c.Inv) (dy now : Int) : (c.canvasPressingCb dy now).Inv := by
  unfold canvasPressingCb
  split
  · exact inv
  · dsimp only
    split
    · refine catchUp_inv ?_ ?_ now
      · exact inv.echo
      · exact inv.buffered
    · rename_i notDue
      have within : Small (wrap32 (c.ui.sDragPanPx + dy)) := by
        dsimp only [setTranslateY] at notDue
        unfold Small
        omega
      exact
        { live := inv.live, echo := inv.echo, pan := rfl, small := within, buffered := inv.buffered }

theorem Inv.released (inv : c.Inv) (now : Int) : (c.canvasReleasedCb now).Inv :=
  { catchUp_inv inv.echo inv.buffered now with
    pan := rfl
    small := small_zero }

/-- The echo of a key. -/
def echoOps (s : SessionUi) (key : UInt32) : List Op :=
  if s.sLocalEcho then SessionUi.feedOps (localEcho s.appCursorKeys key) ++ [.render] else []

theorem not_mem_echoOps (s : SessionUi) (key : UInt32) (lines : Int) :
    Op.scroll lines ∉ echoOps s key := by
  unfold echoOps
  split
  · exact SessionUi.not_mem_rendered _ lines
  · exact List.not_mem_nil

/-- A key brings the view back to live, and its echo leaves it there. -/
theorem Inv.forwardKey (inv : c.Inv) (evt : KeyEvent) : (c.forwardKey evt).Inv := by
  have done := c.ui.sTerm_forwardKey evt
  have pan : (c.ui.forwardKey evt).sDragPanPx =
      if c.ui.isScrolled then 0 else c.ui.sDragPanPx := rfl
  unfold SessionUi.forwardOps at done
  unfold Chrome.forwardKey
  by_cases scrolled : c.ui.isScrolled = true
  · rw [if_pos scrolled, ← SessionUi.termAfter_append c.sTerm_jumpToLive] at done
    rw [if_pos scrolled] at pan
    rw [if_pos scrolled]
    exact inv.jumpToLive.still done (not_mem_echoOps c.ui evt.key) rfl pan
  · rw [if_neg scrolled, List.nil_append] at done
    rw [if_neg scrolled] at pan
    rw [if_neg scrolled]
    exact inv.still done (not_mem_echoOps c.ui evt.key) rfl pan

theorem Inv.ioTask (inv : c.Inv) (i : Nat) (task : IoTask) (read : ReadResult) :
    (c.sessionIoTask i task read).Inv := by
  obtain ⟨session, phase⟩ := task
  cases phase with
  | check => exact inv.frame rfl rfl rfl
  | read =>
      cases read with
      | data chunk drained =>
          have fed : (c.ui.onTerm fun t => (terminalRender
              ((chunk :: drained.take 8).foldl terminalFeed t)).1).sTerm = c.ui.termAfter
                (SessionUi.feedOps (chunk :: drained.take 8).flatten ++ [.render]) :=
            SessionUi.sTerm_onTerm fun term _ => SessionUi.data_runs _ term.terminal
          exact inv.still fed (SessionUi.not_mem_rendered _) rfl rfl
      | timeout => exact inv.frame rfl rfl rfl
      | closed => exact inv.frame rfl rfl rfl
  | receive =>
      refine inv.frame ?_ ?_ ?_ <;>
        (dsimp only [SessionUi.sessionIoTask]; cases c.ui.sKeyQueue <;> rfl)
  | send evt => exact (inv.forwardKey evt).frame rfl rfl rfl
  | unhook => exact inv.frame rfl rfl rfl
  | close => exact inv.frame rfl rfl rfl
  | finish =>
      -- `s_term` is NULL from here on.
      exact
        { live := by rintro ⟨⟩
          echo := inv.echo
          pan := inv.pan
          small := inv.small
          buffered := by rintro _ ⟨⟩ }

theorem Inv.onSession (inv : c.Inv) {callback : Chrome} (kept : callback.Inv) :
    (c.onSession callback).Inv := by
  unfold Chrome.onSession
  split
  · exact kept
  · exact inv

theorem Inv.gate (inv : c.Inv) {cond : Prop} [Decidable cond] {ui : SessionUi}
    (same : ui.sTerm = c.ui.sTerm) (echo : ui.sLocalEcho = c.ui.sLocalEcho)
    (pan : ui.sDragPanPx = c.ui.sDragPanPx) : Inv { c with ui := if cond then ui else c.ui } := by
  split
  · exact inv.frame same echo pan
  · exact inv

/-- **One step.** -/
theorem Inv.step (inv : c.Inv) (a : Action) : (c.step a).Inv := by
  cases a with
  | tapTelnetHost connected =>
      cases connected with
      | false => exact inv.gate rfl rfl rfl
      | true =>
          dsimp only [Chrome.step]
          split
          · exact c.openSession_inv
          · exact inv
  | sshConnected ok =>
      cases ok with
      | false => exact inv.gate rfl rfl rfl
      | true =>
          dsimp only [Chrome.step]
          split
          · exact openSession_inv _
          · exact inv
  | tapSshHost keyAuth => cases keyAuth <;> exact inv.gate rfl rfl rfl
  | editHost => exact inv.gate rfl rfl rfl
  | closeEdit => exact inv.gate rfl rfl rfl
  | openWifi => exact inv.gate rfl rfl rfl
  | closeWifi => exact inv.gate rfl rfl rfl
  | startWifiConnect allocated => exact inv.gate rfl rfl rfl
  | wifiConnected ok => cases ok <;> exact inv.gate rfl rfl rfl
  | sshConnectBtn allocated => cases allocated <;> exact inv.gate rfl rfl rfl
  | sshCancelBtn => exact inv.gate rfl rfl rfl
  | disconnectBtn =>
      refine inv.frame ?_ ?_ ?_ <;>
        (unfold SessionUi.step SessionUi.onSession; cases c.ui.screen <;> rfl)
  | echoToggleBtn => exact inv.onSession inv.echoToggle
  | jumpToLiveBtn => exact inv.onSession inv.jumpToLive
  | canvasPressing dy now => exact inv.onSession (inv.pressing dy now)
  | canvasReleased now => exact inv.onSession (inv.released now)
  | key key pressed =>
      refine inv.frame ?_ ?_ ?_ <;>
        (dsimp only [SessionUi.step, SessionUi.keyEvent, SessionUi.rawKeyCb]
         split
         · split <;> rfl
         · rfl)
  | ioStep i read =>
      dsimp only [Chrome.step]
      split
      · exact inv.ioTask i _ read
      · exact inv

/-! ### A drag -/

/-- How far, in pixels, what is drawn stands below its place on the live screen, and how many lines
are kept above that. -/
def view (c : Chrome) : Option (Int × Int) :=
  c.ui.sTerm.map fun term =>
    (term.terminal.scrollOffset * 16 + c.translateY, term.terminal.scrollbackCount)

/-- The finger has moved, and LVGL calls back at a time. -/
def moved (move : Int × Int) : Action := .canvasPressing move.1 move.2

/-- A drag that never leaves the lines there are, from `y` on. -/
def Inside (count : Int) : Int → List (Int × Int) → Prop
  | y, [] => 0 ≤ y ∧ y ≤ count * 16
  | y, move :: moves => (0 ≤ y ∧ y ≤ count * 16) ∧ Inside count (y + move.1) moves

theorem Inside.here {count y : Int} {moves : List (Int × Int)} (inside : Inside count y moves) :
    0 ≤ y ∧ y ≤ count * 16 := by
  cases moves with
  | nil => exact inside
  | cons move moves => exact inside.1

theorem Inside.ends {count y : Int} {moves : List (Int × Int)} (inside : Inside count y moves) :
    0 ≤ y + (moves.map Prod.fst).sum ∧ y + (moves.map Prod.fst).sum ≤ count * 16 := by
  induction moves generalizing y with
  | nil =>
      rw [List.map_nil, List.sum_nil, Int.add_zero]
      exact inside
  | cons move moves ih =>
      rw [List.map_cons, List.sum_cons, ← Int.add_assoc]
      exact ih inside.2

theorem view_eq_some {y count : Int} : c.view = some (y, count) ↔ ∃ term, c.ui.sTerm = some term ∧
    term.terminal.scrollOffset * 16 + c.translateY = y ∧ term.terminal.scrollbackCount = count := by
  simp [view]

/-- A scroll to a line that is there. -/
theorem terminalScroll_inside {t : Terminal} (ok : Buffered t) {lines : Int}
    (low : 0 ≤ t.scrollOffset + lines) (high : t.scrollOffset + lines ≤ t.scrollbackCount) :
    terminalScroll t lines = { t with scrollOffset := t.scrollOffset + lines } := by
  obtain ⟨_, _, countHigh⟩ := ok.view
  unfold scrollbackLines at countHigh
  rw [terminalScroll, wrap32_of_range (by omega) (by omega), if_neg (by omega), if_neg (by omega)]

/-- Catching up scrolls the whole lines of a pan. -/
theorem catchUp_scrolls {t : Terminal} (ok : Buffered t) {pan : Int}
    (low : 0 ≤ t.scrollOffset + pan.tdiv 16)
    (high : t.scrollOffset + pan.tdiv 16 ≤ t.scrollbackCount) :
    let after := Run.after Op.step t (SessionUi.catchUpOps pan)
    after.scrollOffset = t.scrollOffset + pan.tdiv 16 ∧
      after.scrollbackCount = t.scrollbackCount := by
  intro after
  show (Run.after Op.step t (SessionUi.catchUpOps pan)).scrollOffset = _ ∧
    (Run.after Op.step t (SessionUi.catchUpOps pan)).scrollbackCount = _
  rw [← SessionUi.catchUp_runs, scrollOffset_render, scrollbackCount_render]
  split
  · rw [terminalScroll_inside ok low high]
    exact ⟨rfl, rfl⟩
  · exact ⟨by omega, rfl⟩

/-- The rest of a pan is left to the canvas: what is drawn stays where it was. -/
theorem catchUp_view {term : SessionTerm} (here : c.ui.sTerm = some term)
    (ok : Buffered term.terminal) {y : Int}
    (there : term.terminal.scrollOffset * 16 + c.ui.sDragPanPx = y) (low : 0 ≤ y)
    (high : y ≤ term.terminal.scrollbackCount * 16) (now : Int) :
    (c.catchUpScroll now).view = some (y, term.terminal.scrollbackCount) := by
  have left := tdiv_left c.ui.sDragPanPx
  obtain ⟨scrolls, counts⟩ := @catchUp_scrolls term.terminal ok c.ui.sDragPanPx (by omega) (by omega)
  have shown : (c.catchUpScroll now).ui.sTerm = c.ui.termAfter _ := c.ui.sTerm_catchUpScroll now
  rw [SessionUi.termAfter, here, Option.map_some] at shown
  refine view_eq_some.mpr ⟨_, shown, ?_, counts⟩
  show (Run.after Op.step term.terminal (SessionUi.catchUpOps c.ui.sDragPanPx)).scrollOffset * 16 +
    (c.ui.sDragPanPx - c.ui.sDragPanPx.tdiv 16 * 16) = y
  rw [scrolls]
  omega

/-- **A move** takes what is drawn along, whether it is redrawn or not. -/
theorem press_view (inv : c.Inv) {canvas : Option Nat} (screen : c.ui.screen = .session canvas)
    {y count dy : Int} (view : c.view = some (y, count)) (low : 0 ≤ y + dy)
    (high : y + dy ≤ count * 16) (now : Int) :
    (c.step (moved (dy, now))).view = some (y + dy, count) ∧
      (c.step (moved (dy, now))).ui.screen = .session canvas := by
  obtain ⟨term, here, there, rfl⟩ := view_eq_some.mp view
  rw [inv.pan] at there
  have ok := inv.buffered term here
  obtain ⟨offsetLow, offsetHigh, countHigh⟩ := ok.view
  unfold scrollbackLines at countHigh
  have pressed : c.step (moved (dy, now)) = c.canvasPressingCb dy now := by
    show c.onSession (c.canvasPressingCb dy now) = _
    rw [Chrome.onSession, screen]
  rw [pressed]
  unfold canvasPressingCb
  by_cases still : dy = 0
  · rw [if_pos still, still, Int.add_zero]
    exact ⟨view, screen⟩
  · have pan : wrap32 (c.ui.sDragPanPx + dy) = c.ui.sDragPanPx + dy :=
      wrap32_of_range (by omega) (by omega)
    rw [if_neg still, pan]
    have panned : term.terminal.scrollOffset * 16 + (c.ui.sDragPanPx + dy) = y + dy := by omega
    dsimp only
    split
    · refine ⟨?_, screen⟩
      exact @catchUp_view (setTranslateY { c with ui := { c.ui with
        sDragPanPx := c.ui.sDragPanPx + dy } } (c.ui.sDragPanPx + dy)) term here ok (y + dy) panned
        low high now
    · exact ⟨view_eq_some.mpr ⟨term, here, panned, rfl⟩, screen⟩

theorem drag_view (inv : c.Inv) {canvas : Option Nat} (screen : c.ui.screen = .session canvas)
    {y count : Int} (view : c.view = some (y, count)) {moves : List (Int × Int)}
    (inside : Inside count y moves) :
    (Run.after step c (moves.map moved)).view = some (y + (moves.map Prod.fst).sum, count) ∧
      (Run.after step c (moves.map moved)).ui.screen = .session canvas := by
  induction moves generalizing c y with
  | nil =>
      rw [List.map_nil, List.map_nil, List.sum_nil, Int.add_zero]
      exact ⟨view, screen⟩
  | cons move moves ih =>
      obtain ⟨low, high⟩ := inside.2.here
      obtain ⟨next, stays⟩ := press_view inv screen view low high move.2
      have rest := ih (inv.step (moved move)) stays next inside.2
      rw [List.map_cons, List.map_cons, List.sum_cons, ← Int.add_assoc]
      exact rest

/-- **The finger is lifted**: the view settles on a line, less than a line away. -/
theorem release_view (inv : c.Inv) {canvas : Option Nat} (screen : c.ui.screen = .session canvas)
    {y count : Int} (view : c.view = some (y, count)) (low : 0 ≤ y) (high : y ≤ count * 16)
    (now : Int) : ∃ line, (c.step (.canvasReleased now)).view = some (line * 16, count) ∧
      -16 < y - line * 16 ∧ y - line * 16 < 16 := by
  obtain ⟨term, here, there, rfl⟩ := view_eq_some.mp view
  have ok := inv.buffered term here
  rw [inv.pan] at there
  have released : c.step (.canvasReleased now) = c.canvasReleasedCb now := by
    show c.onSession (c.canvasReleasedCb now) = _
    rw [Chrome.onSession, screen]
  obtain ⟨caught, shown, place, counts⟩ := view_eq_some.mp (catchUp_view here ok there low high now)
  have left := tdiv_left c.ui.sDragPanPx
  have translate : (c.catchUpScroll now).translateY =
      c.ui.sDragPanPx - c.ui.sDragPanPx.tdiv 16 * 16 := rfl
  refine ⟨caught.terminal.scrollOffset, ?_, by omega, by omega⟩
  rw [released]
  refine view_eq_some.mpr ⟨caught, shown, ?_, counts⟩
  show _ + (0 : Int) = _
  omega

/-- **The Live button** brings the view back, and goes. -/
theorem live_view (inv : c.Inv) {canvas : Option Nat} (screen : c.ui.screen = .session canvas)
    {y count : Int} (view : c.view = some (y, count)) :
    (c.step .jumpToLiveBtn).view = some (0, count) ∧
      (c.step .jumpToLiveBtn).jumpLiveShown = false := by
  obtain ⟨term, here, _, rfl⟩ := view_eq_some.mp view
  have tapped : c.step .jumpToLiveBtn = c.jumpToLiveBtnClickCb := by
    show c.onSession c.jumpToLiveBtnClickCb = _
    rw [Chrome.onSession, screen]
  have jumped := c.sTerm_jumpToLive
  have hidden := SessionUi.isScrolled_live inv.buffered jumped
  obtain ⟨top, counts⟩ := scroll_live (inv.buffered term here)
  rw [SessionUi.termAfter, here, Option.map_some] at jumped
  rw [tapped]
  refine ⟨view_eq_some.mpr ⟨_, jumped, ?_, counts⟩, hidden⟩
  show (Run.after Op.step term.terminal SessionUi.liveOps).scrollOffset * 16 + 0 = 0
  rw [top]
  rfl

end Chrome

/-! ### Runs -/

open Chrome

/-- A drag in a session's screen takes what is drawn along with the finger, and leaves it on a line,
less than a line away, when the finger is lifted. -/
def Follows (c : Chrome) : Prop :=
  ∀ canvas y count moves now, c.ui.screen = .session canvas → c.view = some (y, count) →
    Inside count y moves →
    let dragged := Run.after Chrome.step c (moves.map moved)
    let finger := y + (moves.map Prod.fst).sum
    dragged.view = some (finger, count) ∧
      ∃ line, (dragged.step (.canvasReleased now)).view = some (line * 16, count) ∧
        -16 < finger - line * 16 ∧ finger - line * 16 < 16

/-- A tap on the Live button shows the live screen, and hides the button. -/
def Returns (c : Chrome) : Prop :=
  ∀ canvas y count, c.ui.screen = .session canvas → c.view = some (y, count) →
    (c.step .jumpToLiveBtn).view = some (0, count) ∧
      (c.step .jumpToLiveBtn).jumpLiveShown = false

theorem Chrome.Inv.always {c : Chrome} (inv : c.Inv) (acts : List Action) :
    Run.Always Chrome.step Chrome.Inv c acts :=
  Run.always_of_step (fun _ a now => now.step a) inv acts

theorem Chrome.Inv.follows {c : Chrome} (inv : c.Inv) : Follows c := by
  intro canvas y count moves now screen view inside
  obtain ⟨dragged, stays⟩ := drag_view inv screen view inside
  obtain ⟨low, high⟩ := inside.ends
  exact ⟨dragged, release_view (inv.always _).last stays dragged low high now⟩

theorem Chrome.Inv.returns {c : Chrome} (inv : c.Inv) : Returns c :=
  fun _ _ _ screen view => live_view inv screen view

theorem booted_inv : Chrome.booted.Inv where
  live := fun here => absurd here Bool.false_ne_true
  echo := rfl
  pan := rfl
  small := small_zero
  buffered := by
    intro term here
    cases here

/-- **What the user sees around a session's terminal.** In every run: without its widgets the screen
is the machine of the sessions; the widgets say what is the case; a drag is followed; and the Live
button leads back. -/
theorem session_chrome (acts : List Action) :
    (Run.after Chrome.step Chrome.booted acts).ui = Run.after SessionUi.step booted acts ∧
      Run.Always Chrome.step (fun c => c.Agrees ∧ Follows c ∧ Returns c) Chrome.booted acts := by
  refine ⟨Run.part_after step_ui Chrome.booted acts, ?_⟩
  exact (booted_inv.always acts).mono fun _ inv => ⟨inv.toAgrees, inv.follows, inv.returns⟩

end Tab5
