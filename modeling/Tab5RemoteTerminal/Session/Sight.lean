/-
**What the user sees of a session.**

A `Sight` is a session over its transport together with the pixels of its canvas. Between the two are
the chunks of the read loop, the echo, the snap to live, drags, the dirty rows of a render and the
ring buffer; `session_seen` is what remains of them: the canvas is the picture of the text screen
that has performed the commands in the bytes heard, seen from the line the user has scrolled to.
-/

import Tab5RemoteTerminal.Session.EndToEnd
import Tab5RemoteTerminal.Terminal.Realisation

namespace Tab5

/-! ### A terminal and its view -/

/-- Only the view of the screen is another. -/
theorem Presents.seenFrom {t u : Terminal} {s : TextScreen} (p : Presents u s)
    (agree : AgreeButView t u) (buffered : Buffered t) :
    Presents t (s.seenFrom t.scrollOffset.toNat) := by
  have view := buffered.view
  have rows : ringRows t = s.scrollback.lines.map List.ofFn := by
    rw [← p.lines, agree]
    rfl
  have count : (s.scrollback.lines.length : Int) = t.scrollbackCount := by
    rw [← ringRows_length buffered, rows, List.length_map]
  have back : t.scrollOffset = ((min t.scrollOffset.toNat s.scrollback.lines.length : Nat) : Int) := by
    omega
  rw [agree] at p
  exact { p with lines := rows, back, buffered }

/-- Whether a sum overflows does not depend on the view. -/
theorem noOverflow_of_view {t u : Terminal} (same : wholeSession.view t = wholeSession.view u)
    {op : Op} (fits : NoOverflow t op) : NoOverflow u op := by
  rw [agreeButView_of_view same]
  cases op with
  | feed c => exact fits
  | scroll deltaLines => trivial
  | render => trivial

/-- What fits as operations fits as the bytes they feed. -/
theorem feeds_fit {t u : Terminal} (same : wholeSession.view t = wholeSession.view u)
    {ops : List Op} (fits : Run.Meets Op.step NoOverflow t ops) :
    Run.Meets Op.step NoOverflow u (SessionUi.feedOps (fedBytes ops)) := by
  induction ops generalizing t u with
  | nil => trivial
  | cons op ops ih =>
      obtain ⟨here, rest⟩ := fits
      cases op with
      | feed c => exact ⟨noOverflow_of_view same here, ih (wholeSession.feed same [c]) rest⟩
      | scroll deltaLines => exact ih ((step_hidden t rfl).trans same) rest
      | render => exact ih ((step_hidden t rfl).trans same) rest

/-! ### The screen behind some bytes -/

/-- The screen that has performed the commands in the bytes. -/
def screenAfter (bytes : List UInt8) : TextScreen :=
  (Parsing.normal.hears bytes).foldl TextScreen.perform .new

theorem Monitor.after_feedOps (m : Monitor) (bytes : List UInt8) :
    (Run.after Monitor.step m (SessionUi.feedOps bytes)).screen =
      (m.parsing.hears bytes).foldl TextScreen.perform m.screen := by
  induction bytes generalizing m with
  | nil => rfl
  | cons c bytes ih =>
      rw [Parsing.hears, Run.emitted, List.foldl_append]
      exact ih (m.step (.feed c))

theorem feeds_sum {t : Terminal} {bytes : List UInt8}
    (fits : Run.Meets Op.step NoOverflow t (SessionUi.feedOps bytes)) :
    Run.Meets Op.step SumsFit t (SessionUi.feedOps bytes) := by
  induction bytes generalizing t with
  | nil => trivial
  | cons c bytes ih => exact ⟨fits.1, ih fits.2⟩

theorem feeds_present {bytes : List UInt8}
    (fits : Run.Meets Op.step NoOverflow terminalCreate (SessionUi.feedOps bytes)) :
    Presents (terminalFeed terminalCreate bytes) (screenAfter bytes) := by
  have presents := (terminalCreate_realises.after (feeds_sum fits)).presents
  rw [Monitor.after_feedOps] at presents
  rw [terminalFeed_eq_run]
  exact presents

/-! ### The machine -/

/-- A session over its transport, and the pixels of its canvas. -/
structure Sight (T : SessionTransport) where
  link : Link T
  canvas : Canvas

namespace Sight

variable {T : SessionTransport}

/-- The action of a step, with what its reads come to. -/
def action (start : T.Conn) (v : Sight T) (x : LinkInput T) : Action :=
  x.action.reading (Link.result (Run.after T.event start v.link.log) x)

def step (memory : Nat → Canvas) (start : T.Conn) (v : Sight T) (x : LinkInput T) : Sight T where
  link := v.link.step start x
  canvas := (Display.step memory ⟨v.link.ui, v.canvas⟩ (v.action start x)).canvas

/-- A session that has just been opened, on a canvas with `memory` in it. -/
def opened (T : SessionTransport) (memory : Nat → Canvas) (s : SessionUi) : Sight T where
  link := .opened T s
  canvas := paintAll (terminalRender terminalCreate).2 (memory s.opened)

theorem canvas_opened (memory : Nat → Canvas) (s : SessionUi) :
    (opened T memory s).canvas = paintAll (terminalRender terminalCreate).2 (memory s.opened) := by
  rw [opened]

/-- No other screen is loaded, and no CUD or CUF that is fed overflows. -/
structure Fits (start : T.Conn) (v : Sight T) (x : LinkInput T) : Prop where
  calm : v.link.Calm x
  fits : ∀ term ∈ v.link.ui.sTerm,
    Run.Meets Op.step NoOverflow term.terminal (v.link.ui.termOps (v.action start x))

/-- What a step keeps. -/
structure Inv (start : T.Conn) (v : Sight T) : Prop where
  link : v.link.Inv start
  display : Display.Inv ⟨v.link.ui, v.canvas⟩
  fits : v.link.ui.sTerm.isSome = true →
    Run.Meets Op.step NoOverflow terminalCreate (SessionUi.feedOps (T.heard start v.link.log))

variable {start : T.Conn} {v : Sight T} {x : LinkInput T}

theorem Fits.display (fits : v.Fits start x) : Display.Fits v.link.ui (v.action start x) where
  alone := by
    intro loads
    refine absurd ?_ fits.calm
    unfold action at loads
    cases here : x.action <;> rw [here] at loads <;> exact loads
  fits := fits.fits

theorem inv_step {memory : Nat → Canvas} (inv : v.Inv start) (fits : v.Fits start x) :
    (v.step memory start x).Inv start where
  link := Link.inv_step fits.calm inv.link
  display := Display.inv_step inv.display fits.display
  fits := by
    intro some
    have quiet : ¬ v.link.ui.Opens (v.action start x) :=
      fun opens => fits.calm.quiet (SessionUi.opens_reading.mp opens)
    obtain ⟨term, here⟩ := Option.isSome_iff_exists.mp some
    rcases SessionUi.step_term quiet with done | gone
    · obtain ⟨before, was, _⟩ := Option.map_eq_some_iff.mp (done.symm.trans here)
      have earlier := inv.fits (Option.isSome_of_eq_some was)
      have now := feeds_fit (inv.link.terminal before was) (fits.fits before was)
      rw [terminalFeed_eq_run] at now
      show Run.Meets _ _ _ (SessionUi.feedOps (T.heard start (v.link.step start x).log))
      rw [Link.heard_step, SessionUi.feedOps, List.map_append]
      exact Run.meets_append.mpr ⟨earlier, now⟩
    · exact absurd (here.symm.trans gone) (by simp)

/-- The session of an io task is on the screen, and its canvas is the picture of the screen behind
the bytes heard. -/
def Pictured (start : T.Conn) (v : Sight T) : Prop :=
  ∀ task ∈ v.link.ui.ioTasks, v.link.ui.screen = .session (some task.session) ∧
    task.session ∉ v.link.ui.deletedCanvases ∧
    ∃ term ∈ v.link.ui.sTerm, term.session = task.session ∧ v.canvas =
      ((screenAfter (T.heard start v.link.log)).seenFrom term.terminal.scrollOffset.toNat).picture

theorem Inv.pictured (inv : v.Inv start) : v.Pictured start := by
  intro task mem
  obtain ⟨onScreen, alive, term, here, own, _⟩ := inv.display.showing task mem
  refine ⟨onScreen, alive, term, here, own, ?_⟩
  have shows := inv.display.shows term here
  have presents := (feeds_present (inv.fits (Option.isSome_of_mem here))).seenFrom
    (agreeButView_of_view (inv.link.terminal term here)) shows.inv.buffered
  exact shows.shows.trans presents.picture

theorem inv_opened {s : SessionUi} (orderly : Orderly s.books) (onScreen : s.OnScreen)
    (noTask : s.ioTasks = []) (memory : Nat → Canvas) (start : T.Conn) :
    (opened T memory s).Inv start where
  link := Link.inv_opened noTask start
  display := by
    rw [canvas_opened]
    exact Display.inv_opened orderly onScreen noTask (memory s.opened)
  fits := by
    intro _
    show Run.Meets Op.step NoOverflow terminalCreate []
    trivial

end Sight

/-- **What the user sees is what the remote has sent.** After any run of the screens, for a session
that is opened in it over either transport, whatever the network answers, the user does and a new
canvas holds: as long as no other screen is loaded and no CUD or CUF overflows, while its io task runs
the session is on the screen, and its canvas is the picture of the screen that has performed the
commands in the bytes heard, from the line the user has scrolled to. -/
theorem session_seen {T : SessionTransport} (start : T.Conn) (memory : Nat → Canvas)
    (before : List Action) (alone : Run.Meets SessionUi.step SessionUi.LoadsAlone booted before)
    (noTask : (Run.after SessionUi.step booted before).ioTasks = []) (inputs : List (LinkInput T))
    (fits : Run.Meets (Sight.step memory start) (Sight.Fits start)
      (Sight.opened T memory (Run.after SessionUi.step booted before)) inputs) :
    Run.Always (Sight.step memory start) (Sight.Pictured start)
      (Sight.opened T memory (Run.after SessionUi.step booted before)) inputs := by
  have orderly (s : SessionUi) (a : Action) (inv : Orderly s.books ∧ s.OnScreen)
      (alone : s.LoadsAlone a) : Orderly (s.step a).books ∧ (s.step a).OnScreen :=
    ⟨inv.1.step (SessionUi.opensAlone_of_loadsAlone alone), inv.2.step inv.1 alone⟩
  have here := (Run.always_of_meets orderly ⟨orderly_booted, SessionUi.onScreen_booted⟩ alone).last
  have keeps (v : Sight T) (x : LinkInput T) (inv : Sight.Inv start v) (fit : Sight.Fits start v x) :
      Sight.Inv start (Sight.step memory start v x) := Sight.inv_step inv fit
  have invs := Run.always_of_meets keeps (Sight.inv_opened here.1 here.2 noTask memory start) fits
  exact invs.mono fun _ inv => inv.pictured

/-- A Telnet session that is opened from the host list and gets a letter behind a DO SGA. -/
theorem session_seen_letter :
    Run.Always (Sight.step (fun _ => blankCanvas) telnetStart) (Sight.Pictured telnetStart)
      (Sight.opened telnetTransport (fun _ => blankCanvas) (Run.after SessionUi.step booted []))
      (telnetTyped.take 2) := by
  refine session_seen telnetStart (fun _ => blankCanvas) [] trivial rfl (telnetTyped.take 2) ?_
  refine ⟨⟨id, fun _ _ => trivial⟩, ⟨id, fun _ _ => ?_⟩, trivial⟩
  refine ⟨fun _ _ => ?_, trivial, trivial⟩
  exact ⟨fun down => absurd down (by decide), fun right => absurd right (by decide)⟩

end Tab5
