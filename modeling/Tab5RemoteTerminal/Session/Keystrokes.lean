/-
**Keystrokes and the session they were typed in.**

`s_key_queue` is made once and outlives every session: a key pressed in one session is queued, and
whichever io task receives it sends it. `open_session_screen` resets what is per session, but not
the queue. An io task that ends (the remote closes, or a stop is requested) can leave keys in it.

* `KeysStay`: every write of `send_key` is of a key pressed after the session it goes to was opened;
* `Current`: the books when every key that could still be sent is of the last session opened, and
  `Current.bookStep`, `Current.openSession`, what keeps them so;
* `AtKeyLoop.sends`: a task in its key loop sends every key of the queue;
* `keysStay_iff`: over consecutive sessions, no key crosses, now or while the last session goes on,
  if and only if no session is opened with a key in the queue that sends something.
-/

import Tab5RemoteTerminal.Session.Ownership

namespace Tab5

/-! ### Where keys may go -/

/-- **No keystroke crosses sessions.** The session a key is sent to had been opened when it was
pressed. -/
def KeysStay (s : SessionUi) : Prop := ∀ w ∈ s.sent, w.session ≤ w.evt.pressedIn

/-- A step that opens no session. -/
def OpensNone (s : SessionUi) (a : Action) : Prop := ¬ s.Opens a

/-- No keystroke has crossed, and none will before another session is opened. -/
def KeysStayOn (s : SessionUi) : Prop :=
  ∀ more, Run.Meets SessionUi.step OpensNone s more → KeysStay (Run.after SessionUi.step s more)

/-- A session is opened only when no key in the queue sends anything. -/
def OpensClean (s : SessionUi) (a : Action) : Prop :=
  s.Opens a → ∀ evt ∈ s.sKeyQueue, ¬ evt.key < 0x100

instance (s : SessionUi) : Decidable (KeysStay s) :=
  inferInstanceAs (Decidable (∀ w ∈ s.sent, w.session ≤ w.evt.pressedIn))

instance (s : SessionUi) (a : Action) : Decidable (OpensClean s a) :=
  inferInstanceAs (Decidable (s.Opens a → ∀ evt ∈ s.sKeyQueue, ¬ evt.key < 0x100))

theorem mem_writes {b : Books} {appMode : Bool} {evt : KeyEvent} {w : Write}
    (mem : w ∈ b.writes appMode evt) :
    b.transport = some w.session ∧ w.evt = evt ∧ evt.key < 0x100 := by
  unfold Books.writes at mem
  split at mem
  · rename_i session bytes transport sendable
    rw [List.mem_singleton.mp mem]
    refine ⟨transport, rfl, ?_⟩
    by_contra noByte
    rw [sendKey_eq_none.mpr noByte] at sendable
    cases sendable
  · exact absurd mem List.not_mem_nil

theorem writes_sendable {b : Books} {session : Nat} (transport : b.transport = some session)
    (appMode : Bool) {evt : KeyEvent} (sendable : evt.key < 0x100) :
    ∃ bytes, b.writes appMode evt = [⟨session, evt, bytes⟩] := by
  obtain ⟨bytes, isBytes⟩ : ∃ bytes, sendKey appMode evt.key = some bytes := by
    rw [← Option.ne_none_iff_exists']
    exact fun nothing => sendKey_eq_none.mp nothing sendable
  refine ⟨bytes, ?_⟩
  rw [Books.writes, transport, isBytes]

/-! ### Every key of the current session -/

/-- Every key that could still be sent was pressed in the last session opened. -/
structure Current (b : Books) : Prop where
  queued : ∀ evt ∈ b.keyQueue, evt.key < 0x100 → b.opened ≤ evt.pressedIn
  received : ∀ task ∈ b.ioTasks, ∀ evt, task.phase = .send evt → evt.key < 0x100 →
    b.opened ≤ evt.pressedIn
  transport : ∀ session, b.transport = some session → session ≤ b.opened
  stay : ∀ w ∈ b.sent, w.session ≤ w.evt.pressedIn

/-- A task that goes on to a phase other than sending holds no key. -/
theorem Current.goto {b : Books} (inv : Current b) {i : Nat} {task : IoTask} {phase : IoPhase}
    (holds : ∀ evt, phase = .send evt → evt.key < 0x100 → b.opened ≤ evt.pressedIn) :
    Current (b.goto i task phase) :=
  { inv with
    received := by
      intro running mem evt sending
      rcases List.mem_or_eq_of_mem_set mem with before | moved
      · exact inv.received running before evt sending
      · rw [moved] at sending
        exact holds evt sending }

theorem Current.bookStep {b after : Books} (inv : Current b) (step : BookStep b after) :
    Current after := by
  cases step with
  | idle => exact inv
  | queues key =>
      refine { inv with queued := fun evt mem sendable => ?_ }
      rcases List.mem_append.mp mem with before | new
      · exact inv.queued evt before sendable
      · rw [List.mem_singleton.mp new]
  | moves running before moving =>
      refine inv.goto fun evt sending => ?_
      rw [sending] at moving
      exact absurd moving id
  | @receives i task evt rest running phase queue =>
      have fresh : ∀ other ∈ evt :: rest, other.key < 0x100 → b.opened ≤ other.pressedIn := by
        rw [← queue]
        exact inv.queued
      have kept : Current { b with keyQueue := rest } :=
        { inv with queued := fun other mem => fresh other (List.mem_cons_of_mem evt mem) }
      refine kept.goto fun taken same => ?_
      rw [← IoPhase.send.inj same]
      exact fresh evt List.mem_cons_self
  | @sends i task evt appMode running phase =>
      have kept : Current { b with sent := b.sent ++ b.writes appMode evt } := by
        refine { inv with stay := fun w mem => ?_ }
        rcases List.mem_append.mp mem with before | new
        · exact inv.stay w before
        · obtain ⟨transport, same, sendable⟩ := mem_writes new
          rw [same]
          exact (inv.transport _ transport).trans
            (inv.received task (List.mem_of_getElem? running) evt phase sendable)
      exact kept.goto fun _ sending => by cases sending
  | closes running phase =>
      have kept : Current { b with closed := b.closed ++ b.transport.toList } := { inv with }
      exact kept.goto fun _ sending => by cases sending
  | finishes running phase =>
      exact { inv with
        received := fun task mem => inv.received task (List.mem_of_mem_eraseIdx mem) }

/-- Nothing of the session before is left, so all that can be sent is still to be typed. -/
theorem Current.openSession {b : Books} (inv : Current b) (alone : b.ioTasks = [])
    (clean : ∀ evt ∈ b.keyQueue, ¬ evt.key < 0x100) : Current b.openSession where
  queued := fun evt mem sendable => absurd sendable (clean evt mem)
  received := by
    show ∀ task ∈ b.ioTasks ++ [⟨b.opened + 1, .check⟩], _
    rw [alone]
    intro task mem evt sending
    rw [List.mem_singleton.mp mem] at sending
    cases sending
  transport := fun session same => (Option.some.inj same).ge
  stay := inv.stay

theorem current_booted : Current booted.books where
  queued := fun _ mem => absurd mem List.not_mem_nil
  received := fun _ mem => absurd mem List.not_mem_nil
  transport := fun _ same => by cases same
  stay := fun _ mem => absurd mem List.not_mem_nil

theorem Current.step {s : SessionUi} {a : Action} (inv : Current s.books) (alone : OpensAlone s a)
    (clean : OpensClean s a) : Current (s.step a).books := by
  by_cases opens : s.Opens a
  · rw [SessionUi.step_books_opens opens]
    exact inv.openSession (alone opens) (clean opens)
  · exact inv.bookStep (SessionUi.step_books opens)

theorem Current.keysStayOn {s : SessionUi} (inv : Current s.books) : KeysStayOn s := by
  intro more none
  have kept : Run.Always SessionUi.step (fun s => Current s.books) s more :=
    Run.always_of_meets (fun s a inv quiet =>
      inv.step (fun opens => absurd opens quiet) fun opens => absurd opens quiet) inv none
  exact kept.last.stay

/-! ### A key that is left in the queue -/

/-- No key was pressed in a session that has not been opened. -/
def Stamped (b : Books) : Prop := ∀ evt ∈ b.keyQueue, evt.pressedIn ≤ b.opened

theorem Stamped.step {s : SessionUi} {a : Action} (inv : Stamped s.books) :
    Stamped (s.step a).books := by
  by_cases opens : s.Opens a
  · rw [SessionUi.step_books_opens opens]
    exact fun evt mem => (inv evt mem).trans (Nat.le_succ s.opened)
  · have step := SessionUi.step_books opens
    generalize (s.step a).books = after at step ⊢
    cases step with
    | queues key =>
        intro evt mem
        rcases List.mem_append.mp mem with before | new
        · exact inv evt before
        · rw [List.mem_singleton.mp new]
    | receives running phase queue =>
        intro evt mem
        refine inv evt ?_
        rw [queue]
        exact List.mem_cons_of_mem _ mem
    | _ => exact inv

/-- The only io task is in its key loop. -/
structure AtKeyLoop (s : SessionUi) (session : Nat) (queue : List KeyEvent) : Prop where
  task : s.ioTasks = [⟨session, .receive⟩]
  transport : s.sTransport = some session
  queue : s.sKeyQueue = queue

/-- A turn of the io task. -/
abbrev ioTurn : Action := .ioStep 0 .timeout

theorem step_ioTurn {s : SessionUi} {task : IoTask} (oneTask : s.ioTasks = [task]) :
    s.step ioTurn = s.sessionIoTask 0 task .timeout := by
  rw [SessionUi.step, oneTask]
  rfl

theorem turns_openNone (turns : Nat) (s : SessionUi) :
    Run.Meets SessionUi.step OpensNone s (List.replicate turns ioTurn) := by
  refine Run.meets_of_forall (fun a mem s => ?_) s
  rw [List.eq_of_mem_replicate mem]
  exact id

/-- Two turns send the first key of the queue. -/
theorem AtKeyLoop.turn {s : SessionUi} {session : Nat} {evt : KeyEvent} {rest : List KeyEvent}
    (loop : AtKeyLoop s session (evt :: rest)) :
    AtKeyLoop ((s.step ioTurn).step ioTurn) session rest ∧
      ∃ appMode, ((s.step ioTurn).step ioTurn).sent = s.sent ++ s.books.writes appMode evt := by
  let received := { s with sKeyQueue := rest }.goto 0 ⟨session, .receive⟩ (.send evt)
  have first : s.step ioTurn = received := by
    rw [step_ioTurn loop.task, SessionUi.sessionIoTask]
    simp only [loop.queue]
    rfl
  have oneTask : received.ioTasks = [⟨session, .send evt⟩] := by
    show s.ioTasks.set 0 _ = _
    rw [loop.task]
    rfl
  have second : (s.step ioTurn).step ioTurn =
      (received.forwardKey evt).goto 0 ⟨session, .send evt⟩ .receive := by
    rw [first, step_ioTurn oneTask]
    rfl
  obtain ⟨appMode, forwarded⟩ := received.forwardKey_books evt
  have tasks : (received.forwardKey evt).ioTasks = [⟨session, .send evt⟩] :=
    (congrArg Books.ioTasks forwarded).trans oneTask
  rw [second]
  refine ⟨⟨?_, ?_, ?_⟩, appMode, ?_⟩
  · show (received.forwardKey evt).ioTasks.set 0 _ = _
    rw [tasks]
    rfl
  · exact (congrArg Books.transport forwarded).trans loop.transport
  · exact congrArg Books.keyQueue forwarded
  · exact congrArg Books.sent forwarded

/-- **A task in its key loop sends every key of the queue.** -/
theorem AtKeyLoop.sends {session : Nat} {evt : KeyEvent} {queue : List KeyEvent}
    (mem : evt ∈ queue) (sendable : evt.key < 0x100) {s : SessionUi}
    (loop : AtKeyLoop s session queue) :
    ∃ turns, ∃ w ∈ (Run.after SessionUi.step s (List.replicate turns ioTurn)).sent,
      w.session = session ∧ w.evt = evt := by
  induction queue generalizing s with
  | nil => exact absurd mem List.not_mem_nil
  | cons head rest ih =>
      obtain ⟨next, appMode, sent⟩ := loop.turn
      rcases List.mem_cons.mp mem with rfl | later
      · obtain ⟨bytes, written⟩ := writes_sendable (b := s.books) loop.transport appMode sendable
        refine ⟨2, ⟨session, evt, bytes⟩, ?_, rfl, rfl⟩
        show _ ∈ ((s.step ioTurn).step ioTurn).sent
        rw [sent, written]
        exact List.mem_append_right _ (List.mem_singleton_self _)
      · obtain ⟨turns, w, mem, session, same⟩ := ih later next
        exact ⟨turns + 2, w, mem, session, same⟩

/-- Two turns after a session was opened alone, its task is in its key loop. -/
theorem opens_atKeyLoop {s : SessionUi} {a : Action} (opens : s.Opens a) (alone : s.ioTasks = []) :
    AtKeyLoop (((s.step a).step ioTurn).step ioTurn) (s.opened + 1) s.sKeyQueue := by
  have books := SessionUi.step_books_opens opens
  have tasks : (s.step a).ioTasks = [⟨s.opened + 1, .check⟩] := by
    refine (congrArg Books.ioTasks books).trans ?_
    show s.ioTasks ++ _ = _
    rw [alone]
    rfl
  have noStop : (s.step a).sStopRequested = false := by
    obtain ⟨caller, _, opened⟩ := SessionUi.step_opens opens
    rw [opened]
    rfl
  have first : (s.step a).step ioTurn =
      (s.step a).goto 0 ⟨s.opened + 1, .check⟩ .read := by
    rw [step_ioTurn tasks]
    simp only [SessionUi.sessionIoTask, noStop]
    rfl
  have reading : ((s.step a).goto 0 ⟨s.opened + 1, .check⟩ .read).ioTasks =
      [⟨s.opened + 1, .read⟩] := by
    show (s.step a).ioTasks.set 0 _ = _
    rw [tasks]
    rfl
  rw [first, step_ioTurn reading]
  refine ⟨?_, congrArg Books.transport books, congrArg Books.keyQueue books⟩
  show ((s.step a).goto 0 ⟨s.opened + 1, .check⟩ .read).ioTasks.set 0 _ = _
  rw [reading]
  rfl

/-- A key left in the queue of a session opened next is sent to it, whatever it was typed for. -/
theorem keysStayOn_needs_clean {s : SessionUi} {a : Action} (stamped : Stamped s.books)
    (alone : OpensAlone s a) (after : KeysStayOn (s.step a)) : OpensClean s a := by
  intro opens evt mem sendable
  obtain ⟨turns, w, sent, session, same⟩ := (opens_atKeyLoop opens (alone opens)).sends mem sendable
  have stays := after (List.replicate (turns + 2) ioTurn) (turns_openNone (turns + 2) _)
  have le := stays w sent
  rw [session, same] at le
  exact Nat.not_succ_le_self s.opened (le.trans (stamped evt mem))

/-! ### Runs -/

/-- **When no keystroke crosses sessions.** Along a run of consecutive sessions no key goes to
another session than it was typed in, nor could while the run's last session goes on, if and only
if every session is opened when no key in the queue sends anything. -/
theorem keysStay_iff (acts : List Action)
    (consecutive : Run.Meets SessionUi.step OpensAlone booted acts) :
    Run.Always SessionUi.step KeysStayOn booted acts ↔
      Run.Meets SessionUi.step OpensClean booted acts := by
  constructor
  · intro stay
    have stamped : Run.Always SessionUi.step (fun s => Stamped s.books) booted acts :=
      Run.always_of_meets (fun _ _ inv _ => inv.step) (fun _ mem => absurd mem List.not_mem_nil)
        consecutive
    have all : Run.Always SessionUi.step
        (fun s => Orderly s.books ∧ Stamped s.books ∧ KeysStayOn s) booted acts :=
      fun done isPrefix =>
        ⟨orderly_of_alone consecutive done isPrefix, stamped done isPrefix, stay done isPrefix⟩
    refine Run.meets_of_always (fun s a here next => ?_) all
    exact keysStayOn_needs_clean here.2.1 (oneSession_needs_alone next.1.oneSession) next.2.2
  · intro clean
    have all : Run.Always SessionUi.step (fun s => Current s.books) booted acts :=
      Run.always_of_meets (fun _ _ inv meets => inv.step meets.1 meets.2) current_booted
        (consecutive.and clean)
    exact all.mono fun _ inv => inv.keysStayOn

/-- A key is sent, the remote closes, and a second session is opened. -/
theorem keysStay_iff_twoSessions :
    Run.Always SessionUi.step KeysStayOn booted [.tapTelnetHost true, .key 0x61 true, ioTurn, ioTurn,
      ioTurn, ioTurn, ioTurn, ioTurn, .ioStep 0 .closed, ioTurn, ioTurn, ioTurn,
      .tapTelnetHost true] :=
  (keysStay_iff _ (by decide)).mpr (by decide)

/-- A key is pressed when the remote has closed the first session; it goes to the second. -/
theorem keysStay_fails :
    ¬ ∀ acts : List Action, Run.Meets SessionUi.step OpensAlone booted acts →
      Run.Always SessionUi.step KeysStay booted acts := by
  intro all
  have stays := (all [.tapTelnetHost true, ioTurn, .key 0x70 true, .ioStep 0 .closed, ioTurn, ioTurn,
    ioTurn, .tapTelnetHost true, ioTurn, ioTurn, ioTurn, ioTurn] (by decide)).last
  exact absurd stays (by decide)

end Tab5
