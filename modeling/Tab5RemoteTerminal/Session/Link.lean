/-
**A session over its transport** (`main/session_transport.h`, and `session_io_task` in
`main/session_ui.c`).

`SessionTransport` is a `session_transport_t`: what its functions do with the connection behind
`ctx`, for each answer of the network. A `Link` is the session screen together with the calls that
its io task has made on the transport, and what was echoed, in order. So what a pass of the read
loop gets, up to nine chunks, is what the calls of `read` return one after the other (`readPass`).

* `Link.step_heard`: a step feeds the terminal what its calls have brought, and no other byte;
* `Link.Inv`: so, but for the view, the terminal of the session is a new one fed what has been
  heard; and the transport is read and written until it is closed, and closed once.
-/

import Tab5RemoteTerminal.Session.Display
import Tab5RemoteTerminal.Terminal.Viewing

namespace Tab5

/-! ### Transports -/

/-- What `read` and `write` do with a connection, for an answer of the network: `read` gives what it
puts into the buffer, `none` for a negative number. -/
structure SessionTransport where
  Conn : Type
  ReadAnswer : Type
  WriteAnswer : Type
  read : Conn → ReadAnswer → Conn × Option (List UInt8)
  write : Conn → WriteAnswer → List UInt8 → Conn

/-- A call on the transport, or an echo between them. -/
inductive LinkEvent (T : SessionTransport) where
  | read (answer : T.ReadAnswer)
  | write (answer : T.WriteAnswer) (data : List UInt8)
  | echo (data : List UInt8)
  | close

namespace SessionTransport

variable (T : SessionTransport)

/-- The connection after an event. -/
def event (conn : T.Conn) : LinkEvent T → T.Conn
  | .read answer => (T.read conn answer).1
  | .write answer data => T.write conn answer data
  | .echo _ => conn
  | .close => conn

/-- The bytes for the terminal that an event brings. -/
def brings (conn : T.Conn) : LinkEvent T → List UInt8
  | .read answer => (T.read conn answer).2.getD []
  | .echo data => data
  | .write _ _ => []
  | .close => []

/-- The bytes for the terminal that some events bring. -/
def heard (conn : T.Conn) (log : List (LinkEvent T)) : List UInt8 :=
  Run.emitted T.event T.brings conn log

/-- The zero-timeout reads behind read `k`: at most `rounds`, until one gets nothing. -/
def drain (answers : Nat → T.ReadAnswer) : (rounds k : Nat) → T.Conn →
    List T.ReadAnswer × List (List UInt8)
  | 0, _, _ => ([], [])
  | rounds + 1, k, conn =>
      match T.read conn (answers (k + 1)) with
      | (next, some (c :: chunk)) =>
          let more := drain answers rounds (k + 1) next
          (answers (k + 1) :: more.1, (c :: chunk) :: more.2)
      | _ => ([answers (k + 1)], [])

/-- The reads of a pass of the loop in `session_io_task`, the `k`-th answered `answers k`, and what
they come to. -/
def readPass (answers : Nat → T.ReadAnswer) (conn : T.Conn) : List T.ReadAnswer × ReadResult :=
  match T.read conn (answers 0) with
  | (next, some (c :: chunk)) =>
      let more := T.drain answers 8 0 next
      (answers 0 :: more.1, .data (c :: chunk) more.2)
  | (_, some []) => ([answers 0], .timeout)
  | (_, none) => ([answers 0], .closed)

end SessionTransport

/-! ### The machine -/

/-- The phase of the io task that takes a step. -/
def SessionUi.turn (s : SessionUi) : Action → Option IoPhase
  | .ioStep i _ => s.ioTasks[i]?.map (·.phase)
  | _ => none

/-- The step, with what its reads have come to. -/
def Action.reading (result : ReadResult) : Action → Action
  | .ioStep i _ => .ioStep i result
  | a => a

structure Link (T : SessionTransport) where
  ui : SessionUi
  log : List (LinkEvent T)

/-- What happens next, and what the network answers if that makes calls. -/
structure LinkInput (T : SessionTransport) where
  action : Action
  reads : Nat → T.ReadAnswer
  write : T.WriteAnswer

namespace Link

variable {T : SessionTransport}

/-- What the reads of a step come to. -/
def result (conn : T.Conn) (x : LinkInput T) : ReadResult := (T.readPass x.reads conn).2

/-- The calls and echoes of a step. -/
def events (conn : T.Conn) (ui : SessionUi) (x : LinkInput T) : List (LinkEvent T) :=
  match ui.turn x.action with
  | some .read => (T.readPass x.reads conn).1.map .read
  | some (.send evt) =>
      (ui.sendKeyWrites evt).map (fun w => .write x.write w.bytes) ++
        if ui.sLocalEcho then [.echo (localEcho ui.appCursorKeys evt.key)] else []
  | some .close => [.close]
  | _ => []

/-- A step of a session whose connection was `start` when it was opened. -/
def step (start : T.Conn) (l : Link T) (x : LinkInput T) : Link T :=
  let conn := Run.after T.event start l.log
  { ui := l.ui.step (x.action.reading (result conn x))
    log := l.log ++ events conn l.ui x }

end Link

/-! ### What a pass of the read loop gets -/

namespace SessionTransport

variable {T : SessionTransport}

theorem heard_append (conn : T.Conn) (first second : List (LinkEvent T)) :
    T.heard conn (first ++ second) =
      T.heard conn first ++ T.heard (Run.after T.event conn first) second :=
  Run.emitted_append T.brings conn first second

/-- Each chunk is what a read got; the last read got nothing, unless the rounds are over. -/
theorem drain_heard (answers : Nat → T.ReadAnswer) (rounds k : Nat) (conn : T.Conn) :
    T.heard conn ((T.drain answers rounds k conn).1.map .read) =
        (T.drain answers rounds k conn).2.flatten ∧
      (T.drain answers rounds k conn).2.length ≤ rounds := by
  induction rounds generalizing k conn with
  | zero => exact ⟨rfl, Nat.le_refl 0⟩
  | succ rounds ih =>
      rw [drain]
      have brings : T.brings conn (.read (answers (k + 1))) =
          (T.read conn (answers (k + 1))).2.getD [] := rfl
      have next : T.event conn (.read (answers (k + 1))) = (T.read conn (answers (k + 1))).1 := rfl
      rcases got : T.read conn (answers (k + 1)) with ⟨after, _ | _ | ⟨c, chunk⟩⟩
      · rw [got] at brings
        exact ⟨congrArg (· ++ []) brings, Nat.zero_le _⟩
      · rw [got] at brings
        exact ⟨congrArg (· ++ []) brings, Nat.zero_le _⟩
      · rw [got] at brings next
        obtain ⟨flat, few⟩ := ih (k + 1) after
        refine ⟨?_, Nat.succ_le_succ few⟩
        show T.brings conn (.read (answers (k + 1))) ++
          T.heard (T.event conn (.read (answers (k + 1)))) _ = _
        rw [brings, next, flat]
        rfl

end SessionTransport

/-- What is fed to the terminal of what was read. -/
def ReadResult.bytes : ReadResult → List UInt8
  | .data chunk drained => (chunk :: drained.take 8).flatten
  | .timeout => []
  | .closed => []

theorem readPass_heard {T : SessionTransport} (answers : Nat → T.ReadAnswer) (conn : T.Conn) :
    T.heard conn ((T.readPass answers conn).1.map .read) = (T.readPass answers conn).2.bytes := by
  rw [SessionTransport.readPass]
  have brings : T.brings conn (.read (answers 0)) = (T.read conn (answers 0)).2.getD [] := rfl
  have next : T.event conn (.read (answers 0)) = (T.read conn (answers 0)).1 := rfl
  rcases got : T.read conn (answers 0) with ⟨after, _ | _ | ⟨c, chunk⟩⟩
  · rw [got] at brings
    exact congrArg (· ++ []) brings
  · rw [got] at brings
    exact congrArg (· ++ []) brings
  · rw [got] at brings next
    obtain ⟨flat, few⟩ := SessionTransport.drain_heard answers 8 0 after
    show T.brings conn (.read (answers 0)) ++ T.heard (T.event conn (.read (answers 0))) _ = _
    rw [brings, next, flat, ReadResult.bytes, List.take_of_length_le few]
    rfl

/-! ### What a step feeds -/

/-- The bytes that some operations feed. -/
def fedBytes (ops : List Op) : List UInt8 :=
  ops.filterMap fun op =>
    match op with
    | .feed c => some c
    | .scroll _ => none
    | .render => none

@[simp] theorem fedBytes_append (first second : List Op) :
    fedBytes (first ++ second) = fedBytes first ++ fedBytes second := List.filterMap_append

@[simp] theorem fedBytes_feedOps (data : List UInt8) :
    fedBytes (SessionUi.feedOps data) = data := by
  rw [fedBytes, SessionUi.feedOps, List.filterMap_map]
  exact List.filterMap_some

/-- But for the view, operations do what feeding their bytes does. -/
theorem view_after (t : Terminal) (ops : List Op) :
    wholeSession.view (Run.after Op.step t ops) =
      wholeSession.view (terminalFeed t (fedBytes ops)) := by
  induction ops generalizing t with
  | nil => rfl
  | cons op ops ih =>
      rw [Run.after_cons, ih]
      cases op with
      | feed c => rfl
      | scroll deltaLines => exact wholeSession.feed (step_hidden t rfl) _
      | render => exact wholeSession.feed (step_hidden t rfl) _

theorem fedBytes_catchUpOps (pan : Int) : fedBytes (SessionUi.catchUpOps pan) = [] := by
  rw [SessionUi.catchUpOps]
  split <;> rfl

theorem fedBytes_screenOps (s : SessionUi) {ops : List Op} (silent : fedBytes ops = []) :
    fedBytes (s.screenOps ops) = [] := by
  unfold SessionUi.screenOps
  split
  · exact silent
  · rfl

/-- The echo is all that a key feeds. -/
theorem fedBytes_forwardOps (s : SessionUi) (evt : KeyEvent) :
    fedBytes (s.forwardOps evt) =
      if s.sLocalEcho then localEcho s.appCursorKeys evt.key else [] := by
  have live : fedBytes (if s.isScrolled then SessionUi.liveOps else []) = [] := by
    split <;> rfl
  rw [SessionUi.forwardOps, fedBytes_append, live, List.nil_append]
  split
  · rw [fedBytes_append, fedBytes_feedOps]
    exact List.append_nil _
  · rfl

namespace Link

variable {T : SessionTransport}

/-- Writes bring nothing. -/
theorem heard_writes (conn : T.Conn) (answer : T.WriteAnswer) (writes : List Write) :
    T.heard conn (writes.map fun w => .write answer w.bytes) = [] := by
  induction writes generalizing conn with
  | nil => rfl
  | cons w writes ih => exact ih _

theorem step_heard_turn (conn : T.Conn) (s : SessionUi) (task : IoTask) (x : LinkInput T) {i : Nat}
    {read : ReadResult} (turn : x.action = .ioStep i read) (running : s.ioTasks[i]? = some task) :
    T.heard conn (events conn s x) = fedBytes (s.taskOps task (result conn x)) := by
  have phase : s.turn x.action = some task.phase := by
    rw [turn, SessionUi.turn, running]
    rfl
  unfold events SessionUi.taskOps result
  rw [phase]
  cases task.phase with
  | read =>
      refine (readPass_heard x.reads conn).trans ?_
      cases (T.readPass x.reads conn).2 with
      | data chunk drained =>
          rw [fedBytes_append, fedBytes_feedOps]
          exact (List.append_nil _).symm
      | timeout => rfl
      | closed => rfl
  | send evt =>
      dsimp only
      rw [SessionTransport.heard_append, heard_writes, List.nil_append, fedBytes_forwardOps]
      split
      · exact List.append_nil _
      · rfl
  | check => rfl
  | receive => rfl
  | unhook => rfl
  | close => rfl
  | finish => rfl

/-- **A step feeds what its calls bring**, and no other byte. -/
theorem step_heard (conn : T.Conn) (s : SessionUi) (x : LinkInput T) :
    T.heard conn (events conn s x) = fedBytes (s.termOps (x.action.reading (result conn x))) := by
  have silent (quiet : s.turn x.action = none) : T.heard conn (events conn s x) = [] := by
    rw [events, quiet]
    rfl
  cases action : x.action with
  | ioStep i read =>
      rw [Action.reading, SessionUi.termOps]
      cases running : s.ioTasks[i]? with
      | some task => exact step_heard_turn conn s task x action running
      | none =>
          refine silent ?_
          rw [action, SessionUi.turn, running]
          rfl
  | jumpToLiveBtn =>
      rw [silent (by rw [action]; rfl)]
      exact (fedBytes_screenOps s rfl).symm
  | canvasPressing dy now =>
      rw [silent (by rw [action]; rfl)]
      refine (fedBytes_screenOps s ?_).symm
      split
      · exact fedBytes_catchUpOps _
      · rfl
  | canvasReleased now =>
      rw [silent (by rw [action]; rfl)]
      exact (fedBytes_screenOps s (fedBytes_catchUpOps _)).symm
  | _ => exact silent (by rw [action]; rfl)

end Link

/-! ### The stages of a session -/

namespace SessionUi

variable {s : SessionUi} {a : Action}

theorem turn_ioStep {phase : IoPhase} (turn : s.turn a = some phase) :
    ∃ i read task, a = .ioStep i read ∧ s.ioTasks[i]? = some task ∧ task.phase = phase := by
  cases a with
  | ioStep i read =>
      obtain ⟨task, running, isPhase⟩ := Option.map_eq_some_iff.mp turn
      exact ⟨i, read, task, rfl, running, isPhase⟩
  | _ => cases turn

theorem turn_reading {result : ReadResult} : s.turn (a.reading result) = s.turn a := by
  cases a <;> rfl

theorem opens_reading {result : ReadResult} : s.Opens (a.reading result) ↔ s.Opens a := by
  cases a <;> exact Iff.rfl

/-- What is no step of an io task leaves the tasks alone. -/
theorem ioTasks_step (quiet : ¬ s.Opens a) (turn : s.turn a = none) :
    (s.step a).ioTasks = s.ioTasks := by
  cases a with
  | ioStep i read =>
      rw [step, Option.map_eq_none_iff.mp turn]
  | key key pressed =>
      rw [step, keyEvent]
      split
      · rw [rawKeyCb]
        split <;> rfl
      · rfl
  | _ => exact congrArg Books.ioTasks (step_books_same quiet (by simp) (by simp))

theorem ioTasks_close (s : SessionUi) (i : Nat) {task : IoTask} (phase : task.phase = .close)
    (read : ReadResult) :
    (s.sessionIoTask i task read).ioTasks = s.ioTasks.set i ⟨task.session, .finish⟩ := by
  unfold sessionIoTask
  rw [phase]
  rfl

theorem ioTasks_finish (s : SessionUi) (i : Nat) {task : IoTask} (phase : task.phase = .finish)
    (read : ReadResult) : (s.sessionIoTask i task read).ioTasks = s.ioTasks.eraseIdx i := by
  unfold sessionIoTask
  rw [phase]
  rfl

/-- Until its transport is closed, the only io task goes on. -/
theorem ioTasks_before {task : IoTask} (quiet : ¬ s.Opens a) (one : s.ioTasks = [task])
    (before : task.phase.beforeClose = true) (notClose : task.phase ≠ .close) :
    ∃ next, (s.step a).ioTasks = [next] ∧ next.phase.beforeClose = true := by
  have going {phase : IoPhase} (moving : phase.Moving) : phase.beforeClose = true := by
    cases phase with
    | finish => exact absurd moving id
    | _ => rfl
  have books := step_books quiet
  have tasks : (s.step a).ioTasks = (s.step a).books.ioTasks := rfl
  rw [tasks]
  generalize (s.step a).books = after at books
  cases books with
  | idle => exact ⟨task, one, before⟩
  | queues key => exact ⟨task, one, before⟩
  | moves running isPhase moving =>
      obtain ⟨rfl, rfl⟩ := only_task one running
      exact ⟨_, goto_oneTask one _, going moving⟩
  | receives running isPhase queue =>
      obtain ⟨rfl, rfl⟩ := only_task one running
      exact ⟨_, goto_oneTask one _, rfl⟩
  | sends appMode running isPhase =>
      obtain ⟨rfl, rfl⟩ := only_task one running
      exact ⟨_, goto_oneTask one _, rfl⟩
  | closes running isPhase =>
      obtain ⟨rfl, rfl⟩ := only_task one running
      exact absurd isPhase notClose
  | finishes running isPhase =>
      obtain ⟨rfl, rfl⟩ := only_task one running
      rw [isPhase] at before
      cases before

end SessionUi

/-- A session reads and writes until it closes its transport, and then makes no call any more. -/
inductive LinkStage {T : SessionTransport} (tasks : List IoTask) (log : List (LinkEvent T)) : Prop
  | running (task : IoTask) (one : tasks = [task]) (before : task.phase.beforeClose = true)
      (unclosed : ∀ e ∈ log, e ≠ .close)
  | closed (uses : List (LinkEvent T)) (rest : ∀ task ∈ tasks, task.phase = .finish)
      (few : tasks.length ≤ 1) (calls : log = uses ++ [.close]) (unclosed : ∀ e ∈ uses, e ≠ .close)

namespace Link

variable {T : SessionTransport}

/-- The transport is closed in the phase for it. -/
theorem events_unclosed (conn : T.Conn) {s : SessionUi} {x : LinkInput T}
    (notClose : s.turn x.action ≠ some .close) : ∀ e ∈ events conn s x, e ≠ .close := by
  intro e mem
  unfold events at mem
  split at mem
  · obtain ⟨answer, _, rfl⟩ := List.mem_map.mp mem
    simp
  · rcases List.mem_append.mp mem with writes | echo
    · obtain ⟨w, _, rfl⟩ := List.mem_map.mp writes
      simp
    · split at echo
      · rw [List.mem_singleton.mp echo]
        simp
      · exact absurd echo List.not_mem_nil
  · exact absurd ‹_› notClose
  · exact absurd mem List.not_mem_nil

/-- The screen stays, as long as no other screen is loaded. -/
def Calm (l : Link T) (x : LinkInput T) : Prop := ¬ l.ui.LoadsScreen x.action

theorem Calm.quiet {l : Link T} {x : LinkInput T} (calm : l.Calm x) : ¬ l.ui.Opens x.action := by
  intro opens
  cases action : x.action with
  | tapTelnetHost connected =>
      rw [action] at opens
      exact calm (action ▸ opens)
  | sshConnected ok =>
      rw [action] at opens
      exact calm (action ▸ opens)
  | _ =>
      rw [action] at opens
      exact opens

/-- A step with no io task's turn, or one that makes no call. -/
theorem events_none (conn : T.Conn) {s : SessionUi} {x : LinkInput T}
    (silent : s.turn x.action = none ∨ s.turn x.action = some .finish) : events conn s x = [] := by
  unfold events
  rcases silent with turn | turn <;> rw [turn]

/-- **The stage after a step.** -/
theorem stage_step {start : T.Conn} {l : Link T} {x : LinkInput T} (calm : l.Calm x)
    (stage : LinkStage l.ui.ioTasks l.log) :
    LinkStage (l.step start x).ui.ioTasks (l.step start x).log := by
  let conn := Run.after T.event start l.log
  have quiet : ¬ l.ui.Opens (x.action.reading (result conn x)) :=
    fun opens => calm.quiet (SessionUi.opens_reading.mp opens)
  have sameTurn : l.ui.turn (x.action.reading (result conn x)) = l.ui.turn x.action :=
    SessionUi.turn_reading
  show LinkStage (l.ui.step (x.action.reading (result conn x))).ioTasks (l.log ++ events conn l.ui x)
  rcases turn : l.ui.turn x.action with _ | phase
  · -- the tasks and the calls are as they were
    rw [SessionUi.ioTasks_step quiet (sameTurn.trans turn), events_none conn (.inl turn),
      List.append_nil]
    exact stage
  obtain ⟨i, read, task, action, running, isPhase⟩ := SessionUi.turn_ioStep turn
  cases stage with
  | running only one before unclosed =>
      obtain ⟨rfl, rfl⟩ := only_task one running
      by_cases close : phase = .close
      · rw [close] at turn isPhase
        have after : (l.ui.step (x.action.reading (result conn x))).ioTasks =
            [⟨task.session, .finish⟩] := by
          rw [action, Action.reading, SessionUi.step, running]
          refine (SessionUi.ioTasks_close l.ui 0 isPhase _).trans ?_
          rw [one]
          rfl
        have calls : events conn l.ui x = [.close] := by
          unfold events
          rw [turn]
        rw [after, calls]
        refine .closed l.log ?_ (Nat.le_refl 1) rfl unclosed
        intro last mem
        rw [List.mem_singleton.mp mem]
      · have notClose : l.ui.turn x.action ≠ some .close := by
          rw [turn]
          exact fun same => close (Option.some.inj same)
        obtain ⟨next, one', before'⟩ := SessionUi.ioTasks_before quiet one before (isPhase ▸ close)
        refine .running next one' before' fun e mem => ?_
        rcases List.mem_append.mp mem with earlier | now
        · exact unclosed e earlier
        · exact events_unclosed conn notClose e now
  | closed uses rest few calls unclosed =>
      have last : phase = .finish := isPhase ▸ rest task (List.mem_of_getElem? running)
      rw [last] at turn isPhase
      have after : (l.ui.step (x.action.reading (result conn x))).ioTasks =
          l.ui.ioTasks.eraseIdx i := by
        rw [action, Action.reading, SessionUi.step, running]
        exact SessionUi.ioTasks_finish l.ui i isPhase _
      rw [after, events_none conn (.inr turn), List.append_nil]
      refine .closed uses (fun other mem => rest other (List.mem_of_mem_eraseIdx mem)) ?_ calls unclosed
      exact Nat.le_trans (List.length_eraseIdx_le _ _) few

/-! ### What a session hears -/

/-- What a step keeps: but for the view, the terminal is a new one that was fed what has been heard;
and the calls are in order. -/
structure Inv (start : T.Conn) (l : Link T) : Prop where
  terminal : ∀ term ∈ l.ui.sTerm, wholeSession.view term.terminal =
    wholeSession.view (terminalFeed terminalCreate (T.heard start l.log))
  stage : LinkStage l.ui.ioTasks l.log

theorem heard_step (start : T.Conn) (l : Link T) (x : LinkInput T) :
    T.heard start (l.step start x).log = T.heard start l.log ++
      fedBytes (l.ui.termOps (x.action.reading (result (Run.after T.event start l.log) x))) :=
  (SessionTransport.heard_append ..).trans
    (congrArg (T.heard start l.log ++ ·) (step_heard _ l.ui x))

theorem inv_step {start : T.Conn} {l : Link T} {x : LinkInput T} (calm : l.Calm x)
    (inv : l.Inv start) : (l.step start x).Inv start where
  stage := stage_step calm inv.stage
  terminal := by
    let conn := Run.after T.event start l.log
    have quiet : ¬ l.ui.Opens (x.action.reading (result conn x)) :=
      fun opens => calm.quiet (SessionUi.opens_reading.mp opens)
    intro term here
    rw [Option.mem_def] at here
    rcases SessionUi.step_term quiet with done | gone
    · have left := done.symm.trans here
      obtain ⟨before, was, rfl⟩ := Option.map_eq_some_iff.mp left
      rw [heard_step, terminalFeed_append, view_after]
      exact wholeSession.feed (inv.terminal before was) _
    · have none : some term = Option.none := here.symm.trans gone
      exact absurd none (by simp)

/-- A session on its screen that has just been opened, over a connection nothing was done with. -/
def opened (T : SessionTransport) (s : SessionUi) : Link T := ⟨s.openSessionScreen, []⟩

theorem inv_opened {s : SessionUi} (noTask : s.ioTasks = []) (start : T.Conn) :
    (opened T s).Inv start where
  terminal := by
    intro term here
    have created : s.openSessionScreen.sTerm = some term := here
    rw [SessionUi.sTerm_openSessionScreen] at created
    rw [← Option.some.inj created]
    exact @step_hidden terminalCreate .render rfl
  stage := by
    refine .running ⟨s.opened + 1, .check⟩ ?_ rfl fun e mem => absurd mem List.not_mem_nil
    show s.ioTasks ++ [⟨s.opened + 1, .check⟩] = _
    rw [noTask]
    rfl

end Link

/-! ### Without echo -/

namespace Link

variable {T : SessionTransport}

end Link

end Tab5
