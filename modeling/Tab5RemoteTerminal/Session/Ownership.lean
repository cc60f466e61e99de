/-
**One session at a time, its transport closed once.**

`OneSession` is what the globals of `session_ui.c` are written for: one io task, the globals its
own session's, nothing closed or destroyed twice, no transport dropped. `open_session_screen`
relies on its caller for it, and `ssh_connect_task` calls it whatever has happened since the
connect was started.

* `Orderly`: the books when that goes well, with the custody of transports and terminals;
* `Orderly.bookStep`, `Orderly.openSession`: what keeps them so;
* `oneSession_iff`: `OneSession` holds along a run if and only if no session is opened in it while
  an io task runs.
-/

import Tab5RemoteTerminal.Library.Custody
import Tab5RemoteTerminal.Session.Books

namespace Tab5

open Custody

/-! ### One session -/

/-- The transport of the task's session is still to be closed. -/
def IoPhase.beforeClose : IoPhase → Bool
  | .finish => false
  | _ => true

/-- **At most one live session.** -/
structure OneSession (s : SessionUi) : Prop where
  oneTask : s.ioTasks.length ≤ 1
  ownGlobals : ∀ task ∈ s.ioTasks,
    s.sTerm.map (·.session) = some task.session ∧ s.sTransport = some task.session
  closedOnce : s.closed.Nodup
  destroyedOnce : s.destroyed.Nodup
  noneDropped : ∀ session, 1 ≤ session → session ≤ s.opened →
    session ∈ s.closed ∨ ∃ task ∈ s.ioTasks, task.session = session ∧ task.phase.beforeClose

/-- A session is opened only when no io task runs. -/
def OpensAlone (s : SessionUi) (a : Action) : Prop := s.Opens a → s.ioTasks = []

instance (s : SessionUi) (a : Action) : Decidable (OpensAlone s a) :=
  inferInstanceAs (Decidable (s.Opens a → s.ioTasks = []))

/-! ### Orderly books -/

/-- The sessions opened so far. -/
def Books.sessions (b : Books) : List Nat := (List.range b.opened).map (· + 1)

/-- The transports an io task has still to close. -/
def IoTask.transports (task : IoTask) : List Nat :=
  if task.phase.beforeClose then [task.session] else []

/-- The books between two sessions, and during one. -/
inductive Orderly (b : Books) : Prop
  | quiet (noTask : b.ioTasks = []) (transports : Accounts b.sessions [] b.closed)
      (terminals : Accounts b.sessions [] b.destroyed)
  | live (task : IoTask) (oneTask : b.ioTasks = [task]) (term : b.term = some task.session)
      (transport : b.transport = some task.session)
      (transports : Accounts b.sessions task.transports b.closed)
      (terminals : Accounts b.sessions [task.session] b.destroyed)

theorem mem_sessions {b : Books} {session : Nat} :
    session ∈ b.sessions ↔ 1 ≤ session ∧ session ≤ b.opened := by
  rw [Books.sessions, List.mem_map]
  constructor
  · rintro ⟨i, inside, rfl⟩
    have := List.mem_range.mp inside
    exact ⟨Nat.le_add_left 1 i, this⟩
  · rintro ⟨first, last⟩
    exact ⟨session - 1, List.mem_range.mpr (by omega), by omega⟩

theorem sessions_openSession (b : Books) : b.openSession.sessions = b.sessions ++ [b.opened + 1] := by
  simp [Books.sessions, Books.openSession, List.range_succ]

theorem next_session_new (b : Books) : b.opened + 1 ∉ b.sessions := fun mem =>
  Nat.not_succ_le_self b.opened (mem_sessions.mp mem).2

theorem transports_moving {session : Nat} {phase : IoPhase} (moving : phase.Moving) :
    IoTask.transports ⟨session, phase⟩ = [session] := by
  cases phase with
  | send evt => exact absurd moving id
  | finish => exact absurd moving id
  | _ => rfl

theorem only_task {tasks : List IoTask} {task running : IoTask} {i : Nat} (oneTask : tasks = [task])
    (at_i : tasks[i]? = some running) : i = 0 ∧ running = task := by
  subst oneTask
  cases i with
  | zero => exact ⟨rfl, (Option.some.inj at_i).symm⟩
  | succ i => exact absurd at_i (by simp)

theorem goto_oneTask {b : Books} {task : IoTask} (oneTask : b.ioTasks = [task]) (phase : IoPhase) :
    (b.goto 0 task phase).ioTasks = [⟨task.session, phase⟩] := by
  show b.ioTasks.set 0 _ = _
  rw [oneTask]
  rfl

/-- With no task running a step that opens no session can only queue a key. -/
theorem Orderly.bookStep {b after : Books} (inv : Orderly b) (step : BookStep b after) :
    Orderly after := by
  cases inv with
  | quiet noTask transports terminals =>
      have nothing : ∀ {i : Nat} {task : IoTask}, b.ioTasks[i]? ≠ some task := by
        intro i task running
        rw [noTask] at running
        exact absurd running (by simp)
      cases step with
      | idle => exact .quiet noTask transports terminals
      | queues key => exact .quiet noTask transports terminals
      | moves running => exact absurd running nothing
      | receives running => exact absurd running nothing
      | sends _ running => exact absurd running nothing
      | closes running => exact absurd running nothing
      | finishes running => exact absurd running nothing
  | live task oneTask term transport transports terminals =>
      cases step with
      | idle => exact .live task oneTask term transport transports terminals
      | queues key => exact .live task oneTask term transport transports terminals
      | @moves i running phase running before moving =>
          obtain ⟨rfl, rfl⟩ := only_task oneTask running
          rw [transports_moving before] at transports
          refine .live _ (goto_oneTask oneTask phase) term transport ?_ terminals
          rw [transports_moving moving]
          exact transports
      | receives running phase queue =>
          obtain ⟨rfl, rfl⟩ := only_task oneTask running
          rw [IoTask.transports, phase] at transports
          exact .live _ (goto_oneTask oneTask _) term transport transports terminals
      | sends appMode running phase =>
          obtain ⟨rfl, rfl⟩ := only_task oneTask running
          rw [IoTask.transports, phase] at transports
          exact .live _ (goto_oneTask oneTask _) term transport transports terminals
      | closes running phase =>
          obtain ⟨rfl, rfl⟩ := only_task oneTask running
          rw [IoTask.transports, phase] at transports
          refine .live _ (goto_oneTask oneTask _) term transport ?_ terminals
          show Accounts b.sessions [] (b.closed ++ b.transport.toList)
          rw [transport]
          exact transports.release
      | finishes running phase =>
          obtain ⟨rfl, rfl⟩ := only_task oneTask running
          rw [IoTask.transports, phase] at transports
          refine .quiet ?_ transports ?_
          · show b.ioTasks.eraseIdx 0 = []
            rw [oneTask]
            rfl
          · show Accounts b.sessions [] (b.destroyed ++ b.term.toList)
            rw [term]
            exact terminals.release

/-- The next session's transport and terminal are new, and with no task running nothing else is
held. -/
theorem Orderly.openSession {b : Books} (inv : Orderly b) (alone : b.ioTasks = []) :
    Orderly b.openSession := by
  cases inv with
  | live task oneTask =>
      rw [alone] at oneTask
      exact absurd oneTask (by simp)
  | quiet noTask transports terminals =>
      refine .live ⟨b.opened + 1, .check⟩ ?_ rfl rfl ?_ ?_
      · show b.ioTasks ++ _ = _
        rw [noTask]
        rfl
      · rw [sessions_openSession]
        exact transports.acquire (next_session_new b)
      · rw [sessions_openSession]
        exact terminals.acquire (next_session_new b)

/-! ### Runs -/

theorem orderly_booted : Orderly booted.books := .quiet rfl Accounts.empty Accounts.empty

theorem Orderly.step {s : SessionUi} {a : Action} (inv : Orderly s.books) (alone : OpensAlone s a) :
    Orderly (s.step a).books := by
  by_cases opens : s.Opens a
  · rw [SessionUi.step_books_opens opens]
    exact inv.openSession (alone opens)
  · exact inv.bookStep (SessionUi.step_books opens)

theorem orderly_of_alone {acts : List Action}
    (alone : Run.Meets SessionUi.step OpensAlone booted acts) :
    Run.Always SessionUi.step (fun s => Orderly s.books) booted acts :=
  Run.always_of_meets (fun _ _ inv meets => inv.step meets) orderly_booted alone

/-- What the books account for is what `OneSession` asks. -/
theorem Orderly.oneSession {s : SessionUi} (inv : Orderly s.books) : OneSession s := by
  cases inv with
  | quiet noTask transports terminals =>
      have none : s.ioTasks = [] := noTask
      refine ⟨?_, ?_, transports.released_once, terminals.released_once, ?_⟩
      · rw [none]
        exact Nat.zero_le 1
      · intro task running
        rw [none] at running
        exact absurd running List.not_mem_nil
      · intro session first last
        rcases transports.held_or_released (mem_sessions.mpr ⟨first, last⟩) with held | closed
        · exact absurd held List.not_mem_nil
        · exact Or.inl closed
  | live task oneTask term transport transports terminals =>
      have one : s.ioTasks = [task] := oneTask
      refine ⟨?_, ?_, transports.released_once, terminals.released_once, ?_⟩
      · rw [one]
        exact Nat.le_refl 1
      · intro running mem
        rw [one, List.mem_singleton] at mem
        rw [mem]
        exact ⟨term, transport⟩
      · intro session first last
        rcases transports.held_or_released (mem_sessions.mpr ⟨first, last⟩) with held | closed
        · right
          rw [IoTask.transports] at held
          split at held
          · refine ⟨task, ?_, (List.mem_singleton.mp held).symm, ‹_›⟩
            rw [one]
            exact List.mem_singleton_self task
          · exact absurd held List.not_mem_nil
        · exact Or.inl closed

/-- A session opened beside a running task makes a second one. -/
theorem oneSession_needs_alone {s : SessionUi} {a : Action} (after : OneSession (s.step a)) :
    OpensAlone s a := by
  intro opens
  have tasks : (s.step a).ioTasks = s.ioTasks ++ [⟨s.opened + 1, .check⟩] :=
    congrArg Books.ioTasks (SessionUi.step_books_opens opens)
  have one := after.oneTask
  rw [tasks, List.length_append, List.length_singleton] at one
  exact List.length_eq_zero_iff.mp (by omega)

/-- **When there is one session at a time.** `OneSession` holds in every state a run reaches if and
only if every session of the run is opened when no io task runs. -/
theorem oneSession_iff (acts : List Action) :
    Run.Always SessionUi.step OneSession booted acts ↔
      Run.Meets SessionUi.step OpensAlone booted acts := by
  constructor
  · exact Run.meets_of_always fun _ _ _ after => oneSession_needs_alone after
  · intro alone
    exact (orderly_of_alone alone).mono fun _ inv => inv.oneSession

/-- Connect pressed twice on the password screen, and both connects succeed. -/
theorem oneSession_fails :
    ¬ ∀ acts : List Action, Run.Always SessionUi.step OneSession booted acts := by
  intro all
  have last := (all [.tapSshHost false, .sshConnectBtn true, .sshConnectBtn true,
    .sshConnected true, .sshConnected true]).last
  exact absurd last.oneTask (by decide)

/-- What then happens to the transports: both tasks close the second one, and none the first. -/
example : (Run.after SessionUi.step booted [.tapSshHost false, .sshConnectBtn true,
    .sshConnectBtn true, .sshConnected true, .sshConnected true, .disconnectBtn,
    .ioStep 0 .timeout, .ioStep 0 .timeout, .ioStep 0 .timeout,
    .ioStep 1 .timeout, .ioStep 1 .timeout, .ioStep 1 .timeout]).closed = [2, 2] := by
  decide

end Tab5
