/-
**From the key matrix to the transport.**

A `Device` is the keyboard with the session screen: a matrix event goes through `handle_key_event`
into `raw_key_cb`, everything else is a step of the screens and tasks. A run emits the presses
delivered to the callback, and the cursor key mode at each `send_key`.

* `Typed`: the presses sent, in order, and behind them those on their way;
* `Typed.step`: what keeps them so, a matrix event or a step of the session;
* `typed_iff`: the bytes written are what the presses mean exactly if none of them collides.
-/

import Tab5RemoteTerminal.Session.Keyboard
import Tab5RemoteTerminal.Session.Ownership

namespace Tab5

/-! ### The device -/

structure Device where
  keyboard : Keyboard
  ui : SessionUi

/-- An event of the key matrix, or another step of the session. -/
inductive Input where
  | matrix (row col : UInt8) (pressed : Bool)
  | ui (a : Action)
deriving DecidableEq, Repr

namespace Device

/-- Keys come from the matrix only. -/
def step (d : Device) : Input → Device
  | .matrix row col pressed =>
      let event := handleKeyEvent d.keyboard d.ui.sRawCb row col pressed
      { keyboard := event.1
        ui := match event.2 with
          | some key => d.ui.keyEvent key pressed
          | none => d.ui }
  | .ui (.key _ _) => d
  | .ui a => { d with ui := d.ui.step a }

/-- The press delivered to the raw callback, if the event is one. -/
def presses (d : Device) : Input → List Press
  | .matrix row col pressed =>
      if d.ui.sRawCb ∧ pressed then (d.keyboard.press row col).toList else []
  | .ui _ => []

/-- `terminal_app_cursor_keys(s_term)`, when the step is a `send_key`. -/
def modes (d : Device) : Input → List Bool
  | .ui (.ioStep i _) =>
      match d.ui.ioTasks[i]? with
      | some ⟨_, .send _⟩ => [d.ui.appCursorKeys]
      | _ => []
  | _ => []

/-- Sessions are opened one after the other. -/
def OpensAlone (d : Device) : Input → Prop
  | .matrix _ _ _ => True
  | .ui a => Tab5.OpensAlone d.ui a

/-- An event reaches the callback when a slot of the key queue is free. -/
def HasRoom (d : Device) : Input → Prop
  | .matrix _ _ _ => d.ui.sRawCb = true → d.ui.sKeyQueue.length < 32
  | .ui _ => True

instance (d : Device) (input : Input) : Decidable (d.OpensAlone input) := by
  cases input with
  | matrix => exact inferInstanceAs (Decidable True)
  | ui a => exact inferInstanceAs (Decidable (Tab5.OpensAlone d.ui a))

instance (d : Device) (input : Input) : Decidable (d.HasRoom input) := by
  cases input with
  | matrix => exact inferInstanceAs (Decidable (_ → _))
  | ui => exact inferInstanceAs (Decidable True)

end Device

/-! ### Keys on their way -/

/-- The event an io task has taken off the queue and is about to send. -/
def IoTask.holding (task : IoTask) : List KeyEvent :=
  match task.phase with
  | .send evt => [evt]
  | _ => []

/-- The keys pressed and not sent, oldest first. -/
def Books.waiting (b : Books) : List KeyEvent := b.ioTasks.flatMap IoTask.holding ++ b.keyQueue

/-- The bytes written so far. -/
def Books.written (b : Books) : List UInt8 := b.sent.flatMap (·.bytes)

/-- The bytes of one `send_key`. -/
theorem written_writes {b : Books} {session : Nat} (transport : b.transport = some session)
    (appMode : Bool) (evt : KeyEvent) :
    (b.writes appMode evt).flatMap (·.bytes) = (sendKey appMode evt.key).getD [] := by
  rw [Books.writes, transport]
  cases sendKey appMode evt.key <;> simp

/-- What a step does to the keys on their way, when it is no key and no new session: it may take
the first of them and write its bytes, in the mode that `Device.modes` says. -/
def Forwards (b after : Books) (modes : List Bool) : Prop :=
  (modes = [] ∧ after.waiting = b.waiting ∧ after.written = b.written) ∨
  ∃ mode evt, modes = [mode] ∧ b.waiting = evt :: after.waiting ∧
    after.written = b.written ++ (sendKey mode evt.key).getD []

/-- **A step of the only io task.** -/
theorem sessionIoTask_forwards {s : SessionUi} {task : IoTask} (oneTask : s.ioTasks = [task])
    (transport : s.sTransport = some task.session) (read : ReadResult) :
    Forwards s.books (s.sessionIoTask 0 task read).books
      (match task.phase with
        | .send _ => [s.appCursorKeys]
        | _ => []) := by
  rcases task with ⟨session, phase⟩
  have tasks : s.books.ioTasks = [⟨session, phase⟩] := oneTask
  have moved : ∀ {b : Books} (next : IoPhase), b.ioTasks = [⟨session, phase⟩] →
      (b.goto 0 ⟨session, phase⟩ next).waiting = IoTask.holding ⟨session, next⟩ ++ b.keyQueue := by
    intro b next only
    rw [Books.waiting, goto_oneTask only, List.flatMap_singleton]
    rfl
  have before : s.books.waiting = IoTask.holding ⟨session, phase⟩ ++ s.sKeyQueue := by
    rw [Books.waiting, tasks, List.flatMap_singleton]
    rfl
  cases phase with
  | check =>
      refine .inl ⟨rfl, ?_, rfl⟩
      rw [before]
      refine (moved _ tasks).trans ?_
      split <;> rfl
  | read =>
      refine .inl ⟨rfl, ?_, ?_⟩
      · rw [before]
        cases read with
        | data chunk drained =>
            simp only [SessionUi.sessionIoTask, SessionUi.books_goto, SessionUi.books_onTerm]
            exact moved _ tasks
        | _ => exact moved _ tasks
      · cases read <;> simp [SessionUi.sessionIoTask, Books.written, Books.goto]
  | receive =>
      cases queue : s.sKeyQueue with
      | nil =>
          simp only [SessionUi.sessionIoTask, queue]
          exact .inl ⟨rfl, by rw [before]; exact moved _ tasks, rfl⟩
      | cons evt rest =>
          simp only [SessionUi.sessionIoTask, queue]
          refine .inl ⟨rfl, ?_, rfl⟩
          rw [before, queue]
          exact moved (b := { s.books with keyQueue := rest }) (.send evt) tasks
  | send evt =>
      have after : (s.sessionIoTask 0 ⟨session, .send evt⟩ read).books =
          { s.books with sent := s.sent ++ s.books.writes s.appCursorKeys evt }.goto 0
            ⟨session, .send evt⟩ .receive :=
        congrArg (Books.goto · 0 ⟨session, .send evt⟩ .receive) (s.forwardKey_books_mode evt)
      refine .inr ⟨_, evt, rfl, ?_, ?_⟩
      · rw [before, after]
        exact congrArg (evt :: ·)
          (@moved { s.books with sent := s.sent ++ s.books.writes s.appCursorKeys evt } .receive tasks).symm
      · rw [after]
        show (s.sent ++ s.books.writes _ evt).flatMap (·.bytes) = _
        rw [List.flatMap_append, written_writes transport]
        rfl
  | unhook => exact .inl ⟨rfl, by rw [before]; exact moved _ tasks, rfl⟩
  | close => exact .inl ⟨rfl, by rw [before]; exact moved _ tasks, rfl⟩
  | finish =>
      refine .inl ⟨rfl, ?_, rfl⟩
      rw [before]
      show (s.ioTasks.eraseIdx 0).flatMap IoTask.holding ++ s.sKeyQueue = _
      rw [oneTask]
      rfl

/-- **A step of the session other than a key.** -/
theorem step_forwards {s : SessionUi} {a : Action} (inv : Orderly s.books) (alone : OpensAlone s a)
    (noKey : ∀ key pressed, a ≠ .key key pressed) (keyboard : Keyboard) :
    Forwards s.books (s.step a).books (Device.modes ⟨keyboard, s⟩ (.ui a)) := by
  by_cases turn : ∃ i read, a = .ioStep i read
  · obtain ⟨i, read, rfl⟩ := turn
    cases running : s.ioTasks[i]? with
    | none =>
        refine .inl ?_
        simp [SessionUi.step, Device.modes, running]
    | some task =>
        cases inv with
        | quiet noTask =>
            have none : s.ioTasks = [] := noTask
            rw [none] at running
            exact absurd running (by simp)
        | live only oneTask term transport =>
            obtain ⟨rfl, rfl⟩ := only_task oneTask running
            have forwards := sessionIoTask_forwards oneTask transport read
            simp only [SessionUi.step, Device.modes, running]
            rcases task with ⟨session, phase⟩
            cases phase <;> exact forwards
  · have noTurn : ∀ i read, a ≠ .ioStep i read := fun i read same => turn ⟨i, read, same⟩
    have noMode : Device.modes ⟨keyboard, s⟩ (.ui a) = [] := by
      cases a with
      | ioStep i read => exact absurd rfl (noTurn i read)
      | _ => rfl
    rw [noMode]
    by_cases opens : s.Opens a
    · rw [SessionUi.step_books_opens opens]
      refine .inl ⟨rfl, ?_, rfl⟩
      simp [Books.waiting, Books.openSession, IoTask.holding]
    · rw [SessionUi.step_books_same opens noKey noTurn]
      exact .inl ⟨rfl, rfl, rfl⟩

/-! ### The presses -/

/-- The presses so far: those sent, in the modes they were sent in, and those on their way. -/
structure Typed (d : Device) (presses : List Press) (modes : List Bool) : Prop where
  orderly : Orderly d.ui.books
  sent : ∃ done rest, presses = done ++ rest ∧ done.length = modes.length ∧
    d.ui.books.waiting.map (·.key) = rest.map Press.code ∧
    d.ui.books.written = (modes.zip done).flatMap fun sent => sent.2.sends sent.1

/-- A press delivered is behind all others. -/
theorem Typed.press {d after : Device} {presses : List Press} {modes : List Bool}
    (inv : Typed d presses modes) (press : Press) (books : after.ui.books =
      { d.ui.books with keyQueue := d.ui.books.keyQueue ++ [⟨press.code, d.ui.books.opened⟩] }) :
    Typed after (presses ++ [press]) modes := by
  obtain ⟨done, rest, split, count, waiting, written⟩ := inv.sent
  refine ⟨?_, done, rest ++ [press], ?_, count, ?_, ?_⟩
  · rw [books]
    exact inv.orderly.bookStep (.queues press.code)
  · rw [split, List.append_assoc]
  · rw [List.map_append, ← waiting, books]
    simp [Books.waiting]
  · rw [books]
    exact written

/-- The first press on its way is sent. -/
theorem Typed.forward {d after : Device} {presses : List Press} {modes sending : List Bool}
    (inv : Typed d presses modes) (orderly : Orderly after.ui.books)
    (forwards : Forwards d.ui.books after.ui.books sending) :
    Typed after presses (modes ++ sending) := by
  obtain ⟨done, rest, split, count, waiting, written⟩ := inv.sent
  rcases forwards with ⟨rfl, same, nothing⟩ | ⟨mode, evt, rfl, taken, bytes⟩
  · rw [List.append_nil]
    exact ⟨orderly, done, rest, split, count, same ▸ waiting, nothing ▸ written⟩
  · rw [taken, List.map_cons] at waiting
    cases rest with
    | nil => cases waiting
    | cons press rest =>
        obtain ⟨code, codes⟩ := List.cons.inj waiting
        refine ⟨orderly, done ++ [press], rest, ?_, ?_, codes, ?_⟩
        · rw [split]
          simp
        · rw [List.length_append, List.length_append, count]
          rfl
        · rw [bytes, written, code, List.zip_append count.symm, List.flatMap_append]
          simp [Press.sends]

/-- **A matrix event or a step of the session.** -/
theorem Typed.step {d : Device} {input : Input} {presses : List Press} {modes : List Bool}
    (inv : Typed d presses modes) (alone : d.OpensAlone input) (room : d.HasRoom input) :
    Typed (d.step input) (presses ++ d.presses input) (modes ++ d.modes input) := by
  cases input with
  | matrix row col pressed =>
      rw [show d.modes (.matrix row col pressed) = [] from rfl, List.append_nil]
      have nothing : (d.step (.matrix row col pressed)).ui = d.ui →
          d.presses (.matrix row col pressed) = [] →
          Typed (d.step (.matrix row col pressed)) (presses ++ d.presses (.matrix row col pressed))
            modes := by
        intro same none
        rw [none, List.append_nil]
        exact ⟨same ▸ inv.orderly, same ▸ inv.sent⟩
      by_cases raw : d.ui.sRawCb = true
      · have handled := handleKeyEvent_press d.keyboard row col pressed
        cases press : d.keyboard.press row col with
        | none =>
            rw [press] at handled
            refine nothing ?_ ?_
            · simp [Device.step, raw, handled]
            · simp [Device.presses, press]
        | some press' =>
            rw [press] at handled
            cases pressed with
            | false =>
                refine nothing ?_ ?_
                · simp [Device.step, raw, handled, SessionUi.keyEvent, SessionUi.rawKeyCb]
                · simp [Device.presses]
            | true =>
                have delivered : d.presses (.matrix row col true) = [press'] := by
                  simp [Device.presses, raw, press]
                rw [delivered]
                refine inv.press press' ?_
                have slot := room raw
                simp [Device.step, raw, handled, SessionUi.keyEvent, SessionUi.rawKeyCb, slot,
                  SessionUi.books]
      · refine nothing ?_ ?_
        · simp only [Device.step, SessionUi.keyEvent, if_neg raw]
          split <;> rfl
        · simp [Device.presses, raw]
  | ui a =>
      rw [show d.presses (.ui a) = [] from rfl, List.append_nil]
      by_cases isKey : ∃ key pressed, a = .key key pressed
      · obtain ⟨key, pressed, rfl⟩ := isKey
        rw [show d.modes (.ui (.key key pressed)) = [] from rfl, List.append_nil]
        exact inv
      · have noKey : ∀ key pressed, a ≠ .key key pressed :=
          fun key pressed same => isKey ⟨key, pressed, same⟩
        have stepped : d.step (.ui a) = { d with ui := d.ui.step a } := by
          cases a with
          | key key pressed => exact absurd rfl (noKey key pressed)
          | _ => rfl
        rw [stepped]
        exact inv.forward (inv.orderly.step alone)
          (step_forwards inv.orderly alone noKey d.keyboard)

theorem typed_booted (keyboard : Keyboard) : Typed ⟨keyboard, booted⟩ [] [] :=
  ⟨orderly_booted, [], [], rfl, rfl, rfl, rfl⟩

/-! ### Runs -/

theorem typed_after (keyboard : Keyboard) {inputs : List Input}
    (alone : Run.Meets Device.step Device.OpensAlone ⟨keyboard, booted⟩ inputs)
    (room : Run.Meets Device.step Device.HasRoom ⟨keyboard, booted⟩ inputs) :
    Typed (Run.after Device.step ⟨keyboard, booted⟩ inputs)
      (Run.emitted Device.step Device.presses ⟨keyboard, booted⟩ inputs)
      (Run.emitted Device.step Device.modes ⟨keyboard, booted⟩ inputs) :=
  Run.emitted_rule (fun _ _ _ _ inv meets => inv.step meets.1 meets.2) (typed_booted keyboard)
    (alone.and room)

theorem flatMap_length_le {α β : Type} {f g : α → List β}
    (longer : ∀ item, (g item).length ≤ (f item).length) (items : List α) :
    (items.flatMap g).length ≤ (items.flatMap f).length := by
  induction items with
  | nil => exact Nat.le_refl 0
  | cons item items ih =>
      rw [List.flatMap_cons, List.flatMap_cons, List.length_append, List.length_append]
      exact Nat.add_le_add (longer item) ih

/-- Pieces that are no shorter, one by one, give the same whole exactly if they are the same. -/
theorem flatMap_eq_iff {α β : Type} {f g : α → List β}
    (longer : ∀ item, (g item).length ≤ (f item).length) (items : List α) :
    items.flatMap f = items.flatMap g ↔ ∀ item ∈ items, f item = g item := by
  induction items with
  | nil => simp
  | cons item items ih =>
      rw [List.flatMap_cons, List.flatMap_cons, List.forall_mem_cons, ← ih]
      constructor
      · intro same
        have lengths := congrArg List.length same
        rw [List.length_append, List.length_append] at lengths
        have head := longer item
        have tail := flatMap_length_le longer items
        exact List.append_inj same (by omega)
      · rintro ⟨head, tail⟩
        rw [head, tail]

/-- **What is written for what is typed.** While sessions follow one another and the queue has room,
the keys not sent yet are those of the last presses; and the bytes written are what the presses
before them mean, in the modes they were sent in, exactly if none of these is Ctrl with H, J, Q, R,
S or T. -/
theorem typed_iff (keyboard : Keyboard) (inputs : List Input)
    (alone : Run.Meets Device.step Device.OpensAlone ⟨keyboard, booted⟩ inputs)
    (room : Run.Meets Device.step Device.HasRoom ⟨keyboard, booted⟩ inputs) :
    let last := (Run.after Device.step ⟨keyboard, booted⟩ inputs).ui.books
    let presses := Run.emitted Device.step Device.presses ⟨keyboard, booted⟩ inputs
    let modes := Run.emitted Device.step Device.modes ⟨keyboard, booted⟩ inputs
    last.waiting.map (·.key) = (presses.drop modes.length).map Press.code ∧
      (last.written = ((modes.zip presses).flatMap fun sent => sent.2.meaning sent.1) ↔
        ∀ press ∈ presses.take modes.length, ¬ press.Collides) := by
  intro last presses modes
  obtain ⟨done, rest, split, count, waiting, written⟩ := (typed_after keyboard alone room).sent
  have zipped : modes.zip presses = modes.zip done := by
    have appended : (modes ++ []).zip (done ++ rest) = modes.zip done ++ [].zip rest :=
      List.zip_append count.symm
    rw [List.append_nil, List.zip_nil_left, List.append_nil] at appended
    exact (congrArg modes.zip split).trans appended
  have joined : presses = done ++ rest := split
  have length : modes.length = done.length := count.symm
  have taken : presses.take modes.length = done := by
    rw [joined, length]
    exact List.take_left
  have dropped : presses.drop modes.length = rest := by
    rw [joined, length]
    exact List.drop_left
  refine ⟨?_, ?_⟩
  · rw [dropped]
    exact waiting
  · rw [zipped, taken, show last.written = _ from written,
      flatMap_eq_iff (fun sent => sent.2.meaning_length sent.1)]
    constructor
    · intro all press mem
      have seconds : (modes.zip done).map Prod.snd = done := List.map_snd_zip count.le
      rw [← seconds] at mem
      obtain ⟨sent, inside, rfl⟩ := List.mem_map.mp mem
      exact Press.sends_eq_meaning.mp (all sent inside)
    · intro all sent mem
      exact Press.sends_eq_meaning.mpr (all sent.2 (List.of_mem_zip mem).2)

/-- An `a` and Ctrl-C, typed and sent. -/
def ctrlC : List Input := [.ui (.tapTelnetHost true), .matrix 3 2 true, .matrix 3 2 false,
  .matrix 4 0 true, .matrix 4 4 true, .matrix 4 4 false, .ui (.ioStep 0 .timeout),
  .ui (.ioStep 0 .timeout), .ui (.ioStep 0 .timeout), .ui (.ioStep 0 .timeout),
  .ui (.ioStep 0 .timeout), .ui (.ioStep 0 .timeout)]

theorem typed_iff_ctrlC :
    (Run.after Device.step ⟨⟨false, false, false, false⟩, booted⟩ ctrlC).ui.books.written =
      [0x61, 0x03] :=
  ((typed_iff ⟨false, false, false, false⟩ ctrlC (by decide) (by decide)).2.mpr (by decide)).trans
    (by decide)

/-- Ctrl-H, typed and sent in a session, is sent as Backspace. -/
theorem typed_fails :
    ¬ ∀ (keyboard : Keyboard) (inputs : List Input),
      Run.Meets Device.step Device.OpensAlone ⟨keyboard, booted⟩ inputs →
      Run.Meets Device.step Device.HasRoom ⟨keyboard, booted⟩ inputs →
      (Run.after Device.step ⟨keyboard, booted⟩ inputs).ui.books.written =
        ((Run.emitted Device.step Device.modes ⟨keyboard, booted⟩ inputs).zip
          (Run.emitted Device.step Device.presses ⟨keyboard, booted⟩ inputs)).flatMap
            fun sent => sent.2.meaning sent.1 := by
  intro all
  have same := all ⟨false, false, false, false⟩ [.ui (.tapTelnetHost true), .matrix 4 0 true,
    .matrix 3 7 true, .ui (.ioStep 0 .timeout), .ui (.ioStep 0 .timeout), .ui (.ioStep 0 .timeout),
    .ui (.ioStep 0 .timeout)] (by decide) (by decide)
  exact absurd same (by decide)

end Tab5
