/-
**Code that makes calls and may leave early.**

A `Code C E α` makes calls of `C`, one after the other, and then returns an `α` or leaves early with
an `E` (a `return` in the middle, a `goto` to the cleanup). With a ledger that says what each call
does to the resources, `Triple ledger held code post exit` says: from `held` the calls settle, and
what is held in the end is what `post` allows for the value returned, or `exit` for the reason to
leave.

* `triple_bind`, `triple_each`, `triple_call`, `triple_leave`: the rules of the constructs;
* `triple_retry`: the rule of a loop that repeats a call until it is no longer told to try again.
-/

import Tab5RemoteTerminal.Library.Ledger

namespace Calls

open Ledger

/-- The calls made, and what came of them. -/
structure Code (C E α : Type) where
  calls : List C
  result : Except E α

section

variable {C E α β : Type}

def Code.pure (a : α) : Code C E α := ⟨[], .ok a⟩

def Code.bind (code : Code C E α) (next : α → Code C E β) : Code C E β :=
  match code.result with
  | .ok a => ⟨code.calls ++ (next a).calls, (next a).result⟩
  | .error e => ⟨code.calls, .error e⟩

instance : Monad (Code C E) where
  pure := Code.pure
  bind := Code.bind

def call (c : C) : Code C E Unit := ⟨[c], .ok ()⟩

/-- Calls one after the other, whatever they return. -/
def each (cs : List C) : Code C E Unit := ⟨cs, .ok ()⟩

def leave (e : E) : Code C E α := ⟨[], .error e⟩

@[simp] theorem call_bind_calls (c : C) (rest : Unit → Code C E α) :
    (call c >>= rest).calls = c :: (rest ()).calls := rfl

/-- `while ((rc = attempt) == again) wait;`, where the attempts return the answers one after the
other. At the end of the answers the loop still runs, which is `stuck`. -/
def retry (again : Int) (attempt wait : C) (stuck : E) : List Int → Code C E Int
  | [] => leave stuck
  | rc :: answers => do
      call attempt
      if rc = again then do
        call wait
        retry again attempt wait stuck answers
      else pure rc

end

section

variable {C E R α β : Type} [DecidableEq R]

/-- What the code does to the resources. -/
def Triple (ledger : C → List (Event R)) (held : List R) (code : Code C E α)
    (post : α → List R → Prop) (exit : E → List R → Prop) : Prop :=
  ∃ last, settle held (code.calls.flatMap ledger) = some last ∧
    match code.result with
    | .ok a => post a last
    | .error e => exit e last

variable {ledger : C → List (Event R)} {held next : List R} {post : α → List R → Prop}
  {exit : E → List R → Prop}

theorem triple_pure {a : α} (done : post a held) :
    Triple ledger held (pure a : Code C E α) post exit := ⟨held, rfl, done⟩

theorem triple_leave {e : E} (left : exit e held) :
    Triple ledger held (leave e : Code C E α) post exit := ⟨held, rfl, left⟩

/-- **One piece of code after another.** -/
theorem triple_bind {code : Code C E β} {rest : β → Code C E α} {mid : β → List R → Prop}
    (first : Triple ledger held code mid exit)
    (second : ∀ b next, mid b next → Triple ledger next (rest b) post exit) :
    Triple ledger held (code >>= rest) post exit := by
  obtain ⟨middle, settles, ends⟩ := first
  show Triple ledger held (code.bind rest) post exit
  unfold Code.bind
  cases result : code.result with
  | error e =>
      rw [result] at ends
      exact ⟨middle, settles, ends⟩
  | ok b =>
      rw [result] at ends
      obtain ⟨last, settles', ends'⟩ := second b middle ends
      refine ⟨last, ?_, ends'⟩
      rw [List.flatMap_append]
      exact settle_then settles settles'

/-- Calls, then the rest. -/
theorem triple_each (next : List R) {cs : List C} {rest : Unit → Code C E α}
    (settles : settle held (cs.flatMap ledger) = some next)
    (second : Triple ledger next (rest ()) post exit) :
    Triple ledger held (each cs >>= rest) post exit := by
  have first : Triple ledger held (each cs : Code C E Unit) (fun _ last => last = next) exit :=
    ⟨next, settles, rfl⟩
  refine triple_bind first ?_
  rintro _ _ rfl
  exact second

/-- A call, then the rest. -/
theorem triple_call (next : List R) {c : C} {rest : Unit → Code C E α}
    (settles : settle held (ledger c) = some next)
    (second : Triple ledger next (rest ()) post exit) :
    Triple ledger held (call c >>= rest) post exit := by
  have one : settle held ([c].flatMap ledger) = some next := by
    rw [List.flatMap_singleton]
    exact settles
  exact triple_each next one second

/-- Code that leaves the same held however it ends. -/
theorem settle_of_triple {code : Code C E α}
    (same : Triple ledger held code (fun _ last => last = next) fun _ last => last = next) :
    settle held (code.calls.flatMap ledger) = some next := by
  obtain ⟨last, settles, ends⟩ := same
  rw [settles]
  cases result : code.result with
  | ok a =>
      rw [result] at ends
      exact congrArg some ends
  | error e =>
      rw [result] at ends
      exact congrArg some ends

end

end Calls
