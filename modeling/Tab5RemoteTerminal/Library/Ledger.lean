/-
**Ledgers of resources.**

A ledger is what code does to its resources, call by call: it takes one, uses one, gives one back.
`settle held log` goes through the log from what is held before it and says what is held after it;
it is `none` when a resource is taken that is held already, or one is used or given back that is
not. So `some` says that nothing was used before it was taken or after it was given back, and that
nothing was given back twice.

* `settle_then`, `settle_uses`: how ledgers compose, and what leaves them alone;
* `settle_balance`: what is held in the end is what was taken and not given back.
-/

import Mathlib.Data.List.Nodup

namespace Ledger

variable {R : Type} [DecidableEq R]

inductive Event (R : Type) where
  | take (r : R)
  | use (r : R)
  | give (r : R)
deriving DecidableEq, Repr

/-- What is held after an event, `none` when it should not have happened. -/
def Event.settle (held : List R) : Event R → Option (List R)
  | .take r => if r ∈ held then none else some (r :: held)
  | .use r => if r ∈ held then some held else none
  | .give r => if r ∈ held then some (held.erase r) else none

/-- What is held after a log. -/
def settle (held : List R) : List (Event R) → Option (List R)
  | [] => some held
  | e :: log => (e.settle held).bind fun next => settle next log

@[simp] theorem settle_nil (held : List R) : settle held [] = some held := rfl

theorem settle_cons (held : List R) (e : Event R) (log : List (Event R)) :
    settle held (e :: log) = (e.settle held).bind fun next => settle next log := rfl

theorem settle_append (held : List R) (first second : List (Event R)) :
    settle held (first ++ second) = (settle held first).bind fun next => settle next second := by
  induction first generalizing held with
  | nil => rfl
  | cons e first ih =>
      rw [List.cons_append, settle_cons, settle_cons, Option.bind_assoc]
      exact congrArg _ (funext ih)

/-- One log after another. -/
theorem settle_then {held next last : List R} {first second : List (Event R)}
    (one : settle held first = some next) (two : settle next second = some last) :
    settle held (first ++ second) = some last := by
  rw [settle_append, one]
  exact two

/-- What only uses what is held leaves it held. -/
theorem settle_uses {held : List R} {log : List (Event R)}
    (uses : ∀ e ∈ log, ∃ r ∈ held, e = .use r) : settle held log = some held := by
  induction log with
  | nil => rfl
  | cons e log ih =>
      obtain ⟨r, mem, rfl⟩ := uses e List.mem_cons_self
      rw [settle_cons, Event.settle, if_pos mem]
      exact ih fun e inside => uses e (List.mem_cons_of_mem _ inside)

theorem settle_take {held : List R} {r : R} (free : r ∉ held) (log : List (Event R)) :
    settle held (.take r :: log) = settle (r :: held) log := by
  rw [settle_cons, Event.settle, if_neg free]
  rfl

theorem settle_give (held : List R) (r : R) (log : List (Event R)) :
    settle (r :: held) (.give r :: log) = settle held log := by
  rw [settle_cons, Event.settle, if_pos List.mem_cons_self, List.erase_cons_head]
  rfl

/-- **The balance**: a resource is taken once more than it is given back if it is held in the end,
and else as often. -/
theorem settle_balance {held last : List R} {log : List (Event R)}
    (settles : settle held log = some last) (r : R) :
    log.count (.take r) + held.count r = log.count (.give r) + last.count r := by
  induction log generalizing held with
  | nil =>
      rw [← Option.some.inj settles]
      rfl
  | cons e log ih =>
      rw [settle_cons, Option.bind_eq_some_iff] at settles
      obtain ⟨next, here, rest⟩ := settles
      have later := ih rest
      cases e with
      | take q =>
          rw [Event.settle, Option.ite_none_left_eq_some] at here
          rw [← Option.some.inj here.2, List.count_cons] at later
          rw [List.count_cons, List.count_cons]
          simp only [beq_iff_eq, Event.take.injEq, reduceCtorEq, if_false] at later ⊢
          omega
      | use q =>
          rw [Event.settle, Option.ite_none_right_eq_some] at here
          rw [← Option.some.inj here.2] at later
          rw [List.count_cons, List.count_cons]
          simpa using later
      | give q =>
          rw [Event.settle, Option.ite_none_right_eq_some] at here
          obtain ⟨mem, here⟩ := here
          rw [← Option.some.inj here, List.count_erase] at later
          have some := List.count_pos_iff.mpr mem
          rw [List.count_cons, List.count_cons]
          by_cases same : q = r
          · subst same
            simp only [beq_self_eq_true, if_true, reduceCtorEq, beq_iff_eq, if_false] at later ⊢
            omega
          · simp only [beq_iff_eq, Event.give.injEq, same, reduceCtorEq, if_false] at later ⊢
            omega

/-- With nothing held before and after, everything taken was given back. -/
theorem settled_balance {log : List (Event R)} (settles : settle [] log = some []) (r : R) :
    log.count (.take r) = log.count (.give r) := settle_balance settles r

end Ledger
