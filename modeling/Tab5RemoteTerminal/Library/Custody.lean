/-
**Custody of handles.**

A handle is acquired once, held until it is released, and released once. `Accounts acquired held
released` says so of three lists: every handle acquired is held or released, in one of the two
lists and there once.

* `Accounts.acquire`, `Accounts.release`: the two operations keep the accounts;
* `Accounts.held_or_released`: no handle is dropped;
* `Accounts.released_once`: no handle is released twice.
-/

import Mathlib.Data.List.Nodup
import Mathlib.Data.List.Perm.Basic

namespace Custody

variable {H : Type}

/-- Every handle acquired is held or released, and only once. -/
structure Accounts (acquired held released : List H) : Prop where
  acquiredOnce : acquired.Nodup
  balance : List.Perm (held ++ released) acquired

theorem Accounts.empty : Accounts ([] : List H) [] [] := ⟨List.nodup_nil, List.Perm.refl []⟩

/-- A new handle is held. -/
theorem Accounts.acquire {acquired held released : List H} (accounts : Accounts acquired held released)
    {h : H} (new : h ∉ acquired) : Accounts (acquired ++ [h]) (h :: held) released where
  acquiredOnce := by
    refine List.Nodup.append accounts.acquiredOnce (List.nodup_singleton h) ?_
    rw [List.disjoint_singleton]
    exact new
  balance := by
    rw [List.cons_append]
    exact (accounts.balance.cons h).trans (List.perm_append_singleton h acquired).symm

/-- A handle that is held can be released. -/
theorem Accounts.release {acquired held released : List H} {h : H}
    (accounts : Accounts acquired (h :: held) released) : Accounts acquired held (released ++ [h]) where
  acquiredOnce := accounts.acquiredOnce
  balance := by
    rw [← List.append_assoc]
    exact (List.perm_append_singleton h (held ++ released)).trans accounts.balance

theorem Accounts.held_or_released {acquired held released : List H}
    (accounts : Accounts acquired held released) {h : H} (mem : h ∈ acquired) :
    h ∈ held ∨ h ∈ released :=
  List.mem_append.mp (accounts.balance.mem_iff.mpr mem)

theorem Accounts.released_once {acquired held released : List H}
    (accounts : Accounts acquired held released) : released.Nodup :=
  (accounts.balance.nodup_iff.mpr accounts.acquiredOnce).of_append_right

end Custody
