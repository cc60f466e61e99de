/-
**A ring buffer that overwrites its oldest element.**

`size` slots, a `head` (the next slot to write) and a `count` of valid elements. The buffer holds,
oldest first, the last `size` elements ever pushed:

* `contents_push`: pushing onto a buffer that holds `l` leaves it holding the last `size` elements
  of `l ++ [value]`, below capacity and at capacity alike;
* `rtake_rtake_append`: the last `n` elements of a growing list;
* `slotOf_eq`: the slot of an element, without the modular arithmetic.
-/

import Mathlib.Data.List.DropRight
import Mathlib.Data.List.Range
import Mathlib.Tactic.Linarith

namespace Ring

variable {β : Type}

/-! ### The last elements of a growing list -/

theorem rtake_of_length_le {l : List β} {n : Nat} (short : l.length ≤ n) : l.rtake n = l := by
  rw [List.rtake, Nat.sub_eq_zero_of_le short, List.drop_zero]

/-- What was dropped before does not matter to the last `n` elements after more were appended. -/
theorem rtake_rtake_append (l more : List β) (n : Nat) :
    (l.rtake n ++ more).rtake n = (l ++ more).rtake n := by
  by_cases short : l.length ≤ n
  · rw [rtake_of_length_le short]
  · have len : (l.drop (l.length - n)).length = n := by
      rw [List.length_drop]
      omega
    rw [List.rtake, List.rtake, List.rtake, ← List.drop_append_of_le_length (by omega),
      List.drop_drop, List.length_drop, List.length_append]
    congr 1
    omega

theorem length_rtake (l : List β) (n : Nat) : (l.rtake n).length = min n l.length := by
  rw [List.rtake, List.length_drop]
  omega

/-! ### The ring -/

/-- The slot after `slot`. -/
def next (size slot : Nat) : Nat := (slot + 1) % size

/-- The slot of the `k`-th element, oldest first. -/
def slotOf (size head count k : Nat) : Nat := (head + size - count + k) % size

/-- The elements, oldest first. -/
def contents (size : Nat) (slots : Nat → β) (head count : Nat) : List β :=
  (List.range count).map fun k => slots (slotOf size head count k)

@[simp] theorem contents_length (size : Nat) (slots : Nat → β) (head count : Nat) :
    (contents size slots head count).length = count := by
  simp [contents]

theorem contents_getElem? (size : Nat) (slots : Nat → β) {head count k : Nat} (inside : k < count) :
    (contents size slots head count)[k]? = some (slots (slotOf size head count k)) := by
  simp [contents, inside]

/-- A number below twice the size wraps at most once. -/
theorem mod_once {size value : Nat} (small : value < 2 * size) :
    value % size = if value < size then value else value - size := by
  split
  · exact Nat.mod_eq_of_lt ‹_›
  · rw [Nat.mod_eq_sub_mod (by omega), Nat.mod_eq_of_lt (by omega)]

theorem next_eq {size slot : Nat} (inside : slot < size) :
    next size slot = if slot + 1 < size then slot + 1 else 0 := by
  rw [next, mod_once (by omega)]
  split
  · rfl
  · omega

theorem next_lt {size slot : Nat} (inside : slot < size) : next size slot < size :=
  Nat.mod_lt _ (by omega)

theorem slotOf_eq {size head count k : Nat} (inside : head < size) (full : count ≤ size)
    (valid : k < count) :
    slotOf size head count k = if head + k < count then head + size - count + k
      else head + k - count := by
  rw [slotOf, mod_once (by omega)]
  split <;> split <;> omega

theorem slotOf_lt {size head count k : Nat} (inside : head < size) :
    slotOf size head count k < size :=
  Nat.mod_lt _ (by omega)

/-! ### Pushing -/

section Push

variable {size head count : Nat} {slots slots' : Nat → β} {value : β}

/-- **Below capacity** the slot written is none of the slots read, and nothing moves. -/
theorem contents_push_room (inside : head < size) (room : count < size)
    (written : slots' head = value)
    (kept : ∀ slot, slot < size → slot ≠ head → slots' slot = slots slot) :
    contents size slots' (next size head) (count + 1) = contents size slots head count ++ [value] := by
  have nextEq := next_eq inside
  have nextLt := next_lt inside
  have last : slots' (slotOf size (next size head) (count + 1) count) = value := by
    rw [slotOf_eq nextLt (by omega) (by omega), ← written, nextEq]
    congr 1
    split <;> split <;> omega
  have before : ∀ k, k < count →
      slots' (slotOf size (next size head) (count + 1) k) = slots (slotOf size head count k) := by
    intro k valid
    have same : slotOf size (next size head) (count + 1) k = slotOf size head count k := by
      rw [slotOf_eq nextLt (by omega) (by omega), slotOf_eq inside (by omega) valid, nextEq]
      split <;> split <;> split <;> omega
    have other : slotOf size head count k ≠ head := by
      rw [slotOf_eq inside (by omega) valid]
      split <;> omega
    rw [same, kept _ (slotOf_lt inside) other]
  unfold contents
  rw [List.range_succ, List.map_append, List.map_singleton, last,
    List.map_congr_left fun k member => before k (List.mem_range.mp member)]

/-- **At capacity** the oldest element is overwritten and the others move up by one. -/
theorem contents_push_full (inside : head < size) (written : slots' head = value)
    (kept : ∀ slot, slot < size → slot ≠ head → slots' slot = slots slot) :
    contents size slots' (next size head) size =
      (contents size slots head size).tail ++ [value] := by
  have nextEq := next_eq inside
  have nextLt := next_lt inside
  apply List.ext_getElem?
  intro k
  by_cases early : k + 1 < size
  · have same : slotOf size (next size head) size k = slotOf size head size (k + 1) := by
      rw [slotOf_eq nextLt le_rfl (by omega), slotOf_eq inside le_rfl early, nextEq]
      split <;> split <;> split <;> omega
    have other : slotOf size head size (k + 1) ≠ head := by
      rw [slotOf_eq inside le_rfl early]
      split <;> omega
    rw [contents_getElem? size slots' (by omega), List.getElem?_append_left (by simp; omega),
      List.getElem?_tail, contents_getElem? size slots early, same,
      kept _ (slotOf_lt inside) other]
  · by_cases final : k + 1 = size
    · have same : slotOf size (next size head) size k = head := by
        rw [slotOf_eq nextLt le_rfl (by omega), nextEq]
        split <;> split <;> omega
      rw [contents_getElem? size slots' (by omega), same, written,
        List.getElem?_append_right (by simp; omega)]
      simp [show k - (size - 1) = 0 by omega]
    · rw [List.getElem?_eq_none (by simp; omega), List.getElem?_eq_none (by simp; omega)]

/-- **A push keeps the last `size` elements of everything pushed.** -/
theorem contents_push (inside : head < size) (full : count ≤ size) (written : slots' head = value)
    (kept : ∀ slot, slot < size → slot ≠ head → slots' slot = slots slot) :
    contents size slots' (next size head) (if count < size then count + 1 else count) =
      (contents size slots head count ++ [value]).rtake size := by
  split
  · rw [contents_push_room inside ‹_› written kept, rtake_of_length_le (by simp; omega)]
  · have top : count = size := by omega
    rw [top, contents_push_full inside written kept, List.rtake, List.length_append,
      contents_length, List.length_singleton, show size + 1 - size = 1 by omega, List.drop_one,
      List.tail_append_of_ne_nil]
    exact List.ne_nil_of_length_pos (by simp; omega)

end Push

end Ring
