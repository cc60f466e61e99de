/-
**A list kept at the front of an array.**

`Holds block count list`: the first `count` of the `n` elements of `block` are `list`, and every
access so far was inside the array. The loops with which C code keeps such a list act on it as the
list operations do:

* `Holds.append`, `Holds.set`: storing behind the last element, and over one;
* `Holds.erase`: moving the elements behind one down over it;
* `Holds.insertFront`: moving the first elements up by one, and storing over the first;
* `Holds.fill`: storing one decoded item after the other until the array is full.
-/

import Mathlib.Data.List.Basic
import Tab5RemoteTerminal.Library.Block
import Tab5RemoteTerminal.Library.CLoop

namespace Slots

open CLoop

variable {n : Nat} {α : Type} [Inhabited α]

structure Holds (block : Block n α) (count : Int) (list : List α) : Prop where
  count : count = list.length
  room : list.length ≤ n
  cells : ∀ k : Nat, k < list.length → list[k]? = some (block.load k)
  clean : block.fault = false

theorem Holds.empty {block : Block n α} (clean : block.fault = false) :
    Holds block 0 ([] : List α) :=
  ⟨rfl, Nat.zero_le n, fun _ inside => absurd inside (Nat.not_lt_zero _), clean⟩

/-- The list in front of an array, as it is read element by element. -/
theorem Holds.slice {block : Block n α} {count : Int} {list : List α}
    (holds : Holds block count list) : block.slice 0 count.toNat = list := by
  have length : count.toNat = list.length := by
    rw [holds.count]
    exact Int.toNat_natCast _
  refine List.ext_getElem? fun k => ?_
  by_cases inside : k < list.length
  · rw [Block.slice_getElem? block 0 (by omega), holds.cells k inside, Int.zero_add]
  · rw [List.getElem?_eq_none (by rw [Block.slice_length]; omega),
      List.getElem?_eq_none (by omega)]

/-- `block[count] = value; count++`. -/
theorem Holds.append {block : Block n α} {count : Int} {list : List α}
    (holds : Holds block count list) (room : count < n) (value : α) :
    Holds (block.store count value) (count + 1) (list ++ [value]) := by
  have last := holds.count
  refine ⟨?_, ?_, ?_, ?_⟩
  · rw [List.length_append, last]
    rfl
  · rw [List.length_append, List.length_singleton]
    omega
  · intro k inside
    rw [List.length_append, List.length_singleton] at inside
    rw [Block.load_store block count value k (by omega) (by omega)]
    by_cases new : k = list.length
    · rw [new, List.getElem?_concat_length, if_pos last.symm]
    · rw [List.getElem?_append_left (by omega), if_neg (by omega)]
      exact holds.cells k (by omega)
  · rw [Block.store_fault block value ⟨by omega, by omega⟩]
    exact holds.clean

/-- `block[i] = value`. -/
theorem Holds.set {block : Block n α} {count : Int} {list : List α}
    (holds : Holds block count list) {i : Int} (low : 0 ≤ i) (high : i < count) (value : α) :
    Holds (block.store i value) count (list.set i.toNat value) := by
  have length := holds.count
  have room := holds.room
  refine ⟨?_, ?_, ?_, ?_⟩
  · rw [List.length_set]
    exact length
  · rw [List.length_set]
    exact room
  · intro k inside
    rw [List.length_set] at inside
    rw [Block.load_store block i value k (by omega) (by omega)]
    by_cases here : (k : Int) = i
    · have at_ : i.toNat = k := by omega
      rw [if_pos here, at_, List.getElem?_set_self inside]
    · rw [if_neg here, List.getElem?_set_ne (by omega)]
      exact holds.cells k inside
  · rw [Block.store_fault block value ⟨low, by omega⟩]
    exact holds.clean

/-- `for (k = i; k < count - 1; k++) block[k] = block[k + 1];`. -/
def shiftDown (i count : Int) (block : Block n α) : Block n α :=
  forLoop i (count - 1) (fun k block => block.store k (block.load (k + 1))) block

/-- Before step `k` the elements from `i` to `k` have moved down. -/
structure MovedDown (block : Block n α) (i count k : Int) (b : Block n α) : Prop where
  cells : ∀ j : Int, 0 ≤ j → j < count →
    b.load j = if j < i ∨ k ≤ j then block.load j else block.load (j + 1)
  clean : b.fault = block.fault

theorem MovedDown.step {block b : Block n α} {i count k : Int} (moved : MovedDown block i count k b)
    (low : 0 ≤ i) (before : i ≤ k) (after : k < count - 1) (room : count ≤ n) :
    MovedDown block i count (k + 1) (b.store k (b.load (k + 1))) := by
  refine ⟨fun j low' high' => ?_, ?_⟩
  · rw [Block.load_store b k _ j low' (by omega)]
    by_cases here : j = k
    · rw [if_pos here, moved.cells (k + 1) (by omega) (by omega), if_pos (by omega),
        if_neg (by omega), here]
    · rw [if_neg here, moved.cells j low' high']
      by_cases kept : j < i ∨ k ≤ j
      · rw [if_pos kept, if_pos (by omega)]
      · rw [if_neg kept, if_neg (by omega)]
  · rw [Block.store_fault b _ ⟨by omega, by omega⟩, moved.clean]

theorem shiftDown_moved {block : Block n α} {i count : Int} (low : 0 ≤ i) (high : i < count)
    (room : count ≤ n) : MovedDown block i count (count - 1) (shiftDown i count block) :=
  forLoop_rule _ block (MovedDown block i count) (by omega)
    ⟨fun j _ _ => by rw [if_pos (by omega)], rfl⟩
    fun _ _ before after moved => moved.step low before after room

/-- **Removing an element** by moving those behind it down. -/
theorem Holds.erase {block : Block n α} {count : Int} {list : List α}
    (holds : Holds block count list) {i : Int} (low : 0 ≤ i) (high : i < count) :
    Holds (shiftDown i count block) (count - 1) (list.eraseIdx i.toNat) := by
  have length := holds.count
  have room := holds.room
  obtain ⟨moved, clean⟩ : MovedDown block i count (count - 1) (shiftDown i count block) :=
    shiftDown_moved low high (by omega)
  have shorter : (list.eraseIdx i.toNat).length = list.length - 1 :=
    List.length_eraseIdx_of_lt (by omega)
  refine ⟨by omega, by omega, fun k inside => ?_, clean.trans holds.clean⟩
  rw [moved k (by omega) (by omega), List.getElem?_eraseIdx]
  by_cases before : k < i.toNat
  · rw [if_pos before, if_pos (by omega)]
    exact holds.cells k (by omega)
  · rw [if_neg before, if_neg (by omega)]
    exact holds.cells (k + 1) (by omega)

/-- `for (k = count; k > 0; k--) block[k] = block[k - 1];`. -/
def shiftUp (count : Int) (block : Block n α) : Block n α :=
  forLoop 0 count (fun step block =>
    block.store (count - step) (block.load (count - step - 1))) block

/-- After `step` steps the elements from `count - step` on have moved up. -/
structure MovedUp (block : Block n α) (count step : Int) (b : Block n α) : Prop where
  cells : ∀ j : Int, 0 ≤ j → j ≤ count →
    b.load j = if j ≤ count - step then block.load j else block.load (j - 1)
  clean : b.fault = block.fault

theorem MovedUp.step {block b : Block n α} {count step : Int} (moved : MovedUp block count step b)
    (low : 0 ≤ step) (high : step < count) (room : count < n) :
    MovedUp block count (step + 1) (b.store (count - step) (b.load (count - step - 1))) := by
  refine ⟨fun j low' high' => ?_, ?_⟩
  · rw [Block.load_store b _ _ j low' (by omega)]
    by_cases here : j = count - step
    · rw [if_pos here, moved.cells _ (by omega) (by omega), if_pos (by omega), if_neg (by omega),
        here]
    · rw [if_neg here, moved.cells j low' high']
      by_cases kept : j ≤ count - step
      · rw [if_pos kept, if_pos (by omega)]
      · rw [if_neg kept, if_neg (by omega)]
  · rw [Block.store_fault b _ ⟨by omega, by omega⟩, moved.clean]

/-- **Inserting in front** of the first elements, moved up by one. -/
theorem Holds.insertFront {block : Block n α} {count : Int} {list : List α}
    (holds : Holds block count list) {kept : Int} (low : 0 ≤ kept) (atMost : kept ≤ count)
    (room : kept < n) (value : α) :
    Holds ((shiftUp kept block).store 0 value) (kept + 1) (value :: list.take kept.toNat) := by
  have length := holds.count
  have moved : MovedUp block kept kept (shiftUp kept block) :=
    forLoop_rule _ block (MovedUp block kept) low ⟨fun j _ _ => by rw [if_pos (by omega)], rfl⟩
      fun _ _ low' high' moved => moved.step low' high' room
  have taken : (list.take kept.toNat).length = kept.toNat := by
    rw [List.length_take]
    omega
  refine ⟨?_, ?_, fun k inside => ?_, ?_⟩
  · rw [List.length_cons]
    omega
  · rw [List.length_cons]
    omega
  · rw [List.length_cons] at inside
    rw [Block.load_store _ 0 value k (by omega) (by omega)]
    cases k with
    | zero => rfl
    | succ k =>
        rw [if_neg (by omega), moved.cells _ (by omega) (by omega), if_neg (by omega),
          List.getElem?_cons_succ, List.getElem?_take_of_lt (by omega)]
        have index : ((k + 1 : Nat) : Int) - 1 = k := by omega
        rw [index]
        exact holds.cells k (by omega)
  · rw [Block.store_fault _ value ⟨by omega, by omega⟩, moved.clean]
    exact holds.clean

/-- `for (item : items) { if (count >= n) break; … block[count] = value; count++; }`, where an item
that decodes to nothing is skipped. -/
def fill {β : Type} (decode : β → Option α) : List β → Block n α × Int → Block n α × Int
  | [], state => state
  | item :: items, (block, count) =>
      if count ≥ n then (block, count)
      else
        match decode item with
        | none => fill decode items (block, count)
        | some value => fill decode items (block.store count value, count + 1)

/-- **Filling** keeps what is decoded while there is room. -/
theorem Holds.fill {β : Type} (decode : β → Option α) (items : List β) {block : Block n α}
    {count : Int} {list : List α} (holds : Holds block count list) :
    Holds (fill decode items (block, count)).1 (fill decode items (block, count)).2
      (list ++ (items.filterMap decode).take (n - list.length)) := by
  induction items generalizing block count list with
  | nil =>
      rw [List.filterMap_nil, List.take_nil, List.append_nil]
      exact holds
  | cons item items ih =>
      have length := holds.count
      have room := holds.room
      rw [Slots.fill]
      split
      · have full : n - list.length = 0 := by omega
        rw [full, List.take_zero, List.append_nil]
        exact holds
      · cases decoded : decode item with
        | none =>
            rw [List.filterMap_cons_none decoded]
            exact ih holds
        | some value =>
            have rest := ih (holds.append (by omega) value)
            have more : n - list.length = n - (list ++ [value]).length + 1 := by
              rw [List.length_append, List.length_singleton]
              omega
            rw [List.filterMap_cons_some decoded, more, List.take_succ_cons]
            rw [List.append_assoc] at rest
            exact rest

end Slots
