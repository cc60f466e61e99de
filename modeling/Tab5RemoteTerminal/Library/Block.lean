/-
**C arrays with a record of accesses outside them.**

`Block n α` is an array of `n` elements. An access is made through an integer index; one that
leaves the array reads the default element or writes nothing, and sets `fault` for good. So
`fault = false` after a run says that every store and copy of the run was in bounds.

* `load_store`, `load_copy`: what a cell holds after a store or a `memcpy`.
* `store_fault`, `copy_fault`: an access sets `fault` exactly when it leaves the array.
* `slice`: a run of cells as a list, and what a store or a copy does to it.
* `Painted`: an array with one value in all cells of a region, and how regions compose.
-/

import Mathlib.Data.List.Range
import Mathlib.Data.Set.Basic
import Mathlib.Tactic.Linarith
import Mathlib.Tactic.Ring

/-- A C array of `n` elements. `fault` is set by the first access outside the array. -/
structure Block (n : Nat) (α : Type) where
  cells : Fin n → α
  fault : Bool

namespace Block

variable {n m : Nat} {α : Type}

/-- The array with every element equal to `value`. -/
def filled (n : Nat) (value : α) : Block n α := ⟨fun _ => value, false⟩

/-- Whether the `len` elements from index `i` lie inside an array of `n` elements. -/
def Within (n : Nat) (i len : Int) : Prop := 0 ≤ i ∧ i + len ≤ n

instance (n : Nat) (i len : Int) : Decidable (Within n i len) := by
  unfold Within; infer_instance

variable [Inhabited α]

/-- The element at `i`, the default outside the array. -/
def load (block : Block n α) (i : Int) : α :=
  if inside : 0 ≤ i ∧ i < n then block.cells ⟨i.toNat, by omega⟩ else default

omit [Inhabited α] in
/-- `block[i] = value`. -/
def store (block : Block n α) (i : Int) (value : α) : Block n α where
  cells k := if (k.val : Int) = i then value else block.cells k
  fault := block.fault || !decide (Within n i 1)

/-- `memcpy(&block[target], &source[start], len)`. -/
def copy (block : Block n α) (target : Int) (source : Block m α) (start len : Int) : Block n α where
  cells k := if target ≤ (k.val : Int) ∧ (k.val : Int) < target + len
    then source.load (start + (k.val - target)) else block.cells k
  fault := block.fault || !decide (Within n target len ∧ Within m start len)

/-- The `len` elements from index `i`. -/
def slice (block : Block n α) (i : Int) (len : Nat) : List α :=
  (List.range len).map fun k : Nat => block.load (i + k)

/-! ### What a cell holds -/

theorem load_outside (block : Block n α) {i : Int} (outside : ¬ (0 ≤ i ∧ i < n)) :
    block.load i = default := dif_neg outside

theorem load_val (block : Block n α) (k : Fin n) : block.load k = block.cells k := by
  rw [load, dif_pos ⟨by omega, by omega⟩]
  rfl

@[simp] theorem load_filled (value : α) {i : Int} (low : 0 ≤ i) (high : i < n) :
    (filled n value).load i = value := by
  rw [load, dif_pos ⟨low, high⟩, filled]

theorem load_store (block : Block n α) (i : Int) (value : α) (k : Int) (low : 0 ≤ k)
    (high : k < n) : (block.store i value).load k = if k = i then value else block.load k := by
  have cast : ((k.toNat : Nat) : Int) = k := by omega
  rw [load, dif_pos ⟨low, high⟩, load, dif_pos ⟨low, high⟩, store]
  simp only [cast]

theorem load_store_same (block : Block n α) {i : Int} (value : α) (low : 0 ≤ i) (high : i < n) :
    (block.store i value).load i = value := by
  rw [load_store block i value i low high, if_pos rfl]

theorem load_store_other (block : Block n α) {i k : Int} (value : α) (other : k ≠ i) :
    (block.store i value).load k = block.load k := by
  by_cases inside : 0 ≤ k ∧ k < n
  · rw [load_store block i value k inside.1 inside.2, if_neg other]
  · rw [load_outside _ inside, load_outside _ inside]

theorem load_copy (block : Block n α) (target : Int) (source : Block m α) (start len k : Int)
    (low : 0 ≤ k) (high : k < n) :
    (block.copy target source start len).load k =
      if target ≤ k ∧ k < target + len then source.load (start + (k - target)) else block.load k := by
  have cast : ((k.toNat : Nat) : Int) = k := by omega
  have before : block.load k = block.cells ⟨k.toNat, by omega⟩ := dif_pos ⟨low, high⟩
  rw [load, dif_pos ⟨low, high⟩, before, copy]
  simp only [cast]

theorem load_copy_other (block : Block n α) {target : Int} (source : Block m α) (start : Int)
    {len k : Int} (other : ¬ (target ≤ k ∧ k < target + len)) :
    (block.copy target source start len).load k = block.load k := by
  by_cases inside : 0 ≤ k ∧ k < n
  · rw [load_copy block target source start len k inside.1 inside.2, if_neg other]
  · rw [load_outside _ inside, load_outside _ inside]

/-! ### When an access faults -/

omit [Inhabited α] in
theorem store_fault (block : Block n α) {i : Int} (value : α) (within : Within n i 1) :
    (block.store i value).fault = block.fault := by
  simp [store, within]

theorem copy_fault (block : Block n α) {target : Int} (source : Block m α) {start len : Int}
    (inside : Within n target len) (origin : Within m start len) :
    (block.copy target source start len).fault = block.fault := by
  simp [copy, inside, origin]

/-- What holds of the default and of every element of both arrays holds of every element after
a copy. -/
theorem load_copy_of_all (keep : α → Prop) (block : Block n α) (target : Int) (source : Block m α)
    (start len : Int) (here : ∀ i, keep (block.load i)) (there : ∀ i, keep (source.load i))
    (i : Int) : keep ((block.copy target source start len).load i) := by
  by_cases inside : 0 ≤ i ∧ i < n
  · rw [load_copy block target source start len i inside.1 inside.2]
    split
    · exact there _
    · exact here _
  · rw [load_outside _ inside, ← load_outside block inside]
    exact here i

theorem load_store_of_all (keep : α → Prop) (block : Block n α) (i : Int) (value : α)
    (here : ∀ k, keep (block.load k)) (stored : keep value) (k : Int) :
    keep ((block.store i value).load k) := by
  by_cases inside : 0 ≤ k ∧ k < n
  · rw [load_store block i value k inside.1 inside.2]
    split
    · exact stored
    · exact here _
  · rw [load_outside _ inside, ← load_outside block inside]
    exact here k

/-! ### Regions -/

/-- Arrays are equal when their elements are, and their records. -/
theorem ext_load {first second : Block n α} (fault : first.fault = second.fault)
    (same : ∀ i : Int, 0 ≤ i → i < n → first.load i = second.load i) : first = second := by
  rcases first with ⟨cells, _⟩
  rcases second with ⟨cells', _⟩
  obtain rfl : _ = _ := fault
  have equal : cells = cells' := by
    funext k
    have element := same k (by omega) (by omega)
    rwa [load_val, load_val] at element
  rw [equal]

/-- `after` is `before` with `value` in every cell of `region`, written in bounds. -/
structure Painted (before : Block n α) (region : Set Int) (value : α) (after : Block n α) :
    Prop where
  fault : after.fault = before.fault
  inside : ∀ i : Int, 0 ≤ i → i < n → i ∈ region → after.load i = value
  outside : ∀ i : Int, 0 ≤ i → i < n → i ∉ region → after.load i = before.load i

namespace Painted

variable {block first second : Block n α} {region other : Set Int} {value : α}

theorem empty : Painted block ∅ value block := ⟨rfl, fun _ _ _ impossible => impossible.elim,
  fun _ _ _ _ => rfl⟩

theorem union (one : Painted block region value first) (two : Painted first other value second) :
    Painted block (region ∪ other) value second where
  fault := two.fault.trans one.fault
  inside i low high member := by
    by_cases last : i ∈ other
    · exact two.inside i low high last
    · rw [two.outside i low high last]
      exact one.inside i low high (member.resolve_right last)
  outside i low high neither := by
    rw [two.outside i low high fun last => neither (Or.inr last)]
    exact one.outside i low high fun here => neither (Or.inl here)

/-- Only the region's cells inside the array matter. -/
theorem of_region (painted : Painted block region value first)
    (same : ∀ i : Int, 0 ≤ i → i < n → (i ∈ region ↔ i ∈ other)) :
    Painted block other value first where
  fault := painted.fault
  inside i low high member := painted.inside i low high ((same i low high).mpr member)
  outside i low high absent :=
    painted.outside i low high fun member => absent ((same i low high).mp member)

theorem unique (one : Painted block region value first)
    (two : Painted block region value second) : first = second := by
  refine ext_load (one.fault.trans two.fault.symm) fun i low high => ?_
  by_cases member : i ∈ region
  · rw [one.inside i low high member, two.inside i low high member]
  · rw [one.outside i low high member, two.outside i low high member]

end Painted

/-! ### Slices -/

@[simp] theorem slice_length (block : Block n α) (i : Int) (len : Nat) :
    (block.slice i len).length = len := by
  simp [slice]

theorem slice_getElem? (block : Block n α) (i : Int) {len k : Nat} (inside : k < len) :
    (block.slice i len)[k]? = some (block.load (i + k)) := by
  simp [slice, inside]

theorem slice_succ (block : Block n α) (i : Int) (len : Nat) :
    block.slice i (len + 1) = block.load i :: block.slice (i + 1) len := by
  unfold slice
  rw [List.range_succ_eq_map, List.map_cons, List.map_map, Nat.cast_zero, Int.add_zero]
  congr 1
  apply List.map_congr_left
  intro k _
  rw [Function.comp_apply, Nat.cast_succ]
  congr 1
  ring

/-- Two slices are equal exactly when they agree element by element. -/
theorem slice_eq_iff (first : Block n α) (second : Block m α) (i j : Int) (len : Nat) :
    first.slice i len = second.slice j len ↔
      ∀ k : Nat, k < len → first.load (i + k) = second.load (j + k) := by
  unfold slice
  rw [List.map_inj_left]
  simp only [List.mem_range]

end Block
