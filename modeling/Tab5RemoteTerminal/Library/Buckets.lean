/-
**Buckets in the order in which they are first needed.**

`firstSeen keys` are the distinct keys of a list, collected one after another: each is there once,
and they stand in the order of their first occurrences (`firstSeen_pairwise`). A list sorted into
one bucket for each of some distinct keys, the order within a bucket kept, has lost and doubled
nothing (`buckets_perm`).
-/

import Mathlib.Data.List.Induction
import Mathlib.Data.List.Nodup
import Mathlib.Data.List.Perm.Basic

namespace Buckets

variable {α κ : Type} [DecidableEq κ]

/-- One more key, at the end if it is new. -/
def note (seen : List κ) (key : κ) : List κ := if key ∈ seen then seen else seen ++ [key]

def firstSeen (keys : List κ) : List κ := keys.foldl note []

theorem firstSeen_concat (keys : List κ) (key : κ) :
    firstSeen (keys ++ [key]) = note (firstSeen keys) key := by
  rw [firstSeen, List.foldl_append]
  rfl

theorem mem_note {seen : List κ} {key other : κ} :
    other ∈ note seen key ↔ other ∈ seen ∨ other = key := by
  unfold note
  split
  · rw [iff_self_or]
    rintro rfl
    assumption
  · rw [List.mem_append, List.mem_singleton]

@[simp] theorem mem_firstSeen {keys : List κ} {key : κ} : key ∈ firstSeen keys ↔ key ∈ keys := by
  induction keys using List.reverseRecOn with
  | nil => rfl
  | append_singleton keys last ih =>
      rw [firstSeen_concat, mem_note, ih, List.mem_append, List.mem_singleton]

theorem firstSeen_length (keys : List κ) : (firstSeen keys).length ≤ keys.length := by
  induction keys using List.reverseRecOn with
  | nil => exact Nat.le_refl 0
  | append_singleton keys last ih =>
      rw [firstSeen_concat, note, List.length_append, List.length_singleton]
      split
      · omega
      · rw [List.length_append, List.length_singleton]
        omega

/-- **The keys stand in the order in which they occur first.** -/
theorem firstSeen_pairwise (keys : List κ) :
    (firstSeen keys).Pairwise fun first second => keys.idxOf first < keys.idxOf second := by
  induction keys using List.reverseRecOn with
  | nil => exact List.Pairwise.nil
  | append_singleton keys last ih =>
      have before : (firstSeen keys).Pairwise fun first second =>
          (keys ++ [last]).idxOf first < (keys ++ [last]).idxOf second := by
        refine ih.imp_of_mem fun first second order => ?_
        rwa [List.idxOf_append_of_mem (mem_firstSeen.mp first),
          List.idxOf_append_of_mem (mem_firstSeen.mp second)]
      rw [firstSeen_concat, note]
      split
      · exact before
      · -- A new key occurs first behind all the others.
        have new : last ∉ keys := by rwa [mem_firstSeen] at *
        refine List.pairwise_append.mpr ⟨before, List.pairwise_singleton _ _, ?_⟩
        intro key seen other mem
        rw [List.mem_singleton.mp mem]
        have known : key ∈ keys := mem_firstSeen.mp seen
        rw [List.idxOf_append_of_mem known, List.idxOf_append_of_notMem new]
        exact Nat.lt_add_right _ (List.idxOf_lt_length_of_mem known)

theorem firstSeen_nodup (keys : List κ) : (firstSeen keys).Nodup :=
  (firstSeen_pairwise keys).imp fun order same => absurd (congrArg keys.idxOf same) (Nat.ne_of_lt order)

/-- **Sorting into buckets loses and doubles nothing.** -/
theorem buckets_perm {keys : List κ} (nodup : keys.Nodup) (key : α → κ) {list : List α}
    (all : ∀ x ∈ list, key x ∈ keys) :
    (keys.flatMap fun k => list.filter fun x => key x = k).Perm list := by
  induction keys generalizing list with
  | nil =>
      have empty : list = [] := List.eq_nil_iff_forall_not_mem.mpr fun x mem =>
        List.not_mem_nil (all x mem)
      rw [empty]
      exact List.Perm.nil
  | cons k keys ih =>
      obtain ⟨fresh, nodup⟩ := List.nodup_cons.mp nodup
      let others := list.filter fun x => !decide (key x = k)
      have rest : (keys.flatMap fun k' => others.filter fun x => key x = k').Perm others := by
        refine ih nodup fun x mem => ?_
        obtain ⟨inList, other⟩ := List.mem_filter.mp mem
        exact (List.mem_cons.mp (all x inList)).resolve_left (by simpa using other)
      have same : (keys.flatMap fun k' => others.filter fun x => key x = k') =
          keys.flatMap fun k' => list.filter fun x => key x = k' := by
        refine List.flatMap_congr fun k' mem => ?_
        rw [List.filter_filter]
        refine List.filter_congr fun x _ => ?_
        have other : k' ≠ k := fun equal => fresh (equal ▸ mem)
        by_cases here : key x = k'
        · simp [here, other]
        · simp [here]
      rw [same] at rest
      exact (rest.append_left _).trans (List.filter_append_perm _ list)

end Buckets
