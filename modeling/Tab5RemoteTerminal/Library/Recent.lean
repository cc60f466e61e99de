/-
**The most recently used keys.**

A history is a list of uses, oldest first, each with a key. `recent key n history` is the last use
of each of the `n` keys used last, newest first. A list kept by taking out the use of the same key,
if there is one, and putting the new one in front of what fits, is that list:

* `recent_concat`: what one more use does to it;
* `eraseIdx_eq_filter`: taking out the element found by its key;
* `recent_nodup`, `recent_last`: no key twice, and each with its last use.
-/

import Mathlib.Data.List.Nodup

namespace Recent

variable {α κ : Type} [DecidableEq κ] (key : α → κ)

/-- The first use of each key, of uses given newest first. -/
def distinct : List α → List α
  | [] => []
  | x :: older => x :: (distinct older).filter fun y => key y ≠ key x

def recent (n : Nat) (history : List α) : List α := (distinct key history.reverse).take n

variable {key}

theorem distinct_nodup (uses : List α) : ((distinct key uses).map key).Nodup := by
  induction uses with
  | nil => exact List.nodup_nil
  | cons x older ih =>
      rw [distinct, List.map_cons, List.nodup_cons]
      refine ⟨?_, ih.sublist (List.filter_sublist.map key)⟩
      rw [List.mem_map]
      rintro ⟨y, mem, same⟩
      have other := (List.mem_filter.mp mem).2
      simp [same] at other

theorem recent_nodup (key : α → κ) (n : Nat) (history : List α) :
    ((recent key n history).map key).Nodup :=
  (distinct_nodup history.reverse).sublist ((List.take_sublist n _).map key)

/-- What is kept of a key is its newest use. -/
theorem find_distinct {uses : List α} {x : α} (mem : x ∈ distinct key uses) :
    (uses.find? fun y => key y = key x) = some x := by
  induction uses with
  | nil => exact absurd mem List.not_mem_nil
  | cons y older ih =>
      rcases List.mem_cons.mp mem with rfl | later
      · simp
      · obtain ⟨inside, other⟩ := List.mem_filter.mp later
        have differs : key y ≠ key x := fun same => by simp [same] at other
        rw [List.find?_cons_of_neg (by simpa using differs)]
        exact ih inside

theorem recent_last {n : Nat} {history : List α} {x : α} (mem : x ∈ recent key n history) :
    (history.reverse.find? fun y => key y = key x) = some x :=
  find_distinct (List.mem_of_mem_take mem)

/-- Of `n + 1` elements with different keys, at least `n` are left without one key. -/
theorem take_filter {uses : List α} (nodup : (uses.map key).Nodup) (k : κ) (n : Nat) :
    ((uses.take (n + 1)).filter fun y => key y ≠ k).take n =
      (uses.filter fun y => key y ≠ k).take n := by
  induction uses generalizing n with
  | nil => rw [List.take_nil]
  | cons x uses ih =>
      rw [List.map_cons, List.nodup_cons] at nodup
      rw [List.take_succ_cons]
      by_cases here : key x = k
      · have others : ∀ y ∈ uses, (fun y => decide (key y ≠ k)) y = true := by
          intro y mem
          have differs : key y ≠ k := fun same =>
            nodup.1 (List.mem_map.mpr ⟨y, mem, same.trans here.symm⟩)
          simpa using differs
        rw [List.filter_cons_of_neg (by simpa using here),
          List.filter_cons_of_neg (by simpa using here), List.filter_eq_self.mpr others,
          List.filter_eq_self.mpr fun y mem => others y (List.mem_of_mem_take mem), List.take_take,
          Nat.min_self]
      · rw [List.filter_cons_of_pos (by simpa using here),
          List.filter_cons_of_pos (by simpa using here)]
        cases n with
        | zero => rfl
        | succ n => rw [List.take_succ_cons, List.take_succ_cons, ih nodup.2 n]

/-- **One more use.** -/
theorem recent_concat (n : Nat) (history : List α) (x : α) :
    recent key (n + 1) (history ++ [x]) =
      x :: ((recent key (n + 1) history).filter fun y => key y ≠ key x).take n := by
  rw [recent, List.reverse_concat, distinct, List.take_succ_cons, recent,
    take_filter (distinct_nodup history.reverse)]

/-- **Taking out the element with a key**, of elements with different keys. -/
theorem eraseIdx_eq_filter {uses : List α} (nodup : (uses.map key).Nodup) {i : Nat} {x : α}
    (at_i : uses[i]? = some x) : uses.eraseIdx i = uses.filter fun y => key y ≠ key x := by
  induction uses generalizing i with
  | nil => cases at_i
  | cons y uses ih =>
      rw [List.map_cons, List.nodup_cons] at nodup
      cases i with
      | zero =>
          have same : y = x := Option.some.inj at_i
          subst same
          have others : ∀ z ∈ uses, (fun z => decide (key z ≠ key y)) z = true := by
            intro z mem
            have differs : key z ≠ key y := fun same => nodup.1 (List.mem_map.mpr ⟨z, mem, same⟩)
            simpa using differs
          rw [List.filter_cons_of_neg (by simp), List.filter_eq_self.mpr others]
          rfl
      | succ i =>
          have mem : x ∈ uses := List.mem_of_getElem? at_i
          have differs : key y ≠ key x := fun same =>
            nodup.1 (List.mem_map.mpr ⟨x, mem, same.symm⟩)
          rw [List.filter_cons_of_pos (by simpa using differs), List.eraseIdx_cons_succ,
            ih nodup.2 at_i]

end Recent
