/-
**The last write wins.**

Each input of a run writes a slot or leaves it alone. Then what the slot holds after the run is what
the last input that writes it writes, or what it held before: `read_after`.
-/

import Tab5RemoteTerminal.Library.Run

namespace LastWrite

variable {σ α β : Type}

/-- What the last of the inputs that write writes. -/
def lastWrite (writes : α → Option β) : List α → Option β
  | [] => none
  | input :: inputs => (lastWrite writes inputs).or (writes input)

@[simp] theorem lastWrite_nil (writes : α → Option β) : lastWrite writes [] = none := rfl

/-- Nothing is written exactly if no input writes. -/
theorem lastWrite_eq_none {writes : α → Option β} {inputs : List α} :
    lastWrite writes inputs = none ↔ ∀ a ∈ inputs, writes a = none := by
  induction inputs with
  | nil => simp
  | cons input inputs ih => rw [lastWrite, Option.or_eq_none_iff, ih, List.forall_mem_cons, and_comm]

/-- What is written last is written by some input. -/
theorem exists_of_lastWrite {writes : α → Option β} {inputs : List α} {value : β}
    (last : lastWrite writes inputs = some value) : ∃ a ∈ inputs, writes a = some value := by
  induction inputs with
  | nil => cases last
  | cons input inputs ih =>
      rw [lastWrite, Option.or_eq_some_iff] at last
      rcases last with later | ⟨_, here⟩
      · obtain ⟨a, member, writes⟩ := ih later
        exact ⟨a, List.mem_cons_of_mem _ member, writes⟩
      · exact ⟨input, List.mem_cons_self, here⟩

/-- **What the slot holds after a run.** -/
theorem read_after {step : σ → α → σ} {read : σ → β} {writes : α → Option β}
    (each : ∀ s a, read (step s a) = (writes a).getD (read s)) (start : σ) (inputs : List α) :
    read (Run.after step start inputs) = (lastWrite writes inputs).getD (read start) := by
  induction inputs generalizing start with
  | nil => rfl
  | cons input inputs ih =>
      rw [Run.after_cons, ih, each, lastWrite]
      cases lastWrite writes inputs <;> rfl

end LastWrite
