/-
**C loops that stop on a condition.**

`whileLoop cond body rounds state` is `while (cond) body` over an explicit state. The condition and
the body can go wrong (`none`: an access outside an array), and its tests are counted: a loop that
`rounds` of them do not end is `none` too. So `some` says that the loop ended and nothing went
wrong. `whileLoop_rule` is its invariant rule, with a measure that each round makes smaller.
-/

import Mathlib.Data.Int.Basic

namespace CLoop

variable {σ : Type}

/-- `while (cond) body`, for `rounds` tests of the condition. -/
def whileLoop (cond : σ → Option Bool) (body : σ → Option σ) : (rounds : Nat) → σ → Option σ
  | 0, _ => none
  | rounds + 1, state =>
      (cond state).bind fun again =>
        if again then (body state).bind (whileLoop cond body rounds) else some state

section

variable {cond : σ → Option Bool} {body : σ → Option σ} {rounds : Nat} {state : σ}

theorem whileLoop_done (stops : cond state = some false) :
    whileLoop cond body (rounds + 1) state = some state := by
  simp [whileLoop, stops]

theorem whileLoop_round {next : σ} (runs : cond state = some true) (step : body state = some next) :
    whileLoop cond body (rounds + 1) state = whileLoop cond body rounds next := by
  simp [whileLoop, runs, step]

/-- **The invariant rule of a `while` loop**: where the invariant holds, the condition is defined
and, if it is true, so is the body, which keeps the invariant and makes the measure smaller. Then
more rounds than the measure end the loop, in a state of the invariant where the condition is
false. -/
theorem whileLoop_rule (inv : σ → Prop) (measure : σ → Nat)
    (step : ∀ s, inv s → cond s = some false ∨ (cond s = some true ∧
      ∃ next, body s = some next ∧ inv next ∧ measure next < measure s))
    (start : inv state) (enough : measure state < rounds) :
    ∃ final, whileLoop cond body rounds state = some final ∧ inv final ∧
      cond final = some false := by
  induction rounds generalizing state with
  | zero => exact absurd enough (Nat.not_lt_zero _)
  | succ rounds ih =>
      rcases step state start with stops | ⟨runs, next, moves, holds, smaller⟩
      · exact ⟨state, whileLoop_done stops, start, stops⟩
      · obtain ⟨final, ends, result⟩ := ih holds (by omega)
        exact ⟨final, (whileLoop_round runs moves).trans ends, result⟩

end

end CLoop
