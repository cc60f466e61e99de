/-
**C integers and counted loops.**

* `wrap32`: the value a 32-bit two's-complement word holds after an unbounded integer was stored
  in it; the identity on `[-2 ^ 31, 2 ^ 31)` (`wrap32_of_range`), always in that range
  (`wrap32_range`).
* `forLoop lo hi body`: `for (i = lo; i < hi; i++) body(i)` over an explicit state.
  `forLoop_rule` is its invariant rule.
-/

import Mathlib.Data.Int.Basic
import Mathlib.Tactic.Linarith

namespace CLoop

/-- The 32-bit two's-complement word that holds `value`, read as a signed number. -/
def wrap32 (value : Int) : Int := (value + 2147483648) % 4294967296 - 2147483648

theorem wrap32_range (value : Int) :
    -2147483648 ≤ wrap32 value ∧ wrap32 value < 2147483648 := by
  unfold wrap32
  omega

theorem wrap32_of_range {value : Int} (low : -2147483648 ≤ value) (high : value < 2147483648) :
    wrap32 value = value := by
  unfold wrap32
  omega

/-- A sum past the top of the range comes back negative. -/
theorem wrap32_overflow {value : Int} (low : 2147483648 ≤ value) (high : value < 4294967296) :
    wrap32 value = value - 4294967296 := by
  unfold wrap32
  omega

variable {σ : Type}

/-- `count` iterations from index `lo`. -/
def iterate (body : Int → σ → σ) : Nat → Int → σ → σ
  | 0, _, state => state
  | count + 1, lo, state => iterate body count (lo + 1) (body lo state)

/-- `for (i = lo; i < hi; i++) state = body(i, state)`. -/
def forLoop (lo hi : Int) (body : Int → σ → σ) (state : σ) : σ :=
  iterate body (hi - lo).toNat lo state

theorem iterate_rule (body : Int → σ → σ) (inv : Int → σ → Prop) :
    ∀ (count : Nat) (lo : Int) (state : σ), inv lo state →
      (∀ i s, lo ≤ i → i < lo + count → inv i s → inv (i + 1) (body i s)) →
      inv (lo + count) (iterate body count lo state)
  | 0, lo, state, start, _ => by simpa [iterate] using start
  | count + 1, lo, state, start, step => by
      have rest := iterate_rule body inv count (lo + 1) (body lo state)
        (step lo state le_rfl (by omega) start)
        fun i s low high holds => step i s (by omega) (by push_cast; omega) holds
      rw [iterate]
      convert rest using 1
      push_cast
      omega

/-- **The invariant rule of a counted loop**: what holds at `lo` and is carried from `i` to
`i + 1` by the body holds at `hi` after the loop. -/
theorem forLoop_rule {lo hi : Int} (body : Int → σ → σ) (state : σ) (inv : Int → σ → Prop)
    (ordered : lo ≤ hi) (start : inv lo state)
    (step : ∀ i s, lo ≤ i → i < hi → inv i s → inv (i + 1) (body i s)) :
    inv hi (forLoop lo hi body state) := by
  have reach : lo + ((hi - lo).toNat : Int) = hi := by omega
  have done := iterate_rule body inv (hi - lo).toNat lo state start
    fun i s low high holds => step i s low (by omega) holds
  rw [reach] at done
  exact done

/-- A loop whose bounds are crossed runs no iteration. -/
theorem forLoop_empty {lo hi : Int} (body : Int → σ → σ) (state : σ) (crossed : hi ≤ lo) :
    forLoop lo hi body state = state := by
  have none : (hi - lo).toNat = 0 := by omega
  rw [forLoop, none, iterate]

/-- What every iteration preserves, the loop preserves, whatever its bounds. -/
theorem forLoop_preserves (lo hi : Int) (body : Int → σ → σ) (state : σ) (keep : σ → Prop)
    (start : keep state) (step : ∀ i s, lo ≤ i → i < hi → keep s → keep (body i s)) :
    keep (forLoop lo hi body state) := by
  by_cases ordered : lo ≤ hi
  · exact forLoop_rule body state (fun _ s => keep s) ordered start step
  · rw [forLoop_empty body state (by omega)]
    exact start

/-- Two runs of a loop keep a relation that each iteration keeps. -/
theorem forLoop_relates {ρ : σ → σ → Prop} (lo hi : Int) {body : Int → σ → σ} {s s' : σ}
    (start : ρ s s') (step : ∀ i s s', ρ s s' → ρ (body i s) (body i s')) :
    ρ (forLoop lo hi body s) (forLoop lo hi body s') := by
  have iterations : ∀ (count : Nat) (lo : Int) (s s' : σ), ρ s s' →
      ρ (iterate body count lo s) (iterate body count lo s') := by
    intro count
    induction count with
    | zero => exact fun _ _ _ same => same
    | succ count ih => exact fun lo s s' same => ih (lo + 1) _ _ (step lo s s' same)
  exact iterations _ lo s s' start

end CLoop
