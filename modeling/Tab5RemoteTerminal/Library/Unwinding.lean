/-
**What a run lets be seen.**

A view is a function of the state. A step *respects* it when what is seen after the step depends on
what was seen before, and is *hidden* from it when it changes nothing that is seen.

* `respects_after`: two states that look the same still do after the same inputs;
* `purge`, `purge_emitted`: a run looks like the run of its visible inputs alone, and emits what
  that run emits; `purge_iff`: exactly if no hidden input changes what is seen;
* `Absorbs`: the rule for a view that is itself a state, and its composition.
-/

import Tab5RemoteTerminal.Library.Run

namespace Unwinding

variable {σ τ α β : Type}

/-- What is seen after `op` depends on what was seen before. -/
def Respects (view : σ → τ) (op : σ → σ) : Prop :=
  ∀ s s', view s = view s' → view (op s) = view (op s')

/-- What is seen after `op` is seen after it from the view itself. -/
def Absorbs (view : σ → σ) (op : σ → σ) : Prop := ∀ s, view (op (view s)) = view (op s)

theorem Absorbs.respects {view op : σ → σ} (absorbs : Absorbs view op) : Respects view op := by
  intro s s' same
  rw [← absorbs s, same, absorbs s']

theorem Absorbs.comp {view first second : σ → σ} (one : Absorbs view first)
    (two : Absorbs view second) : Absorbs view fun s => second (first s) := by
  intro s
  rw [← two (first (view s)), one s, two (first s)]

/-- A choice that the view shows. -/
theorem Absorbs.ite {view : σ → σ} {shown : σ → Prop} [DecidablePred shown] {yes no : σ → σ}
    (seen : ∀ s, shown (view s) ↔ shown s) (one : Absorbs view yes) (two : Absorbs view no) :
    Absorbs view fun s => if shown s then yes s else no s := by
  intro s
  by_cases here : shown s
  · simp only [seen s, here, if_true]
    exact one s
  · simp only [seen s, here, if_false]
    exact two s

theorem Absorbs.foldl {view : σ → σ} {step : σ → α → σ} (idem : ∀ s, view (view s) = view s)
    (each : ∀ a, Absorbs view fun s => step s a) (inputs : List α) :
    Absorbs view fun s => inputs.foldl step s := by
  induction inputs with
  | nil => exact idem
  | cons input inputs ih => exact (each input).comp ih

/-! ### Runs -/

section

variable {step : σ → α → σ} {view : σ → τ}

/-- **Two states that look the same** still do after the same inputs. -/
theorem respects_after (respects : ∀ a, Respects view fun s => step s a) {s s' : σ}
    (same : view s = view s') (inputs : List α) :
    view (Run.after step s inputs) = view (Run.after step s' inputs) := by
  induction inputs generalizing s s' with
  | nil => exact same
  | cons input inputs ih => exact ih (respects input s s' same)

/-- **Purging**: where the hidden inputs of a run change nothing that is seen, it looks like the
run of the others. -/
theorem purge {visible : α → Bool} {cond : σ → α → Prop}
    (respects : ∀ a, visible a = true → Respects view fun s => step s a)
    (hidden : ∀ s a, visible a = false → cond s a → view (step s a) = view s) {s s' : σ}
    {inputs : List α} (same : view s = view s') (meets : Run.Meets step cond s inputs) :
    view (Run.after step s inputs) = view (Run.after step s' (inputs.filter visible)) := by
  induction inputs generalizing s s' with
  | nil => exact same
  | cons input inputs ih =>
      cases seen : visible input with
      | true =>
          rw [List.filter_cons_of_pos seen]
          exact ih (respects input seen s s' same) meets.2
      | false =>
          rw [List.filter_cons_of_neg (by simp [seen])]
          exact ih ((hidden s input seen meets.1).trans same) meets.2

/-- **What a purged run emits**, when the view determines what the visible inputs emit and the
hidden ones emit nothing. -/
theorem purge_emitted {visible : α → Bool} {cond : σ → α → Prop} {out : σ → α → List β}
    (respects : ∀ a, visible a = true → Respects view fun s => step s a)
    (hidden : ∀ s a, visible a = false → cond s a → view (step s a) = view s)
    (heard : ∀ s s' a, view s = view s' → out s a = out s' a)
    (silent : ∀ s a, visible a = false → cond s a → out s a = []) {s s' : σ} {inputs : List α}
    (same : view s = view s') (meets : Run.Meets step cond s inputs) :
    Run.emitted step out s inputs = Run.emitted step out s' (inputs.filter visible) := by
  induction inputs generalizing s s' with
  | nil => rfl
  | cons input inputs ih =>
      cases seen : visible input with
      | true =>
          rw [List.filter_cons_of_pos seen, Run.emitted, Run.emitted, heard s s' input same,
            ih (respects input seen s s' same) meets.2]
      | false =>
          rw [List.filter_cons_of_neg (by simp [seen]), Run.emitted,
            silent s input seen meets.1, List.nil_append,
            ih ((hidden s input seen meets.1).trans same) meets.2]

/-- **The exact condition of purging**: a run looks at every moment like the run of its visible
inputs so far exactly if no hidden input changes what is seen. -/
theorem purge_iff {visible : α → Bool}
    (respects : ∀ a, visible a = true → Respects view fun s => step s a) {start : σ}
    {inputs : List α} :
    (∀ done, done <+: inputs → view (Run.after step start done) =
        view (Run.after step start (done.filter visible))) ↔
      Run.Meets step (fun s a => visible a = false → view (step s a) = view s) start inputs := by
  constructor
  · intro same
    induction inputs using List.reverseRecOn with
    | nil => trivial
    | append_singleton inputs input ih =>
        have before := ih fun done isPrefix =>
          same done (isPrefix.trans (List.prefix_append inputs [input]))
        refine Run.meets_append.mpr ⟨before, fun hidden => ?_, trivial⟩
        have now := same (inputs ++ [input]) List.prefix_rfl
        rw [List.filter_append, List.filter_cons_of_neg (by simp [hidden]), List.filter_nil,
          List.append_nil, ← same inputs (List.prefix_append inputs [input]),
          Run.after_append] at now
        exact now
  · rintro meets done ⟨rest, rfl⟩
    exact purge respects (fun _ _ hidden unchanged => unchanged hidden) rfl
      (Run.meets_append.mp meets).1

end

end Unwinding
