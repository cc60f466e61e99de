/-
**A toolkit of screens, focus groups and timers.**

The objects of a graphical toolkit that are created and deleted by hand: screens with their widgets,
focus groups with the widgets the keyboard goes through, timers that paint a widget. A widget is
referred to by a `Handle`, its screen and its name on it; numbers are never used again, so a handle
whose screen has gone stays invalid. Every call that names an object is partial, and is `none` when
the object is not there.

`present` is the usual way to change screens: a new group, a new screen, its widgets, load it (the old
screen goes, with its widgets and timers), give the keyboard the group, delete the old group.

* `Settled`: one screen, whose widgets that take keys are what the keyboard's group holds; the other
  groups that have not been deleted are empty;
* `Settled.present`, `Settled.presentBare`, `Settled.delete`, `Settled.extend`: what keeps it.
-/

import Mathlib.Data.List.Perm.Basic
import Mathlib.Logic.Function.Basic

namespace Toolkit

structure Handle (σ : Type) where
  screen : Nat
  widget : σ
deriving DecidableEq, Repr

structure Gui (σ : Type) where
  /-- The widgets of a screen, in the order of their creation. -/
  screens : Nat → Option (List σ)
  active : Nat
  groups : Nat → Option (List (Handle σ))
  /-- What a timer paints. -/
  timers : Nat → Option (Handle σ)
  /-- The timer that the deletion of a screen deletes. -/
  attached : Nat → Option Nat
  /-- The group of the keyboard. -/
  keys : Option Nat
  fresh : Nat

/-- A widget, and whether it is put in the group. -/
abbrev Plan (σ : Type) := List (σ × Bool)

namespace Plan

variable {σ : Type}

def widgets (plan : Plan σ) : List σ := plan.map Prod.fst

/-- The widgets of the group, on screen `n`. -/
def handles (plan : Plan σ) (n : Nat) : List (Handle σ) :=
  (plan.filter Prod.snd).map fun part => ⟨n, part.1⟩

end Plan

namespace Plan

variable {σ : Type}

/-- The handles of another screen stay when one is deleted. -/
theorem handles_filter_other (plan : Plan σ) {n m : Nat} (other : n ≠ m) :
    (plan.handles n).filter (fun h => h.screen ≠ m) = plan.handles n := by
  refine List.filter_eq_self.mpr fun h mem => ?_
  obtain ⟨part, _, rfl⟩ := List.mem_map.mp mem
  exact decide_eq_true other

theorem handles_filter_self (plan : Plan σ) (n : Nat) :
    (plan.handles n).filter (fun h => h.screen ≠ n) = [] := by
  refine List.filter_eq_nil_iff.mpr fun h mem => ?_
  obtain ⟨part, _, rfl⟩ := List.mem_map.mp mem
  simp

/-- Widgets that take no keys. -/
def bare (widgets : List σ) : Plan σ := widgets.map fun w => (w, false)

@[simp] theorem widgets_bare (widgets : List σ) : (bare widgets).widgets = widgets := by
  rw [bare, Plan.widgets, List.map_map]
  exact List.map_id widgets

@[simp] theorem handles_bare (widgets : List σ) (n : Nat) : (bare widgets).handles n = [] := by
  have none : (bare widgets).filter Prod.snd = [] := by
    refine List.filter_eq_nil_iff.mpr fun part mem => ?_
    obtain ⟨w, _, rfl⟩ := List.mem_map.mp mem
    exact Bool.false_ne_true
  rw [handles, none]
  rfl

@[simp] theorem widgets_append (first second : Plan σ) :
    Plan.widgets (first ++ second) = first.widgets ++ second.widgets := List.map_append

@[simp] theorem handles_append (first second : Plan σ) (n : Nat) :
    Plan.handles (first ++ second) n = first.handles n ++ second.handles n := by
  rw [handles, List.filter_append, List.map_append]
  rfl

/-- What is left when some widgets have been deleted. -/
def without (plan : Plan σ) (goes : σ → Bool) : Plan σ := plan.filter fun part => !goes part.1

theorem widgets_without (plan : Plan σ) (goes : σ → Bool) :
    (plan.without goes).widgets = plan.widgets.filter fun w => !goes w := by
  rw [widgets, widgets, List.filter_map]
  rfl

theorem handles_without (plan : Plan σ) (goes : σ → Bool) (n : Nat) :
    (plan.without goes).handles n =
      (plan.handles n).filter fun h => !(h.screen = n ∧ goes h.widget) := by
  rw [handles, handles, List.filter_map, without, List.filter_comm]
  refine congrArg (List.map _) (List.filter_congr fun part _ => ?_)
  simp

end Plan

namespace Gui

variable {σ : Type} [DecidableEq σ]

/-- There is such a widget. -/
def Valid (g : Gui σ) (h : Handle σ) : Prop := h.widget ∈ (g.screens h.screen).getD []

instance (g : Gui σ) (h : Handle σ) : Decidable (g.Valid h) :=
  inferInstanceAs (Decidable (_ ∈ _))

/-! ### Calls -/

/-- A call on a widget that changes nothing here. -/
def touch (g : Gui σ) (h : Handle σ) : Option (Gui σ) := if g.Valid h then some g else none

def createScreen (g : Gui σ) : Nat × Gui σ :=
  (g.fresh, { g with
    screens := Function.update g.screens g.fresh (some [])
    fresh := g.fresh + 1 })

def createGroup (g : Gui σ) : Nat × Gui σ :=
  (g.fresh, { g with
    groups := Function.update g.groups g.fresh (some [])
    fresh := g.fresh + 1 })

/-- A widget on a screen. -/
def create (g : Gui σ) (screen : Nat) (widget : σ) : Option (Gui σ) := do
  let widgets ← g.screens screen
  some { g with screens := Function.update g.screens screen (some (widgets ++ [widget])) }

def groupAdd (g : Gui σ) (group : Nat) (h : Handle σ) : Option (Gui σ) := do
  let members ← g.groups group
  if g.Valid h then
    some { g with groups := Function.update g.groups group (some (members ++ [h])) }
  else none

/-- The widgets of a plan, one after the other. -/
def createAll (g : Gui σ) (screen group : Nat) : Plan σ → Option (Gui σ)
  | [] => some g
  | (widget, inGroup) :: plan => do
      let g ← g.create screen widget
      let g ← if inGroup then g.groupAdd group ⟨screen, widget⟩ else some g
      g.createAll screen group plan

def createTimer (g : Gui σ) (h : Handle σ) : Nat × Gui σ :=
  (g.fresh, { g with
    timers := Function.update g.timers g.fresh (some h)
    fresh := g.fresh + 1 })

/-- The timer goes when the screen does. -/
def attach (g : Gui σ) (screen timer : Nat) : Option (Gui σ) := do
  let _ ← g.screens screen
  some { g with attached := Function.update g.attached screen (some timer) }

def deleteTimer (g : Gui σ) (timer : Nat) : Option (Gui σ) := do
  let _ ← g.timers timer
  some { g with timers := Function.update g.timers timer none }

/-- Widgets of a screen are deleted, and leave their group. -/
def delete (g : Gui σ) (screen : Nat) (goes : σ → Bool) : Option (Gui σ) := do
  let widgets ← g.screens screen
  some { g with
    screens := Function.update g.screens screen (some (widgets.filter fun w => !goes w))
    groups := fun k => (g.groups k).map (·.filter fun h => !(h.screen = screen ∧ goes h.widget)) }

/-- The timer attached to a screen. -/
def deleteAttached (g : Gui σ) (screen : Nat) : Option (Gui σ) :=
  match g.attached screen with
  | some timer => g.deleteTimer timer
  | none => some g

/-- A screen is deleted with its widgets, and the timer attached to it. -/
def deleteScreen (g : Gui σ) (screen : Nat) : Option (Gui σ) := do
  let _ ← g.screens screen
  let g ← g.deleteAttached screen
  some { g with
    screens := Function.update g.screens screen none
    groups := fun k => (g.groups k).map (·.filter fun h => h.screen ≠ screen)
    attached := Function.update g.attached screen none }

/-- A screen is loaded, and the one before it deleted. -/
def load (g : Gui σ) (screen : Nat) : Option (Gui σ) := do
  let _ ← g.screens screen
  { g with active := screen }.deleteScreen g.active

def setKeys (g : Gui σ) (group : Nat) : Option (Gui σ) := do
  let _ ← g.groups group
  some { g with keys := some group }

def deleteGroup (g : Gui σ) (group : Nat) : Option (Gui σ) := do
  let _ ← g.groups group
  some { g with
    groups := Function.update g.groups group none
    keys := if g.keys = some group then none else g.keys }

/-! ### From one screen to another -/

/-- A new screen with these widgets, a group, and a timer that paints one of the widgets. -/
def build (g : Gui σ) (plan : Plan σ) (painted : Option σ) : Option (Nat × Nat × Gui σ) := do
  let (screen, g) := g.createScreen
  let (group, g) := g.createGroup
  let g ← g.createAll screen group plan
  match painted with
  | none => some (screen, group, g)
  | some widget => do
      let (timer, g) := g.createTimer ⟨screen, widget⟩
      let g ← g.touch ⟨screen, widget⟩
      let g ← g.attach screen timer
      some (screen, group, g)

/-- The screen is loaded, the group gets the keyboard, and the group `old` goes. -/
def swap (g : Gui σ) (screen group : Nat) (old : Option Nat) : Option (Gui σ) := do
  let g ← g.load screen
  let g ← g.setKeys group
  match old with
  | none => some g
  | some k => g.deleteGroup k

/-- To another screen. -/
def present (g : Gui σ) (plan : Plan σ) (painted : Option σ) (old : Option Nat) :
    Option (Nat × Nat × Gui σ) := do
  let (screen, group, g) ← g.build plan painted
  let g ← g.swap screen group old
  some (screen, group, g)

/-- The widgets one after the other, and none of them takes keys. -/
def createEach (g : Gui σ) (screen : Nat) : List σ → Option (Gui σ)
  | [] => some g
  | widget :: widgets => do
      let g ← g.create screen widget
      g.createEach screen widgets

/-- To another screen that takes no keys. -/
def presentBare (g : Gui σ) (widgets : List σ) : Option (Nat × Gui σ) := do
  let (screen, g) := g.createScreen
  let g ← g.createEach screen widgets
  let g ← g.load screen
  some (screen, g)

/-! ### What the calls come to -/

variable {g : Gui σ} {screen group : Nat} {widgets : List σ} {members : List (Handle σ)}

omit [DecidableEq σ] in
theorem create_eq (here : g.screens screen = some widgets) (widget : σ) :
    g.create screen widget = some { g with
      screens := Function.update g.screens screen (some (widgets ++ [widget])) } := by
  rw [create, here]
  rfl

theorem groupAdd_eq {h : Handle σ} (valid : g.Valid h) (here : g.groups group = some members) :
    g.groupAdd group h = some { g with
      groups := Function.update g.groups group (some (members ++ [h])) } := by
  rw [groupAdd, here]
  exact if_pos valid

theorem touch_eq {h : Handle σ} (valid : g.Valid h) : g.touch h = some g := if_pos valid

omit [DecidableEq σ] in
theorem attach_eq (here : g.screens screen = some widgets) (timer : Nat) :
    g.attach screen timer = some { g with
      attached := Function.update g.attached screen (some timer) } := by
  rw [attach, here]
  rfl

omit [DecidableEq σ] in
theorem deleteTimer_eq {timer : Nat} {h : Handle σ} (there : g.timers timer = some h) :
    g.deleteTimer timer = some { g with timers := Function.update g.timers timer none } := by
  rw [deleteTimer, there]
  rfl

/-- The widgets of a plan are on the screen, and those that take keys in the group. -/
theorem createAll_eq (onScreen : g.screens screen = some widgets)
    (inGroup : g.groups group = some members) (plan : Plan σ) :
    g.createAll screen group plan = some { g with
      screens := Function.update g.screens screen (some (widgets ++ plan.widgets))
      groups := Function.update g.groups group (some (members ++ plan.handles screen)) } := by
  induction plan generalizing g widgets members with
  | nil =>
      have sameScreens : Function.update g.screens screen (some (widgets ++ [])) = g.screens := by
        rw [List.append_nil, ← onScreen, Function.update_eq_self]
      have sameGroups : Function.update g.groups group (some (members ++ [])) = g.groups := by
        rw [List.append_nil, ← inGroup, Function.update_eq_self]
      show some g = some { g with screens := Function.update g.screens screen (some (widgets ++ []))
                                  groups := Function.update g.groups group (some (members ++ [])) }
      rw [sameScreens, sameGroups]
  | cons part plan ih =>
      obtain ⟨widget, takesKeys⟩ := part
      let created : Gui σ := { g with
        screens := Function.update g.screens screen (some (widgets ++ [widget])) }
      have shown : created.screens screen = some (widgets ++ [widget]) := Function.update_self ..
      rw [createAll, create_eq onScreen, Option.bind_eq_bind, Option.bind_some]
      cases takesKeys with
      | false =>
          rw [if_neg Bool.false_ne_true, Option.bind_some]
          refine (@ih created _ _ shown inGroup).trans ?_
          dsimp only [created]
          rw [Function.update_idem, List.append_assoc]
          rfl
      | true =>
          have valid : created.Valid ⟨screen, widget⟩ := by
            unfold Valid
            rw [shown]
            exact List.mem_append_right _ List.mem_cons_self
          rw [if_pos rfl]
          dsimp only
          rw [groupAdd_eq valid inGroup, Option.bind_some]
          let added : Gui σ := { created with
            groups := Function.update g.groups group (some (members ++ [⟨screen, widget⟩])) }
          refine (@ih added _ _ shown (Function.update_self ..)).trans ?_
          dsimp only [created, added]
          rw [Function.update_idem, Function.update_idem, List.append_assoc, List.append_assoc]
          rfl

omit [DecidableEq σ] in
theorem createEach_eq (here : g.screens screen = some widgets) (more : List σ) :
    g.createEach screen more = some { g with
      screens := Function.update g.screens screen (some (widgets ++ more)) } := by
  induction more generalizing g widgets with
  | nil =>
      have same : Function.update g.screens screen (some (widgets ++ [])) = g.screens := by
        rw [List.append_nil, ← here, Function.update_eq_self]
      show some g = some { g with screens := Function.update g.screens screen (some (widgets ++ [])) }
      rw [same]
  | cons widget more ih =>
      let created : Gui σ := { g with
        screens := Function.update g.screens screen (some (widgets ++ [widget])) }
      rw [createEach, create_eq here, Option.bind_eq_bind, Option.bind_some]
      refine (@ih created _ (Function.update_self ..)).trans ?_
      dsimp only [created]
      rw [Function.update_idem, List.append_assoc]
      rfl

theorem present_eq {plan : Plan σ} {painted : Option σ} {old : Option Nat} {built after : Gui σ}
    (build : g.build plan painted = some (screen, group, built))
    (swap : built.swap screen group old = some after) :
    g.present plan painted old = some (screen, group, after) := by
  rw [present, build, Option.bind_eq_bind, Option.bind_some]
  dsimp only
  rw [swap]
  rfl

omit [DecidableEq σ] in
theorem presentBare_eq {after : Gui σ}
    (load : Gui.load { g with
      screens := Function.update g.screens g.fresh (some widgets)
      fresh := g.fresh + 1 } g.fresh = some after) :
    g.presentBare widgets = some (g.fresh, after) := by
  let started : Gui σ := { g with
    screens := Function.update g.screens g.fresh (some [])
    fresh := g.fresh + 1 }
  have onScreen : started.screens g.fresh = some [] := Function.update_self ..
  have created := createEach_eq onScreen widgets
  dsimp only [started] at created
  rw [Function.update_idem, List.nil_append] at created
  have all : g.presentBare widgets = (started.createEach g.fresh widgets).bind fun g' =>
      (g'.load g.fresh).bind fun g'' => some (g.fresh, g'') := rfl
  rw [all, created, Option.bind_some, load, Option.bind_some]

end Gui

/-! ### A screen that is about to be loaded -/

/-- What timer `t` paints if `clock` is the only timer, on screen `n`. -/
def paints {σ : Type} (clock : Option (Nat × σ)) (n t : Nat) : Option (Handle σ) :=
  match clock with
  | none => none
  | some (c, widget) => if t = c then some ⟨n, widget⟩ else none

/-- The active screen, with the timer `clock` if any, and beside it another with `clock'`. -/
structure Opening {σ : Type} (g : Gui σ) (screen : Nat) (before widgets : List σ)
    (clock clock' : Option (Nat × σ)) : Prop where
  other : screen ≠ g.active
  screens : ∀ n, g.screens n =
    if n = screen then some widgets else if n = g.active then some before else none
  timers : ∀ t, g.timers t = (paints clock g.active t).or (paints clock' screen t)
  attached : ∀ n, g.attached n =
    if n = screen then clock'.map Prod.fst else if n = g.active then clock.map Prod.fst else none
  apart : ∀ c ∈ clock, ∀ c' ∈ clock', c.1 ≠ c'.1

namespace Opening

variable {σ : Type} {g : Gui σ} {screen : Nat} {before widgets : List σ}
  {clock clock' : Option (Nat × σ)}

theorem deleteAttached (o : Opening g screen before widgets clock clock') :
    Gui.deleteAttached { g with active := screen } g.active =
      some { g with active := screen, timers := paints clock' screen } := by
  have ticking : g.attached g.active = clock.map Prod.fst := by
    rw [o.attached, if_neg o.other.symm, if_pos rfl]
  rw [Gui.deleteAttached]
  dsimp only
  rw [ticking]
  cases clock with
  | none =>
      have same : g.timers = paints clock' screen := funext o.timers
      rw [← same]
      rfl
  | some c =>
      have there : g.timers c.1 = some ⟨g.active, c.2⟩ := by
        rw [o.timers]
        show Option.or (if c.1 = c.1 then _ else _) _ = _
        rw [if_pos rfl]
        rfl
      refine (Gui.deleteTimer_eq (g := { g with active := screen }) there).trans ?_
      congr 2
      funext t
      rw [Function.update_apply]
      split
      · rename_i same
        cases clock' with
        | none => rfl
        | some c' => exact (if_neg (same ▸ o.apart c rfl c' rfl)).symm
      · rename_i differs
        show g.timers t = _
        rw [o.timers]
        show Option.or (if t = c.1 then _ else _) _ = _
        rw [if_neg differs]
        rfl

/-- **The screen is loaded**: the other has gone, with its widgets and its timer. -/
theorem load (o : Opening g screen before widgets clock clock') :
    g.load screen = some { g with
      screens := fun n => if n = screen then some widgets else none
      active := screen
      groups := fun k => (g.groups k).map (·.filter fun h => h.screen ≠ g.active)
      timers := paints clock' screen
      attached := fun n => if n = screen then clock'.map Prod.fst else none } := by
  have here : g.screens screen = some widgets := (o.screens screen).trans (if_pos rfl)
  have was : g.screens g.active = some before := by
    rw [o.screens, if_neg o.other.symm, if_pos rfl]
  rw [Gui.load, here, Option.bind_eq_bind, Option.bind_some, Gui.deleteScreen]
  dsimp only
  rw [was, Option.bind_eq_bind, Option.bind_some, o.deleteAttached, Option.bind_eq_bind,
    Option.bind_some]
  congr 2
  · funext n
    rw [Function.update_apply, o.screens]
    by_cases gone : n = g.active
    · rw [if_pos gone, if_neg (gone ▸ o.other.symm)]
    · rw [if_neg gone, if_neg gone]
  · funext n
    rw [Function.update_apply, o.attached]
    by_cases gone : n = g.active
    · rw [if_pos gone, if_neg (gone ▸ o.other.symm)]
    · rw [if_neg gone, if_neg gone]

end Opening

/-! ### A toolkit at rest -/

/-- One screen is there, of the widgets of `plan`, with the timer `clock` if it has one; the groups
are those of `owned`, the keyboard's holds the widgets that take keys, and the others nothing. -/
structure Settled {σ : Type} (g : Gui σ) (plan : Plan σ) (owned : List Nat)
    (clock : Option (Nat × σ)) : Prop where
  screens : ∀ n, g.screens n = if n = g.active then some plan.widgets else none
  groups : ∀ k, g.groups k =
    if k ∈ owned then some (if g.keys = some k then plan.handles g.active else []) else none
  keys : ∀ k ∈ g.keys, k ∈ owned
  timers : ∀ t, g.timers t = paints clock g.active t
  attached : ∀ n, g.attached n = if n = g.active then clock.map Prod.fst else none
  painted : ∀ c ∈ clock, c.2 ∈ plan.widgets
  screenOld : g.active < g.fresh
  groupsOld : ∀ k ∈ owned, k < g.fresh
  timersOld : ∀ c ∈ clock, c.1 < g.fresh

namespace Gui

variable {σ : Type} [DecidableEq σ] {g : Gui σ}

/-- What `build` comes to. -/
def built (g : Gui σ) (plan : Plan σ) (painted : Option σ) : Gui σ :=
  { g with
    screens := Function.update g.screens g.fresh (some plan.widgets)
    groups := Function.update g.groups (g.fresh + 1) (some (plan.handles g.fresh))
    timers :=
      match painted with
      | none => g.timers
      | some widget => Function.update g.timers (g.fresh + 2) (some ⟨g.fresh, widget⟩)
    attached :=
      match painted with
      | none => g.attached
      | some _ => Function.update g.attached g.fresh (some (g.fresh + 2))
    fresh := g.fresh + 2 + painted.toList.length }

theorem build_eq (g : Gui σ) {plan : Plan σ} {painted : Option σ}
    (onScreen : ∀ w ∈ painted, w ∈ plan.widgets) :
    g.build plan painted = some (g.fresh, g.fresh + 1, g.built plan painted) := by
  let started : Gui σ := { g with
    screens := Function.update g.screens g.fresh (some [])
    groups := Function.update g.groups (g.fresh + 1) (some [])
    fresh := g.fresh + 2 }
  have screen : started.screens g.fresh = some [] := Function.update_self ..
  have group : started.groups (g.fresh + 1) = some [] := Function.update_self ..
  have created := createAll_eq screen group plan
  dsimp only [started] at created
  rw [Function.update_idem, Function.update_idem, List.nil_append, List.nil_append] at created
  have all : g.build plan painted = (started.createAll g.fresh (g.fresh + 1) plan).bind fun g' =>
      match painted with
      | none => some (g.fresh, g.fresh + 1, g')
      | some widget => ((g'.createTimer ⟨g.fresh, widget⟩).2.touch ⟨g.fresh, widget⟩).bind fun g'' =>
          (g''.attach g.fresh (g'.createTimer ⟨g.fresh, widget⟩).1).bind fun g''' =>
            some (g.fresh, g.fresh + 1, g''') := rfl
  rw [all, created, Option.bind_some]
  cases painted with
  | none => rfl
  | some widget =>
      dsimp only [createTimer]
      rw [touch_eq ?valid, Option.bind_some, attach_eq (Function.update_self ..), Option.bind_some]
      · rfl
      · unfold Valid
        dsimp only
        rw [Function.update_self]
        exact onScreen widget rfl

omit [DecidableEq σ] in
theorem swap_eq {screen group : Nat} {old : Option Nat} {loaded : Gui σ} {members : List (Handle σ)}
    (load : g.load screen = some loaded) (mine : loaded.groups group = some members)
    (other : old ≠ some group) (owns : ∀ k ∈ old, (loaded.groups k).isSome = true) :
    g.swap screen group old = some { loaded with
      groups := fun k => if old = some k then none else loaded.groups k
      keys := some group } := by
  have bound : loaded.setKeys group = some { loaded with keys := some group } := by
    rw [setKeys, mine]
    rfl
  rw [swap, load, Option.bind_eq_bind, Option.bind_some, bound, Option.bind_some]
  cases old with
  | none => rfl
  | some k =>
      obtain ⟨held, there⟩ := Option.isSome_iff_exists.mp (owns k rfl)
      have kept : ¬ (some group = some k) := fun same => other same.symm
      dsimp only
      rw [deleteGroup, there, Option.bind_eq_bind, Option.bind_some, if_neg kept]
      congr 2
      funext i
      rw [Function.update_apply]
      simp only [Option.some.injEq, eq_comm]

end Gui

namespace Settled

variable {σ : Type} {g : Gui σ} {plan : Plan σ} {owned : List Nat} {clock : Option (Nat × σ)}

/-- A screen that has been built is ready to be loaded. -/
theorem opening (s : Settled g plan owned clock) (plan' : Plan σ) (painted : Option σ) :
    Opening (g.built plan' painted) g.fresh plan.widgets plan'.widgets clock
      (painted.map fun w => (g.fresh + 2, w)) where
  other := (Nat.ne_of_lt s.screenOld).symm
  screens := by
    intro n
    show Function.update g.screens g.fresh _ n = _
    rw [Function.update_apply, s.screens]
    rfl
  timers := by
    intro t
    cases painted with
    | none =>
        show g.timers t = Option.or (paints clock g.active t) none
        rw [s.timers, Option.or_none]
    | some widget =>
        show Function.update g.timers (g.fresh + 2) _ t =
          Option.or (paints clock g.active t) (if t = g.fresh + 2 then _ else none)
        rw [Function.update_apply, s.timers]
        split
        · rename_i new
          have stopped : paints clock g.active t = none := by
            have old := s.timersOld
            cases clock with
            | none => rfl
            | some c =>
                have := old c rfl
                exact if_neg (by omega)
          rw [stopped]
          rfl
        · exact (Option.or_none ..).symm
  attached := by
    intro n
    cases painted with
    | none =>
        show g.attached n = if n = g.fresh then none else _
        rw [s.attached]
        split
        · rename_i active
          rw [if_neg (active ▸ Nat.ne_of_lt s.screenOld)]
          exact (if_pos active).symm
        · rename_i gone
          split
          · rfl
          · exact (if_neg gone).symm
    | some widget =>
        show Function.update g.attached g.fresh _ n = _
        rw [Function.update_apply, s.attached]
        rfl
  apart := by
    intro c isClock c' isNew
    obtain ⟨w, _, rfl⟩ := Option.map_eq_some_iff.mp isNew
    have := s.timersOld c isClock
    show c.1 ≠ g.fresh + 2
    omega

/-- Only which groups there are matters. -/
theorem congr (s : Settled g plan owned clock) {others : List Nat}
    (same : ∀ k, k ∈ owned ↔ k ∈ others) : Settled g plan others clock :=
  { s with
    groups := fun k => (s.groups k).trans
      (ite_congr (propext (same k)) (fun _ => rfl) fun _ => rfl)
    keys := fun k bound => (same k).mp (s.keys k bound)
    groupsOld := fun k mine => s.groupsOld k ((same k).mpr mine) }

/-- When its screen has gone, the group of the keyboard is empty too. -/
theorem groups_left (s : Settled g plan owned clock) (k : Nat) :
    (g.groups k).map (·.filter fun h => h.screen ≠ g.active) =
      if k ∈ owned then some [] else none := by
  rw [s.groups]
  split
  · split
    · exact congrArg some (plan.handles_filter_self g.active)
    · rfl
  · rfl

variable [DecidableEq σ]

/-- **To another screen**, with a group of its own. -/
theorem present (s : Settled g plan owned clock) {plan' : Plan σ} {painted : Option σ}
    (onScreen : ∀ w ∈ painted, w ∈ plan'.widgets) {old : Option Nat}
    (owns : ∀ k ∈ old, k ∈ owned) :
    ∃ g', g.present plan' painted old = some (g.fresh, g.fresh + 1, g') ∧ g'.active = g.fresh ∧
      g'.keys = some (g.fresh + 1) ∧ g.fresh < g'.fresh ∧
      Settled g' plan' ((g.fresh + 1) :: owned.filter fun k => old ≠ some k)
        (painted.map fun w => (g.fresh + 2, w)) := by
  have older : g.active ≠ g.fresh := Nat.ne_of_lt s.screenOld
  have loads := (s.opening plan' painted).load
  have left (k : Nat) : ((g.built plan' painted).groups k).map
      (·.filter fun h => h.screen ≠ g.active) =
        if k = g.fresh + 1 then some (plan'.handles g.fresh)
        else if k ∈ owned then some [] else none := by
    show (Function.update g.groups (g.fresh + 1) _ k).map _ = _
    rw [Function.update_apply]
    split
    · exact congrArg some (plan'.handles_filter_other older.symm)
    · exact s.groups_left k
  have other : old ≠ some (g.fresh + 1) := by
    intro same
    have := s.groupsOld _ (owns _ same)
    omega
  have held : ∀ k ∈ old, (((g.built plan' painted).groups k).map
      (·.filter fun h => h.screen ≠ g.active)).isSome = true := by
    intro k isOld
    have notNew : ¬ k = g.fresh + 1 := fun new => other (new ▸ isOld)
    rw [left, if_neg notNew, if_pos (owns k isOld)]
    rfl
  have swaps := Gui.swap_eq loads ((left _).trans (if_pos rfl)) other held
  refine ⟨_, Gui.present_eq (Gui.build_eq g onScreen) swaps, rfl, rfl,
    Nat.lt_add_right _ (Nat.lt_add_of_pos_right (by decide)), ?_⟩
  refine
    { screens := fun _ => rfl, groups := ?_, keys := ?_, timers := fun _ => rfl
      attached := fun _ => rfl, painted := ?_, screenOld := ?_, groupsOld := ?_, timersOld := ?_ }
  · intro k
    show (if old = some k then none else ((g.built plan' painted).groups k).map _) =
      if k ∈ (g.fresh + 1) :: owned.filter (fun k => old ≠ some k) then
        some (if some (g.fresh + 1) = some k then plan'.handles g.fresh else []) else none
    by_cases new : k = g.fresh + 1
    · rw [new, if_neg other, if_pos List.mem_cons_self, if_pos rfl]
      exact (left _).trans (if_pos rfl)
    · have notNew : ¬ some (g.fresh + 1) = some k := fun same => new (Option.some.inj same).symm
      have kept : k ∈ (g.fresh + 1) :: owned.filter (fun k => old ≠ some k) ↔
          k ∈ owned ∧ ¬ old = some k := by
        rw [List.mem_cons, List.mem_filter, decide_eq_true_eq, or_iff_right new]
      rw [if_neg notNew, ite_congr (propext kept) (fun _ => rfl) fun _ => rfl]
      by_cases isOld : old = some k
      · rw [if_pos isOld, if_neg fun still => still.2 isOld]
      · rw [if_neg isOld]
        refine (left k).trans ((if_neg new).trans ?_)
        exact ite_congr (propext (and_iff_left isOld).symm) (fun _ => rfl) fun _ => rfl
  · rintro k ⟨⟩
    exact List.mem_cons_self
  · intro c isClock
    obtain ⟨w, isPainted, rfl⟩ := Option.map_eq_some_iff.mp isClock
    exact onScreen w isPainted
  · exact Nat.lt_add_right _ (Nat.lt_add_of_pos_right (by decide))
  · intro k mem
    show k < g.fresh + 2 + painted.toList.length
    rcases List.mem_cons.mp mem with rfl | kept
    · omega
    · have := s.groupsOld k (List.mem_filter.mp kept).1
      omega
  · intro c isClock
    obtain ⟨w, isPainted, rfl⟩ := Option.map_eq_some_iff.mp isClock
    show g.fresh + 2 < g.fresh + 2 + painted.toList.length
    rw [isPainted, Option.toList_some, List.length_singleton]
    omega

omit [DecidableEq σ] in
/-- To another screen that takes no keys. -/
theorem presentBare (s : Settled g plan owned clock) (widgets : List σ) :
    ∃ g', g.presentBare widgets = some (g.fresh, g') ∧ g'.active = g.fresh ∧ g'.keys = g.keys ∧
      g.fresh < g'.fresh ∧ Settled g' (.bare widgets) owned none := by
  let built : Gui σ := { g with
    screens := Function.update g.screens g.fresh (some widgets)
    fresh := g.fresh + 1 }
  have grouped := s.opening (.bare widgets) none
  have same : (g.built (.bare widgets) none).screens = built.screens := by
    show Function.update g.screens g.fresh (some (Plan.bare widgets).widgets) = _
    rw [Plan.widgets_bare]
  have opening : Opening built g.fresh plan.widgets widgets clock none :=
    { other := grouped.other
      screens := by
        intro n
        rw [← same, grouped.screens, Plan.widgets_bare]
        rfl
      timers := grouped.timers
      attached := grouped.attached
      apart := grouped.apart }
  refine ⟨_, Gui.presentBare_eq opening.load, rfl, rfl, Nat.lt_succ_self _, ?_⟩
  refine
    { screens := ?_, groups := ?_, keys := s.keys, timers := fun _ => rfl, attached := fun _ => rfl
      painted := by rintro c ⟨⟩
      screenOld := Nat.lt_succ_self _
      groupsOld := fun k mine => Nat.lt_succ_of_lt (s.groupsOld k mine)
      timersOld := by rintro c ⟨⟩ }
  · rw [Plan.widgets_bare]
    exact fun _ => rfl
  · intro k
    rw [Plan.handles_bare]
    refine (s.groups_left k).trans ?_
    split
    · rw [ite_self]
    · rfl

omit [DecidableEq σ] in
/-- The widgets that are there. -/
theorem valid_iff (s : Settled g plan owned clock) {h : Handle σ} :
    g.Valid h ↔ h.screen = g.active ∧ h.widget ∈ plan.widgets := by
  unfold Gui.Valid
  rw [s.screens]
  split
  · rename_i active
    exact ⟨fun mem => ⟨active, mem⟩, And.right⟩
  · rename_i gone
    exact ⟨fun mem => absurd mem List.not_mem_nil, fun both => absurd both.1 gone⟩

omit [DecidableEq σ] in
/-- A timer paints a widget that is there. -/
theorem valid_of_timer (s : Settled g plan owned clock) {timer : Nat} {h : Handle σ}
    (ticks : g.timers timer = some h) : g.Valid h := by
  rw [s.timers] at ticks
  have painted := s.painted
  cases clock with
  | none => cases ticks
  | some c =>
      cases (Option.ite_none_right_eq_some.mp ticks).2
      exact s.valid_iff.mpr ⟨rfl, painted c rfl⟩

omit [DecidableEq σ] in
/-- Widgets are deleted. -/
theorem delete (s : Settled g plan owned clock) (goes : σ → Bool)
    (stays : ∀ c ∈ clock, goes c.2 = false) :
    ∃ g', g.delete g.active goes = some g' ∧ g'.active = g.active ∧ g'.keys = g.keys ∧
      g'.fresh = g.fresh ∧ Settled g' (plan.without goes) owned clock := by
  have here : g.screens g.active = some plan.widgets := (s.screens _).trans (if_pos rfl)
  have deletes : g.delete g.active goes = some { g with
      screens := Function.update g.screens g.active (some (plan.widgets.filter fun w => !goes w))
      groups := fun k =>
        (g.groups k).map (·.filter fun h => !(h.screen = g.active ∧ goes h.widget)) } := by
    rw [Gui.delete, here]
    rfl
  refine ⟨_, deletes, rfl, rfl, rfl, { s with screens := ?_, groups := ?_, painted := ?_ }⟩
  · intro n
    show Function.update g.screens g.active _ n = _
    rw [Function.update_apply, s.screens, plan.widgets_without]
    split <;> rfl
  · intro k
    show (g.groups k).map _ = _
    rw [s.groups, plan.handles_without]
    split
    · split <;> rfl
    · rfl
  · intro c isClock
    rw [plan.widgets_without]
    exact List.mem_filter.mpr ⟨s.painted c isClock, by rw [stays c isClock]; rfl⟩

/-- Widgets are added, those that take keys to the group of the keyboard. -/
theorem extend (s : Settled g plan owned clock) {group : Nat} (mine : g.keys = some group)
    (more : Plan σ) :
    ∃ g', g.createAll g.active group more = some g' ∧ g'.active = g.active ∧ g'.keys = g.keys ∧
      g'.fresh = g.fresh ∧ Settled g' (plan ++ more) owned clock := by
  have here : g.screens g.active = some plan.widgets := (s.screens _).trans (if_pos rfl)
  have isOwned := s.keys group mine
  have held : g.groups group = some (plan.handles g.active) := by
    rw [s.groups, if_pos isOwned, if_pos mine]
  refine ⟨_, Gui.createAll_eq here held more, rfl, rfl, rfl,
    { s with screens := ?_, groups := ?_, painted := ?_ }⟩
  · intro n
    show Function.update g.screens g.active _ n = _
    rw [Function.update_apply, s.screens, Plan.widgets_append]
    split <;> rfl
  · intro k
    show Function.update g.groups group _ k =
      if k ∈ owned then some (if g.keys = some k then _ else []) else none
    rw [Function.update_apply, s.groups, mine, Plan.handles_append]
    by_cases same : k = group
    · rw [if_pos same, same, if_pos isOwned, if_pos rfl]
    · have other : ¬ some group = some k := fun eq => same (Option.some.inj eq).symm
      rw [if_neg same, if_neg other, if_neg other]
  · intro c isClock
    rw [Plan.widgets_append]
    exact List.mem_append_left _ (s.painted c isClock)

end Settled

end Toolkit
