/-
**SGR lists with 256-colour and direct-colour groups.**

A group `38;5;n` or `38;2;r;g;b` names a colour the terminal does not have; its operands are no SGR
codes. `term_apply_sgr` knows no groups: it skips the 38 and the 5 or 2, which are no implemented
codes, and takes each operand for one.

An implemented code sets some of five slots (`sets`): three attributes and two colours. What a list
of parameters leaves in a slot is what its last parameter that sets it sets (`read_sgrParams`), so
the groups do no harm exactly if their operands are never the last to change a slot: `sgrGroups_iff`.
-/

import Tab5RemoteTerminal.Library.LastWrite
import Tab5RemoteTerminal.Terminal.Control

namespace Tab5

open LastWrite

/-! ### The lists -/

/-- The codes `term_apply_sgr` has a case for. -/
def sgrCodes : List Nat :=
  [0, 1, 4, 7, 22, 24, 27, 30, 31, 32, 33, 34, 35, 36, 37, 39, 40, 41, 42, 43, 44, 45, 46, 47, 49,
    90, 91, 92, 93, 94, 95, 96, 97, 100, 101, 102, 103, 104, 105, 106, 107]

/-- Foreground or background. -/
inductive Layer where
  | fg
  | bg
deriving DecidableEq, Repr

/-- An implemented code, or a group: `38;5;n` or `38;2;r;g;b`, with 48 for the background. -/
inductive SgrItem where
  | code (p : Nat) (implemented : p ∈ sgrCodes)
  | indexed (layer : Layer) (n : UInt8)
  | direct (layer : Layer) (r g b : UInt8)
deriving DecidableEq

namespace SgrItem

def selector : Layer → Nat
  | .fg => 38
  | .bg => 48

/-- The parameters of an item. -/
def params : SgrItem → List Nat
  | .code p _ => [p]
  | .indexed layer n => [selector layer, 5, n.toNat]
  | .direct layer r g b => [selector layer, 2, r.toNat, g.toNat, b.toNat]

/-- What is left of an item when the groups are removed. -/
def codes : SgrItem → List Nat
  | .code p _ => [p]
  | _ => []

/-- The layer a group names. -/
def layer? : SgrItem → Option Layer
  | .code _ _ => none
  | .indexed layer _ => some layer
  | .direct layer _ _ _ => some layer

/-- `CSI … m`. -/
def sequence (items : List SgrItem) : List UInt8 := csiSequence (paramText (items.flatMap params)) 0x6D

end SgrItem

open SgrItem

/-! ### Slots -/

inductive SgrSlot where
  | bold
  | underline
  | reverse
  | colour (layer : Layer)
deriving DecidableEq, Repr

/-- A slot of a rendition; an attribute as its bit. -/
def SgrSlot.read : SgrSlot → Rendition → UInt8
  | .bold, r => r.attrs &&& attrBold
  | .underline, r => r.attrs &&& attrUnderl
  | .reverse, r => r.attrs &&& attrReverse
  | .colour .fg, r => r.fg
  | .colour .bg, r => r.bg

/-- What a parameter sets a slot to. -/
def sets (slot : SgrSlot) (p : Nat) : Option UInt8 :=
  match slot with
  | .bold => if p = 1 then some attrBold else if p = 0 ∨ p = 22 then some 0 else none
  | .underline => if p = 4 then some attrUnderl else if p = 0 ∨ p = 24 then some 0 else none
  | .reverse => if p = 7 then some attrReverse else if p = 0 ∨ p = 27 then some 0 else none
  | .colour .fg =>
      if 30 ≤ p ∧ p ≤ 37 then some (UInt8.ofNat (p - 30))
      else if 90 ≤ p ∧ p ≤ 97 then some (UInt8.ofNat (p - 90 + 8))
      else if p = 0 ∨ p = 39 then some defaultFg
      else none
  | .colour .bg =>
      if 40 ≤ p ∧ p ≤ 47 then some (UInt8.ofNat (p - 40))
      else if 100 ≤ p ∧ p ≤ 107 then some (UInt8.ofNat (p - 100 + 8))
      else if p = 0 ∨ p = 49 then some defaultBg
      else none

def renditionOf (t : Terminal) : Rendition := ⟨t.curFg, t.curBg, t.curAttrs⟩

/-- A group names the slot. -/
def Named (items : List SgrItem) (slot : SgrSlot) : Prop :=
  ∃ item ∈ items, ∃ layer, item.layer? = some layer ∧ slot = .colour layer

/-- A parameter that is not missing. -/
def sgrNumber (r : Rendition) (p : Nat) : Rendition := sgrParam r p

/-- The list with its groups removed, applied: the codes that are left, one after the other. No
codes left of a list of groups alone change nothing; the empty list of `CSI m` is a reset. -/
def withoutGroups (r : Rendition) (items : List SgrItem) : Rendition :=
  if items = [] then defaultRendition
  else (items.flatMap codes).foldl sgrNumber r

/-- Attributes, and colours that no group names, end up as if the groups were removed. -/
def AsIfRemoved (t : Terminal) (items : List SgrItem) : Prop :=
  ∀ slot, ¬ Named items slot →
    slot.read (renditionOf (terminalFeed t (sequence items))) =
      slot.read (withoutGroups (renditionOf t) items)

/-- The last parameter of the whole list that sets a slot, operands included, sets it to what the
last code sets it to, or, if no code does, to what it is already. -/
def OperandsHarmless (t : Terminal) (items : List SgrItem) : Prop :=
  ∀ slot, ¬ Named items slot → ∀ value, lastWrite (sets slot) (items.flatMap params) = some value →
    value = (lastWrite (sets slot) (items.flatMap codes)).getD (slot.read (renditionOf t))

/-! ### What a parameter does to a slot -/

/-- A bit that is set. -/
theorem setBit_same (a bit : UInt8) : (a ||| bit) &&& bit = bit := by
  rw [← UInt8.toBitVec_inj]
  ext i
  simpa using Or.inr

/-- Another bit beside it. -/
theorem setBit_other {bit other : UInt8} (apart : bit &&& other = 0) (a : UInt8) :
    (a ||| bit) &&& other = a &&& other := by
  have distributes : (a ||| bit) &&& other = (a &&& other) ||| (bit &&& other) := by
    rw [← UInt8.toBitVec_inj]
    exact BitVec.and_or_distrib_right
  rw [distributes, apart, UInt8.or_zero]

/-- A bit that is cleared. -/
theorem clearBit_same {bit : UInt8} (apart : ~~~bit &&& bit = 0) (a : UInt8) :
    a &&& ~~~bit &&& bit = 0 := by
  rw [UInt8.and_assoc, apart, UInt8.and_zero]

/-- Another bit beside it. -/
theorem clearBit_other {bit other : UInt8} (apart : ~~~bit &&& other = other) (a : UInt8) :
    a &&& ~~~bit &&& other = a &&& other := by
  rw [UInt8.and_assoc, apart]

/-- **One parameter** sets its slots and leaves the others alone. -/
theorem read_sgrNumber (slot : SgrSlot) (r : Rendition) (p : Nat) :
    slot.read (sgrNumber r p) = (sets slot p).getD (slot.read r) := by
  have value : (if (p : Int) < 0 then 0 else (p : Int)) = p := if_neg (by omega)
  let SetsIt (after : Rendition) : Prop := slot.read after = (sets slot p).getD (slot.read r)
  unfold sgrNumber sgrParam
  rw [value]
  dsimp only
  -- One goal for each branch of the loop's body, then one for each slot.
  repeat' refine iteInduction (motive := SetsIt) (fun _ => ?_) fun _ => ?_
  all_goals
    show slot.read _ = (sets slot p).getD (slot.read r)
    rcases slot with _ | _ | _ | ⟨_ | _⟩
  all_goals
    unfold sets SgrSlot.read
    dsimp only
    split_ifs
  all_goals first
    | omega
    | rfl
    | exact setBit_same _ _
    | exact setBit_other (by decide) _
    | exact clearBit_same (by decide) _
    | exact clearBit_other (by decide) _
    | exact congrArg UInt8.ofNat (by omega)

/-- **A list of parameters**, slot by slot. -/
theorem read_sgrParams (slot : SgrSlot) (r : Rendition) (ps : List Nat) :
    slot.read (ps.foldl sgrNumber r) = (lastWrite (sets slot) ps).getD (slot.read r) :=
  read_after (read_sgrNumber slot) r ps

/-! ### The sequence -/

theorem SgrItem.params_small (item : SgrItem) : ∀ p ∈ item.params, p < 10 ^ 3 := by
  have operand : ∀ c : UInt8, c.toNat < 10 ^ 3 := fun c => lt_trans c.toNat_lt (by decide)
  have codes : ∀ p ∈ sgrCodes, p < 10 ^ 3 := by decide
  intro p member
  cases item with
  | code q implemented =>
      rw [List.mem_singleton.mp member]
      exact codes q implemented
  | indexed layer n =>
      simp only [params, List.mem_cons, List.not_mem_nil, or_false] at member
      rcases member with rfl | rfl | rfl
      · cases layer <;> decide
      · decide
      · exact operand n
  | direct layer r g b =>
      simp only [params, List.mem_cons, List.not_mem_nil, or_false] at member
      rcases member with rfl | rfl | rfl | rfl | rfl
      · cases layer <;> decide
      · decide
      · exact operand r
      · exact operand g
      · exact operand b

theorem SgrItem.params_ne_nil (item : SgrItem) : item.params ≠ [] := by
  cases item <;> simp [params]

/-- **An SGR sequence** applies its parameters one by one. -/
theorem renditionOf_sequence {t : Terminal} (normal : t.state = .normal) {items : List SgrItem}
    (few : (items.flatMap params).length ≤ 16) (nonempty : items ≠ []) :
    renditionOf (terminalFeed t (sequence items)) =
      (items.flatMap params).foldl sgrNumber (renditionOf t) := by
  have small : ∀ p ∈ items.flatMap params, p < 10 ^ 3 := by
    intro p member
    obtain ⟨item, _, inItem⟩ := List.mem_flatMap.mp member
    exact item.params_small p inItem
  have short : (paramText (items.flatMap params)).length ≤ csiBufLen - 1 := by
    have text := paramText_length small
    unfold csiBufLen
    omega
  have someParams : (items.flatMap params).map Nat.cast ≠ ([] : List Int) := by
    obtain ⟨item, rest, shape⟩ := List.exists_cons_of_ne_nil nonempty
    simp [shape, item.params_ne_nil]
  rw [SgrItem.sequence, terminalFeed_csiSequence normal (paramText_fields _) short (by decide) (by decide),
    parseParams_paramText few fun p member => lt_trans (small p member) (by decide)]
  show renditionOf (termApplySgr (atFinal t _) _) = _
  rw [termApplySgr, if_neg someParams, List.foldl_map]
  rfl

theorem SgrItem.codes_subset (item : SgrItem) : item.codes ⊆ item.params := by
  cases item with
  | code p implemented => exact fun _ member => member
  | _ => exact List.nil_subset _

/-- What no parameter sets, no code sets. -/
theorem lastWrite_codes {slot : SgrSlot} {items : List SgrItem}
    (unset : lastWrite (sets slot) (items.flatMap params) = none) :
    lastWrite (sets slot) (items.flatMap codes) = none := by
  rw [lastWrite_eq_none] at unset ⊢
  intro p member
  obtain ⟨item, inList, inItem⟩ := List.mem_flatMap.mp member
  exact unset p (List.mem_flatMap.mpr ⟨item, inList, item.codes_subset inItem⟩)

/-- **When the operands of extended colours are not taken for attributes**, or do no harm. -/
theorem sgrGroups_iff (t : Terminal) (normal : t.state = .normal) (items : List SgrItem)
    (few : (items.flatMap params).length ≤ 16) : AsIfRemoved t items ↔ OperandsHarmless t items := by
  by_cases empty : items = []
  · subst empty
    have reset : renditionOf (terminalFeed t (sequence [])) = defaultRendition := by
      rw [SgrItem.sequence, terminalFeed_csiSequence normal (by decide) (by decide) (by decide) (by decide)]
      rfl
    refine iff_of_true (fun slot _ => ?_) fun slot _ value set => by cases set
    rw [reset]
    rfl
  · have slotwise : ∀ slot : SgrSlot, slot.read (renditionOf (terminalFeed t (sequence items))) =
        slot.read (withoutGroups (renditionOf t) items) ↔
        ∀ value, lastWrite (sets slot) (items.flatMap params) = some value → value =
          (lastWrite (sets slot) (items.flatMap codes)).getD (slot.read (renditionOf t)) := by
      intro slot
      rw [renditionOf_sequence normal few empty, withoutGroups, if_neg empty, read_sgrParams,
        read_sgrParams]
      cases last : lastWrite (sets slot) (items.flatMap params) with
      | none =>
          rw [lastWrite_codes last]
          exact iff_of_true rfl fun _ impossible => by cases impossible
      | some value =>
          constructor
          · intro same other isLast
            rw [← Option.some.inj isLast]
            exact same
          · exact fun same => same value rfl
    exact forall_congr' fun slot => imp_congr_right fun _ => slotwise slot

/-- Bold, then colour 208: no operand is an implemented code. -/
theorem sgrGroups_iff_orange :
    AsIfRemoved terminalCreate [.code 1 (by decide), .indexed .fg 208] :=
  (sgrGroups_iff terminalCreate rfl [.code 1 (by decide), .indexed .fg 208] (by decide)).mpr (by
    intro slot _ value last
    rcases slot with _ | _ | _ | ⟨_ | _⟩
    · exact (Option.some.inj last).symm
    all_goals cases (show none = some value from last))

/-- Bold, then colour 4: the text is underlined. -/
theorem sgrGroups_fails :
    ¬ ∀ (t : Terminal) (items : List SgrItem), t.state = .normal →
      (items.flatMap params).length ≤ 16 → AsIfRemoved t items := by
  intro removed
  have notNamed : ¬ Named [.code 1 (by decide), .indexed .fg 4] .underline := by
    rintro ⟨_, _, _, _, impossible⟩
    cases impossible
  have underline := removed terminalCreate [.code 1 (by decide), .indexed .fg 4] rfl (by decide)
    .underline notNamed
  exact absurd underline (by decide +kernel)

end Tab5
