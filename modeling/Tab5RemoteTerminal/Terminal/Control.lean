/-
**Control sequences with numbers in them.**

A control sequence without private marker whose parameters fit the buffer is performed as
`term_dispatch_csi` finds it: `terminalFeed_csiSequence`. What `parse_params` makes of its parameter
bytes:

* `parseParams_spelled`: of one number, in any spelling (`Spells`);
* `parseParams_paramText`: of a list of numbers in decimal.
-/

import Tab5RemoteTerminal.Library.JsonText
import Tab5RemoteTerminal.Terminal.Sequences

namespace Tab5

open CLoop
open Json (printNat)

/-- `ESC [ params final`. -/
def csiSequence (params : List UInt8) (final : UInt8) : List UInt8 :=
  0x1B :: 0x5B :: (params ++ [final])

/-- The terminal at the final byte of such a sequence. -/
def atFinal (t : Terminal) (params : List UInt8) : Terminal :=
  { t with state := .normal, csiBuf := params, csiPrivate := false, pendingWrap := false }

/-- **A control sequence without private marker**, performed. -/
theorem terminalFeed_csiSequence {t : Terminal} (normal : t.state = .normal) {params : List UInt8}
    (fields : params.all isParam = true) (short : params.length ≤ csiBufLen - 1) {final : UInt8}
    (notParam : isParam final = false) (notMark : final ≠ 0x3F) :
    terminalFeed t (csiSequence params final) =
      csiFinal (atFinal t params) (parseParams 16 params) final := by
  have fed : terminalFeed t (csiSequence params final) =
      termDispatchCsi (collected t [] params) final :=
    terminalFeed_sequence normal (List.forall_mem_nil _) fields notParam
      (fun mark => absurd mark notMark) []
  have whole : collected t [] params =
      { t with state := .normal, csiBuf := params, csiPrivate := false } := by
    rw [collected, List.take_of_length_le short]
    rfl
  rw [fed, whole]
  rfl

/-! ### Numbers -/

theorem isParam_of_isDigit {c : UInt8} (digit : isDigit c = true) : isParam c = true := by
  rw [isParam, digit, Bool.true_or]

theorem isDigit_range {c : UInt8} (digit : isDigit c = true) : 0x30 ≤ c.toNat ∧ c.toNat ≤ 0x39 := by
  simpa [isDigit, UInt8.le_iff_toNat_le] using digit

theorem isDigit_separator : isDigit 0x3B = false := by decide

theorem fieldValue_append (digits : List UInt8) (c : UInt8) :
    fieldValue (digits ++ [c]) = fieldValue digits * 10 + (c.toNat - 0x30) := by
  rw [fieldValue, List.foldl_append]
  rfl

theorem fieldValue_nonneg {digits : List UInt8} (all : ∀ c ∈ digits, isDigit c = true) :
    0 ≤ fieldValue digits := by
  induction digits using List.reverseRecOn with
  | nil => exact le_refl _
  | append_singleton digits c ih =>
      have digit := isDigit_range (all c (by simp))
      have before := ih fun d member => all d (List.mem_append_left _ member)
      rw [fieldValue_append]
      omega

/-- The accumulator does not wrap while the number is a C int. -/
theorem digitsValue_eq {digits : List UInt8} (all : ∀ c ∈ digits, isDigit c = true)
    (small : fieldValue digits < 2147483648) : digitsValue digits = fieldValue digits := by
  induction digits using List.reverseRecOn with
  | nil => rfl
  | append_singleton digits c ih =>
      have digit := isDigit_range (all c (by simp))
      have before : ∀ d ∈ digits, isDigit d = true :=
        fun d member => all d (List.mem_append_left _ member)
      have low := fieldValue_nonneg before
      rw [fieldValue_append] at small ⊢
      have value := ih before (by omega)
      unfold digitsValue at value ⊢
      have shifted : wrap32 (fieldValue digits * 10) = fieldValue digits * 10 :=
        wrap32_of_range (by omega) (by omega)
      rw [List.foldl_append, value, List.foldl_cons, List.foldl_nil, shifted,
        wrap32_of_range (by omega) (by omega)]

/-- A run of digits and what follows it. -/
theorem parseParams_digits (room : Nat) {digits rest : List UInt8} (nonempty : digits ≠ [])
    (all : ∀ c ∈ digits, isDigit c = true) (stops : ∀ c, rest.head? = some c → isDigit c = false) :
    parseParams (room + 1) (digits ++ rest) = digitsValue digits ::
      parseParams room (if rest.head? = some 0x3B then rest.tail else rest) := by
  obtain ⟨c, more, shape⟩ := List.exists_cons_of_ne_nil nonempty
  have notSeparator : c ≠ 0x3B := by
    rintro rfl
    exact absurd (all 0x3B (by rw [shape]; exact List.mem_cons_self)) (by decide)
  have ended : rest.takeWhile isDigit = [] ∧ rest.dropWhile isDigit = rest := by
    cases rest with
    | nil => exact ⟨rfl, rfl⟩
    | cons d rest => simp [stops d rfl]
  have taken : (digits ++ rest).takeWhile isDigit = digits := by
    rw [List.takeWhile_append_of_pos all, ended.1, List.append_nil]
  have dropped : (digits ++ rest).dropWhile isDigit = rest := by
    rw [List.dropWhile_append_of_pos all, ended.2]
  rw [shape] at taken dropped ⊢
  rw [List.cons_append] at taken dropped ⊢
  rw [parseParams, if_neg notSeparator]
  dsimp only
  rw [taken, dropped, if_neg (List.cons_ne_nil c more)]

/-- A run of digits at the end. -/
theorem parseParams_lastDigits (room : Nat) {digits : List UInt8} (nonempty : digits ≠ [])
    (all : ∀ c ∈ digits, isDigit c = true) :
    parseParams (room + 1) digits = [digitsValue digits] := by
  have parsed := parseParams_digits room nonempty all (fun c (head : [].head? = some c) => by simp at head)
  rw [List.append_nil] at parsed
  rw [parsed]
  cases room <;> rfl

/-- The bytes spell this number; none at all spell 0, as for a missing parameter. -/
structure Spells (digits : List UInt8) (n : Nat) : Prop where
  all : ∀ c ∈ digits, isDigit c = true
  fits : digits.length ≤ csiBufLen - 1
  value : fieldValue digits = n

theorem Spells.fields {digits : List UInt8} {n : Nat} (spells : Spells digits n) :
    digits.all isParam = true :=
  List.all_eq_true.mpr fun c member => isParam_of_isDigit (spells.all c member)

/-- **One number.** -/
theorem parseParams_spelled {digits : List UInt8} {n : Nat} (spells : Spells digits n)
    (small : n < 2147483648) : firstParam (parseParams 16 digits) = n := by
  by_cases none : digits = []
  · have zero := spells.value
    rw [none] at zero ⊢
    exact zero
  · have value := digitsValue_eq spells.all (by rw [spells.value]; omega)
    rw [parseParams_lastDigits 15 none spells.all, value, spells.value, firstParam,
      if_pos (Int.natCast_nonneg n)]

theorem firstParamOr1_spelled {digits : List UInt8} {n : Nat} (spells : Spells digits n)
    (small : n < 2147483648) : firstParamOr1 (parseParams 16 digits) = max n 1 := by
  rw [firstParamOr1, parseParams_spelled spells small]
  split <;> omega

/-! ### Decimal numbers -/

theorem isDigit_last {d : Nat} (small : d < 10) : isDigit (UInt8.ofNat (0x30 + d)) = true := by
  have value := Json.toNat_digit small
  simp only [isDigit, UInt8.le_iff_toNat_le, value, Bool.and_eq_true, decide_eq_true_eq,
    UInt8.toNat_ofNat]
  omega

theorem printNat_digits (n : Nat) : ∀ c ∈ printNat n, isDigit c = true := by
  induction n using Nat.strongRecOn with
  | ind n ih =>
      intro c member
      rw [printNat] at member
      split at member
      · rw [List.mem_singleton.mp member]
        exact isDigit_last ‹_›
      · rcases List.mem_append.mp member with before | last
        · exact ih (n / 10) (by omega) c before
        · rw [List.mem_singleton.mp last]
          exact isDigit_last (Nat.mod_lt n (by omega))

theorem fieldValue_printNat (n : Nat) : fieldValue (printNat n) = n := by
  induction n using Nat.strongRecOn with
  | ind n ih =>
      rw [printNat]
      split
      · rename_i small
        rw [← List.nil_append [_], fieldValue_append, Json.toNat_digit small]
        simp [fieldValue]
      · rw [fieldValue_append, ih (n / 10) (by omega), Json.toNat_digit (Nat.mod_lt n (by omega))]
        omega

theorem printNat_ne_nil (n : Nat) : printNat n ≠ [] := by
  rw [printNat]
  split <;> simp

/-- A number below a power of ten has no more digits than that. -/
theorem printNat_length {n places : Nat} (positive : 0 < places) (small : n < 10 ^ places) :
    (printNat n).length ≤ places := by
  induction places, positive using Nat.le_induction generalizing n with
  | base =>
      rw [printNat, if_pos (by omega)]
      exact le_refl _
  | succ places positive ih =>
      rw [printNat]
      split
      · exact Nat.succ_le_succ (Nat.zero_le _)
      · have shorter : n / 10 < 10 ^ places := by
          rw [Nat.div_lt_iff_lt_mul (by omega)]
          rwa [Nat.pow_succ] at small
        rw [List.length_append, List.length_singleton]
        exact Nat.succ_le_succ (ih shorter)

/-- Every C int has a spelling. -/
theorem printNat_spells {n : Nat} (small : n < 2147483648) : Spells (printNat n) n where
  all := printNat_digits n
  fits := by
    have short : (printNat n).length ≤ 10 := printNat_length (by omega) (by omega)
    exact short.trans (by decide)
  value := fieldValue_printNat n

/-- Numbers in decimal, `;` between them. -/
def paramText : List Nat → List UInt8
  | [] => []
  | [p] => printNat p
  | p :: q :: ps => printNat p ++ 0x3B :: paramText (q :: ps)

/-- **A list of numbers** that are C ints. -/
theorem parseParams_paramText {room : Nat} {params : List Nat} (fits : params.length ≤ room)
    (small : ∀ p ∈ params, p < 2147483648) :
    parseParams room (paramText params) = params.map Nat.cast := by
  induction params generalizing room with
  | nil => cases room <;> rfl
  | cons p ps ih =>
      obtain ⟨room, rfl⟩ : ∃ r, room = r + 1 := ⟨room - 1, by rw [List.length_cons] at fits; omega⟩
      have value : digitsValue (printNat p) = p := by
        have here := small p List.mem_cons_self
        rw [digitsValue_eq (printNat_digits p) (by rw [fieldValue_printNat]; omega),
          fieldValue_printNat]
      have rest := ih (Nat.le_of_succ_le_succ fits) fun q member =>
        small q (List.mem_cons_of_mem _ member)
      cases ps with
      | nil =>
          rw [paramText, parseParams_lastDigits room (printNat_ne_nil p) (printNat_digits p), value]
          rfl
      | cons q ps =>
          have stops : ∀ c, (0x3B :: paramText (q :: ps)).head? = some c → isDigit c = false := by
            rintro c head
            rw [← Option.some.inj head]
            exact isDigit_separator
          rw [paramText, parseParams_digits room (printNat_ne_nil p) (printNat_digits p) stops, value]
          exact congrArg _ rest

theorem paramText_fields (params : List Nat) : (paramText params).all isParam = true := by
  have digits : ∀ n, (printNat n).all isParam = true := fun n =>
    List.all_eq_true.mpr fun c member => isParam_of_isDigit (printNat_digits n c member)
  induction params with
  | nil => rfl
  | cons p ps ih =>
      cases ps with
      | nil => exact digits p
      | cons q ps =>
          rw [paramText, List.all_append, List.all_cons, ih, digits p]
          rfl

/-- Numbers of at most three digits: sixteen of them just fit the buffer. -/
theorem paramText_length {params : List Nat} (small : ∀ p ∈ params, p < 10 ^ 3) :
    (paramText params).length ≤ 4 * params.length - 1 := by
  induction params with
  | nil => exact le_refl _
  | cons p ps ih =>
      have here := printNat_length (by omega) (small p List.mem_cons_self)
      have rest := ih fun q member => small q (List.mem_cons_of_mem _ member)
      cases ps with
      | nil => exact here
      | cons q ps =>
          rw [paramText, List.length_append, List.length_cons]
          simp only [List.length_cons] at rest ⊢
          omega

end Tab5
