/-
**Which sequences are consumed whole.**

The grammar of OSC strings and of control sequences against the parser of `term_putc`:

* `osc_restores_iff`: an OSC string leaves the terminal exactly as it was if and only if BEL ends
  it. `case TSTATE_OSC` takes the first byte of ST for the whole terminator, and the backslash is
  printed.
* `csi_discarded_iff`: a control sequence is consumed and, unless implemented, changes nothing if
  and only if it is `Readable`. `case TSTATE_CSI` takes any byte other than a digit, a `;` or a
  leading `?` for the final byte, so an intermediate byte or one of `: < = >` ends the sequence
  early and the rest of it is printed.

`terminalFeed_sequence` is the common step: the bytes up to the one taken for the final byte.
-/

import Mathlib.Data.List.TakeWhile
import Tab5RemoteTerminal.Terminal.Invariant

namespace Tab5

open CLoop

/-! ### Printing is visible -/

/-- No printed byte leaves the terminal as it was: the cursor moves or a wrap becomes pending. -/
theorem termPutcPrint_ne (t : Terminal) (c : UInt8) : termPutcPrint t c ≠ t := by
  intro same
  have pending := termPutcPrint_pendingWrap t c
  have col := putCell_curCol (autowrap t) c
  rw [same] at pending
  rw [show putCell (autowrap t) c = t from same] at col
  by_cases wrap : t.pendingWrap = true
  · rw [wrap, autowrap_curCol wrap] at pending
    exact absurd pending (by decide)
  · have clear : t.pendingWrap = false := by simpa using wrap
    rw [autowrap_of_not_pending clear] at pending col
    rw [clear] at pending
    rw [if_neg (of_decide_eq_false pending.symm)] at col
    unfold wrap32 at col
    omega

/-! ### OSC strings -/

/-- The two terminators of an OSC string. -/
inductive OscTerminator where
  | bel
  | st
deriving DecidableEq, Repr

def OscTerminator.bytes : OscTerminator → List UInt8
  | .bel => [0x07]
  | .st => [0x1B, 0x5C]

/-- `ESC ] payload terminator`. -/
def oscString (payload : List UInt8) (terminator : OscTerminator) : List UInt8 :=
  0x1B :: 0x5D :: (payload ++ terminator.bytes)

/-- The payload is swallowed. -/
theorem terminalFeed_payload {t : Terminal} (osc : t.state = .osc) {payload : List UInt8}
    (clean : ∀ c ∈ payload, c ≠ 0x07 ∧ c ≠ 0x1B) : terminalFeed t payload = t := by
  induction payload with
  | nil => rfl
  | cons c payload ih =>
      obtain ⟨notBel, notEsc⟩ := clean c List.mem_cons_self
      have here : termPutc t c = t := by
        rw [termPutc_osc osc, termPutcOsc, if_neg (by tauto)]
      rw [terminalFeed_cons, here]
      exact ih fun d member => clean d (List.mem_cons_of_mem _ member)

/-- **An OSC string restores the terminal exactly when BEL ends it.** -/
theorem osc_restores_iff (t : Terminal) (normal : t.state = .normal) (payload : List UInt8)
    (clean : ∀ c ∈ payload, c ≠ 0x07 ∧ c ≠ 0x1B) (terminator : OscTerminator) :
    terminalFeed t (oscString payload terminator) = t ↔ terminator = .bel := by
  have opened : terminalFeed t (oscString payload terminator) =
      terminalFeed { t with state := .osc } terminator.bytes := by
    rw [oscString, terminalFeed_cons, termPutc_escape normal, terminalFeed_cons]
    show terminalFeed { t with state := .osc } (payload ++ terminator.bytes) = _
    rw [terminalFeed_append, terminalFeed_payload rfl clean]
  have closed : ({ t with state := .normal } : Terminal) = t := by
    rw [← normal]
  rw [opened]
  cases terminator with
  | bel => exact ⟨fun _ => rfl, fun _ => closed⟩
  | st =>
      have leaked : terminalFeed { t with state := .osc } [0x1B, 0x5C] = termPutcPrint t 0x5C := by
        show termPutc { t with state := .normal } 0x5C = _
        rw [closed, termPutc_print normal (by decide)]
      constructor
      · intro same
        exact absurd (leaked.symm.trans same) (termPutcPrint_ne t 0x5C)
      · intro impossible
        cases impossible

theorem osc_restores_iff_title :
    terminalFeed terminalCreate (oscString [0x30, 0x3B, 0x61] .bel) = terminalCreate :=
  (osc_restores_iff terminalCreate rfl [0x30, 0x3B, 0x61] (by simp) .bel).mpr rfl

/-- `ESC ] 0;a ESC \` at a fresh terminal moves the cursor. -/
theorem osc_restores_fails :
    ¬ ∀ (t : Terminal) (payload : List UInt8) (terminator : OscTerminator), t.state = .normal →
      (∀ c ∈ payload, c ≠ 0x07 ∧ c ≠ 0x1B) →
      terminalFeed t (oscString payload terminator) = t := by
  intro restores
  have same := restores terminalCreate [0x30, 0x3B, 0x61] .st rfl (by simp)
  have col : (terminalFeed terminalCreate (oscString [0x30, 0x3B, 0x61] .st)).curCol = 1 := by
    decide +kernel
  rw [same] at col
  exact absurd col (by decide)

/-! ### Control sequences -/

/-- A control sequence of the ECMA-48 grammar. -/
structure ControlSequence where
  params : List UInt8
  intermediates : List UInt8
  final : UInt8
  paramsIn : ∀ c ∈ params, 0x30 ≤ c ∧ c ≤ 0x3F
  intermediatesIn : ∀ c ∈ intermediates, 0x20 ≤ c ∧ c ≤ 0x2F
  finalIn : 0x40 ≤ final ∧ final ≤ 0x7E

def ControlSequence.bytes (s : ControlSequence) : List UInt8 :=
  0x1B :: 0x5B :: (s.params ++ s.intermediates ++ [s.final])

/-- A byte `case TSTATE_CSI` stores: a digit or a `;`. -/
def isParam (c : UInt8) : Bool := isDigit c || c == 0x3B

/-- The final bytes `term_dispatch_csi` has a case for. -/
def handledFinals : List UInt8 := [0x41, 0x42, 0x43, 0x44, 0x48, 0x66, 0x4A, 0x4B, 0x6D, 0x72]

/-- The modes `term_set_private_mode` has a case for. -/
def handledModes : List Int := [1, 25, 47, 1047, 1049]

/-- The number a parameter spells. -/
def fieldValue (digits : List UInt8) : Int :=
  digits.foldl (fun value c => value * 10 + (c.toNat - 0x30)) 0

/-- The sequences the terminal implements: a handled final byte after digits and `;`, or, after
one `?`, `h` or `l` with a handled mode among the parameters. -/
def Implemented (s : ControlSequence) : Prop :=
  s.intermediates = [] ∧
    ((s.params.all isParam = true ∧ s.final ∈ handledFinals) ∨
      ∃ fields, s.params = 0x3F :: fields ∧ fields.all isParam = true ∧
        (s.final = 0x68 ∨ s.final = 0x6C) ∧
        ∃ field ∈ fields.splitOn 0x3B, fieldValue field ∈ handledModes)

/-- Nothing on the screen differs: cells, cursor, rendition, modes and region. -/
structure SameScreen (before after : Terminal) : Prop where
  cells : after.mainGrid = before.mainGrid ∧ after.altGrid = before.altGrid ∧
    after.scrollback = before.scrollback
  cursor : after.curRow = before.curRow ∧ after.curCol = before.curCol
  rendition : after.curFg = before.curFg ∧ after.curBg = before.curBg ∧
    after.curAttrs = before.curAttrs
  modes : after.appCursorKeys = before.appCursorKeys ∧
    after.cursorVisible = before.cursorVisible ∧ after.altActive = before.altActive ∧
    after.grid = before.grid
  region : after.scrollTop = before.scrollTop ∧ after.scrollBottom = before.scrollBottom

/-- The sequence ends in the normal state and, unless it is implemented, changes nothing. -/
def Discarded (s : ControlSequence) (t : Terminal) : Prop :=
  (terminalFeed t s.bytes).state = .normal ∧
    (¬ Implemented s → SameScreen t (terminalFeed t s.bytes))

/-- The bytes after the leading `?`s. -/
def ControlSequence.fields (s : ControlSequence) : List UInt8 := s.params.dropWhile (· == 0x3F)

/-- A private `h` or `l` among whose parameters, as `parse_params` reads the first 63 bytes, is a
handled mode. -/
def SetsMode (s : ControlSequence) : Prop :=
  s.params.head? = some 0x3F ∧ (s.final = 0x68 ∨ s.final = 0x6C) ∧
    ∃ mode ∈ parseParams 16 (s.fields.take (csiBufLen - 1)), mode ∈ handledModes

/-- The sequences the parser reads to their end and takes for what they are: no intermediate byte,
only digits and `;` after the leading `?`s, and no mode set that the parameters do not name. -/
def Readable (s : ControlSequence) : Prop :=
  s.intermediates = [] ∧ s.fields.all isParam = true ∧ (SetsMode s → Implemented s)

theorem isParam_low {c : UInt8} (param : isParam c = true) : 0x30 ≤ c := by
  simp only [isParam, isDigit, Bool.or_eq_true, Bool.and_eq_true, decide_eq_true_eq,
    beq_iff_eq] at param
  rcases param with ⟨low, _⟩ | rfl
  · exact low
  · decide

/-! ### Up to the byte taken for the final byte -/

/-- Leading `?`s are remembered as one flag. -/
theorem terminalFeed_marks {t : Terminal} (csi : t.state = .csi) (empty : t.csiBuf = [])
    (marks : List UInt8) (question : ∀ c ∈ marks, c = 0x3F) :
    terminalFeed t marks = { t with csiPrivate := t.csiPrivate || !marks.isEmpty } := by
  induction marks generalizing t with
  | nil =>
      rw [List.isEmpty_nil, Bool.not_true, Bool.or_false]
      rfl
  | cons c marks ih =>
      have here : termPutc t c = { t with csiPrivate := true } := by
        rw [termPutc_csi csi, termPutcCsi,
          if_pos ⟨question c List.mem_cons_self, by rw [empty]; rfl⟩]
      rw [terminalFeed_cons, here, ih (t := { t with csiPrivate := true }) csi empty
        fun d member => question d (List.mem_cons_of_mem _ member)]
      simp

/-- Digits and `;` are collected up to the length of the buffer; the others are dropped. -/
theorem terminalFeed_fields {t : Terminal} (csi : t.state = .csi)
    (len : t.csiBuf.length ≤ csiBufLen - 1) (fields : List UInt8)
    (params : fields.all isParam = true) :
    terminalFeed t fields = { t with csiBuf := (t.csiBuf ++ fields).take (csiBufLen - 1) } := by
  induction fields generalizing t with
  | nil =>
      rw [List.append_nil, List.take_of_length_le len]
      rfl
  | cons c fields ih =>
      rw [List.all_cons, Bool.and_eq_true] at params
      obtain ⟨param, rest⟩ := params
      have notMark : ¬ (c = 0x3F ∧ t.csiBuf.length = 0) := by
        rintro ⟨rfl, _⟩
        exact absurd param (by decide)
      have stored : isDigit c = true ∨ c = 0x3B := by
        simpa [isParam] using param
      by_cases room : t.csiBuf.length < csiBufLen - 1
      · have here : termPutc t c = { t with csiBuf := t.csiBuf ++ [c] } := by
          rw [termPutc_csi csi, termPutcCsi, if_neg notMark, if_pos stored, if_pos room]
        rw [terminalFeed_cons, here, ih (t := { t with csiBuf := t.csiBuf ++ [c] }) csi
          (by simp; omega) rest]
        simp
      · have here : termPutc t c = t := by
          rw [termPutc_csi csi, termPutcCsi, if_neg notMark, if_pos stored, if_neg room]
        have full : t.csiBuf.length = csiBufLen - 1 := by omega
        rw [terminalFeed_cons, here, ih csi len rest, List.take_append_of_le_length full.ge,
          List.take_append_of_le_length full.ge]

/-- The state a final byte is dispatched in. -/
def collected (t : Terminal) (marks fields : List UInt8) : Terminal :=
  { t with
    state := .normal
    csiBuf := fields.take (csiBufLen - 1)
    csiPrivate := !marks.isEmpty }

/-- **A control sequence up to the byte taken for its final byte**: the first one that is neither
a leading `?` nor a digit or `;`. -/
theorem terminalFeed_sequence {t : Terminal} (normal : t.state = .normal)
    {marks fields : List UInt8} (question : ∀ c ∈ marks, c = 0x3F)
    (params : fields.all isParam = true) {stop : UInt8} (notParam : isParam stop = false)
    (notMark : stop = 0x3F → fields ≠ []) (rest : List UInt8) :
    terminalFeed t (0x1B :: 0x5B :: (marks ++ fields ++ stop :: rest)) =
      terminalFeed (termDispatchCsi (collected t marks fields) stop) rest := by
  have opened := terminalFeed_marks (t := { t with state := .csi, csiBuf := [], csiPrivate := false })
    rfl rfl marks question
  have walked : terminalFeed { t with state := .csi, csiBuf := [], csiPrivate := false }
      (marks ++ fields) = { collected t marks fields with state := .csi } := by
    rw [terminalFeed_append, opened, terminalFeed_fields rfl (Nat.zero_le _) fields params]
    rfl
  rw [terminalFeed_introducer normal, terminalFeed_append, walked, terminalFeed_cons,
    termPutc_final rfl]
  · rfl
  · rintro (⟨mark, empty⟩ | digit | separator)
    · refine notMark mark ?_
      simpa [collected, csiBufLen] using empty
    · rw [isParam, digit] at notParam
      cases notParam
    · rw [separator] at notParam
      exact absurd notParam (by decide)

/-! ### What dispatching does not change -/

theorem csiFinal_other {final : UInt8} (other : final ∉ handledFinals) (t : Terminal)
    (params : List Int) : csiFinal t params final = t := by
  unfold csiFinal
  split
  all_goals first
    | rfl
    | exact absurd (by decide) other

theorem termSetPrivateMode_other {mode : Int} (other : mode ∉ handledModes) (t : Terminal)
    (enable : Bool) : termSetPrivateMode t mode enable = t := by
  simp only [handledModes, List.mem_cons, List.not_mem_nil, or_false, not_or] at other
  obtain ⟨notAppKeys, notVisible, not47, not1047, not1049⟩ := other
  rw [termSetPrivateMode, if_neg notAppKeys, if_neg notVisible, if_neg (by tauto)]

theorem setPrivateModes_other {modes : List Int} (other : ∀ mode ∈ modes, mode ∉ handledModes)
    (t : Terminal) (enable : Bool) : setPrivateModes t modes enable = t := by
  induction modes with
  | nil => rfl
  | cons mode modes ih =>
      have here : termSetPrivateMode t (if mode < 0 then 0 else mode) enable = t := by
        apply termSetPrivateMode_other
        split
        · decide
        · exact other mode List.mem_cons_self
      rw [setPrivateModes, List.foldl_cons, here]
      exact ih fun m member => other m (List.mem_cons_of_mem _ member)

/-- A byte dispatched to no case clears the pending wrap and nothing else. -/
theorem termDispatchCsi_other {t : Terminal} {final : UInt8}
    (other : t.csiPrivate = false → final ∉ handledFinals)
    (modes : t.csiPrivate = true → (final = 0x68 ∨ final = 0x6C) →
      ∀ mode ∈ csiParams t, mode ∉ handledModes) :
    termDispatchCsi t final = { t with pendingWrap := false } := by
  unfold termDispatchCsi
  dsimp only
  by_cases isPrivate : t.csiPrivate = true
  · rw [if_pos isPrivate]
    split
    · exact setPrivateModes_other (modes isPrivate ‹_›) _ _
    · rfl
  · rw [if_neg isPrivate]
    exact csiFinal_other (other (by simpa using isPrivate)) _ _

theorem collected_sameScreen (t : Terminal) (marks fields : List UInt8) :
    SameScreen t { collected t marks fields with pendingWrap := false } where
  cells := ⟨rfl, rfl, rfl⟩
  cursor := ⟨rfl, rfl⟩
  rendition := ⟨rfl, rfl, rfl⟩
  modes := ⟨rfl, rfl, rfl, rfl⟩
  region := ⟨rfl, rfl⟩

/-! ### Readable sequences -/

/-- The leading `?`s. -/
def ControlSequence.marks (s : ControlSequence) : List UInt8 := s.params.takeWhile (· == 0x3F)

theorem ControlSequence.marks_fields (s : ControlSequence) : s.marks ++ s.fields = s.params :=
  List.takeWhile_append_dropWhile

theorem ControlSequence.marks_question (s : ControlSequence) : ∀ c ∈ s.marks, c = 0x3F :=
  fun _ member => by simpa using List.mem_takeWhile_imp member

theorem ControlSequence.notParam (s : ControlSequence) : isParam s.final = false := by
  obtain ⟨low, high⟩ := s.finalIn
  simp only [isParam, isDigit, UInt8.le_iff_toNat_le, UInt8.toNat_ofNat, Bool.or_eq_false_iff,
    Bool.and_eq_false_iff, decide_eq_false_iff_not, beq_eq_false_iff_ne, ne_eq,
    ← UInt8.toNat_inj] at *
  omega

/-- A sequence that does not end early is dispatched by its final byte. -/
theorem terminalFeed_whole {s : ControlSequence} (noIntermediate : s.intermediates = [])
    (params : s.fields.all isParam = true) {t : Terminal} (normal : t.state = .normal) :
    terminalFeed t s.bytes = termDispatchCsi (collected t s.marks s.fields) s.final := by
  have notMark : s.final = 0x3F → s.fields ≠ [] := by
    intro mark
    exact absurd s.finalIn.1 (by rw [mark]; decide)
  rw [ControlSequence.bytes, noIntermediate, List.append_nil, ← s.marks_fields,
    terminalFeed_sequence normal s.marks_question params s.notParam notMark]
  rfl

theorem discarded_of_readable {s : ControlSequence} (readable : Readable s) {t : Terminal}
    (normal : t.state = .normal) : Discarded s t := by
  obtain ⟨noIntermediate, params, names⟩ := readable
  have fed := terminalFeed_whole noIntermediate params normal
  refine ⟨by rw [fed, (termDispatchCsi_ends _ _).2]; rfl, fun notImplemented => ?_⟩
  rw [fed, termDispatchCsi_other]
  · exact collected_sameScreen t s.marks s.fields
  · intro notPrivate handled
    have noMarks : s.marks = [] := by simpa [collected] using notPrivate
    refine notImplemented ⟨noIntermediate, Or.inl ⟨?_, handled⟩⟩
    rwa [← s.marks_fields, noMarks]
  · intro isPrivate setOrReset mode member handled
    have someMark : s.marks ≠ [] := by simpa [collected] using isPrivate
    refine notImplemented (names ⟨?_, setOrReset, mode, member, handled⟩)
    obtain ⟨c, marks, shape⟩ := List.exists_cons_of_ne_nil someMark
    rw [← s.marks_fields, shape, s.marks_question c (by rw [shape]; exact List.mem_cons_self)]
    rfl

/-! ### A sequence that ends early is printed -/

/-- A text printed from a state with the invariant keeps it, and the parser in the normal state. -/
theorem terminalFeed_text {t : Terminal} (inv : Invariant t) (normal : t.state = .normal)
    {text : List UInt8} (printable : ∀ c ∈ text, isPrintable c = true) :
    Invariant (terminalFeed t text) ∧ (terminalFeed t text).state = .normal ∧
      (terminalFeed t text).grid = t.grid := by
  induction text generalizing t with
  | nil => exact ⟨inv, normal, rfl⟩
  | cons c text ih =>
      have here := termPutc_print normal (printable c List.mem_cons_self)
      obtain ⟨_, _, _, _, _, _, _, _, _, same⟩ := termPutcPrint_touches t c
      have kept : Invariant (termPutcPrint t c) := inv.autowrap.putCell c
      have next := ih kept (by rw [same]; exact normal)
        fun d member => printable d (List.mem_cons_of_mem _ member)
      rw [same] at next
      rw [terminalFeed_cons, here, same]
      exact next

/-- On a blank screen, a printed text that ends in another byte than a blank shows. -/
theorem terminalFeed_text_shows {t : Terminal} (inv : Invariant t) (normal : t.state = .normal)
    (blank : ∀ i : Int, 0 ≤ i → i < gridCells → (t.activeGrid.load i).ch = 0x20)
    {text : List UInt8} (printable : ∀ c ∈ text, isPrintable c = true) {last : UInt8}
    (lastPrintable : isPrintable last = true) (notBlank : last ≠ 0x20) :
    ¬ SameScreen t (terminalFeed t (text ++ [last])) := by
  intro same
  obtain ⟨kept, stillNormal, pointer⟩ := terminalFeed_text inv normal printable
  have wrapped := kept.autowrap
  obtain ⟨index, low, high⟩ := wrapped.cursor.index
  have shown : terminalFeed t (text ++ [last]) = termPutcPrint (terminalFeed t text) last := by
    rw [terminalFeed_append]
    exact termPutc_print stillNormal lastPrintable
  have grids : (terminalFeed t (text ++ [last])).activeGrid = t.activeGrid := by
    obtain ⟨main, alt, _⟩ := same.cells
    rw [Terminal.activeGrid, Terminal.activeGrid, same.modes.2.2.2, main, alt]
  have cell := blank _ low high
  rw [← grids, shown, termPutcPrint, putCell_activeGrid, index,
    Block.load_store_same _ _ low high] at cell
  exact notBlank cell

/-- The parameter and intermediate bytes of a sequence. -/
theorem ControlSequence.body_range (s : ControlSequence) :
    ∀ c ∈ s.fields ++ s.intermediates, 0x20 ≤ c ∧ c ≤ 0x3F := by
  intro c member
  rcases List.mem_append.mp member with field | intermediate
  · obtain ⟨low, high⟩ := s.paramsIn c ((List.dropWhile_suffix _).subset field)
    exact ⟨UInt8.le_trans (by decide) low, high⟩
  · obtain ⟨low, high⟩ := s.intermediatesIn c intermediate
    exact ⟨low, UInt8.le_trans high (by decide)⟩

/-- After the leading `?`s comes no other. -/
theorem ControlSequence.body_head (s : ControlSequence) {c : UInt8} {rest : List UInt8}
    (body : s.fields ++ s.intermediates = c :: rest) : c ≠ 0x3F := by
  rintro rfl
  cases fields : s.fields with
  | nil =>
      rw [fields, List.nil_append] at body
      have high := (s.intermediatesIn 0x3F (by rw [body]; exact List.mem_cons_self)).2
      exact absurd high (by decide)
  | cons d tail =>
      rw [fields, List.cons_append, List.cons.injEq] at body
      have first := List.head?_dropWhile_not (· == 0x3F) s.params
      rw [show s.params.dropWhile (· == 0x3F) = d :: tail from fields, body.1] at first
      exact absurd first (by simp)

/-- **A sequence that ends early changes a blank screen**: the bytes after the one taken for the
final byte are printed, the real final byte last. -/
theorem leaks_of_early {s : ControlSequence}
    (early : (s.fields ++ s.intermediates).all isParam = false) :
    ¬ SameScreen terminalCreate (terminalFeed terminalCreate s.bytes) := by
  cases body : (s.fields ++ s.intermediates).dropWhile isParam with
  | nil =>
      rw [List.dropWhile_eq_nil_iff, ← List.all_eq_true, early] at body
      cases body
  | cons stop rest =>
      let fields := (s.fields ++ s.intermediates).takeWhile isParam
      have split : fields ++ stop :: rest = s.fields ++ s.intermediates := by
        rw [← body]
        exact List.takeWhile_append_dropWhile
      have range : ∀ c ∈ stop :: rest, 0x20 ≤ c ∧ c ≤ 0x3F := fun c member =>
        s.body_range c (by rw [← split]; exact List.mem_append_right _ member)
      have notParam : isParam stop = false := by
        simpa [body] using List.head?_dropWhile_not isParam (s.fields ++ s.intermediates)
      have notMark : stop = 0x3F → fields ≠ [] := by
        intro mark none
        rw [none, List.nil_append] at split
        exact s.body_head split.symm mark
      have unhandled : ∀ final : UInt8, 0x40 ≤ final → stop ≠ final := by
        rintro final high rfl
        exact absurd (UInt8.le_trans high (range _ List.mem_cons_self).2) (by decide)
      have bytes : s.bytes = 0x1B :: 0x5B :: (s.marks ++ fields ++ stop :: (rest ++ [s.final])) := by
        rw [ControlSequence.bytes, ← s.marks_fields, List.append_assoc s.marks, ← split]
        simp
      have fed := terminalFeed_sequence (t := terminalCreate) rfl s.marks_question
        (List.all_takeWhile (p := isParam)) notParam notMark (rest ++ [s.final])
      have ended : termDispatchCsi (collected terminalCreate s.marks fields) stop =
          { collected terminalCreate s.marks fields with pendingWrap := false } := by
        apply termDispatchCsi_other
        · intro _ handled
          have high : ∀ final ∈ handledFinals, 0x40 ≤ final := by simp [handledFinals]
          exact unhandled stop (high stop handled) rfl
        · rintro _ (set | reset)
          · exact absurd set (unhandled _ (by decide))
          · exact absurd reset (unhandled _ (by decide))
      have inv : Invariant { collected terminalCreate s.marks fields with pendingWrap := false } :=
        { terminalCreate_invariant with csiLen := List.length_take_le _ _ }
      have restPrintable : ∀ c ∈ rest, isPrintable c = true := by
        intro c member
        obtain ⟨low, high⟩ := range c (List.mem_cons_of_mem _ member)
        exact lowByte_printable low (UInt8.le_trans high (by decide))
      have finalPrintable : isPrintable s.final = true :=
        lowByte_printable (UInt8.le_trans (by decide) s.finalIn.1) s.finalIn.2
      have notBlank : s.final ≠ 0x20 := by
        intro blank
        exact absurd s.finalIn.1 (by rw [blank]; decide)
      have blank : ∀ i : Int, 0 ≤ i → i < gridCells →
          (terminalCreate.activeGrid.load i).ch = 0x20 := fun i low high =>
        congrArg TermCell.ch (terminalCreate_blank low high)
      intro same
      rw [bytes, fed, ended] at same
      exact terminalFeed_text_shows inv rfl blank restPrintable finalPrintable notBlank
        ⟨same.cells, same.cursor, same.rendition, same.modes, same.region⟩

/-! ### A mode set by mistake shows -/

/-- One of the flags a private mode sets has this value. -/
def SetTo (enable : Bool) (t : Terminal) : Prop :=
  t.appCursorKeys = enable ∨ t.cursorVisible = enable ∨ t.altActive = enable

theorem termSetPrivateMode_keeps {t : Terminal} {enable : Bool} (set : SetTo enable t) (mode : Int) :
    SetTo enable (termSetPrivateMode t mode enable) := by
  unfold termSetPrivateMode
  split_ifs
  · exact Or.inl rfl
  · exact Or.inr (Or.inl rfl)
  · exact Or.inr (Or.inr (setAltScreen_active t mode enable))
  · exact set

theorem termSetPrivateMode_sets {mode : Int} (handled : mode ∈ handledModes) (t : Terminal)
    (enable : Bool) : SetTo enable (termSetPrivateMode t mode enable) := by
  simp only [handledModes, List.mem_cons, List.not_mem_nil, or_false] at handled
  unfold termSetPrivateMode
  split_ifs with appKeys visible alt
  · exact Or.inl rfl
  · exact Or.inr (Or.inl rfl)
  · exact Or.inr (Or.inr (setAltScreen_active t mode enable))
  · tauto

theorem setPrivateModes_keeps {t : Terminal} {enable : Bool} (set : SetTo enable t)
    (modes : List Int) : SetTo enable (setPrivateModes t modes enable) := by
  unfold setPrivateModes
  induction modes generalizing t with
  | nil => exact set
  | cons mode modes ih => exact ih (termSetPrivateMode_keeps set _)

theorem setPrivateModes_sets {modes : List Int} {mode : Int} (member : mode ∈ modes)
    (handled : mode ∈ handledModes) (t : Terminal) (enable : Bool) :
    SetTo enable (setPrivateModes t modes enable) := by
  induction modes generalizing t with
  | nil => cases member
  | cons head modes ih =>
      rcases List.mem_cons.mp member with rfl | tail
      · have notNegative : ¬ mode < 0 := by
          have all : ∀ m ∈ handledModes, ¬ m < 0 := by decide
          exact all mode handled
        have here := termSetPrivateMode_sets handled t enable
        rw [setPrivateModes, List.foldl_cons, if_neg notNegative]
        exact setPrivateModes_keeps here modes
      · exact ih tail _

/-- A terminal whose modes are all set the other way. -/
def modesSet (value : Bool) : Terminal :=
  { terminalCreate with
    appCursorKeys := value
    cursorVisible := value
    altActive := value
    grid := if value then .altGrid else .mainGrid }

/-- **A handled mode among the parameters as read changes some state.** -/
theorem changes_of_setsMode {s : ControlSequence} (noIntermediate : s.intermediates = [])
    (params : s.fields.all isParam = true) (sets : SetsMode s) :
    ∃ t : Terminal, t.state = .normal ∧ ¬ SameScreen t (terminalFeed t s.bytes) := by
  obtain ⟨question, setOrReset, mode, member, handled⟩ := sets
  let enable : Bool := decide (s.final = 0x68)
  refine ⟨modesSet !enable, rfl, fun same => ?_⟩
  have someMark : s.marks ≠ [] := by
    obtain ⟨tail, shape⟩ := List.head?_eq_some_iff.mp question
    simp [ControlSequence.marks, shape]
  have fed := terminalFeed_whole noIntermediate params (t := modesSet !enable) rfl
  have isPrivate : (collected (modesSet !enable) s.marks s.fields).csiPrivate = true := by
    simpa [collected] using someMark
  have done : SetTo enable (terminalFeed (modesSet !enable) s.bytes) := by
    rw [fed, termDispatchCsi]
    dsimp only
    rw [if_pos isPrivate, if_pos setOrReset]
    exact setPrivateModes_sets member handled _ _
  obtain ⟨appKeys, visible, active, _⟩ := same.modes
  rcases done with flag | flag | flag
  · rw [appKeys] at flag
    exact Bool.not_ne_self enable flag
  · rw [visible] at flag
    exact Bool.not_ne_self enable flag
  · rw [active] at flag
    exact Bool.not_ne_self enable flag

/-! ### The exact condition -/

theorem Implemented.params {s : ControlSequence} (implemented : Implemented s) :
    s.intermediates = [] ∧ s.fields.all isParam = true := by
  obtain ⟨noIntermediate, ⟨all, _⟩ | ⟨fields, shape, all, _⟩⟩ := implemented
  · rw [List.all_eq_true] at all ⊢
    exact ⟨noIntermediate, fun c member => all c ((List.dropWhile_suffix _).subset member)⟩
  · rw [List.all_eq_true] at all ⊢
    refine ⟨noIntermediate, fun c member => all c ?_⟩
    rw [ControlSequence.fields, shape, List.dropWhile_cons_of_pos (by rfl)] at member
    exact (List.dropWhile_suffix _).subset member

/-- **Which control sequences are consumed and discarded**, from every state of the terminal. -/
theorem csi_discarded_iff (s : ControlSequence) :
    (∀ t : Terminal, t.state = .normal → Discarded s t) ↔ Readable s := by
  constructor
  · intro discarded
    have whole : (s.fields ++ s.intermediates).all isParam = true := by
      by_contra early
      have leak := leaks_of_early (by simpa using early)
      have notImplemented : ¬ Implemented s := by
        intro implemented
        obtain ⟨noIntermediate, params⟩ := implemented.params
        rw [noIntermediate, List.append_nil] at early
        exact early params
      exact leak ((discarded terminalCreate rfl).2 notImplemented)
    rw [List.all_append, Bool.and_eq_true] at whole
    obtain ⟨params, intermediates⟩ := whole
    have noIntermediate : s.intermediates = [] := by
      cases shape : s.intermediates with
      | nil => rfl
      | cons c rest =>
          rw [shape, List.all_cons, Bool.and_eq_true] at intermediates
          have high := (s.intermediatesIn c (by rw [shape]; exact List.mem_cons_self)).2
          exact absurd (UInt8.le_trans (isParam_low intermediates.1) high) (by decide)
    refine ⟨noIntermediate, params, fun sets => ?_⟩
    by_contra notImplemented
    obtain ⟨t, normal, changed⟩ := changes_of_setsMode noIntermediate params sets
    exact changed ((discarded t normal).2 notImplemented)
  · exact fun readable t normal => discarded_of_readable readable normal

/-- `ESC [ > 4 ; 2 m`, xterm's modifyOtherKeys. -/
def modifyOtherKeys : ControlSequence where
  params := [0x3E, 0x34, 0x3B, 0x32]
  intermediates := []
  final := 0x6D
  paramsIn := by simp
  intermediatesIn := by simp
  finalIn := by decide

/-- At a fresh terminal, `4;2m` is printed. -/
theorem csi_discarded_fails :
    ¬ ∀ (s : ControlSequence) (t : Terminal), t.state = .normal → Discarded s t := by
  intro discarded
  have notImplemented : ¬ Implemented modifyOtherKeys := by
    rintro ⟨_, ⟨params, _⟩ | ⟨_, shape, _⟩⟩
    · exact absurd params (by decide)
    · cases shape
  have same := (discarded modifyOtherKeys terminalCreate rfl).2 notImplemented
  have col : (terminalFeed terminalCreate modifyOtherKeys.bytes).curCol = 4 := by decide +kernel
  rw [same.cursor.2] at col
  exact absurd col (by decide)

end Tab5
