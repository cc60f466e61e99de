/-
**Escape sequences the terminal does not implement.**

`case TSTATE_ESC` takes one byte and is done, unless that byte is `[`, `]` or a charset designator.
So of an escape sequence with intermediate bytes the rest is printed, and the body of a control
string (DCS, SOS, PM, APC) is performed as text. Such a sequence is consumed whole exactly if it is a
charset designation with one byte to go, or a string in whose body nothing prints or moves the
cursor: `otherSequence_swallowed_iff`.

A body that does print leaves a mark that later text does not remove (`Inking.feed_marked`); one that
only moves the cursor takes two columns to one (`terminalFeed_merges`).
-/

import Tab5RemoteTerminal.Terminal.Region
import Tab5RemoteTerminal.Terminal.Sequences

namespace Tab5

/-! ### The sequences -/

/-- `ESC P`, `ESC X`, `ESC ^`, `ESC _`. -/
inductive StringIntroducer where
  | dcs
  | sos
  | pm
  | apc
deriving DecidableEq, Repr

def StringIntroducer.byte : StringIntroducer → UInt8
  | .dcs => 0x50
  | .sos => 0x58
  | .pm => 0x5E
  | .apc => 0x5F

/-- An escape sequence with intermediate bytes, or a control string. -/
inductive OtherSequence where
  | escape (first : UInt8) (more : List UInt8) (final : UInt8)
      (intermediatesIn : ∀ c ∈ first :: more, 0x20 ≤ c ∧ c ≤ 0x2F)
      (finalIn : 0x30 ≤ final ∧ final ≤ 0x7E)
  | string (introducer : StringIntroducer) (payload : List UInt8)
      (clean : ∀ c ∈ payload, c ≠ 0x1B ∧ c ≠ 0x07)

def OtherSequence.bytes : OtherSequence → List UInt8
  | .escape first more final _ _ => 0x1B :: first :: (more ++ [final])
  | .string introducer payload _ => 0x1B :: introducer.byte :: (payload ++ [0x1B, 0x5C])

/-- No cell has changed, the cursor has not moved, and the parser is back in its normal state. -/
structure Swallowed (t after : Terminal) : Prop where
  cells : after.mainGrid = t.mainGrid ∧ after.altGrid = t.altGrid ∧ after.scrollback = t.scrollback
  cursor : after.curRow = t.curRow ∧ after.curCol = t.curCol
  normal : after.state = .normal

/-- A byte that prints or feeds a line. -/
def marks (c : UInt8) : Bool := isPrintable c || c == 0x0A

/-- A byte that moves the cursor within its row. -/
def shifts (c : UInt8) : Bool := c == 0x0D || c == 0x08 || c == 0x09

/-- A charset designation with nothing between designator and final byte, or a control string in
whose body no byte prints or moves the cursor. -/
def Consumed : OtherSequence → Prop
  | .escape first more _ _ _ => (0x28 ≤ first ∧ first ≤ 0x2B) ∧ more = []
  | .string _ payload _ => ∀ c ∈ payload, marks c = false ∧ shifts c = false

/-! ### One byte of text -/

section Bytes

variable {t : Terminal} {c : UInt8}

theorem termPutc_ignored (normal : t.state = .normal) (notEscape : c ≠ 0x1B)
    (noMark : marks c = false) (noShift : shifts c = false) : termPutc t c = t := by
  simp only [marks, shifts, Bool.or_eq_false_iff, beq_eq_false_iff_ne] at noMark noShift
  obtain ⟨notPrintable, notLineFeed⟩ := noMark
  obtain ⟨⟨notReturn, notBack⟩, notTab⟩ := noShift
  rw [termPutc_normal normal, termPutcNormal, if_neg notEscape, if_neg notReturn,
    if_neg notLineFeed, if_neg notBack, if_neg notTab, if_neg (by simp [notPrintable])]

/-- A full-screen line feed. -/
theorem termLineFeed_row (bottom : t.scrollBottom = termRows - 1) (row : t.curRow < termRows) :
    (termLineFeed t).curRow = min (t.curRow + 1) (termRows - 1) := by
  rw [termLineFeed_nextRow row, nextRow, bottom]
  split <;> omega

theorem termPutcPrint_row (bottom : t.scrollBottom = termRows - 1) (row : t.curRow < termRows) :
    (termPutcPrint t c).curRow =
      if t.pendingWrap then min (t.curRow + 1) (termRows - 1) else t.curRow := by
  obtain ⟨_, _, _, _, put⟩ := putCell_touches (autowrap t) c
  rw [termPutcPrint, put]
  dsimp only
  split
  · have home : (termLineFeed { t with curCol := 0 }).curRow = min (t.curRow + 1) (termRows - 1) :=
      termLineFeed_row (t := { t with curCol := 0 }) bottom row
    rw [autowrap_of_pending ‹_›]
    exact home
  · rw [autowrap_of_not_pending (by simpa using ‹¬ t.pendingWrap = true›)]

/-! ### Text that leaves a mark -/

/-- The cursor has left the first row, or a cell has an attribute. -/
def Marked (t : Terminal) : Prop :=
  1 ≤ t.curRow ∨ ∃ i : Int, (0 ≤ i ∧ i < gridCells) ∧ (t.activeGrid.load i).attrs ≠ 0

/-- Text is written with an attribute here, on a screen that scrolls as a whole. -/
structure Inking (t : Terminal) : Prop where
  inside : InRegion t
  whole : t.scrollTop = 0 ∧ t.scrollBottom = termRows - 1
  ink : t.curAttrs ≠ 0

theorem Inking.row (inking : Inking t) : 0 ≤ t.curRow ∧ t.curRow < termRows := by
  obtain ⟨low, high⟩ := inking.inside.row
  obtain ⟨top, bottom⟩ := inking.whole
  omega

/-- What a byte other than ESC can do in the normal state. -/
theorem Inking.effect (inking : Inking t) (notEscape : c ≠ 0x1B) :
    termPutc t c = t ∨ (∃ col, termPutc t c = { t with curCol := col, pendingWrap := false }) ∨
      (c = 0x0A ∧ termPutc t c = termLineFeed { t with pendingWrap := false }) ∨
      (isPrintable c = true ∧ termPutc t c = termPutcPrint t c) := by
  have normal := inking.inside.normal
  by_cases noMark : marks c = true
  · right; right
    rw [marks, Bool.or_eq_true, beq_iff_eq] at noMark
    rcases noMark with printable | rfl
    · exact Or.inr ⟨printable, termPutc_print normal printable⟩
    · exact Or.inl ⟨rfl, by rw [termPutc_normal normal]; rfl⟩
  · by_cases shift : shifts c = true
    · right; left
      simp only [shifts, Bool.or_eq_true, beq_iff_eq] at shift
      rw [termPutc_normal normal]
      rcases shift with (rfl | rfl) | rfl
      · exact ⟨_, rfl⟩
      · exact ⟨_, rfl⟩
      · exact ⟨_, rfl⟩
    · exact Or.inl (termPutc_ignored normal notEscape (by simpa using noMark) (by simpa using shift))

theorem Inking.putc (inking : Inking t) (notEscape : c ≠ 0x1B) : Inking (termPutc t c) := by
  obtain ⟨inside, confined⟩ := inking.inside.putc notEscape
  obtain ⟨top, bottom⟩ := confined.region
  refine ⟨inside, ⟨top.trans inking.whole.1, bottom.trans inking.whole.2⟩, ?_⟩
  rcases inking.effect notEscape with same | ⟨_, moved⟩ | ⟨_, fed⟩ | ⟨_, printed⟩
  · rw [same]
    exact inking.ink
  · rw [moved]
    exact inking.ink
  · obtain ⟨_, _, _, _, _, _, _, touched⟩ := termLineFeed_touches { t with pendingWrap := false }
    rw [fed, touched]
    exact inking.ink
  · obtain ⟨_, _, _, _, _, _, _, _, _, touched⟩ := termPutcPrint_touches t c
    rw [printed, touched]
    exact inking.ink

/-- A line feed leaves the first row. -/
theorem Inking.marked_lineFeed (inking : Inking t) :
    Marked (termLineFeed { t with pendingWrap := false }) := by
  have row : (termLineFeed { t with pendingWrap := false }).curRow =
      min (t.curRow + 1) (termRows - 1) :=
    termLineFeed_row (t := { t with pendingWrap := false }) inking.whole.2 inking.row.2
  left
  rw [row]
  have low := inking.row.1
  unfold termRows
  omega

/-- A printed byte leaves a cell with an attribute, unless it wraps first. -/
theorem Inking.marked_print (inking : Inking t) (c : UInt8) : Marked (termPutcPrint t c) := by
  obtain ⟨rowLow, rowHigh⟩ := inking.row
  by_cases wrap : t.pendingWrap = true
  · left
    rw [termPutcPrint_row inking.whole.2 rowHigh, if_pos wrap]
    unfold termRows
    omega
  · right
    have on : OnScreen t.curRow t.curCol := ⟨⟨rowLow, rowHigh⟩, inking.inside.col⟩
    obtain ⟨index, low, high⟩ := on.index
    refine ⟨cellIndex t.curRow t.curCol, by rw [index]; exact ⟨low, high⟩, ?_⟩
    rw [termPutcPrint, autowrap_of_not_pending (by simpa using wrap), putCell_activeGrid,
      Block.load_store_same _ _ (by rw [index]; exact low) (by rw [index]; exact high)]
    exact inking.ink

theorem Inking.marked_of_marks (inking : Inking t) (mark : marks c = true) :
    Marked (termPutc t c) := by
  have normal := inking.inside.normal
  rw [marks, Bool.or_eq_true, beq_iff_eq] at mark
  rcases mark with printable | rfl
  · rw [termPutc_print normal printable]
    exact inking.marked_print c
  · rw [termPutc_normal normal]
    exact inking.marked_lineFeed

/-- The mark stays. -/
theorem Inking.marked_putc (inking : Inking t) (marked : Marked t) (notEscape : c ≠ 0x1B) :
    Marked (termPutc t c) := by
  rcases inking.effect notEscape with same | ⟨_, moved⟩ | ⟨_, fed⟩ | ⟨_, printed⟩
  · rwa [same]
  · rw [moved]
    exact marked
  · rw [fed]
    exact inking.marked_lineFeed
  · rw [printed]
    exact inking.marked_print c

/-- **Text that prints or feeds a line** leaves a mark, whatever comes after it. -/
theorem Inking.feed_marked (inking : Inking t) {w : List UInt8} (noEscape : 0x1B ∉ w)
    (start : Marked t ∨ ∃ c ∈ w, marks c = true) : Marked (terminalFeed t w) := by
  induction w generalizing t with
  | nil =>
      rcases start with marked | ⟨_, impossible, _⟩
      · exact marked
      · cases impossible
  | cons c w ih =>
      obtain ⟨first, rest⟩ := not_or.mp (mt List.mem_cons.mpr noEscape)
      refine ih (inking.putc (Ne.symm first)) rest ?_
      rcases start with marked | ⟨d, member, mark⟩
      · exact Or.inl (inking.marked_putc marked (Ne.symm first))
      · rcases List.mem_cons.mp member with rfl | later
        · exact Or.inl (inking.marked_of_marks mark)
        · exact Or.inr ⟨d, later, mark⟩

/-! ### Text that only moves the cursor -/

/-- The first and the second column: whatever moves the cursor there takes both to one. -/
theorem termPutc_merges (normal : t.state = .normal) (shift : shifts c = true) :
    termPutc { t with curCol := 0 } c = termPutc { t with curCol := 1 } c := by
  simp only [shifts, Bool.or_eq_true, beq_iff_eq] at shift
  rw [termPutc_normal (t := { t with curCol := 0 }) normal,
    termPutc_normal (t := { t with curCol := 1 }) normal]
  rcases shift with (rfl | rfl) | rfl
  · rfl
  · rfl
  · rfl

/-- **Text that moves the cursor without a mark** does not tell the first two columns apart. -/
theorem terminalFeed_merges (normal : t.state = .normal) {w : List UInt8} (noEscape : 0x1B ∉ w)
    (noMark : ∀ c ∈ w, marks c = false) (shift : ∃ c ∈ w, shifts c = true) :
    terminalFeed { t with curCol := 0 } w = terminalFeed { t with curCol := 1 } w := by
  induction w with
  | nil =>
      obtain ⟨_, impossible, _⟩ := shift
      cases impossible
  | cons c w ih =>
      obtain ⟨first, rest⟩ := not_or.mp (mt List.mem_cons.mpr noEscape)
      rw [terminalFeed_cons, terminalFeed_cons]
      by_cases here : shifts c = true
      · rw [termPutc_merges normal here]
      · have still : ∀ s : Terminal, s.state = .normal → termPutc s c = s := fun s normal =>
          termPutc_ignored normal (Ne.symm first) (noMark c List.mem_cons_self) (by simpa using here)
        rw [still { t with curCol := 0 } normal, still { t with curCol := 1 } normal]
        refine ih rest (fun d member => noMark d (List.mem_cons_of_mem _ member)) ?_
        obtain ⟨d, member, shift⟩ := shift
        rcases List.mem_cons.mp member with rfl | later
        · exact absurd shift here
        · exact ⟨d, later, shift⟩

theorem terminalFeed_ignored (normal : t.state = .normal) {w : List UInt8} (noEscape : 0x1B ∉ w)
    (ignored : ∀ c ∈ w, marks c = false ∧ shifts c = false) : terminalFeed t w = t := by
  induction w with
  | nil => rfl
  | cons c w ih =>
      obtain ⟨first, rest⟩ := not_or.mp (mt List.mem_cons.mpr noEscape)
      obtain ⟨noMark, noShift⟩ := ignored c List.mem_cons_self
      rw [terminalFeed_cons, termPutc_ignored normal (Ne.symm first) noMark noShift]
      exact ih rest fun d member => ignored d (List.mem_cons_of_mem _ member)

end Bytes

/-! ### The sequences, byte by byte -/

section Whole

variable {t : Terminal}

/-- After ESC, a byte of no sequence the terminal knows is dropped. -/
theorem terminalFeed_unknown (normal : t.state = .normal) {c : UInt8}
    (unknown : c ∉ [0x5B, 0x5D, 0x28, 0x29, 0x2A, 0x2B, 0x37, 0x38, 0x63]) (rest : List UInt8) :
    terminalFeed t (0x1B :: c :: rest) = terminalFeed t rest := by
  simp only [List.mem_cons, List.not_mem_nil, or_false, not_or] at unknown
  obtain ⟨notCsi, notOsc, notG0, notG1, notG2, notG3, notSave, notRestore, notReset⟩ := unknown
  have dropped : termPutcEsc { t with state := .esc } c = t := by
    rw [termPutcEsc]
    dsimp only
    rw [if_neg notCsi, if_neg notOsc, if_neg (by tauto), if_neg notSave, if_neg notRestore,
      if_neg notReset, ← normal]
  rw [terminalFeed_cons, termPutc_escape normal, terminalFeed_cons, termPutc_esc rfl, dropped]

/-- After a charset designator, one more byte is dropped. -/
theorem terminalFeed_designator (normal : t.state = .normal) {first : UInt8}
    (designator : 0x28 ≤ first ∧ first ≤ 0x2B) (charset : UInt8) (rest : List UInt8) :
    terminalFeed t (0x1B :: first :: charset :: rest) = terminalFeed t rest := by
  have known : first = 0x28 ∨ first = 0x29 ∨ first = 0x2A ∨ first = 0x2B := by
    simp only [UInt8.le_iff_toNat_le, UInt8.toNat_ofNat, ← UInt8.toNat_inj] at *
    omega
  have dropped : termPutc (termPutcEsc { t with state := .esc } first) charset = t := by
    rcases known with rfl | rfl | rfl | rfl
    all_goals
      show { t with state := .normal } = t
      rw [← normal]
  rw [terminalFeed_cons, termPutc_escape normal, terminalFeed_cons, termPutc_esc rfl,
    terminalFeed_cons, dropped]

/-- The body of a control string is text. -/
theorem terminalFeed_string (normal : t.state = .normal) (introducer : StringIntroducer)
    (rest : List UInt8) :
    terminalFeed t (0x1B :: introducer.byte :: rest) = terminalFeed t rest :=
  terminalFeed_unknown normal (by cases introducer <;> decide) rest

theorem swallowed_refl (normal : t.state = .normal) : Swallowed t t :=
  ⟨⟨rfl, rfl, rfl⟩, ⟨rfl, rfl⟩, normal⟩

end Whole

/-! ### The exact condition -/

/-- A consumed sequence changes nothing at all. -/
theorem swallowed_of_consumed {s : OtherSequence} (consumed : Consumed s) {t : Terminal}
    (normal : t.state = .normal) : Swallowed t (terminalFeed t s.bytes) := by
  have whole : terminalFeed t s.bytes = t := by
    cases s with
    | escape first more final _ _ =>
        obtain ⟨designator, rfl⟩ := consumed
        exact terminalFeed_designator normal designator final []
    | string introducer payload clean =>
        have noEscape : 0x1B ∉ payload := fun member => (clean _ member).1 rfl
        rw [OtherSequence.bytes, terminalFeed_string normal, terminalFeed_append,
          terminalFeed_ignored normal noEscape consumed]
        exact terminalFeed_unknown normal (by decide) []
  rw [whole]
  exact swallowed_refl normal

/-- A fresh terminal after `CSI 7 m`. -/
def inReverse : Terminal := { terminalCreate with curAttrs := attrReverse }

theorem inReverse_inking : Inking inReverse where
  inside := ⟨rfl, fullRegion, ⟨le_rfl, by decide⟩, onScreen_home.2⟩
  whole := ⟨rfl, rfl⟩
  ink := by decide

/-- Its blank screen has no mark. -/
theorem not_marked_of_swallowed {after : Terminal} (swallowed : Swallowed inReverse after) :
    ¬ Marked after := by
  have blank : ∀ i : Int, 0 ≤ i → i < gridCells → (after.activeGrid.load i).attrs = 0 := by
    intro i low high
    unfold Terminal.activeGrid
    split
    · rw [swallowed.cells.1]
      show (terminalCreate.mainGrid.load i).attrs = 0
      rw [terminalCreate_mainGrid, (gridClearAll_spec _ _ _).2 i low high]
      rfl
    · rw [swallowed.cells.2.1]
      show (terminalCreate.altGrid.load i).attrs = 0
      rw [terminalCreate_altGrid, (gridClearAll_spec _ _ _).2 i low high]
      rfl
  rintro (moved | ⟨i, ⟨low, high⟩, ink⟩)
  · rw [swallowed.cursor.1] at moved
    exact absurd moved (by decide)
  · exact ink (blank i low high)

/-- The bytes that follow an escape sequence cut short. -/
theorem leaks_of_rest {rest : List UInt8} {final : UInt8}
    (intermediates : ∀ c ∈ rest, 0x20 ≤ c ∧ c ≤ 0x2F) (finalIn : 0x30 ≤ final ∧ final ≤ 0x7E) :
    ¬ Swallowed inReverse (terminalFeed inReverse (rest ++ [final])) := by
  have noEscape : 0x1B ∉ rest ++ [final] := by
    intro member
    rcases List.mem_append.mp member with inRest | last
    · exact absurd (intermediates _ inRest).1 (by decide)
    · rw [← List.mem_singleton.mp last] at finalIn
      exact absurd finalIn.1 (by decide)
  have printable := lowByte_printable (UInt8.le_trans (by decide) finalIn.1) finalIn.2
  have mark : ∃ c ∈ rest ++ [final], marks c = true :=
    ⟨final, by simp, by rw [marks, printable, Bool.true_or]⟩
  intro swallowed
  exact not_marked_of_swallowed swallowed (inReverse_inking.feed_marked noEscape (Or.inr mark))

/-- A control string after its body. -/
theorem terminalFeed_stringEnd {t : Terminal} (normal : t.state = .normal)
    (introducer : StringIntroducer) {payload : List UInt8}
    (ends : (terminalFeed t payload).state = .normal) :
    terminalFeed t (0x1B :: introducer.byte :: (payload ++ [0x1B, 0x5C])) =
      terminalFeed t payload := by
  rw [terminalFeed_string normal, terminalFeed_append]
  exact terminalFeed_unknown ends (by decide) []

/-- **Which other escape sequences are consumed whole**, from every state. -/
theorem otherSequence_swallowed_iff (s : OtherSequence) :
    (∀ t : Terminal, t.state = .normal → Swallowed t (terminalFeed t s.bytes)) ↔ Consumed s := by
  refine ⟨fun swallowed => ?_, fun consumed t normal => swallowed_of_consumed consumed normal⟩
  cases s with
  | escape first more final intermediatesIn finalIn =>
      have reversed := swallowed inReverse rfl
      have later : ∀ c ∈ more, 0x20 ≤ c ∧ c ≤ 0x2F :=
        fun c member => intermediatesIn c (List.mem_cons_of_mem _ member)
      by_cases designator : 0x28 ≤ first ∧ first ≤ 0x2B
      · refine ⟨designator, ?_⟩
        cases more with
        | nil => rfl
        | cons charset rest =>
            rw [OtherSequence.bytes, List.cons_append,
              terminalFeed_designator (t := inReverse) rfl designator] at reversed
            exact absurd reversed
              (leaks_of_rest (fun c member => later c (List.mem_cons_of_mem _ member)) finalIn)
      · have unknown : first ∉ [0x5B, 0x5D, 0x28, 0x29, 0x2A, 0x2B, 0x37, 0x38, 0x63] := by
          obtain ⟨low, high⟩ := intermediatesIn first List.mem_cons_self
          simp only [List.mem_cons, List.not_mem_nil, or_false, UInt8.le_iff_toNat_le,
            UInt8.toNat_ofNat, ← UInt8.toNat_inj] at *
          omega
        rw [OtherSequence.bytes, terminalFeed_unknown (t := inReverse) rfl unknown] at reversed
        exact absurd reversed (leaks_of_rest later finalIn)
  | string introducer payload clean =>
      have noEscape : 0x1B ∉ payload := fun member => (clean _ member).1 rfl
      have noMark : ∀ c ∈ payload, marks c = false := by
        by_contra some
        simp only [not_forall, Bool.not_eq_false] at some
        obtain ⟨c, member, mark⟩ := some
        have ends := (inReverse_inking.inside.feed noEscape).1.normal
        have reversed := swallowed inReverse rfl
        rw [OtherSequence.bytes, terminalFeed_stringEnd (t := inReverse) rfl introducer ends]
          at reversed
        exact not_marked_of_swallowed reversed
          (inReverse_inking.feed_marked noEscape (Or.inr ⟨c, member, mark⟩))
      refine fun c member => ⟨noMark c member, ?_⟩
      by_contra shift
      -- From the first two columns the string ends in one; it moved from one of them.
      have first := (swallowed { terminalCreate with curCol := 0 } rfl).cursor.2
      have second := (swallowed { terminalCreate with curCol := 1 } rfl).cursor.2
      have merged := terminalFeed_merges (t := terminalCreate) rfl noEscape noMark
        ⟨c, member, by simpa using shift⟩
      rw [OtherSequence.bytes, terminalFeed_string (t := { terminalCreate with curCol := 0 }) rfl,
        terminalFeed_append, merged] at first
      rw [OtherSequence.bytes, terminalFeed_string (t := { terminalCreate with curCol := 1 }) rfl,
        terminalFeed_append] at second
      exact absurd (first.symm.trans second) (by decide)

/-- `ESC # 8`, the screen alignment test: at a fresh terminal the `8` is printed. -/
theorem otherSequence_swallowed_fails :
    ¬ ∀ (t : Terminal) (s : OtherSequence), t.state = .normal →
      Swallowed t (terminalFeed t s.bytes) := by
  intro swallowed
  have printed := (swallowed terminalCreate (.escape 0x23 [] 0x38 (by simp) (by decide)) rfl).cursor.2
  exact absurd printed (by decide +kernel)

end Tab5
