/-
**What a stream of bytes says.**

`term_putc` finds the sequences of a stream and performs them in one. Here the two are apart:
`Parsing.completes` reads a byte as at most one `Command`, from the parser alone, and `Command.perform`
does the command to a terminal, whose parser it neither reads nor moves (`perform_bare`).

* `terminalFeed_bare`: feeding a stream is performing what it says, wherever in a sequence it begins
  and ends;
* `hears_spelling`: every list of commands has a stream that says it, and nothing else.
-/

import Tab5RemoteTerminal.Terminal.Control
import Tab5RemoteTerminal.Terminal.Recognition

namespace Tab5

open CLoop
open Json (printNat)

/-! ### Commands -/

/-- What the host asks for. -/
inductive Command where
  /-- A byte outside every sequence. -/
  | char (c : UInt8)
  | saveCursor
  | restoreCursor
  | fullReset
  | csi (isPrivate : Bool) (params : List Int) (final : UInt8)
  | osc (text : List UInt8)
deriving DecidableEq, Repr

/-- What a command does. -/
def Command.perform (t : Terminal) : Command → Terminal
  | .char c => termPutcNormal t c
  | .saveCursor =>
      { t with
        savedRow := t.curRow
        savedCol := t.curCol
        savedFg := t.curFg
        savedBg := t.curBg
        savedAttrs := t.curAttrs }
  | .restoreCursor =>
      { t with
        curRow := t.savedRow
        curCol := t.savedCol
        curFg := t.savedFg
        curBg := t.savedBg
        curAttrs := t.savedAttrs }
  | .fullReset => resetScreen t
  | .csi isPrivate params final =>
      let t := { t with pendingWrap := false }
      if isPrivate then
        if final = 0x68 ∨ final = 0x6C then setPrivateModes t params (final = 0x68) else t
      else csiFinal t params final
  | .osc _ => t

namespace Parsing

/-- What a byte completes. -/
def completes (p : Parsing) (c : UInt8) : List Command :=
  match p with
  | .normal => if c = 0x1B then [] else [.char c]
  | .esc =>
      if c = 0x37 then [.saveCursor]
      else if c = 0x38 then [.restoreCursor]
      else if c = 0x63 then [.fullReset]
      else []
  | .escCharset => []
  | .csi isPrivate buf =>
      if (c = 0x3F ∧ buf.length = 0) ∨ isDigit c ∨ c = 0x3B then []
      else [.csi isPrivate (parseParams 16 buf) c]
  | .osc text => if c = 0x07 ∨ c = 0x1B then [.osc text] else []

/-- What a stream says, from the parser's state on. -/
def hears (p : Parsing) (w : List UInt8) : List Command := Run.emitted step completes p w

end Parsing

/-! ### The terminal without its parser -/

def bare (t : Terminal) : Terminal := { t with state := .normal, csiBuf := [], csiPrivate := false }

theorem bare_setActiveGrid (t : Terminal) (g : Grid) :
    (bare t).setActiveGrid g = bare (t.setActiveGrid g) := by
  unfold Terminal.setActiveGrid bare
  cases t.grid <;> rfl

theorem pushScrollback_bare (t : Terminal) (row : Int) :
    pushScrollback (bare t) row = bare (pushScrollback t row) := by
  unfold pushScrollback
  rw [apply_ite bare]
  rfl

theorem termScrollRegionUp_bare (t : Terminal) (top bottom : Int) :
    termScrollRegionUp (bare t) top bottom = bare (termScrollRegionUp t top bottom) := by
  unfold termScrollRegionUp
  dsimp only
  split
  · rw [pushScrollback_bare]
    exact bare_setActiveGrid _ _
  · exact bare_setActiveGrid _ _

theorem termLineFeed_bare (t : Terminal) : termLineFeed (bare t) = bare (termLineFeed t) := by
  unfold termLineFeed
  rw [apply_ite bare, apply_ite bare, ← termScrollRegionUp_bare]
  rfl

theorem autowrap_bare (t : Terminal) : autowrap (bare t) = bare (autowrap t) := by
  unfold autowrap
  rw [apply_ite bare]
  have fed : termLineFeed { bare t with curCol := 0 } = bare (termLineFeed { t with curCol := 0 }) :=
    termLineFeed_bare { t with curCol := 0 }
  rw [fed]
  rfl

theorem putCell_bare (t : Terminal) (c : UInt8) : putCell (bare t) c = bare (putCell t c) := by
  have stored : (bare t).setActiveGrid ((bare t).activeGrid.store
      (cellIndex (bare t).curRow (bare t).curCol) (printedCell (bare t) c)) =
      bare (t.setActiveGrid (t.activeGrid.store (cellIndex t.curRow t.curCol) (printedCell t c))) :=
    bare_setActiveGrid t _
  unfold putCell
  dsimp only
  rw [stored, apply_ite bare]
  rfl

theorem termPutcNormal_bare {c : UInt8} (notEscape : c ≠ 0x1B) (t : Terminal) :
    termPutcNormal (bare t) c = bare (termPutcNormal t c) := by
  unfold termPutcNormal
  rw [if_neg notEscape, if_neg notEscape]
  split
  · rfl
  split
  · exact termLineFeed_bare { t with pendingWrap := false }
  split
  · rfl
  split
  · rfl
  split
  · unfold termPutcPrint
    rw [autowrap_bare, putCell_bare]
  · rfl

theorem termEraseInLine_bare (t : Terminal) (mode : Int) :
    termEraseInLine (bare t) mode = bare (termEraseInLine t mode) := by
  unfold termEraseInLine
  dsimp only
  split
  · exact bare_setActiveGrid t _
  split
  · exact bare_setActiveGrid t _
  · exact bare_setActiveGrid t _

theorem termEraseInDisplay_bare (t : Terminal) (mode : Int) :
    termEraseInDisplay (bare t) mode = bare (termEraseInDisplay t mode) := by
  unfold termEraseInDisplay
  dsimp only
  split
  · exact bare_setActiveGrid t _
  split
  · exact bare_setActiveGrid t _
  · exact bare_setActiveGrid t _

theorem setAltScreen_bare (t : Terminal) (mode : Int) (enable : Bool) :
    setAltScreen (bare t) mode enable = bare (setAltScreen t mode enable) := by
  unfold setAltScreen bare
  dsimp only
  split
  · rfl
  split
  · rfl
  · rfl

theorem termSetPrivateMode_bare (t : Terminal) (mode : Int) (enable : Bool) :
    termSetPrivateMode (bare t) mode enable = bare (termSetPrivateMode t mode enable) := by
  unfold termSetPrivateMode
  split
  · rfl
  split
  · rfl
  split
  · exact setAltScreen_bare t mode enable
  · rfl

theorem setPrivateModes_bare (t : Terminal) (params : List Int) (enable : Bool) :
    setPrivateModes (bare t) params enable = bare (setPrivateModes t params enable) := by
  unfold setPrivateModes
  induction params generalizing t with
  | nil => rfl
  | cons p params ih => rw [List.foldl_cons, List.foldl_cons, termSetPrivateMode_bare, ih]

theorem csiFinal_bare (t : Terminal) (params : List Int) (final : UInt8) :
    csiFinal (bare t) params final = bare (csiFinal t params final) := by
  unfold csiFinal
  split
  case h_7 => exact termEraseInDisplay_bare t _
  case h_8 => exact termEraseInLine_bare t _
  all_goals rfl

/-- **A command does not see the parser.** -/
theorem perform_bare {cmd : Command} (notEscape : cmd ≠ .char 0x1B) (t : Terminal) :
    Command.perform (bare t) cmd = bare (Command.perform t cmd) := by
  cases cmd with
  | char c => exact termPutcNormal_bare (fun same => notEscape (congrArg Command.char same)) t
  | saveCursor => rfl
  | restoreCursor => rfl
  | fullReset => exact bare_setActiveGrid (termResetState t) _
  | csi isPrivate params final =>
      unfold Command.perform
      dsimp only
      split
      · split
        · exact setPrivateModes_bare { t with pendingWrap := false } params _
        · rfl
      · exact csiFinal_bare { t with pendingWrap := false } params final
  | osc text => rfl

theorem performs_bare {cmds : List Command} (noEscape : .char 0x1B ∉ cmds) (t : Terminal) :
    cmds.foldl Command.perform (bare t) = bare (cmds.foldl Command.perform t) := by
  induction cmds generalizing t with
  | nil => rfl
  | cons cmd cmds ih =>
      obtain ⟨here, later⟩ := not_or.mp (mt List.mem_cons.mpr noEscape)
      rw [List.foldl_cons, List.foldl_cons, perform_bare (Ne.symm here), ih later]

/-! ### Feeding performs what is said -/

theorem Parsing.completes_noEscape (p : Parsing) (c : UInt8) :
    Command.char 0x1B ∉ p.completes c := by
  unfold Parsing.completes
  intro mem
  cases p with
  | normal =>
      dsimp only at mem
      split at mem
      · cases mem
      · injection List.mem_singleton.mp mem with same
        exact absurd same.symm ‹¬ c = 0x1B›
  | esc => simp only at mem; split_ifs at mem <;> simp at mem
  | escCharset => cases mem
  | csi isPrivate buf => simp only at mem; split_ifs at mem <;> simp at mem
  | osc text => simp only at mem; split_ifs at mem <;> simp at mem

theorem Parsing.hears_noEscape (p : Parsing) (w : List UInt8) :
    Command.char 0x1B ∉ p.hears w := by
  induction w generalizing p with
  | nil => exact List.not_mem_nil
  | cons c w ih =>
      rw [Parsing.hears, Run.emitted, List.mem_append]
      exact not_or.mpr ⟨p.completes_noEscape c, ih (p.step c)⟩

/-- **One byte.** -/
theorem putc_bare (l : Listener) (c : UInt8) :
    bare (l.putc c).term = bare ((l.parsing.completes c).foldl Command.perform l.term) := by
  show bare (termPutc l.term c) = _
  unfold Listener.parsing Parsing.of
  cases parser : l.term.state with
  | normal =>
      rw [termPutc_normal parser, Parsing.completes]
      split
      · rw [‹c = 0x1B›]
        rfl
      · rfl
  | esc =>
      rw [termPutc_esc parser, termPutcEsc, Parsing.completes]
      split
      · rw [‹c = 0x5B›]
        rfl
      split
      · rw [‹c = 0x5D›]
        rfl
      split
      · rcases ‹c = 0x28 ∨ c = 0x29 ∨ c = 0x2A ∨ c = 0x2B› with rfl | rfl | rfl | rfl <;> rfl
      split
      · rfl
      split
      · rfl
      split
      · rfl
      · rfl
  | escCharset =>
      rw [termPutc, parser]
      rfl
  | csi =>
      rw [termPutc_csi parser, termPutcCsi, Parsing.completes]
      by_cases mark : c = 0x3F ∧ l.term.csiBuf.length = 0
      · rw [if_pos mark, if_pos (Or.inl mark)]
        rfl
      · rw [if_neg mark]
        by_cases field : isDigit c ∨ c = 0x3B
        · rw [if_pos field, if_pos (Or.inr field)]
          split
          · rfl
          · rfl
        · rw [if_neg field, if_neg (not_or.mpr ⟨mark, field⟩)]
          have dispatched (t : Terminal) : termDispatchCsi t c =
            Command.perform t (.csi t.csiPrivate (csiParams t) c) := rfl
          rw [dispatched, ← perform_bare Command.noConfusion]
          exact perform_bare Command.noConfusion l.term
  | osc =>
      rw [termPutc_osc parser, termPutcOsc, Parsing.completes]
      split
      · rfl
      · rfl

theorem feed_bare (l : Listener) (w : List UInt8) :
    bare (l.feed w).term = bare ((l.parsing.hears w).foldl Command.perform l.term) := by
  induction w generalizing l with
  | nil => rfl
  | cons c w ih =>
      have rest := ih (l.putc c)
      have noEscape := (l.parsing.step c).hears_noEscape w
      rw [Listener.putc_parsing, ← performs_bare noEscape, putc_bare, performs_bare noEscape,
        ← List.foldl_append] at rest
      exact rest

/-- **Feeding a stream is performing what it says**, from any state. -/
theorem terminalFeed_bare (t : Terminal) (w : List UInt8) :
    bare (terminalFeed t w) = bare (((Parsing.of t []).hears w).foldl Command.perform t) := by
  rw [← Listener.feed_term (l := ⟨t, []⟩)]
  exact feed_bare ⟨t, []⟩ w

/-! ### Spelling -/

/-- A parameter and the separator behind it; one that is missing is spelled by no digits. -/
def spellParam (p : Int) : List UInt8 := (if p < 0 then [] else printNat p.toNat) ++ [0x3B]

def spellParams (params : List Int) : List UInt8 := params.flatMap spellParam

/-- The bytes that say a command. -/
def Command.spelling : Command → List UInt8
  | .char c => [c]
  | .saveCursor => [0x1B, 0x37]
  | .restoreCursor => [0x1B, 0x38]
  | .fullReset => [0x1B, 0x63]
  | .csi isPrivate params final =>
      [0x1B, 0x5B] ++ (if isPrivate then [0x3F] else []) ++ spellParams params ++ [final]
  | .osc text => [0x1B, 0x5D] ++ text ++ [0x07]

/-- A command that can be said: parameters are missing or C ints, and fit the buffer; the other
bytes are not taken for what they are not. -/
def Command.Sayable : Command → Prop
  | .char c => c ≠ 0x1B
  | .saveCursor | .restoreCursor | .fullReset => True
  | .csi _ params final => params.length ≤ 16 ∧ (∀ p ∈ params, -1 ≤ p ∧ p < 2147483648) ∧
      (spellParams params).length ≤ csiBufLen - 1 ∧ isParam final = false ∧ final ≠ 0x3F
  | .osc text => ∀ c ∈ text, c ≠ 0x07 ∧ c ≠ 0x1B

/-- What bytes say, and where they leave the parser. -/
structure Reads (p : Parsing) (w : List UInt8) (cmds : List Command) (q : Parsing) : Prop where
  hears : p.hears w = cmds
  after : Run.after Parsing.step p w = q

theorem Reads.append {p q r : Parsing} {w v : List UInt8} {cmds more : List Command}
    (one : Reads p w cmds q) (two : Reads q v more r) : Reads p (w ++ v) (cmds ++ more) r where
  hears := by
    have said := @Run.emitted_append _ _ Parsing.step _ Parsing.completes p w v
    rw [one.after] at said
    exact said.trans (congrArg₂ _ one.hears two.hears)
  after := by rw [Run.after_append, one.after, two.after]

theorem reads_params {isPrivate : Bool} {buf bytes : List UInt8} (all : bytes.all isParam = true)
    (fits : (buf ++ bytes).length ≤ csiBufLen - 1) :
    Reads (.csi isPrivate buf) bytes [] (.csi isPrivate (buf ++ bytes)) := by
  induction bytes generalizing buf with
  | nil =>
      rw [List.append_nil]
      exact ⟨rfl, rfl⟩
  | cons c bytes ih =>
      rw [List.all_cons, Bool.and_eq_true] at all
      obtain ⟨param, rest⟩ := all
      have field : isDigit c = true ∨ c = 0x3B := by simpa [isParam] using param
      have notMark : ¬ (c = 0x3F ∧ buf.length = 0) := by
        rintro ⟨rfl, -⟩
        exact absurd field (by decide)
      have room : buf.length < csiBufLen - 1 := by
        rw [List.length_append, List.length_cons] at fits
        omega
      have stepped : (Parsing.csi isPrivate buf).step c = .csi isPrivate (buf ++ [c]) := by
        rw [Parsing.step, if_neg notMark, if_pos field, if_pos room]
      have silent : (Parsing.csi isPrivate buf).completes c = [] := if_pos (Or.inr field)
      have first : Reads (.csi isPrivate buf) [c] [] (.csi isPrivate (buf ++ [c])) :=
        ⟨by rw [Parsing.hears, Run.emitted, silent]; rfl, stepped⟩
      have joined : buf ++ c :: bytes = buf ++ [c] ++ bytes := List.append_cons buf c bytes
      rw [joined] at fits ⊢
      exact first.append (ih rest fits)

theorem reads_text {text bytes : List UInt8} (all : ∀ c ∈ bytes, c ≠ 0x07 ∧ c ≠ 0x1B) :
    Reads (.osc text) bytes [] (.osc (text ++ bytes)) := by
  induction bytes generalizing text with
  | nil =>
      rw [List.append_nil]
      exact ⟨rfl, rfl⟩
  | cons c bytes ih =>
      obtain ⟨here, rest⟩ := List.forall_mem_cons.mp all
      have goesOn : ¬ (c = 0x07 ∨ c = 0x1B) := not_or.mpr here
      have stepped : (Parsing.osc text).step c = .osc (text ++ [c]) := if_neg goesOn
      have silent : (Parsing.osc text).completes c = [] := if_neg goesOn
      have first : Reads (.osc text) [c] [] (.osc (text ++ [c])) :=
        ⟨by rw [Parsing.hears, Run.emitted, silent]; rfl, stepped⟩
      rw [List.append_cons text c bytes]
      exact first.append (ih rest)

theorem spellParam_fields (p : Int) : (spellParam p).all isParam = true := by
  unfold spellParam
  rw [List.all_append]
  split
  · rfl
  · have digits : (printNat p.toNat).all isParam = true :=
      List.all_eq_true.mpr fun c mem => isParam_of_isDigit (printNat_digits p.toNat c mem)
    rw [digits]
    rfl

theorem spellParams_fields (params : List Int) : (spellParams params).all isParam = true := by
  rw [spellParams, List.all_flatMap]
  exact List.all_eq_true.mpr fun p _ => spellParam_fields p

/-- **The parameters are read as they are spelled.** -/
theorem parseParams_spellParams {room : Nat} {params : List Int} (few : params.length ≤ room)
    (ints : ∀ p ∈ params, -1 ≤ p ∧ p < 2147483648) :
    parseParams room (spellParams params) = params := by
  induction params generalizing room with
  | nil => cases room <;> rfl
  | cons p params ih =>
      obtain ⟨room, rfl⟩ : ∃ r, room = r + 1 := ⟨room - 1, by rw [List.length_cons] at few; omega⟩
      obtain ⟨here, later⟩ := List.forall_mem_cons.mp ints
      have rest := ih (Nat.le_of_succ_le_succ few) later
      have spelled : spellParams (p :: params) =
          (if p < 0 then [] else printNat p.toNat) ++ 0x3B :: spellParams params := by
        rw [spellParams, List.flatMap_cons, spellParam, List.append_assoc]
        rfl
      rw [spelled]
      by_cases missing : p < 0
      · rw [if_pos missing, List.nil_append, parseParams, if_pos rfl, rest,
          show p = -1 by omega]
      · rw [if_neg missing]
        have stops : ∀ c, (0x3B :: spellParams params).head? = some c → isDigit c = false := by
          rintro c head
          rw [← Option.some.inj head]
          exact isDigit_separator
        have value : digitsValue (printNat p.toNat) = p := by
          rw [digitsValue_eq (printNat_digits p.toNat) (by rw [fieldValue_printNat]; omega),
            fieldValue_printNat]
          omega
        rw [parseParams_digits room (printNat_ne_nil p.toNat) (printNat_digits p.toNat) stops, value]
        exact congrArg (p :: ·) rest

/-- **One command.** -/
theorem Command.spelling_reads {cmd : Command} (sayable : cmd.Sayable) :
    Reads .normal cmd.spelling [cmd] .normal := by
  cases cmd with
  | char c =>
      have silent : Parsing.normal.completes c = [.char c] := if_neg sayable
      have stays : Parsing.normal.step c = .normal := if_neg sayable
      exact ⟨by rw [spelling, Parsing.hears, Run.emitted, silent]; rfl, stays⟩
  | saveCursor => exact ⟨rfl, rfl⟩
  | restoreCursor => exact ⟨rfl, rfl⟩
  | fullReset => exact ⟨rfl, rfl⟩
  | osc text =>
      have opened : Reads .normal [0x1B, 0x5D] [] (.osc []) := ⟨rfl, rfl⟩
      have closed : Reads (.osc text) [0x07] [.osc text] .normal := ⟨rfl, rfl⟩
      exact (opened.append (reads_text sayable)).append closed
  | csi isPrivate params final =>
      obtain ⟨few, ints, fits, notParam, notMark⟩ := sayable
      have marked : Reads .normal ([0x1B, 0x5B] ++ if isPrivate then [0x3F] else []) []
          (.csi isPrivate []) := by
        cases isPrivate <;> exact ⟨rfl, rfl⟩
      have collected : Reads (.csi isPrivate []) (spellParams params) []
          (.csi isPrivate (spellParams params)) :=
        reads_params (spellParams_fields params) fits
      have ends : ¬ ((final = 0x3F ∧ (spellParams params).length = 0) ∨
          isDigit final = true ∨ final = 0x3B) := by
        rintro (⟨mark, -⟩ | field)
        · exact notMark mark
        · rw [isParam, Bool.or_eq_false_iff, beq_eq_false_iff_ne] at notParam
          exact field.elim (fun digit => by simp [notParam.1] at digit) notParam.2
      have said : (Parsing.csi isPrivate (spellParams params)).completes final =
          [.csi isPrivate params final] := by
        rw [Parsing.completes, if_neg ends, parseParams_spellParams few ints]
      have last : Reads (.csi isPrivate (spellParams params)) [final]
          [.csi isPrivate params final] .normal := by
        refine ⟨by rw [Parsing.hears, Run.emitted, said]; rfl, ?_⟩
        obtain ⟨noMark, noField⟩ := not_or.mp ends
        show (Parsing.csi isPrivate (spellParams params)).step final = .normal
        rw [Parsing.step, if_neg noMark, if_neg noField]
      exact (marked.append collected).append last

/-- **What is spelled is what is heard**, and the parser is ready for more. -/
theorem hears_spelling {cmds : List Command} (sayable : ∀ cmd ∈ cmds, cmd.Sayable) :
    Reads .normal (cmds.flatMap Command.spelling) cmds .normal := by
  induction cmds with
  | nil => exact ⟨rfl, rfl⟩
  | cons cmd cmds ih =>
      obtain ⟨here, later⟩ := List.forall_mem_cons.mp sayable
      rw [List.flatMap_cons]
      exact (Command.spelling_reads here).append (ih later)

theorem feed_spelling {t : Terminal} (normal : t.state = .normal) {cmds : List Command}
    (sayable : ∀ cmd ∈ cmds, cmd.Sayable) :
    bare (terminalFeed t (cmds.flatMap Command.spelling)) =
        bare (cmds.foldl Command.perform t) ∧
      (terminalFeed t (cmds.flatMap Command.spelling)).state = .normal := by
  have ready : Parsing.of t [] = .normal := by rw [Parsing.of, normal]
  have reads := hears_spelling sayable
  constructor
  · rw [terminalFeed_bare, ready, reads.hears]
  · have parsing := Listener.feed_parsing (l := ⟨t, []⟩) (cmds.flatMap Command.spelling)
    have after : (cmds.flatMap Command.spelling).foldl Parsing.step (Parsing.of t []) = .normal := by
      rw [ready]
      exact reads.after
    rw [show Listener.parsing ⟨t, []⟩ = Parsing.of t [] from rfl, after, Listener.parsing,
      Listener.feed_term, Parsing.of] at parsing
    cases state : (terminalFeed t (cmds.flatMap Command.spelling)).state with
    | normal => rfl
    | _ => simp [state] at parsing

/-- **The terminal does what it is told.** From any state, wherever in a sequence a stream begins
and ends, feeding it is performing the commands it says, which the parser reads off the bytes alone;
and every list of commands that can be said has a stream that says it and nothing else, and leaves
the parser ready for the next. -/
theorem terminal_told :
    (∀ (t : Terminal) (w : List UInt8),
      bare (terminalFeed t w) = bare (((Parsing.of t []).hears w).foldl Command.perform t)) ∧
    ∀ cmds : List Command, (∀ cmd ∈ cmds, cmd.Sayable) →
      Parsing.normal.hears (cmds.flatMap Command.spelling) = cmds ∧
      ∀ t : Terminal, t.state = .normal →
        bare (terminalFeed t (cmds.flatMap Command.spelling)) =
            bare (cmds.foldl Command.perform t) ∧
          (terminalFeed t (cmds.flatMap Command.spelling)).state = .normal := by
  refine ⟨terminalFeed_bare, fun cmds sayable => ⟨(hears_spelling sayable).hears, ?_⟩⟩
  exact fun t normal => feed_spelling normal sayable

/-- A letter in red, the cursor hidden, a title, and the cursor saved. -/
example : Parsing.normal.hears [0x1B, 0x5B, 0x33, 0x31, 0x6D, 0x41, 0x1B, 0x5B, 0x3F, 0x32, 0x35,
    0x6C, 0x1B, 0x5D, 0x30, 0x07, 0x1B, 0x37] =
      [.csi false [31] 0x6D, .char 0x41, .csi true [25] 0x6C, .osc [0x30], .saveCursor] := by
  decide +kernel

end Tab5
