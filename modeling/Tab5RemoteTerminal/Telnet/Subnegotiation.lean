/-
**Where subnegotiations end.**

The body of a subnegotiation is a list of `SbToken`s, up to the first unescaped IAC SE. The decoder
reads it token by token, with one exception: `TN_STATE_SB` takes the byte after SB for the option
even if it is the IAC of the terminator. Then it is one byte off (`Deaf`), and stays so while IACs
follow.

* `subnegs_end_iff`: every subnegotiation of a stream ends at its IAC SE exactly if none consists of
  IACs alone;
* `nawsReport_decodes_iff`: the client's own size report, whose four bytes `tn_send_naws` does not
  stuff, decodes exactly if none of them is an IAC.
-/

import Mathlib.Data.List.Induction
import Tab5RemoteTerminal.Telnet.Stream

namespace Tab5

/-- A piece of the body of a subnegotiation: a byte, or an IAC with a byte that does not close it. -/
inductive SbToken where
  | byte (c : UInt8) (plain : c ≠ tnIac)
  | escape (c : UInt8) (unclosed : c ≠ tnSe)

def SbToken.bytes : SbToken → List UInt8
  | .byte c _ => [c]
  | .escape c _ => [tnIac, c]

namespace TelnetClient

/-- The client after these bytes. -/
def afterBytes (tc : TelnetClient) (raw : List UInt8) : TelnetClient := (tc.tnProcess raw).1

/-- The last byte of `done` is an SB that enters `TN_STATE_SB`. -/
def Enters (tc : TelnetClient) (done : List UInt8) : Prop :=
  ∃ before, done = before ++ [tnSb] ∧ (tc.afterBytes before).state = .iac

/-- After each SB that is entered, the first unescaped IAC SE leads back to `TN_STATE_DATA`. -/
def SubnegsEnd (tc : TelnetClient) (w : List UInt8) : Prop :=
  ∀ (done : List UInt8) (tokens : List SbToken), tc.Enters done →
    done ++ tokens.flatMap SbToken.bytes ++ [tnIac, tnSe] <+: w →
    (tc.afterBytes (done ++ tokens.flatMap SbToken.bytes ++ [tnIac, tnSe])).state = .data

/-- No SB that is entered is followed by an odd number of IACs and an SE. -/
def BodiesGiven (tc : TelnetClient) (w : List UInt8) : Prop :=
  ∀ (done : List UInt8) (k : Nat), tc.Enters done →
    ¬ done ++ List.replicate (2 * k) tnIac ++ [tnIac, tnSe] <+: w

/-! ### The decoder's phases -/

/-- `state` and `sb_have_opt`. -/
abbrev Phase := TnState × Bool

def phase (tc : TelnetClient) : Phase := (tc.state, tc.sbHaveOpt)

/-- What a byte does to them. -/
def nextPhase : Phase → UInt8 → Phase
  | (.data, haveOpt), c => (if c = tnIac then .iac else .data, haveOpt)
  | (.iac, haveOpt), c =>
      if c = tnWill ∨ c = tnWont ∨ c = tnDo ∨ c = tnDont then (.cmdOpt, haveOpt)
      else if c = tnSb then (.sb, false)
      else (.data, haveOpt)
  | (.cmdOpt, haveOpt), _ => (.data, haveOpt)
  | (.sb, false), _ => (.sb, true)
  | (.sb, true), c => (if c = tnIac then .sbIac else .sb, true)
  | (.sbIac, haveOpt), c => (if c = tnIac then .sb else .data, haveOpt)

theorem collect_phase (tc : TelnetClient) (c : UInt8) : (tc.collect c).phase = tc.phase := by
  unfold collect
  split <;> rfl

theorem tnHandleCmd_fields (tc : TelnetClient) (opt : UInt8) :
    (tc.tnHandleCmd opt).phase = tc.phase ∧ (tc.tnHandleCmd opt).sbBuf = tc.sbBuf := by
  unfold tnHandleCmd
  split_ifs
  · exact ⟨rfl, rfl⟩
  · exact ⟨rfl, rfl⟩
  · unfold tnHandleDo
    dsimp only
    split_ifs <;> exact ⟨rfl, rfl⟩
  · exact ⟨rfl, rfl⟩
  · exact ⟨rfl, rfl⟩

theorem tnHandleSubneg_fields (tc : TelnetClient) : tc.tnHandleSubneg.phase = tc.phase ∧
    tc.tnHandleSubneg.sbOpt = tc.sbOpt ∧ tc.tnHandleSubneg.sbBuf = tc.sbBuf := by
  unfold tnHandleSubneg
  split
  · exact ⟨rfl, rfl, rfl⟩
  · exact ⟨rfl, rfl, rfl⟩

/-- **One byte**: the phases are an automaton of their own. -/
theorem phase_byte (tc : TelnetClient) (c : UInt8) :
    (tc.tnProcessByte c).1.phase = nextPhase tc.phase c := by
  unfold tnProcessByte
  cases state : tc.state with
  | data =>
      rw [show tc.phase = (.data, tc.sbHaveOpt) by rw [phase, state], nextPhase]
      dsimp only
      split
      · rfl
      · rw [phase, state]
  | iac =>
      rw [show tc.phase = (.iac, tc.sbHaveOpt) by rw [phase, state], nextPhase]
      dsimp only
      by_cases escaped : c = tnIac
      · subst escaped
        rfl
      · rw [if_neg escaped]
        split
        · rfl
        split
        · rfl
        · rfl
  | cmdOpt =>
      rw [show tc.phase = (.cmdOpt, tc.sbHaveOpt) by rw [phase, state], nextPhase]
      exact (tnHandleCmd_fields _ c).1
  | sb =>
      dsimp only
      cases haveOpt : tc.sbHaveOpt with
      | false =>
          rw [show tc.phase = (.sb, false) by rw [phase, state, haveOpt], nextPhase, if_pos rfl]
          rfl
      | true =>
          rw [show tc.phase = (.sb, true) by rw [phase, state, haveOpt], nextPhase,
            if_neg (by decide)]
          split
          · rfl
          · rw [collect_phase, phase, state, haveOpt]
  | sbIac =>
      rw [show tc.phase = (.sbIac, tc.sbHaveOpt) by rw [phase, state], nextPhase]
      dsimp only
      by_cases closes : c = tnSe
      · subst closes
        exact congrArg (TnState.data, ·) (congrArg Prod.snd (tnHandleSubneg_fields tc).1)
      · rw [if_neg closes]
        split
        · exact congrArg (TnState.sb, ·) (congrArg Prod.snd (collect_phase tc 0xFF))
        · rfl

theorem phase_afterBytes (tc : TelnetClient) (raw : List UInt8) :
    (tc.afterBytes raw).phase = raw.foldl nextPhase tc.phase := by
  induction raw generalizing tc with
  | nil => rfl
  | cons c raw ih =>
      rw [List.foldl_cons, ← phase_byte]
      exact ih (tc.tnProcessByte c).1

/-! ### One byte off -/

/-- The next IAC is taken for a byte of the body: for the option, or for the second of a pair. -/
def Deaf (p : Phase) : Prop := p = (.sb, false) ∨ p = (.sbIac, true)

/-- `TN_STATE_SB_IAC` comes after the option. -/
def Opted (p : Phase) : Prop := p ≠ (.sbIac, false)

theorem opted_next (p : Phase) (c : UInt8) : Opted (nextPhase p c) := by
  obtain ⟨state, haveOpt⟩ := p
  unfold Opted
  cases state with
  | data =>
      rw [nextPhase]
      split <;> simp
  | iac =>
      rw [nextPhase]
      split
      · simp
      split <;> simp
  | cmdOpt => simp [nextPhase]
  | sb => cases haveOpt <;> simp [nextPhase]
  | sbIac =>
      rw [nextPhase]
      split <;> simp

theorem opted_foldl {p : Phase} (opted : Opted p) (raw : List UInt8) :
    Opted (raw.foldl nextPhase p) := by
  induction raw generalizing p with
  | nil => exact opted
  | cons c raw ih => exact ih (opted_next p c)

/-- **The terminator** is heard in every phase but those. -/
theorem closes_iff {p : Phase} (opted : Opted p) :
    ([tnIac, tnSe].foldl nextPhase p).1 = .data ↔ ¬ Deaf p := by
  obtain ⟨state, haveOpt⟩ := p
  unfold Opted at opted
  unfold Deaf
  cases state <;> cases haveOpt <;> first | decide | exact absurd rfl opted

/-- A byte after which the decoder is one byte off. -/
theorem deaf_next {p : Phase} (opted : Opted p) {c : UInt8} (deaf : Deaf (nextPhase p c)) :
    (p.1 = .iac ∧ c = tnSb) ∨ (c = tnIac ∧ p = (.sb, true)) := by
  obtain ⟨state, haveOpt⟩ := p
  unfold Opted at opted
  unfold Deaf at deaf
  cases state with
  | data =>
      rw [nextPhase] at deaf
      split at deaf <;> simp at deaf
  | iac =>
      rw [nextPhase] at deaf
      split at deaf
      · simp at deaf
      split at deaf
      · exact Or.inl ⟨rfl, ‹_›⟩
      · simp at deaf
  | cmdOpt => simp [nextPhase] at deaf
  | sb =>
      cases haveOpt with
      | false => simp [nextPhase] at deaf
      | true =>
          refine Or.inr ⟨?_, rfl⟩
          by_contra plain
          simp [nextPhase, plain] at deaf
  | sbIac =>
      cases haveOpt with
      | false => exact absurd rfl opted
      | true =>
          rw [nextPhase] at deaf
          split at deaf <;> simp at deaf

/-- An IAC taken for a byte of the body. -/
theorem deaf_of_iac {p : Phase} (opted : Opted p) (taken : nextPhase p tnIac = (.sb, true)) :
    Deaf p := by
  obtain ⟨state, haveOpt⟩ := p
  unfold Opted at opted
  unfold Deaf
  cases state <;> cases haveOpt <;> first
    | decide
    | exact absurd rfl opted
    | exact absurd taken (by decide)

/-- **A token** after which the decoder is one byte off enters a subnegotiation, or is a pair of IACs
before which it was one byte off already. -/
theorem deaf_token {p : Phase} (opted : Opted p) (token : SbToken)
    (deaf : Deaf (token.bytes.foldl nextPhase p)) :
    (∃ before, token.bytes = before ++ [tnSb] ∧ (before.foldl nextPhase p).1 = .iac) ∨
      (Deaf p ∧ token.bytes = [tnIac, tnIac]) := by
  cases token with
  | byte c plain =>
      rcases deaf_next opted deaf with ⟨iac, rfl⟩ | ⟨isIac, _⟩
      · exact Or.inl ⟨[], rfl, iac⟩
      · exact absurd isIac plain
  | escape c unclosed =>
      rcases deaf_next (opted_next p tnIac) deaf with ⟨iac, rfl⟩ | ⟨rfl, taken⟩
      · exact Or.inl ⟨[tnIac], rfl, iac⟩
      · exact Or.inr ⟨deaf_of_iac opted taken, rfl⟩

/-- After an SB and any number of pairs of IACs. -/
theorem deaf_replicate (k : Nat) :
    Deaf ((List.replicate (2 * k) tnIac).foldl nextPhase (.sb, false)) := by
  cases k with
  | zero => exact Or.inl rfl
  | succ k =>
      right
      induction k with
      | zero => rfl
      | succ k ih =>
          have more : List.replicate (2 * (k + 1 + 1)) tnIac =
              List.replicate (2 * (k + 1)) tnIac ++ [tnIac, tnIac] := by
            rw [show 2 * (k + 1 + 1) = 2 * (k + 1) + 2 by omega, List.replicate_add]
            rfl
          rw [more, List.foldl_append, ih]
          rfl

/-! ### The exact condition -/

section Streams

variable {tc : TelnetClient}

theorem opted_afterBytes (start : tc.state = .data) (raw : List UInt8) :
    Opted (tc.afterBytes raw).phase := by
  rw [phase_afterBytes]
  refine opted_foldl (fun impossible => ?_) raw
  rw [phase, start] at impossible
  cases impossible

theorem phase_enters {done : List UInt8} (enters : tc.Enters done) :
    (tc.afterBytes done).phase = (.sb, false) := by
  obtain ⟨before, rfl, iac⟩ := enters
  have opened : (tc.afterBytes before).phase = (.iac, (tc.afterBytes before).sbHaveOpt) := by
    rw [phase, iac]
  rw [phase_afterBytes] at opened ⊢
  rw [List.foldl_append, opened]
  rfl

theorem pairs_bytes (k : Nat) :
    (List.replicate k (SbToken.escape tnIac (by decide))).flatMap SbToken.bytes =
      List.replicate (2 * k) tnIac := by
  induction k with
  | zero => rfl
  | succ k ih =>
      rw [List.replicate_succ, List.flatMap_cons, ih,
        show 2 * (k + 1) = 2 + 2 * k by omega, List.replicate_add]
      rfl

/-- One byte off at the end of a token: since the last SB there were pairs of IACs only. -/
theorem enters_of_deaf (start : tc.state = .data) {done : List UInt8} (enters : tc.Enters done)
    (tokens : List SbToken)
    (deaf : Deaf (tc.afterBytes (done ++ tokens.flatMap SbToken.bytes)).phase) :
    ∃ done' k, tc.Enters done' ∧
      done' ++ List.replicate (2 * k) tnIac = done ++ tokens.flatMap SbToken.bytes := by
  induction tokens using List.reverseRecOn with
  | nil => exact ⟨done, 0, enters, rfl⟩
  | append_singleton tokens token ih =>
      have bytes : done ++ (tokens ++ [token]).flatMap SbToken.bytes =
          (done ++ tokens.flatMap SbToken.bytes) ++ token.bytes := by
        simp
      have opted := opted_afterBytes start (done ++ tokens.flatMap SbToken.bytes)
      rw [phase_afterBytes] at opted ih
      rw [bytes, phase_afterBytes, List.foldl_append] at deaf
      rw [bytes]
      rcases deaf_token opted token deaf with ⟨before, shape, iac⟩ | ⟨already, pair⟩
      · refine ⟨_, 0, ⟨done ++ tokens.flatMap SbToken.bytes ++ before, ?_, ?_⟩,
          List.append_nil _⟩
        · rw [shape, ← List.append_assoc]
        · have reached := phase_afterBytes tc (done ++ tokens.flatMap SbToken.bytes ++ before)
          rw [List.foldl_append] at reached
          rw [← reached] at iac
          exact iac
      · obtain ⟨done', k, enters', same⟩ := ih already
        refine ⟨done', k + 1, enters', ?_⟩
        rw [show 2 * (k + 1) = 2 * k + 2 by omega, List.replicate_add, ← List.append_assoc, same,
          pair]
        rfl

/-- **When every subnegotiation ends at its IAC SE.** -/
theorem subnegs_end_iff (tc : TelnetClient) (start : tc.state = .data) (w : List UInt8) :
    tc.SubnegsEnd w ↔ tc.BodiesGiven w := by
  have closing : ∀ raw : List UInt8, (tc.afterBytes (raw ++ [tnIac, tnSe])).state = .data ↔
      ¬ Deaf (tc.afterBytes raw).phase := by
    intro raw
    have ends : (tc.afterBytes (raw ++ [tnIac, tnSe])).phase =
        [tnIac, tnSe].foldl nextPhase (tc.afterBytes raw).phase := by
      rw [phase_afterBytes, phase_afterBytes, List.foldl_append]
    rw [← closes_iff (opted_afterBytes start raw), ← ends]
    rfl
  constructor
  · intro ends done k enters isPrefix
    have pairs := pairs_bytes k
    rw [← pairs] at isPrefix
    have ends := ends done _ enters isPrefix
    rw [closing, pairs, phase_afterBytes, List.foldl_append, ← phase_afterBytes,
      phase_enters enters] at ends
    exact ends (deaf_replicate k)
  · intro given done tokens enters isPrefix
    rw [closing]
    intro deaf
    obtain ⟨done', k, enters', same⟩ := enters_of_deaf start enters tokens deaf
    rw [← same] at isPrefix
    exact given done' k enters' isPrefix

end Streams

/-- `IAC SB TERMINAL-TYPE SEND IAC SE`. -/
def askTermType : List UInt8 := [tnIac, tnSb, optTermType, 1, tnIac, tnSe]

/-- Its SB is followed by no IAC. -/
theorem askTermType_given : telnetClientConnect.BodiesGiven askTermType := by
  rintro done k ⟨before, rfl, _⟩ ⟨rest, shape⟩
  have body : List.replicate (2 * k) tnIac ++ [tnIac, tnSe] = tnIac ::
      (List.replicate (2 * k) tnIac ++ [tnIac, tnSe]).tail := by
    cases k with
    | zero => rfl
    | succ k => rfl
  rw [List.append_assoc (before ++ [tnSb]), body] at shape
  -- The SB is the second byte, and the option follows it.
  rcases before with _ | ⟨_, _ | ⟨_, _ | ⟨_, _ | ⟨_, _ | ⟨_, _ | ⟨_, before⟩⟩⟩⟩⟩⟩
  all_goals simp [askTermType, tnIac, tnSb, tnSe, optTermType] at shape

theorem subnegs_end_iff_termType : telnetClientConnect.SubnegsEnd askTermType :=
  (subnegs_end_iff telnetClientConnect rfl askTermType).mpr askTermType_given

/-- `IAC SB IAC SE`, and a session byte behind it. -/
theorem subnegs_end_fails :
    ¬ ∀ (tc : TelnetClient) (w : List UInt8), tc.state = .data → tc.SubnegsEnd w := by
  intro ends
  have swallowed := ends telnetClientConnect [tnIac, tnSb, tnIac, tnSe, 0x41] rfl [tnIac, tnSb] []
    ⟨[tnIac], rfl, rfl⟩ ⟨[0x41], rfl⟩
  exact absurd swallowed (by decide)

/-! ### The size report -/

/-- The four bytes of a size. -/
def sizeBytes (cols rows : UInt16) : List UInt8 :=
  [(cols >>> 8).toUInt8, cols.toUInt8, (rows >>> 8).toUInt8, rows.toUInt8]

/-- The report is read as one subnegotiation that carries the size. -/
structure ReportDecodes (tc : TelnetClient) (cols rows : UInt16) : Prop where
  session : (tc.tnProcess (nawsReport cols rows)).2 = []
  state : (tc.afterBytes (nawsReport cols rows)).state = .data
  opt : (tc.afterBytes (nawsReport cols rows)).sbOpt = optNaws
  size : (tc.afterBytes (nawsReport cols rows)).sbBuf = sizeBytes cols rows

section Reports

variable {tc : TelnetClient}

theorem doubleIac_plain {payload : List UInt8} (plain : ∀ c ∈ payload, c ≠ tnIac) :
    doubleIac payload = payload := by
  induction payload with
  | nil => rfl
  | cons c payload ih =>
      rw [doubleIac, if_neg (plain c List.mem_cons_self),
        ih fun d member => plain d (List.mem_cons_of_mem _ member)]

theorem collect_length (tc : TelnetClient) (c : UInt8) :
    (tc.collect c).sbBuf.length ≤ tc.sbBuf.length + 1 := by
  unfold collect
  split
  · exact Nat.le_of_eq List.length_append
  · omega

/-- **The buffer grows** by one at most, and by a byte after which the decoder is in a body. -/
theorem sbBuf_byte (tc : TelnetClient) (c : UInt8) : (tc.tnProcessByte c).1.sbBuf.length ≤
    tc.sbBuf.length + if (tc.tnProcessByte c).1.state = .sb then 1 else 0 := by
  have stored := collect_length tc c
  have escaped := collect_length tc 0xFF
  have inBody : (tc.collect c).state = tc.state := congrArg Prod.fst (collect_phase tc c)
  unfold tnProcessByte
  cases state : tc.state with
  | data =>
      dsimp only
      split
      · exact Nat.le_add_right _ _
      · exact Nat.le_add_right _ _
  | iac =>
      dsimp only
      split_ifs <;> simp
  | cmdOpt =>
      dsimp only
      rw [(tnHandleCmd_fields _ c).2]
      exact Nat.le_add_right _ _
  | sb =>
      dsimp only
      split
      · exact Nat.le_add_right _ _
      split
      · exact Nat.le_add_right _ _
      · rw [if_pos (inBody.trans state)]
        exact stored
  | sbIac =>
      dsimp only
      split
      · rw [(tnHandleSubneg_fields tc).2.2]
        exact Nat.le_add_right _ _
      split
      · exact escaped
      · exact Nat.le_add_right _ _

theorem sbBuf_bytes (tc : TelnetClient) (raw : List UInt8) :
    (tc.afterBytes raw).sbBuf.length ≤ tc.sbBuf.length + raw.length := by
  induction raw generalizing tc with
  | nil => exact Nat.le_refl _
  | cons c raw ih =>
      have first := sbBuf_byte tc c
      have rest := ih (tc.tnProcessByte c).1
      have atMostOne : (if (tc.tnProcessByte c).1.state = .sb then 1 else 0) ≤ 1 := by
        split <;> omega
      show ((tc.tnProcessByte c).1.afterBytes raw).sbBuf.length ≤ _
      rw [List.length_cons]
      omega

/-- A terminator that is heard collects nothing. -/
theorem sbBuf_closed (tc : TelnetClient) (closed : (tc.afterBytes [tnIac, tnSe]).state = .data) :
    (tc.afterBytes [tnIac, tnSe]).sbBuf.length ≤ tc.sbBuf.length := by
  have first := sbBuf_byte tc tnIac
  have second := sbBuf_byte (tc.tnProcessByte tnIac).1 tnSe
  have notSb : (tc.tnProcessByte tnIac).1.state ≠ .sb := by
    intro inBody
    have ends := phase_byte (tc.tnProcessByte tnIac).1 tnSe
    have opened : (tc.tnProcessByte tnIac).1.phase =
        (.sb, (tc.tnProcessByte tnIac).1.sbHaveOpt) := by
      rw [phase, inBody]
    rw [opened] at ends
    have state : (tc.afterBytes [tnIac, tnSe]).state = .sb := by
      show (((tc.tnProcessByte tnIac).1.tnProcessByte tnSe).1.phase).1 = .sb
      rw [ends]
      cases (tc.tnProcessByte tnIac).1.sbHaveOpt <;> rfl
    rw [closed] at state
    cases state
  have ended : ((tc.tnProcessByte tnIac).1.tnProcessByte tnSe).1.state = .data := closed
  rw [if_neg notSb] at first
  rw [if_neg (by rw [ended]; decide)] at second
  show ((tc.tnProcessByte tnIac).1.tnProcessByte tnSe).1.sbBuf.length ≤ _
  omega

/-- Bytes of a body before its first IAC. -/
theorem phase_body (body : tc.phase = (.sb, true)) {raw : List UInt8} (plain : tnIac ∉ raw) :
    (tc.afterBytes raw).phase = (.sb, true) := by
  rw [phase_afterBytes, body]
  induction raw with
  | nil => rfl
  | cons c raw ih =>
      obtain ⟨first, rest⟩ := not_or.mp (mt List.mem_cons.mpr plain)
      rw [List.foldl_cons, nextPhase, if_neg (Ne.symm first)]
      exact ih rest

theorem afterBytes_append (tc : TelnetClient) (first rest : List UInt8) :
    tc.afterBytes (first ++ rest) = (tc.afterBytes first).afterBytes rest := by
  unfold afterBytes
  rw [tnProcess_append]

/-- **An unescaped IAC among four bytes** is lost, if the terminator is heard. -/
theorem sbBuf_short (body : tc.phase = (.sb, true)) (empty : tc.sbBuf = []) {payload : List UInt8}
    (unescaped : tnIac ∈ payload)
    (closed : (tc.afterBytes (payload ++ [tnIac, tnSe])).state = .data) :
    (tc.afterBytes (payload ++ [tnIac, tnSe])).sbBuf.length < payload.length := by
  obtain ⟨pre, post, shape, plain⟩ := List.eq_append_cons_of_mem unescaped
  have before := sbBuf_bytes tc pre
  have atIac := sbBuf_byte (tc.afterBytes pre) tnIac
  have behind := sbBuf_bytes ((tc.afterBytes pre).tnProcessByte tnIac).1 post
  have notSb : ((tc.afterBytes pre).tnProcessByte tnIac).1.state ≠ .sb := by
    have next := phase_byte (tc.afterBytes pre) tnIac
    rw [phase_body body plain] at next
    have state : ((tc.afterBytes pre).tnProcessByte tnIac).1.state = .sbIac :=
      congrArg Prod.fst next
    rw [state]
    decide
  have walked : tc.afterBytes payload =
      ((tc.afterBytes pre).tnProcessByte tnIac).1.afterBytes post := by
    rw [shape, afterBytes_append]
    rfl
  rw [afterBytes_append] at closed ⊢
  have ends := sbBuf_closed (tc.afterBytes payload) closed
  rw [if_neg notSb] at atIac
  rw [empty, List.length_nil] at before
  rw [walked] at ends ⊢
  rw [shape, List.length_append, List.length_cons]
  omega

/-- **When a size report decodes to the size.** -/
theorem nawsReport_decodes_iff (tc : TelnetClient) (start : tc.state = .data)
    (cols rows : UInt16) : tc.ReportDecodes cols rows ↔ ∀ c ∈ sizeBytes cols rows, c ≠ tnIac := by
  have report : tc.tnProcess (nawsReport cols rows) =
      (tc.opened optNaws).tnProcess (sizeBytes cols rows ++ [tnIac, tnSe]) :=
    tnProcess_opened start optNaws _
  constructor
  · intro decodes
    by_contra some
    simp only [not_forall, not_not] at some
    obtain ⟨_, member, rfl⟩ := some
    have body : (tc.opened optNaws).phase = (.sb, true) := rfl
    have short := sbBuf_short body rfl member (by
      have state := decodes.state
      unfold afterBytes at state ⊢
      rwa [report] at state)
    have size := decodes.size
    unfold afterBytes at size short
    rw [report] at size
    rw [size] at short
    exact Nat.lt_irrefl _ short
  · intro plain
    have read := tnProcess_subneg start optNaws (sizeBytes cols rows)
    rw [doubleIac_plain plain] at read
    have whole : tc.tnProcess (nawsReport cols rows) = _ := read
    have fields := tnHandleSubneg_fields
      { tc.opened optNaws with sbBuf := sizeBytes cols rows, state := .sbIac }
    constructor
    · rw [whole]
    · unfold afterBytes
      rw [whole]
    · unfold afterBytes
      rw [whole]
      exact fields.2.1
    · unfold afterBytes
      rw [whole]
      exact fields.2.2

end Reports

/-- 80 columns and 42 rows. -/
theorem nawsReport_decodes_iff_screen : telnetClientConnect.ReportDecodes 80 42 :=
  (nawsReport_decodes_iff telnetClientConnect rfl 80 42).mpr (by decide +kernel)

/-- 255 columns. -/
theorem nawsReport_decodes_fails :
    ¬ ∀ (tc : TelnetClient) (cols rows : UInt16), tc.state = .data → tc.ReportDecodes cols rows := by
  intro decodes
  exact absurd (decodes telnetClientConnect 255 42 rfl).size (by decide)

end TelnetClient

end Tab5
