/-
**A Telnet connection's life** (`main/telnet_client.c`).

`telnet_client_connect` as the calls it makes, with what they return as arguments; the socket is
switched to non-blocking while it connects. What the client decodes and sends is `Telnet.Client`;
here a read, a write or a size report is the calls it makes on the socket.

`telnet_client_custody`: whatever the calls return, a connection gives back what it took, and the
socket of one that stands is as blocking as it was made.
-/

import Tab5RemoteTerminal.Library.Calls
import Tab5RemoteTerminal.Telnet.Client

namespace Tab5

open Calls Ledger

/-! ### Calls and what they do -/

inductive TelnetResource where
  | record
  | addrinfo
  | sock
deriving DecidableEq, Repr

/-- The calls; a flag says whether what is asked for is there. -/
inductive TelnetCall where
  | calloc (ok : Bool)
  | getaddrinfo (ok : Bool)
  | socket (ok : Bool)
  | fcntlGetfl
  | fcntlSetfl (flags : UInt32)
  | connect
  | freeaddrinfo
  | select
  | getsockopt
  | recv
  | send (buf : List UInt8)
  | close
  | free
deriving DecidableEq, Repr

/-- What a call needs, takes and gives back. -/
def TelnetCall.ledger : TelnetCall → List (Event TelnetResource)
  | .calloc ok => if ok then [.take .record] else []
  | .getaddrinfo ok => if ok then [.take .addrinfo] else []
  | .socket ok => [.use .record, .use .addrinfo] ++ if ok then [.take .sock] else []
  | .connect => [.use .record, .use .sock, .use .addrinfo]
  | .freeaddrinfo => [.give .addrinfo]
  | .fcntlGetfl | .fcntlSetfl _ | .select | .getsockopt | .recv | .send _ =>
      [.use .record, .use .sock]
  | .close => [.use .record, .give .sock]
  | .free => [.give .record]

/-- `return NULL`. -/
inductive TelnetEnd where
  | failed
deriving DecidableEq, Repr

abbrev TelnetCode := Code TelnetCall TelnetEnd

/-! ### `telnet_client_connect` -/

/-- `O_NONBLOCK`. -/
def oNonblock : UInt32 := 0x4000

/-- What the calls of a connect return. -/
structure TelnetAnswers where
  calloc : Bool
  getaddrinfo : Int
  /-- `res != NULL` -/
  result : Bool
  socket : Int
  flags : UInt32
  connect : Int
  /-- `errno == EINPROGRESS`, when `connect` fails -/
  inProgress : Bool
  select : Int
  soError : Int

/-- `close(tc->sock); free(tc); return NULL;` -/
def giveUp {α : Type} : TelnetCode α := do
  call .close
  call .free
  leave .failed

/-- The end of a connect that stands: the socket gets its flags back. -/
def connected (a : TelnetAnswers) : TelnetCode TelnetClient := do
  call (.fcntlSetfl a.flags)
  pure telnetClientConnect

/-- `telnet_client_connect`, from the socket on. -/
def connectSocket (a : TelnetAnswers) : TelnetCode TelnetClient := do
  call .fcntlGetfl
  call (.fcntlSetfl (a.flags ||| oNonblock))
  call .connect
  call .freeaddrinfo
  if a.connect < 0 ∧ a.inProgress = false then giveUp
  else if a.connect < 0 then do
    call .select
    if a.select ≤ 0 then giveUp
    else do
      call .getsockopt
      if a.soError ≠ 0 then giveUp else connected a
  else connected a

def telnetClientConnectCode (a : TelnetAnswers) : TelnetCode TelnetClient := do
  call (.calloc a.calloc)
  if a.calloc = false then leave .failed
  else if a.getaddrinfo ≠ 0 ∨ a.result = false then do
    call (.getaddrinfo false)
    call .free
    leave .failed
  else do
    call (.getaddrinfo true)
    if a.socket < 0 then do
      call (.socket false)
      call .freeaddrinfo
      call .free
      leave .failed
    else do
      call (.socket true)
      connectSocket a

/-! ### The open connection -/

/-- What is done with the client while it is open. -/
inductive TelnetUse where
  | read (recv : RecvResult)
  | write (sendOk : Nat → Bool) (data : List UInt8)
  | sendNaws (cols rows : UInt16)

/-- The client after it. -/
def TelnetUse.client (tc : TelnetClient) : TelnetUse → TelnetClient
  | .read recv => (telnetClientRead tc recv).1
  | .write sendOk data => { tc with sent := tc.sent ++ (telnetClientWrite sendOk data).2 }
  | .sendNaws cols rows => telnetClientSendNaws tc cols rows

/-- The calls on the socket: `select` and, unless it fails or times out, `recv`; then the `send`s. -/
def TelnetUse.calls (tc : TelnetClient) (u : TelnetUse) : List TelnetCall :=
  (match u with
    | .read (.received _) => [.select, .recv]
    | .read _ => [.select]
    | _ => []) ++ ((u.client tc).sent.drop tc.sent.length).map .send

/-- The calls of one use after another. -/
def telnetUses (tc : TelnetClient) : List TelnetUse → List TelnetCall
  | [] => []
  | u :: uses => u.calls tc ++ telnetUses (u.client tc) uses

/-- `telnet_client_close`, of a client there is. -/
def telnetClientClose : List TelnetCall := [.close, .free]

/-! ### What is held -/

def TelnetEnd.Allows : TelnetEnd → List TelnetResource → Prop
  | .failed, held => held = []

/-- What an open client is made of. -/
def telnetHeld : List TelnetResource := [.sock, .record]

theorem giveUp_triple {post : TelnetClient → List TelnetResource → Prop} :
    Triple TelnetCall.ledger telnetHeld giveUp post TelnetEnd.Allows := by
  refine triple_call [.record] rfl ?_
  exact triple_call [] rfl (triple_leave rfl)

theorem connected_triple (a : TelnetAnswers) :
    Triple TelnetCall.ledger telnetHeld (connected a) (fun _ held => held = telnetHeld)
      TelnetEnd.Allows :=
  triple_call telnetHeld rfl (triple_pure rfl)

/-- The address goes when the connect is under way. -/
theorem connectSocket_triple (a : TelnetAnswers) :
    Triple TelnetCall.ledger [.sock, .addrinfo, .record] (connectSocket a)
      (fun _ held => held = telnetHeld) TelnetEnd.Allows := by
  refine triple_call [.sock, .addrinfo, .record] rfl ?_
  refine triple_call [.sock, .addrinfo, .record] rfl ?_
  refine triple_call [.sock, .addrinfo, .record] rfl ?_
  refine triple_call telnetHeld rfl ?_
  by_cases refused : a.connect < 0 ∧ a.inProgress = false
  · rw [if_pos refused]
    exact giveUp_triple
  rw [if_neg refused]
  by_cases pending : a.connect < 0
  swap
  · rw [if_neg pending]
    exact connected_triple a
  rw [if_pos pending]
  refine triple_call telnetHeld rfl ?_
  by_cases late : a.select ≤ 0
  · rw [if_pos late]
    exact giveUp_triple
  rw [if_neg late]
  refine triple_call telnetHeld rfl ?_
  by_cases broken : a.soError ≠ 0
  · rw [if_pos broken]
    exact giveUp_triple
  · rw [if_neg broken]
    exact connected_triple a

/-- **What `telnet_client_connect` leaves held**: the client and its socket, or nothing. -/
theorem telnetClientConnectCode_triple (a : TelnetAnswers) :
    Triple TelnetCall.ledger [] (telnetClientConnectCode a) (fun _ held => held = telnetHeld)
      TelnetEnd.Allows := by
  unfold telnetClientConnectCode
  cases a.calloc with
  | false => exact triple_call [] rfl (triple_leave rfl)
  | true =>
      refine triple_call [.record] rfl ?_
      rw [if_neg (by decide)]
      by_cases unknown : a.getaddrinfo ≠ 0 ∨ a.result = false
      · rw [if_pos unknown]
        refine triple_call [.record] rfl ?_
        exact triple_call [] rfl (triple_leave rfl)
      rw [if_neg unknown]
      refine triple_call [.addrinfo, .record] rfl ?_
      by_cases noSocket : a.socket < 0
      · rw [if_pos noSocket]
        refine triple_call [.addrinfo, .record] rfl ?_
        refine triple_call [.record] rfl ?_
        exact triple_call [] rfl (triple_leave rfl)
      · rw [if_neg noSocket]
        exact triple_call [.sock, .addrinfo, .record] rfl (connectSocket_triple a)

/-! ### The flags of the socket -/

/-- The last call of the code, if it returns, is this one. -/
def ReturnsBehind (c : TelnetCall) (code : TelnetCode TelnetClient) : Prop :=
  ∀ tc, code.result = .ok tc → code.calls.getLast? = some c

theorem ReturnsBehind.call {c first : TelnetCall} {rest : Unit → TelnetCode TelnetClient}
    (behind : ReturnsBehind c (rest ())) : ReturnsBehind c (call first >>= rest) := by
  intro tc ok
  rw [call_bind_calls, List.getLast?_cons, behind tc ok]
  rfl

theorem ReturnsBehind.ite {c : TelnetCall} {cond : Prop} [Decidable cond]
    {yes no : TelnetCode TelnetClient} (one : ReturnsBehind c yes) (other : ReturnsBehind c no) :
    ReturnsBehind c (if cond then yes else no) := by
  split
  · exact one
  · exact other

theorem leave_returnsBehind (c : TelnetCall) (e : TelnetEnd) :
    ReturnsBehind c (leave e) := fun _ ok => by cases ok

theorem giveUp_returnsBehind (c : TelnetCall) : ReturnsBehind c giveUp :=
  (leave_returnsBehind c .failed).call.call

theorem connected_returnsBehind (a : TelnetAnswers) :
    ReturnsBehind (.fcntlSetfl a.flags) (connected a) := fun _ _ => rfl

/-- A connect that stands has restored the flags last. -/
theorem telnetClientConnectCode_flags (a : TelnetAnswers) :
    ReturnsBehind (.fcntlSetfl a.flags) (telnetClientConnectCode a) := by
  have quits := fun e => leave_returnsBehind (.fcntlSetfl a.flags) e
  have gives := giveUp_returnsBehind (.fcntlSetfl a.flags)
  have stands := connected_returnsBehind a
  have socket : ReturnsBehind (.fcntlSetfl a.flags) (connectSocket a) :=
    .call (.call (.call (.call
      (gives.ite (.ite (.call (gives.ite (.call (gives.ite stands)))) stands)))))
  exact .call ((quits _).ite (.ite (.call (.call (quits _)))
    (.call (.ite (.call (.call (.call (quits _)))) (.call socket)))))

/-- The flags a call sets. -/
def TelnetCall.setFlags : TelnetCall → Option UInt32
  | .fcntlSetfl flags => some flags
  | _ => none

/-! ### The whole life -/

/-- A use is calls that need the client and its socket and set no flags. -/
theorem telnetUse_calls (tc : TelnetClient) (u : TelnetUse) :
    ∀ c ∈ u.calls tc, c.ledger = [.use .record, .use .sock] ∧ c.setFlags = none := by
  intro c mem
  rcases List.mem_append.mp mem with waits | sends
  · cases u with
    | read recv =>
        cases recv with
        | received raw =>
            rcases List.mem_cons.mp waits with rfl | later
            · exact ⟨rfl, rfl⟩
            · rw [List.mem_singleton.mp later]
              exact ⟨rfl, rfl⟩
        | _ =>
            rw [List.mem_singleton.mp waits]
            exact ⟨rfl, rfl⟩
    | _ => exact absurd waits List.not_mem_nil
  · obtain ⟨buf, _, rfl⟩ := List.mem_map.mp sends
    exact ⟨rfl, rfl⟩

theorem telnetUses_calls (tc : TelnetClient) (uses : List TelnetUse) :
    ∀ c ∈ telnetUses tc uses, c.ledger = [.use .record, .use .sock] ∧ c.setFlags = none := by
  induction uses generalizing tc with
  | nil => exact fun c mem => absurd mem List.not_mem_nil
  | cons u uses ih =>
      intro c mem
      rcases List.mem_append.mp mem with now | later
      · exact telnetUse_calls tc u c now
      · exact ih (u.client tc) c later

theorem telnetUses_settle (tc : TelnetClient) (uses : List TelnetUse) :
    settle telnetHeld ((telnetUses tc uses).flatMap TelnetCall.ledger) = some telnetHeld := by
  refine settle_uses fun e mem => ?_
  obtain ⟨c, inside, mem⟩ := List.mem_flatMap.mp mem
  rw [(telnetUses_calls tc uses c inside).1] at mem
  rcases List.mem_cons.mp mem with rfl | later
  · exact ⟨.record, by decide, rfl⟩
  · rw [List.mem_singleton.mp later]
    exact ⟨.sock, by decide, rfl⟩

/-- Everything taken in some calls is given back in them, once, after its last use. -/
structure TelnetSettled (calls : List TelnetCall) : Prop where
  settles : settle [] (calls.flatMap TelnetCall.ledger) = some []
  balanced : ∀ r, (calls.flatMap TelnetCall.ledger).count (.take r) =
    (calls.flatMap TelnetCall.ledger).count (.give r)

theorem TelnetSettled.of_settle {calls : List TelnetCall}
    (settles : settle [] (calls.flatMap TelnetCall.ledger) = some []) : TelnetSettled calls :=
  ⟨settles, settled_balance settles⟩

/-- **A Telnet connection leaks nothing and blocks where it should.** Whatever the calls return: a
connect that fails has given back all it took; one that succeeds, followed by any reads, writes and
size reports and the close, has, and from the connect on the socket has the flags it was made
with. -/
theorem telnet_client_custody (a : TelnetAnswers) (uses : List TelnetUse) :
    let connect := telnetClientConnectCode a
    match connect.result with
    | .error _ => TelnetSettled connect.calls
    | .ok tc =>
        TelnetSettled (connect.calls ++ telnetUses tc uses ++ telnetClientClose) ∧
        ((connect.calls ++ telnetUses tc uses).filterMap TelnetCall.setFlags).getLast? =
          some a.flags := by
  intro connect
  obtain ⟨held, settles, ends⟩ := telnetClientConnectCode_triple a
  have last := telnetClientConnectCode_flags a
  show match (telnetClientConnectCode a).result with
    | .error _ => _
    | .ok tc => _
  cases result : (telnetClientConnectCode a).result with
  | error e =>
      rw [result] at ends
      have nothing : held = [] := ends
      rw [nothing] at settles
      exact .of_settle settles
  | ok tc =>
      rw [result] at ends
      have all : held = telnetHeld := ends
      rw [all] at settles
      refine ⟨.of_settle ?_, ?_⟩
      · rw [List.flatMap_append, List.flatMap_append]
        exact settle_then (settle_then settles (telnetUses_settle tc uses)) rfl
      · have quiet : (telnetUses tc uses).filterMap TelnetCall.setFlags = [] :=
          List.filterMap_eq_nil_iff.mpr fun c mem => (telnetUses_calls tc uses c mem).2
        obtain ⟨before, split⟩ := List.getLast?_eq_some_iff.mp (last tc result)
        show ((connect.calls ++ telnetUses tc uses).filterMap TelnetCall.setFlags).getLast? = _
        rw [List.filterMap_append, quiet, List.append_nil, split, List.filterMap_append]
        exact List.getLast?_concat

end Tab5
