/-
  File:      Network.lean
  Subject:   THE RELAY BETWEEN TWO SOCKETS (src/network.c: net_relay and its queues).

  A worker process relays a connection until both sides are done.  There is a bounded queue for each
  direction; the one to the upstream starts with the pending bytes of the setup.  `send`, `recv`,
  `poll`, `shutdown` and the clock answer from a script, so they may do anything they are documented
  to do: take part of the bytes, be interrupted, fail, report any mix of conditions.  A script that
  ends stops the run at the call it has no answer for; what holds for every script holds at every
  call of every run.

  * `QueueSound`, `Running` -- the invariant of a direction, of the relay between two calls;
  * `netRelay_fifo` -- nothing is lost, reordered or sent twice, and each shutdown is in its place.

  `errno` of a failed relay is not modelled: the worker ends either way.
-/
import Mathlib.Logic.Function.Basic
import MinecraftRelay.Basic
import MinecraftRelay.Timeutil
import MinecraftRelay.Library.Scripted
import MinecraftRelay.Library.Conduit
import MinecraftRelay.Library.Window

namespace MinecraftRelay

open Scripted Conduit Window
open Function (update update_eq_self update_of_ne update_self)

variable {queue : NetRelayQueue} {log : List (Io UInt8)} {t : NetRelay}

/-! ## 1. The socket calls -/

/-- The errors the code tells apart.  `EWOULDBLOCK` is `EAGAIN`. -/
inductive SocketErrno where
  | eagain
  | econnreset
  | eintr
  | enotconn
  | epipe
  | other
deriving Repr, DecidableEq

/-- `send`: it takes as many of the bytes as it likes, up to `count`. -/
inductive SendResult where
  | taken (count : Nat)
  | failed (errno : SocketErrno)
deriving Repr, DecidableEq

/-- `recv`: the bytes that are there, of which it gives as many as fit.  No byte is the end of the
    input. -/
inductive RecvResult where
  | bytes (bytes : Bytes)
  | failed (errno : SocketErrno)
deriving Repr, DecidableEq

/-- The conditions `poll` reports for one socket. -/
structure PollEvents where
  pollin : Bool
  pollout : Bool
  pollrdhup : Bool
  pollhup : Bool
  pollerr : Bool
  pollnval : Bool
deriving Repr, DecidableEq

def PollEvents.none : PollEvents := ⟨false, false, false, false, false, false⟩

/-- `NET_RELAY_POLL_IN` and `NET_RELAY_POLL_OUT`. -/
inductive NetRelayPollIndex where
  | pollIn
  | pollOut
deriving Repr, DecidableEq

inductive PollResult where
  | ready (revents : NetRelayPollIndex → PollEvents)
  | timeout
  | failed (errno : SocketErrno)

/-- What comes back for one `struct pollfd`: a negative descriptor is skipped, and beside the events
    asked for only the three error conditions are reported. -/
def pollRevents (wantRead wantWrite : Bool) (reported : PollEvents) : PollEvents :=
  if wantRead || wantWrite then
    { reported with
      pollin := reported.pollin && wantRead
      pollrdhup := reported.pollrdhup && wantRead
      pollout := reported.pollout && wantWrite }
  else .none

/-! ## 2. The queues -/

/-- `NET_RELAY_BUFFER_BYTES` and `NET_RELAY_IDLE_TIMEOUT_SEC`. -/
def netRelayBufferBytes : Nat := 16384

@[inherit_doc netRelayBufferBytes]
def netRelayIdleTimeoutSec : Int := 300

/-- `net_relay_queue`: the live bytes lie between `offset` and `length`. -/
structure NetRelayQueue where
  offset : Nat
  length : Nat
  peerEof : Bool
  shutdownSent : Bool
  data : Bytes
deriving Repr, DecidableEq

def NetRelayQueue.zero : NetRelayQueue :=
  ⟨0, 0, false, false, List.replicate netRelayBufferBytes 0⟩

/-- The bytes that wait to be sent. -/
def NetRelayQueue.queued (queue : NetRelayQueue) : Bytes :=
  window queue.data queue.offset (queue.length - queue.offset)

/-- `net_relay_queue_compact`. -/
def netRelayQueueCompact (queue : NetRelayQueue) : NetRelayQueue :=
  if queue.offset = 0 then queue
  else if queue.offset = queue.length then { queue with offset := 0, length := 0 }
  else
    { queue with
      data := overwrite queue.data 0 queue.queued
      length := queue.length - queue.offset
      offset := 0 }

/-- The two directions: client to upstream, upstream to client. -/
inductive NetRelayDirection where
  | c2o
  | o2c
deriving Repr, DecidableEq

/-- The answers of the system, in the order they are asked for. -/
structure NetRelayScript where
  clocks : List (Option Timespec)
  sends : List SendResult
  recvs : List RecvResult
  polls : List PollResult
  /-- The error of a `shutdown`, if it fails. -/
  shutdowns : List (Option SocketErrno)

/-- The local variables of `net_relay`, the log of each direction, and what the system still
    answers. -/
structure NetRelay where
  queue : NetRelayDirection → NetRelayQueue
  lastActivity : Timespec
  log : NetRelayDirection → List (Io UInt8)
  script : NetRelayScript

namespace NetRelay

variable (d : NetRelayDirection)

def setQueue (queue : NetRelayQueue) (r : NetRelay) : NetRelay :=
  { r with queue := update r.queue d queue }

def record (io : Io UInt8) (r : NetRelay) : NetRelay :=
  { r with log := update r.log d (io :: r.log d) }

/-- `clock_gettime(CLOCK_MONOTONIC)`. -/
def clock : Prog NetRelay (Option Timespec) :=
  take (·.script.clocks) fun rest r => { r with script := { r.script with clocks := rest } }

/-- `send` of the queued bytes of a direction: how many of them were taken. -/
def send : Prog NetRelay (Except SocketErrno Nat) := do
  let answer ← take (·.script.sends) fun rest r =>
    { r with script := { r.script with sends := rest } }
  match answer with
  | .failed errno => pure (.error errno)
  | .taken count =>
    let r ← get
    let bytes := (r.queue d).queued.take count
    if bytes = [] then pure (.ok 0)
    else
      modify (record d (.sent bytes))
      pure (.ok bytes.length)

/-- `recv` of at most `room` bytes. -/
def recv (room : Nat) : Prog NetRelay (Except SocketErrno Bytes) := do
  let answer ← take (·.script.recvs) fun rest r =>
    { r with script := { r.script with recvs := rest } }
  match answer with
  | .failed errno => pure (.error errno)
  | .bytes bytes =>
    if bytes.take room = [] then
      modify (record d .ended)
      pure (.ok [])
    else
      modify (record d (.received (bytes.take room)))
      pure (.ok (bytes.take room))

def poll : Prog NetRelay PollResult :=
  take (·.script.polls) fun rest r => { r with script := { r.script with polls := rest } }

/-- `shutdown(SHUT_WR)` of the socket a direction writes to. -/
def shutdown : Prog NetRelay (Option SocketErrno) := do
  let answer ← take (·.script.shutdowns) fun rest r =>
    { r with script := { r.script with shutdowns := rest } }
  modify (record d .shut)
  pure answer

end NetRelay

/-- `net_relay_finished`. -/
def netRelayFinished (queueC2o queueO2c : NetRelayQueue) : Bool :=
  queueC2o.peerEof && queueO2c.peerEof && queueC2o.offset == queueC2o.length &&
    queueO2c.offset == queueO2c.length && queueC2o.shutdownSent && queueO2c.shutdownSent

/-- `net_relay_idle_remaining_ms`. -/
def netRelayIdleRemainingMs (lastActivity now : Timespec) : Int :=
  let elapsed : Int × Int :=
    if now.nsec < lastActivity.nsec then
      (now.sec - lastActivity.sec - 1, now.nsec + 1000000000 - lastActivity.nsec)
    else (now.sec - lastActivity.sec, now.nsec - lastActivity.nsec)
  if elapsed.1 < 0 then 0
  else if elapsed.1 > netRelayIdleTimeoutSec ∨
      elapsed.1 = netRelayIdleTimeoutSec ∧ elapsed.2 > 0 then 0
  else
    let remaining : Int × Int :=
      if elapsed.2 > 0 then (netRelayIdleTimeoutSec - elapsed.1 - 1, 1000000000 - elapsed.2)
      else (netRelayIdleTimeoutSec - elapsed.1, 0)
    if remaining.1 > intMax.tdiv 1000 then intMax
    else
      let milliseconds := remaining.1 * 1000 + (remaining.2 + 999999).tdiv 1000000
      if milliseconds > intMax then intMax else milliseconds

/-- `net_relay_mark_activity`. -/
def netRelayMarkActivity : Prog NetRelay Bool := do
  match ← NetRelay.clock with
  | none => pure false
  | some now =>
    modify fun r => { r with lastActivity := now }
    pure true

variable (d : NetRelayDirection)

/-- One round of the loop in `net_relay_queue_drain`: the answer is how the loop is left, `true` by
    its condition or a `break`, `false` by `return false`. -/
def drainRound : Prog NetRelay (Option Bool) := do
  let r ← get
  let queue := r.queue d
  if ¬ queue.offset < queue.length then return some true
  match ← NetRelay.send d with
  | .ok 0 => pure (some false)
  | .ok sent =>
    modify (NetRelay.setQueue d { queue with offset := queue.offset + sent })
    if ← netRelayMarkActivity then pure none else pure (some false)
  | .error .eintr => pure none
  | .error .eagain => pure (some true)
  | .error _ => pure (some false)

/-- `net_relay_queue_drain`.  Each round takes one answer of `send`. -/
def netRelayQueueDrain : Prog NetRelay Bool := do
  let start ← get
  if ← loop (drainRound d) (start.script.sends.length + 1) then
    modify fun r => r.setQueue d (netRelayQueueCompact (r.queue d))
    pure true
  else pure false

/-- One round of the loop in `net_relay_queue_fill`. -/
def fillRound : Prog NetRelay (Option Bool) := do
  let r ← get
  let queue := r.queue d
  if queue.peerEof ∨ ¬ queue.length < netRelayBufferBytes then return some true
  match ← NetRelay.recv d (netRelayBufferBytes - queue.length) with
  | .ok [] =>
    modify (NetRelay.setQueue d { queue with peerEof := true })
    pure (some true)
  | .ok bytes =>
    modify (NetRelay.setQueue d { queue with
      data := overwrite queue.data queue.length bytes
      length := queue.length + bytes.length })
    if ← netRelayMarkActivity then pure none else pure (some false)
  | .error .eintr => pure (some true)
  | .error .eagain => pure (some true)
  | .error _ => pure (some false)

/-- `net_relay_queue_fill`. -/
def netRelayQueueFill : Prog NetRelay Bool := do
  modify fun r => r.setQueue d (netRelayQueueCompact (r.queue d))
  let start ← get
  loop (fillRound d) (start.script.recvs.length + 1)

/-- `net_relay_shutdown_propagate`. -/
def netRelayShutdownPropagate : Prog NetRelay Bool := do
  let r ← get
  let queue := r.queue d
  if ¬ queue.peerEof ∨ queue.offset < queue.length ∨ queue.shutdownSent then return true
  match ← NetRelay.shutdown d with
  | some .eagain | some .eintr | some .other => pure false
  | _ =>
    modify (NetRelay.setQueue d { queue with shutdownSent := true })
    pure true

/-! ## 3. The relay -/

/-- `net_relay_status`. -/
inductive NetRelayStatus where
  | closed
  | error
  | idle
deriving Repr, DecidableEq

namespace NetRelayPollIndex

/-- The queue that is filled from a socket, and the one that is drained to it. -/
def readQueue : NetRelayPollIndex → NetRelayDirection
  | pollIn => .c2o
  | pollOut => .o2c

@[inherit_doc readQueue]
def writeQueue : NetRelayPollIndex → NetRelayDirection
  | pollIn => .o2c
  | pollOut => .c2o

end NetRelayPollIndex

/-- The condition of an `if` whose second half is a call. -/
def guarded (condition : Bool) (call : Prog NetRelay Bool) : Prog NetRelay Bool :=
  if condition then call else pure true

/-- One socket's share of a round: the body of the loop over the two `struct pollfd`. -/
def netRelayEvent (index : NetRelayPollIndex) (revents : PollEvents) : Prog NetRelay Bool := do
  let start ← get
  let before := start.queue index.readQueue
  let queuedBefore := before.length - before.offset
  let filled ← guarded (queuedBefore < netRelayBufferBytes &&
    (revents.pollin || revents.pollrdhup || revents.pollhup || revents.pollerr))
    (netRelayQueueFill index.readQueue)
  if ¬ filled then return false
  let between ← get
  let pending := between.queue index.writeQueue
  let drained ← guarded (pending.offset < pending.length &&
    (revents.pollout || revents.pollhup || revents.pollerr)) (netRelayQueueDrain index.writeQueue)
  if ¬ drained then return false
  let finish ← get
  let read := finish.queue index.readQueue
  let write := finish.queue index.writeQueue
  let hangup := revents.pollhup || revents.pollerr
  if hangup && !read.peerEof && queuedBefore == read.length - read.offset &&
      queuedBefore < netRelayBufferBytes then return false
  if hangup && write.offset < write.length then return false
  pure true

/-- Both sockets, the client first, and then the half closes. -/
def netRelayEvents (revents : NetRelayPollIndex → PollEvents) : Prog NetRelay Bool := do
  if ¬ (← netRelayEvent .pollIn (revents .pollIn)) then return false
  if ¬ (← netRelayEvent .pollOut (revents .pollOut)) then return false
  if ¬ (← netRelayShutdownPropagate .c2o) then return false
  netRelayShutdownPropagate .o2c

/-- One round of the loop in `net_relay`: the answer is the result it is left with. -/
def netRelayRound : Prog NetRelay (Option NetRelayStatus) := do
  let r ← get
  let c2o := r.queue .c2o
  let o2c := r.queue .o2c
  let wantReadIn := !c2o.peerEof && c2o.length - c2o.offset < netRelayBufferBytes
  let wantReadOut := !o2c.peerEof && o2c.length - o2c.offset < netRelayBufferBytes
  let wantWriteIn := !o2c.shutdownSent && o2c.offset < o2c.length
  let wantWriteOut := !c2o.shutdownSent && c2o.offset < c2o.length
  if netRelayFinished c2o o2c then return some .closed
  match ← NetRelay.clock with
  | none => pure (some .error)
  | some now =>
    if netRelayIdleRemainingMs r.lastActivity now = 0 then return some .idle
    match ← NetRelay.poll with
    | .timeout => pure (some .idle)
    | .failed .eintr => pure none
    | .failed _ => pure (some .error)
    | .ready reported =>
      let reventsIn := pollRevents wantReadIn wantWriteIn (reported .pollIn)
      let reventsOut := pollRevents wantReadOut wantWriteOut (reported .pollOut)
      if reventsIn.pollnval || reventsOut.pollnval then return some .error
      let relayed ← netRelayEvents fun
        | .pollIn => reventsIn
        | .pollOut => reventsOut
      pure (if relayed then none else some .error)

/-- The `pending_out` and `pending_size` arguments. -/
inductive PendingOut where
  | null (size : Nat)
  | buffer (bytes : Bytes)
deriving Repr, DecidableEq

/-- The bytes the upstream gets first, if the arguments are accepted. -/
def PendingOut.accepted : PendingOut → Option Bytes
  | null size => if size > 0 then none else some []
  | buffer bytes => if bytes.length > netRelayBufferBytes then none else some bytes

def PendingOut.seed (pending : PendingOut) : Bytes := pending.accepted.getD []

/-- The relay before its first call. -/
def netRelayStart (script : NetRelayScript) : NetRelay where
  queue _ := .zero
  lastActivity := ⟨0, 0⟩
  log _ := []
  script := script

/-- `net_relay`.  `nonblocking` is the outcome of the four `fcntl` calls. -/
def netRelay (socketIn socketOut : Int) (pending : PendingOut) (nonblocking : Bool) :
    Prog NetRelay NetRelayStatus := do
  match pending.accepted with
  | none => pure .error
  | some seed =>
    if socketIn < 0 ∨ socketOut < 0 ∨ socketIn = socketOut then return .error
    match ← NetRelay.clock with
    | none => pure .error
    | some now =>
      modify fun r => { r with lastActivity := now }
      if ¬ nonblocking then return .error
      modify (NetRelay.setQueue .c2o { NetRelayQueue.zero with
        data := overwrite NetRelayQueue.zero.data 0 seed
        length := seed.length })
      let start ← get
      loop netRelayRound (start.script.clocks.length + 1)

/-! ## 4. The invariant -/

/-- What holds of one direction: its positions stay inside the array, and the queue holds what was
    received and not sent. -/
structure QueueSound (seed : Bytes) (queue : NetRelayQueue) (log : List (Io UInt8)) : Prop where
  offset_le : queue.offset ≤ queue.length
  length_le : queue.length ≤ netRelayBufferBytes
  data_length : queue.data.length = netRelayBufferBytes
  carries : Carries seed log queue.queued
  peerEof : queue.peerEof = true → .ended ∈ log

/-- The relay at a system call: besides, a shutdown that was made is noted in the queue. -/
def Running (seed : NetRelayDirection → Bytes) (r : NetRelay) : Prop :=
  ∀ d, QueueSound (seed d) (r.queue d) (r.log d) ∧
    (.shut ∈ r.log d → (r.queue d).shutdownSent = true)

/-- The relay when it is over.  A shutdown that failed is not noted any more. -/
def Sound (seed : NetRelayDirection → Bytes) (r : NetRelay) : Prop :=
  ∀ d, QueueSound (seed d) (r.queue d) (r.log d)

variable {seed : NetRelayDirection → Bytes} {r : NetRelay} {d : NetRelayDirection}

theorem Running.sound (h : Running seed r) : Sound seed r := fun d => (h d).1

/-- A step of one direction leaves the other one alone. -/
theorem Sound.step (h : Sound seed r) (hq : QueueSound (seed d) queue log)
    (hqueue : t.queue = update r.queue d queue)
    (hlog : t.log = update r.log d log) : Sound seed t := by
  intro e
  rw [hqueue, hlog]
  by_cases he : e = d
  · subst he
    rw [update_self, update_self]
    exact hq
  · rw [update_of_ne he, update_of_ne he]
    exact h e

@[inherit_doc Sound.step]
theorem Running.step (h : Running seed r)
    (hq : QueueSound (seed d) queue log) (hshut : .shut ∈ log → queue.shutdownSent = true)
    (hqueue : t.queue = update r.queue d queue)
    (hlog : t.log = update r.log d log) : Running seed t := by
  intro e
  refine ⟨h.sound.step hq hqueue hlog e, ?_⟩
  rw [hqueue, hlog]
  by_cases he : e = d
  · subst he
    rw [update_self, update_self]
    exact hshut
  · rw [update_of_ne he, update_of_ne he]
    exact (h e).2

/-- A step that changes neither queues nor logs. -/
theorem Running.quiet (h : Running seed r) (hqueue : t.queue = r.queue)
    (hlog : t.log = r.log) : Running seed t := by
  intro e
  rw [hqueue, hlog]
  exact h e

theorem queued_nil (h : ¬ queue.offset < queue.length) :
    queue.queued = [] := by
  rw [NetRelayQueue.queued, Nat.sub_eq_zero_of_le (Nat.not_lt.1 h), window_zero]

section

variable {seed : Bytes} (h : QueueSound seed queue log)

include h

theorem QueueSound.queued_length : queue.queued.length = queue.length - queue.offset := by
  have := h.offset_le
  have := h.length_le
  refine window_length ?_
  rw [h.data_length]
  omega

/-- Compaction moves the bytes and keeps them. -/
theorem QueueSound.compact : QueueSound seed (netRelayQueueCompact queue) log ∧
      (netRelayQueueCompact queue).shutdownSent = queue.shutdownSent ∧
      (netRelayQueueCompact queue).offset = 0 := by
  have hcap := h.length_le
  have hdata := h.data_length
  have hlength := h.queued_length
  unfold netRelayQueueCompact
  split
  · rename_i h0
    exact ⟨h, rfl, h0⟩
  split
  · refine ⟨⟨Nat.le_refl _, Nat.zero_le _, hdata, ?_, h.peerEof⟩, rfl, rfl⟩
    have hnil : queue.queued = [] := queued_nil (by omega)
    have hcarries := h.carries
    rw [hnil] at hcarries
    exact hcarries
  · refine ⟨⟨Nat.zero_le _, (Nat.sub_le _ _).trans hcap, ?_, ?_, h.peerEof⟩, rfl, rfl⟩
    · rw [overwrite_length (by omega), hdata]
    · show Carries seed log (window (overwrite queue.data 0 queue.queued) 0
        (queue.length - queue.offset - 0))
      rw [window_front (by omega)]
      exact h.carries

/-- `count` queued bytes have been taken. -/
theorem QueueSound.sent (count : Nat) :
    QueueSound seed { queue with offset := queue.offset + (queue.queued.take count).length }
      (.sent (queue.queued.take count) :: log) := by
  have hle := h.offset_le
  have hlength := h.queued_length
  have htake : (queue.queued.take count).length = min count (queue.length - queue.offset) := by
    rw [List.length_take, hlength]
  refine ⟨by show queue.offset + _ ≤ queue.length; omega, h.length_le, h.data_length, ?_,
    fun e => List.mem_cons_of_mem _ (h.peerEof e)⟩
  have hqueued : window queue.data (queue.offset + (queue.queued.take count).length)
      (queue.length - (queue.offset + (queue.queued.take count).length)) =
      queue.queued.drop (queue.queued.take count).length := by
    rw [Nat.sub_add_eq, window_drop, NetRelayQueue.queued]
  show Carries seed (_ :: log) (window queue.data _ _)
  rw [hqueued]
  have hcarries := h.carries.send (queue.queued.take count).length
  rwa [take_length_take] at hcarries

/-- Bytes that fit have been received. -/
theorem QueueSound.received {bytes : Bytes}
    (hfits : queue.length + bytes.length ≤ netRelayBufferBytes) :
    QueueSound seed { queue with
      data := overwrite queue.data queue.length bytes
      length := queue.length + bytes.length } (.received bytes :: log) := by
  have hle := h.offset_le
  have hdata := h.data_length
  refine ⟨by show queue.offset ≤ queue.length + _; omega, hfits, ?_, ?_,
    fun e => List.mem_cons_of_mem _ (h.peerEof e)⟩
  · rw [overwrite_length (by omega), hdata]
  · show Carries seed (_ :: log) (window (overwrite queue.data queue.length bytes) queue.offset
      (queue.length + bytes.length - queue.offset))
    have hsize : queue.offset + (queue.length - queue.offset) = queue.length := by omega
    have hwindow : window
        (overwrite queue.data (queue.offset + (queue.length - queue.offset)) bytes)
        queue.offset (queue.length - queue.offset + bytes.length) = queue.queued ++ bytes :=
      window_overwrite (by omega)
    rw [hsize] at hwindow
    rw [show queue.length + bytes.length - queue.offset =
      queue.length - queue.offset + bytes.length by omega, hwindow]
    exact h.carries.receive bytes

theorem QueueSound.ended : QueueSound seed { queue with peerEof := true } (.ended :: log) :=
  ⟨h.offset_le, h.length_le, h.data_length, h.carries.finish, fun _ => List.mem_cons_self⟩

theorem QueueSound.shut (heof : queue.peerEof = true) (hempty : ¬ queue.offset < queue.length)
    (honce : .shut ∉ log) : QueueSound seed queue (.shut :: log) := by
  have hcarries := h.carries
  have hnil := queued_nil hempty
  rw [hnil] at hcarries
  refine ⟨h.offset_le, h.length_le, h.data_length, ?_,
    fun e => List.mem_cons_of_mem _ (h.peerEof e)⟩
  rw [hnil]
  exact hcarries.shut (h.peerEof heof) honce

end

/-! ## 5. What each function keeps -/

section

variable (h : Running seed r)

include h

theorem after_markActivity :
    After (Running seed) netRelayMarkActivity (fun _ => Running seed) r := by
  refine after_take h ?_
  intro now rest _
  cases now with
  | none => exact after_pure (h.quiet rfl rfl)
  | some now => exact after_modify (after_pure (h.quiet rfl rfl))

theorem after_activity :
    After (Running seed) (do if ← netRelayMarkActivity then pure none else pure (some false))
      (fun (_ : Option Bool) => Running seed) r := by
  refine after_bind ((after_markActivity h).mono ?_)
  intro marked t ht
  exact after_ite (fun _ => after_pure ht) fun _ => after_pure ht

/-- `send` has taken bytes of the queue; the queue has still to be moved on. -/
theorem after_send : After (Running seed) (NetRelay.send d)
    (fun answer t => match answer with
      | .ok (sent + 1) => Running seed
          (t.setQueue d { r.queue d with offset := (r.queue d).offset + (sent + 1) })
      | _ => Running seed t) r := by
  refine after_take h ?_
  intro answer rest _
  cases answer with
  | failed errno => exact after_pure (h.quiet rfl rfl)
  | taken count =>
    refine after_get (after_ite (fun _ => after_pure (h.quiet rfl rfl)) fun hne => ?_)
    have hsent := (h d).1.sent count
    generalize (r.queue d).queued.take count = bytes at hne hsent ⊢
    cases bytes with
    | nil => exact absurd rfl hne
    | cons b bytes =>
      refine after_modify (after_pure ?_)
      exact h.step hsent (fun hm => (h d).2 (shut_mem_of_cons hm nofun)) rfl rfl

/-- `recv` has filled bytes into the room behind the queue, or seen the end. -/
theorem after_recv (hlt : (r.queue d).length ≤ netRelayBufferBytes) :
    After (Running seed) (NetRelay.recv d (netRelayBufferBytes - (r.queue d).length))
    (fun answer t => match answer with
      | .ok [] => Running seed (t.setQueue d { r.queue d with peerEof := true })
      | .ok bytes => Running seed (t.setQueue d { r.queue d with
          data := overwrite (r.queue d).data (r.queue d).length bytes
          length := (r.queue d).length + bytes.length })
      | .error _ => Running seed t) r := by
  refine after_take h ?_
  intro answer rest _
  have hq := (h d).1
  cases answer with
  | failed errno => exact after_pure (h.quiet rfl rfl)
  | bytes bytes =>
    refine after_ite (fun _ => ?_) fun hne => ?_
    · refine after_modify (after_pure ?_)
      exact h.step hq.ended (fun hm => (h d).2 (shut_mem_of_cons hm nofun)) rfl rfl
    · refine after_modify (after_pure ?_)
      have hroom := List.length_take_le (netRelayBufferBytes - (r.queue d).length) bytes
      generalize bytes.take (netRelayBufferBytes - (r.queue d).length) = bytes at hne hroom ⊢
      cases bytes with
      | nil => exact absurd rfl hne
      | cons b bytes =>
        exact h.step (hq.received (by omega))
          (fun hm => (h d).2 (shut_mem_of_cons hm nofun)) rfl rfl

theorem after_drainRound : After (Running seed) (drainRound d) (fun _ => Running seed) r := by
  refine after_get (after_ite (fun _ => after_pure h) fun _ => ?_)
  refine after_bind ((after_send h).mono ?_)
  rintro (errno | sent) t ht
  · cases errno <;> exact after_pure ht
  cases sent with
  | zero => exact after_pure ht
  | succ sent => exact after_modify (after_activity ht)

theorem after_fillRound : After (Running seed) (fillRound d) (fun _ => Running seed) r := by
  refine after_get (after_ite (fun _ => after_pure h) fun _ => ?_)
  refine after_bind ((after_recv h (h d).1.length_le).mono ?_)
  rintro (errno | bytes) t ht
  · cases errno <;> exact after_pure ht
  cases bytes with
  | nil => exact after_modify (after_pure ht)
  | cons b bytes => exact after_modify (after_activity ht)

end

/-- The rounds of a queue loop keep the relay running, so the loop does. -/
theorem after_rounds {body : Prog NetRelay (Option Bool)}
    (hbody : ∀ t, Running seed t → After (Running seed) body (fun _ => Running seed) t) (n : Nat)
    (h : Running seed r) : After (Running seed) (loop body n) (fun _ => Running seed) r := by
  refine after_loop (fun _ ht => ht) (fun t ht => (hbody t ht).mono ?_) n h
  intro o u hu
  cases o <;> exact hu

section

variable (h : Running seed r)

include h

theorem Running.compact :
    Running seed (r.setQueue d (netRelayQueueCompact (r.queue d))) := by
  obtain ⟨hsound, hshut, -⟩ := (h d).1.compact
  exact h.step hsound (fun hm => hshut ▸ (h d).2 hm) rfl (update_eq_self d r.log).symm

theorem after_drain :
    After (Running seed) (netRelayQueueDrain d) (fun _ => Running seed) r := by
  refine after_get (after_bind ((after_rounds (fun _ ht => after_drainRound ht) _ h).mono ?_))
  intro drained t ht
  exact after_ite (fun _ => after_modify (after_pure ht.compact)) fun _ => after_pure ht

theorem after_fill :
    After (Running seed) (netRelayQueueFill d) (fun _ => Running seed) r :=
  after_modify (after_get (after_rounds (fun _ ht => after_fillRound ht) _ h.compact))

/-- A shutdown that fails for good ends the relay. -/
theorem after_propagate :
    After (Running seed) (netRelayShutdownPropagate d)
      (fun ok t => Sound seed t ∧ (ok = true → Running seed t)) r := by
  refine after_get (after_ite (fun _ => after_pure ⟨h.sound, fun _ => h⟩) fun hc => ?_)
  obtain ⟨heof, hempty, hunsent⟩ : (r.queue d).peerEof = true ∧
      ¬ (r.queue d).offset < (r.queue d).length ∧ ¬ (r.queue d).shutdownSent = true := by
    simpa only [not_or, Decidable.not_not] using hc
  have honce : .shut ∉ r.log d := fun hm => hunsent ((h d).2 hm)
  have hq := (h d).1.shut heof hempty honce
  have hnoted : QueueSound (seed d) { r.queue d with shutdownSent := true } (.shut :: r.log d) :=
    ⟨hq.offset_le, hq.length_le, hq.data_length, hq.carries, hq.peerEof⟩
  refine after_bind (after_take h ?_)
  intro answer rest _
  refine after_modify (after_pure ?_)
  have hkept : ∀ {t : NetRelay}, t.queue = update r.queue d
      { r.queue d with shutdownSent := true } → t.log = update r.log d (.shut :: r.log d) →
      Sound seed t ∧ (true = true → Running seed t) := fun e e' =>
    ⟨h.sound.step hnoted e e', fun _ => h.step hnoted (fun _ => rfl) e e'⟩
  have hfailed : ∀ {t : NetRelay}, t.queue = r.queue →
      t.log = update r.log d (.shut :: r.log d) →
      Sound seed t ∧ (false = true → Running seed t) := fun e e' =>
    ⟨h.sound.step hq (e.trans (update_eq_self d r.queue).symm) e', nofun⟩
  rcases answer with - | errno
  · exact after_modify (after_pure (hkept rfl rfl))
  cases errno
  case econnreset | enotconn | epipe => exact after_modify (after_pure (hkept rfl rfl))
  case eagain | eintr | other => exact after_pure (hfailed rfl rfl)

/-- A call behind a condition. -/
theorem after_guarded {condition : Bool} {call : Prog NetRelay Bool}
    (hcall : After (Running seed) call (fun _ => Running seed) r) :
    After (Running seed) (guarded condition call) (fun _ => Running seed) r :=
  after_ite (fun _ => hcall) fun _ => after_pure h

theorem after_event {index : NetRelayPollIndex} {revents : PollEvents} :
    After (Running seed) (netRelayEvent index revents) (fun _ => Running seed) r := by
  refine after_get (after_bind ((after_guarded h (after_fill h)).mono fun filled t ht => ?_))
  refine after_ite (fun _ => after_pure ht) fun _ => ?_
  refine after_get (after_bind ((after_guarded ht (after_drain ht)).mono fun drained u hu => ?_))
  refine after_ite (fun _ => after_pure hu) fun _ => ?_
  refine after_get (after_ite (fun _ => after_pure hu) fun _ => ?_)
  exact after_ite (fun _ => after_pure hu) fun _ => after_pure hu

theorem after_events {revents : NetRelayPollIndex → PollEvents} :
    After (Running seed) (netRelayEvents revents)
      (fun ok t => Sound seed t ∧ (ok = true → Running seed t)) r := by
  refine after_bind ((after_event h).mono fun _ t ht => ?_)
  refine after_ite (fun _ => after_pure ⟨ht.sound, nofun⟩) fun _ => ?_
  refine after_bind ((after_event ht).mono fun _ u hu => ?_)
  refine after_ite (fun _ => after_pure ⟨hu.sound, nofun⟩) fun _ => ?_
  refine after_bind ((after_propagate hu).mono fun ok v hv => ?_)
  refine after_ite (fun _ => after_pure ⟨hv.1, nofun⟩) fun hok => ?_
  exact after_propagate (hv.2 (not_not.1 hok))

end

/-- Both directions have delivered everything. -/
def Delivered (seed : NetRelayDirection → Bytes) (r : NetRelay) : Prop :=
  ∀ d, .ended ∈ r.log d ∧ sent (r.log d) = seed d ++ received (r.log d)

theorem delivered_of_finished (h : Running seed r)
    (hfinished : netRelayFinished (r.queue .c2o) (r.queue .o2c) = true) : Delivered seed r := by
  simp only [netRelayFinished, Bool.and_eq_true, beq_iff_eq] at hfinished
  obtain ⟨⟨⟨⟨⟨heofC, heofO⟩, hC⟩, hO⟩, -⟩, -⟩ := hfinished
  intro d
  have hd : (r.queue d).peerEof = true ∧ (r.queue d).offset = (r.queue d).length := by
    cases d with
    | c2o => exact ⟨heofC, hC⟩
    | o2c => exact ⟨heofO, hO⟩
  have hq := (h d).1
  refine ⟨hq.peerEof hd.1, ?_⟩
  have hcarries := hq.carries
  rw [queued_nil (Nat.not_lt.2 (Nat.le_of_eq hd.2.symm))] at hcarries
  exact hcarries.all_sent

theorem after_round (h : Running seed r) :
    After (Running seed) netRelayRound
      (fun o t => o.elim (Running seed t) fun status =>
        Sound seed t ∧ (status = .closed → Delivered seed t)) r := by
  refine after_get (after_ite (fun hf => ?_) fun _ => ?_)
  · exact after_pure ⟨h.sound, fun _ => delivered_of_finished h hf⟩
  refine after_take h fun now rest _ => ?_
  cases now with
  | none => exact after_pure ⟨(h.quiet rfl rfl).sound, nofun⟩
  | some now =>
    refine after_ite (fun _ => after_pure ⟨(h.quiet rfl rfl).sound, nofun⟩) fun _ => ?_
    refine after_take (h.quiet rfl rfl) fun polled rest _ => ?_
    cases polled with
    | timeout => exact after_pure ⟨(h.quiet rfl rfl).sound, nofun⟩
    | failed errno =>
      cases errno
      case eintr => exact after_pure (h.quiet rfl rfl)
      all_goals exact after_pure ⟨(h.quiet rfl rfl).sound, nofun⟩
    | ready reported =>
      refine after_ite (fun _ => after_pure ⟨(h.quiet rfl rfl).sound, nofun⟩) fun _ => ?_
      refine after_bind (After.mono (after_events ?_) fun ok t ht => ?_)
      · exact h.quiet rfl rfl
      cases ok with
      | false => exact after_pure ⟨ht.1, nofun⟩
      | true => exact after_pure (ht.2 rfl)

/-! ## 6. The whole relay -/

/-- What each direction has to send first. -/
def netRelaySeed (pending : PendingOut) : NetRelayDirection → Bytes
  | .c2o => pending.seed
  | .o2c => []

/-- A relay that has come to `r`, and returned `status` if it has returned. -/
structure RelayFifo (seed : NetRelayDirection → Bytes) (r : NetRelay)
    (status : Option NetRelayStatus) : Prop where
  /-- What was sent is a prefix of what there was to send, at every point. -/
  delivered : ∀ d earlier, earlier <:+ r.log d → sent earlier <+: seed d ++ received earlier
  /-- A shutdown comes once, after the end of the input and all of its bytes. -/
  shutdown : ∀ d earlier, .shut :: earlier <:+ r.log d →
    .ended ∈ earlier ∧ sent earlier = seed d ++ received earlier ∧ .shut ∉ earlier
  bounds : ∀ d, (r.queue d).offset ≤ (r.queue d).length ∧
    (r.queue d).length ≤ netRelayBufferBytes
  closed : status = some .closed →
    ∀ d, .ended ∈ r.log d ∧ sent (r.log d) = seed d ++ received (r.log d)

theorem Sound.fifo {status : Option NetRelayStatus} (h : Sound seed r)
    (hclosed : status = some .closed → Delivered seed r) : RelayFifo seed r status where
  delivered d := (h d).carries.orderly.delivered
  shutdown d := (h d).carries.orderly.shutdown
  bounds d := ⟨(h d).offset_le, (h d).length_le⟩
  closed := hclosed

theorem queueSound_zero : QueueSound [] .zero [] :=
  ⟨Nat.le_refl _, Nat.zero_le _, List.length_replicate, .start [], nofun⟩

/-- The queue to the upstream, seeded. -/
theorem queueSound_seed {seed : Bytes} (h : seed.length ≤ netRelayBufferBytes) :
    QueueSound seed { NetRelayQueue.zero with
      data := overwrite NetRelayQueue.zero.data 0 seed
      length := seed.length } [] := by
  have hzero : NetRelayQueue.zero.data.length = netRelayBufferBytes := List.length_replicate
  refine ⟨Nat.zero_le _, h, ?_, ?_, nofun⟩
  · rw [overwrite_length (by omega), hzero]
  · show Carries seed [] (window (overwrite NetRelayQueue.zero.data 0 seed) 0 (seed.length - 0))
    rw [window_front (by omega)]
    exact .start seed

theorem PendingOut.accepted_some {pending : PendingOut} {seed : Bytes}
    (h : pending.accepted = some seed) :
      pending.seed = seed ∧ seed.length ≤ netRelayBufferBytes := by
  refine ⟨by rw [PendingOut.seed, h, Option.getD_some], ?_⟩
  cases pending with
  | null size =>
    simp only [PendingOut.accepted] at h
    split at h
    · cases h
    · cases h
      exact Nat.zero_le _
  | buffer bytes =>
    simp only [PendingOut.accepted] at h
    split at h
    · cases h
    · rename_i hle
      cases h
      exact Nat.not_lt.1 hle

/-- Before the first round nothing has been received or sent. -/
theorem relayFifo_start {status : Option NetRelayStatus} (hqueue : ∀ d, r.queue d = .zero)
    (hlog : ∀ d, r.log d = []) (hstatus : status ≠ some .closed) : RelayFifo seed r status where
  delivered d := by
    rw [hlog]
    exact (Orderly.nil (seed d)).delivered
  shutdown d := by
    rw [hlog]
    exact (Orderly.nil (seed d)).shutdown
  bounds d := by
    rw [hqueue]
    exact ⟨queueSound_zero.offset_le, queueSound_zero.length_le⟩
  closed e := absurd e hstatus

/-- **The relay is a pair of byte queues**: for every behaviour of the sockets, wherever the run has
    come to, each direction has sent a prefix of its seed and what it received, has been shut down
    at most once, at its end, and keeps its queue inside the array; a closed relay has delivered
    everything both ways. -/
theorem netRelay_fifo (socketIn socketOut : Int) (pending : PendingOut) (nonblocking : Bool)
    (script : NetRelayScript) :
    RelayFifo (netRelaySeed pending)
      (reached (netRelay socketIn socketOut pending nonblocking (netRelayStart script)))
      (returned (netRelay socketIn socketOut pending nonblocking (netRelayStart script))) := by
  have hrun : After (RelayFifo (netRelaySeed pending) · none)
      (netRelay socketIn socketOut pending nonblocking)
      (fun status t => RelayFifo (netRelaySeed pending) t (some status))
      (netRelayStart script) := by
    unfold netRelay
    cases haccepted : pending.accepted with
    | none => exact after_pure (relayFifo_start (fun _ => rfl) (fun _ => rfl) nofun)
    | some seed =>
      obtain ⟨hseed, hfits⟩ := PendingOut.accepted_some haccepted
      refine after_ite (fun _ => after_pure (relayFifo_start (fun _ => rfl) (fun _ => rfl) nofun))
        fun _ => ?_
      refine after_take (relayFifo_start (fun _ => rfl) (fun _ => rfl) nofun) fun now rest _ => ?_
      cases now with
      | none => exact after_pure (relayFifo_start (fun _ => rfl) (fun _ => rfl) nofun)
      | some now =>
        refine after_modify (after_ite
          (fun _ => after_pure (relayFifo_start (fun _ => rfl) (fun _ => rfl) nofun)) fun _ => ?_)
        refine after_modify (after_get ?_)
        -- the seeded relay is running
        refine After.imp (I := Running (netRelaySeed pending))
          (after_loop (fun _ ht => ht) (fun t ht => after_round ht) _ ?_)
          (fun t ht => ht.sound.fifo nofun)
          fun status t ht => ht.1.fifo fun e => ht.2 (Option.some.inj e)
        intro d
        cases d with
        | c2o =>
          refine ⟨?_, nofun⟩
          rw [netRelaySeed, hseed]
          exact queueSound_seed hfits
        | o2c => exact ⟨queueSound_zero, nofun⟩
  exact hrun.elim (P := fun status t => RelayFifo (netRelaySeed pending) t status)
    (fun _ ht => ht) fun _ _ ht => ht

/-- Both sides end at once; the pending byte goes out before the half close. -/
def quietRelay : NetRelayScript where
  clocks := List.replicate 4 (some ⟨1, 0⟩)
  sends := [.failed .eintr, .taken 5]
  recvs := [.bytes [], .bytes []]
  polls := [.ready fun _ => ⟨true, true, true, false, false, false⟩]
  shutdowns := [none, some .epipe]

example : returned (netRelay 3 4 (.buffer [97]) true (netRelayStart quietRelay)) = some .closed ∧
    (reached (netRelay 3 4 (.buffer [97]) true (netRelayStart quietRelay))).log .c2o =
      [.shut, .sent [97], .ended] := by
  decide +kernel

end MinecraftRelay
