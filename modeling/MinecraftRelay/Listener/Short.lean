/-
  File:      Listener/Short.lean
  Subject:   STATUS CONNECTIONS (src/listener.c: the short connection).

  A status request is answered inside the listener's event loop.  The plan holds the request for the
  upstream and a fallback response for the client.  The connection waits for the upstream, and then
  either relays or sends the fallback.  Two buffers are used twice: the client's bytes are read into
  the array that held its first packet, and the upstream's bytes into the block that holds the
  fallback until the upstream has answered.

  * `ShortSound` -- the invariant between two events;
  * `shortRun_relayed` -- the request and then the client's bytes go up; either the fallback or the
    upstream's bytes go down, never both; every half close is in its place.

  As in `net_relay` the system answers from a script.  The two directions are named as there: `c2o`
  is `client_buffer`, `client_read_closed` and `upstream_write_closed`, `o2c` the other three.
  Logging and metrics are left out.
-/
import MinecraftRelay.Connection.SetupShort
import MinecraftRelay.Network

namespace MinecraftRelay

open Scripted Conduit Window
open Function (update update_eq_self update_of_ne update_self)

variable {now : Timespec} {buffer : ListenerConnectionBuffer} {flags : EpollEvents}
  {timer : ListenerConnectionTimer} {earlier : EarlierPhase} {condition : Bool}

/-! ## 1. The connection -/

/-- `listener_connection_state`. -/
inductive ListenerConnectionState where
  | initial
  | routeWaiting
  | shortConnecting
  | shortRelaying
  | shortResponding
  | workerRefusing
deriving Repr, DecidableEq

/-- `listener_connection_progress`. -/
inductive ListenerConnectionProgress where
  | abort
  | closed
  | fatal
  | pending
  | ready
deriving Repr, DecidableEq

/-- `listener_connection_timer`. -/
inductive ListenerConnectionTimer where
  | assembly
  | grace
  | route
  | shortConnect
  | shortIdle
  | shortLifetime
  | workerRefusal
deriving Repr, DecidableEq

/-- `listener_event_kind`. -/
inductive ListenerEventKind where
  | client
  | hosts
  | listener
  | metricsTimer
  | resolver
  | routeTimer
  | signal
  | timeout
  | upstream
deriving Repr, DecidableEq

/-- The conditions of `epoll` the listener uses. -/
structure EpollEvents where
  epollin : Bool := false
  epollout : Bool := false
  epollerr : Bool := false
  epollhup : Bool := false
  epollrdhup : Bool := false
deriving Repr, DecidableEq

/-- What a socket is registered for. -/
structure EpollInterest where
  events : EpollEvents
  registered : Bool
deriving Repr, DecidableEq

/-- `net_connect_status`. -/
inductive NetConnectStatus where
  | ok
  | pending
  | failure
  | badArgument
  | internal
deriving Repr, DecidableEq

/-- `read` of the timer descriptor: the whole counter, part of it, or an error. -/
inductive TimerRead where
  | expired
  | short
  | failed (errno : SocketErrno)
deriving Repr, DecidableEq

/-- `listener_connection_buffer`.  A `NULL` data pointer is the empty list. -/
structure ListenerConnectionBuffer where
  capacity : Nat
  data : Bytes
  offset : Nat
  size : Nat
deriving Repr, DecidableEq

namespace ListenerConnectionBuffer

def zero : ListenerConnectionBuffer := ⟨0, [], 0, 0⟩

variable (buffer : ListenerConnectionBuffer)

/-- The bytes in the buffer. -/
def live : Bytes :=
  window buffer.data buffer.offset buffer.size

/-- The argument check of the two buffer functions. -/
def valid : Bool :=
  buffer.data ≠ [] && buffer.capacity ≠ 0 && buffer.offset ≤ buffer.capacity &&
    buffer.size ≤ buffer.capacity - buffer.offset

/-- The `memmove` before a receive, when the buffer is full at its end only. -/
def compact : ListenerConnectionBuffer :=
  if buffer.offset > 0 ∧ buffer.offset + buffer.size = buffer.capacity then
    { buffer with data := overwrite buffer.data 0 buffer.live, offset := 0 }
  else buffer

def received (bytes : Bytes) : ListenerConnectionBuffer :=
  { buffer with
    data := overwrite buffer.data (buffer.offset + buffer.size) bytes
    size := buffer.size + bytes.length }

def sent (count : Nat) : ListenerConnectionBuffer :=
  { buffer with
    offset := if buffer.size - count = 0 then 0 else buffer.offset + count
    size := buffer.size - count }

end ListenerConnectionBuffer

/-- `LISTENER_SHORT_RELAY_BUFFER_BYTES` and the timeouts, in seconds. -/
def listenerShortRelayBufferBytes : Nat := 8192

@[inherit_doc listenerShortRelayBufferBytes]
def listenerShortConnectTimeoutSec : Nat := 5

@[inherit_doc listenerShortRelayBufferBytes]
def listenerShortRelayIdleTimeoutSec : Nat := 10

/-- The answers of the system, in the order they are asked for. -/
structure ShortScript where
  sends : List SendResult
  recvs : List RecvResult
  /-- Whether `shutdown`, `timerfd_settime` and `epoll_ctl` succeed. -/
  shutdowns : List Bool
  timerSets : List Bool
  epollCtls : List Bool
  timerReads : List TimerRead
  clocks : List (Option Timespec)
  /-- `net_connect_nonblocking` and `net_connect_nonblocking_complete`. -/
  connects : List NetConnectStatus
  completions : List NetConnectStatus

/-- The part of a connection that the bytes go through.  `connected` and `log` record what has
    happened. -/
structure ShortTransfer where
  state : ListenerConnectionState
  buffer : NetRelayDirection → ListenerConnectionBuffer
  readClosed : NetRelayDirection → Bool
  writeClosed : NetRelayDirection → Bool
  request : Bytes
  requestOffset : Nat
  connected : Bool
  log : NetRelayDirection → List (Io UInt8)

/-- `listener_connection`, as far as the short connection uses it.  `activity` is the local variable
    of that name. -/
structure ShortConnection extends ShortTransfer where
  readPaused : NetRelayDirection → Bool
  inbound : CharArray bufsiz
  inboundSize : Nat
  lifetimeDeadline : Timespec
  timer : ListenerConnectionTimer
  timerDeadline : Timespec
  timerGeneration : Nat
  clientInterest : EpollInterest
  upstreamInterest : EpollInterest
  upstreamOpen : Bool
  upstreamGeneration : Nat
  activity : Nat
  closing : Bool
  script : ShortScript

/-- A part of the handling of an event. -/
abbrev ShortHandler := Prog ShortConnection ListenerConnectionProgress

namespace ShortConnection

variable (d : NetRelayDirection)

def setBuffer (buffer : ListenerConnectionBuffer) (c : ShortConnection) : ShortConnection :=
  { c with buffer := update c.buffer d buffer }

def record (io : Io UInt8) (c : ShortConnection) : ShortConnection :=
  { c with log := update c.log d (io :: c.log d) }

/-! ### The system calls -/

/-- `send` of `bytes` to the socket a direction writes to. -/
def send (bytes : Bytes) : Prog ShortConnection (Except SocketErrno Nat) := do
  let answer ← take (·.script.sends) fun rest c =>
    { c with script := { c.script with sends := rest } }
  match answer with
  | .failed errno => pure (.error errno)
  | .taken count =>
    if bytes.take count = [] then pure (.ok 0)
    else
      modify (record d (.sent (bytes.take count)))
      pure (.ok (bytes.take count).length)

/-- `recv` of at most `room` bytes from the socket a direction reads from. -/
def recv (room : Nat) : Prog ShortConnection (Except SocketErrno Bytes) := do
  let answer ← take (·.script.recvs) fun rest c =>
    { c with script := { c.script with recvs := rest } }
  match answer with
  | .failed errno => pure (.error errno)
  | .bytes bytes =>
    if bytes.take room = [] then
      modify (record d .ended)
      pure (.ok [])
    else
      modify (record d (.received (bytes.take room)))
      pure (.ok (bytes.take room))

/-- `shutdown(SHUT_WR)` of the socket a direction writes to. -/
def shutdown : Prog ShortConnection Bool := do
  let ok ← take (·.script.shutdowns) fun rest c =>
    { c with script := { c.script with shutdowns := rest } }
  modify (record d .shut)
  pure ok

def epollCtl : Prog ShortConnection Bool :=
  take (·.script.epollCtls) fun rest c => { c with script := { c.script with epollCtls := rest } }

def timerfdSettime : Prog ShortConnection Bool :=
  take (·.script.timerSets) fun rest c => { c with script := { c.script with timerSets := rest } }

def timerRead : Prog ShortConnection TimerRead :=
  take (·.script.timerReads) fun rest c =>
    { c with script := { c.script with timerReads := rest } }

def clock : Prog ShortConnection (Option Timespec) :=
  take (·.script.clocks) fun rest c => { c with script := { c.script with clocks := rest } }

/-- `net_connect_nonblocking`: a descriptor is there when it connects or will. -/
def netConnect : Prog ShortConnection NetConnectStatus := do
  let status ← take (·.script.connects) fun rest c =>
    { c with script := { c.script with connects := rest } }
  modify fun c => { c with
    connected := c.connected || status = .ok
    upstreamOpen := status = .ok ∨ status = .pending }
  pure status

/-- `net_connect_nonblocking_complete`. -/
def netConnectComplete : Prog ShortConnection NetConnectStatus := do
  let status ← take (·.script.completions) fun rest c =>
    { c with script := { c.script with completions := rest } }
  modify fun c => { c with connected := c.connected || status = .ok }
  pure status

end ShortConnection

open ShortConnection

/-! ## 2. Timers and registrations -/

/-- The next value of a `uint64_t` generation counter that skips zero. -/
def generationNext (generation : Nat) : Nat :=
  if generation = uint64Max then 1 else generation + 1

/-- `listener_connection_timer_set`. -/
def listenerConnectionTimerSet (timer : ListenerConnectionTimer) (expiration : Timespec) :
    Prog ShortConnection Bool := do
  let c ← get
  let bounded := timeutilCompare c.lifetimeDeadline expiration = .lt
  if ← timerfdSettime then
    modify fun c => { c with
      timer := if bounded then .shortLifetime else timer
      timerDeadline := if bounded then c.lifetimeDeadline else expiration
      timerGeneration := generationNext c.timerGeneration }
    pure true
  else pure false

/-- `listener_connection_timer_arm_short`. -/
def listenerConnectionTimerArmShort (timer : ListenerConnectionTimer) (now : Timespec)
    (seconds : Nat) : Prog ShortConnection Bool :=
  match timeutilAddSeconds now seconds with
  | some expiration => listenerConnectionTimerSet timer expiration
  | none => pure false

/-- `listener_connection_interest_update`: the new registration, unless `epoll_ctl` fails. -/
def listenerConnectionInterestUpdate (flags : EpollEvents) (interest : EpollInterest) :
    Prog ShortConnection (Option EpollInterest) :=
  if flags = {} ∧ interest.registered = true then do
    pure (if ← epollCtl then some ⟨{}, false⟩ else none)
  else if flags ≠ {} ∧ interest.registered = false then do
    pure (if ← epollCtl then some ⟨flags, true⟩ else none)
  else if flags ≠ {} ∧ flags ≠ interest.events then do
    pure (if ← epollCtl then some ⟨flags, interest.registered⟩ else none)
  else pure (some interest)

variable (c : ShortConnection) (d : NetRelayDirection)

/-- What the client's socket is watched for. -/
def clientFlags : EpollEvents :=
  match c.state with
  | .routeWaiting => { epollrdhup := true }
  | .shortResponding | .workerRefusing => { epollout := (c.buffer .o2c).size > 0 }
  | state =>
    { epollin := !c.readClosed .c2o && !c.readPaused .c2o
      epollrdhup := !c.readClosed .c2o && !c.readPaused .c2o
      epollout := state = .shortRelaying && (c.buffer .o2c).size > 0 }

/-- What the upstream's socket is watched for. -/
def upstreamFlags : EpollEvents :=
  match c.state with
  | .shortConnecting => { epollout := true, epollrdhup := true }
  | .shortRelaying =>
    { epollin := !c.readClosed .o2c && !c.readPaused .o2c
      epollrdhup := !c.readClosed .o2c && !c.readPaused .o2c
      epollout := c.request.length > 0 || (c.buffer .c2o).size > 0 }
  | _ => {}

/-- `listener_connection_interests_update`. -/
def listenerConnectionInterestsUpdate : Prog ShortConnection Bool := do
  let c ← get
  match ← listenerConnectionInterestUpdate (clientFlags c) c.clientInterest with
  | none => pure false
  | some interest =>
    modify fun c => { c with clientInterest := interest }
    if ¬ c.upstreamOpen then return true
    match ← listenerConnectionInterestUpdate (upstreamFlags c) c.upstreamInterest with
    | none => pure false
    | some interest =>
      modify fun c => { c with upstreamInterest := interest }
      pure true

/-- The last step of most handlers. -/
def interestsProgress : ShortHandler := do
  pure (if ← listenerConnectionInterestsUpdate then .pending else .fatal)

/-! ## 3. Moving the bytes -/

/-- One round of the loop in `listener_connection_buffer_receive`; `false` is the result -1. -/
def receiveRound : Prog ShortConnection (Option Bool) := do
  let c ← get
  let buffer := c.buffer d
  if ¬ buffer.offset + buffer.size < buffer.capacity then return some true
  match ← recv d (buffer.capacity - buffer.offset - buffer.size) with
  | .ok [] =>
    modify fun c => { c with readClosed := update c.readClosed d true }
    pure (some true)
  | .ok bytes =>
    modify (setBuffer d (buffer.received bytes))
    modify fun c => { c with activity := c.activity + bytes.length }
    pure none
  | .error .eintr => pure none
  | .error .eagain => pure (some true)
  | .error _ => pure (some false)

/-- `listener_connection_buffer_receive`. -/
def listenerConnectionBufferReceive : Prog ShortConnection Bool := do
  let c ← get
  if ¬ (c.buffer d).valid then return false
  modify (setBuffer d (c.buffer d).compact)
  loop (receiveRound d) (c.script.recvs.length + 1)

/-- One round of the loop in `listener_connection_buffer_send`. -/
def sendRound : Prog ShortConnection (Option Bool) := do
  let c ← get
  let buffer := c.buffer d
  if ¬ buffer.size > 0 then return some true
  match ← send d buffer.live with
  | .ok 0 => pure (some false)
  | .ok count =>
    modify (setBuffer d (buffer.sent count))
    modify fun c => { c with activity := c.activity + count }
    pure none
  | .error .eintr => pure none
  | .error .eagain => pure (some true)
  | .error _ => pure (some false)

/-- `listener_connection_buffer_send`. -/
def listenerConnectionBufferSend : Prog ShortConnection Bool := do
  let c ← get
  if ¬ (c.buffer d).valid then return false
  loop (sendRound d) (c.script.sends.length + 1)

/-- One round of the loop in `listener_connection_data_send`, on the request. -/
def dataRound : Prog ShortConnection (Option Bool) := do
  let c ← get
  if ¬ c.requestOffset < c.request.length then return some true
  match ← send .c2o (c.request.drop c.requestOffset) with
  | .ok 0 => pure (some false)
  | .ok count =>
    modify fun c => { c with
      requestOffset := c.requestOffset + count
      activity := c.activity + count }
    pure none
  | .error .eintr => pure none
  | .error .eagain => pure (some true)
  | .error _ => pure (some false)

/-- `listener_connection_data_send` of the request to the upstream. -/
def listenerConnectionDataSend : Prog ShortConnection Bool := do
  let c ← get
  if ¬ c.upstreamOpen ∨ c.requestOffset > c.request.length then return false
  loop dataRound (c.script.sends.length + 1)

/-- A request that is out is freed. -/
def requestFree : ShortConnection :=
  if c.requestOffset = c.request.length ∧ c.request.length > 0 then
    { c with request := [], requestOffset := 0 }
  else c

/-- Reading goes on once a buffer is empty. -/
def readResume : ShortConnection :=
  { c with readPaused := fun d => c.readPaused d && (c.buffer d).size ≠ 0 }

/-- The half close of the socket a direction writes to, when the direction is at its end. -/
def shutdownWhen (condition : Bool) (d : NetRelayDirection) : Prog ShortConnection Bool := do
  if ¬ condition then return true
  if ← shutdown d then
    modify fun c => { c with writeClosed := update c.writeClosed d true }
    pure true
  else pure false

/-- The timer is set again when bytes have moved. -/
def armWhen (condition : Bool) (now : Timespec) : Prog ShortConnection Bool :=
  if condition then
    listenerConnectionTimerArmShort .shortIdle now listenerShortRelayIdleTimeoutSec
  else pure true

/-- The two buffers, the client's only when the request is out. -/
def buffersSend : Prog ShortConnection Bool := do
  let c ← get
  if c.request.length = 0 then
    if ¬ (← listenerConnectionBufferSend .c2o) then return false
    listenerConnectionBufferSend .o2c
  else listenerConnectionBufferSend .o2c

/-- The relaying branch of `listener_connection_short_drive`. -/
def shortRelay (now : Timespec) : ShortHandler := do
  if ¬ (← listenerConnectionDataSend) then return .closed
  modify requestFree
  if ¬ (← buffersSend) then return .closed
  modify readResume
  let c ← get
  if ¬ (← shutdownWhen (c.readClosed .c2o && !c.writeClosed .c2o && c.request.length = 0 &&
    (c.buffer .c2o).size = 0) .c2o) then return .closed
  let c ← get
  if ¬ (← shutdownWhen (c.readClosed .o2c && !c.writeClosed .o2c && (c.buffer .o2c).size = 0) .o2c)
    then return .closed
  let c ← get
  if c.readClosed .c2o && c.readClosed .o2c && c.request.length = 0 && (c.buffer .c2o).size = 0 &&
      (c.buffer .o2c).size = 0 then return .closed
  if ¬ (← armWhen (c.activity > 0) now) then return .abort
  interestsProgress

/-- The responding branch of `listener_connection_short_drive`. -/
def shortRespondDrive (now : Timespec) : ShortHandler := do
  if ¬ (← listenerConnectionBufferSend .o2c) then return .closed
  let c ← get
  if (c.buffer .o2c).size = 0 then return .closed
  if ¬ (← armWhen (c.state = .shortResponding && c.activity > 0) now) then return .abort
  interestsProgress

/-- `listener_connection_short_drive`. -/
def listenerConnectionShortDrive (now : Timespec) : ShortHandler := do
  let c ← get
  if timeutilCompare now c.lifetimeDeadline ≠ .lt then return .closed
  match c.state with
  | .shortResponding | .workerRefusing => shortRespondDrive now
  | .shortRelaying => shortRelay now
  | _ => interestsProgress

/-! ## 4. The events -/

/-- `listener_connection_upstream_close`. -/
def listenerConnectionUpstreamClose : ShortConnection :=
  if ¬ c.upstreamOpen then c
  else
    { c with
      upstreamOpen := false
      upstreamInterest := ⟨{}, false⟩
      upstreamGeneration := generationNext c.upstreamGeneration }

/-- The timer of a new state is set, and the connection is driven on. -/
def shortArmDrive (timer : ListenerConnectionTimer) (now : Timespec) (seconds : Nat) :
    ShortHandler := do
  if ¬ (← listenerConnectionTimerArmShort timer now seconds) then return .abort
  listenerConnectionShortDrive now

/-- `listener_connection_short_failure`. -/
def listenerConnectionShortFailure (now : Timespec) : ShortHandler := do
  let c ← get
  if timeutilCompare now c.lifetimeDeadline ≠ .lt then return .closed
  modify fun c => { listenerConnectionUpstreamClose c with
    state := .shortResponding
    activity := 0 }
  shortArmDrive .shortIdle now listenerShortRelayIdleTimeoutSec

/-- The upstream is there: relaying starts with an empty block, whatever it held. -/
def relayingStart : ShortConnection :=
  { c with
    state := .shortRelaying
    buffer := update c.buffer .o2c { c.buffer .o2c with offset := 0, size := 0 } }

/-- `listener_connection_short_connect_complete`. -/
def listenerConnectionShortConnectComplete (now : Timespec) : ShortHandler := do
  let status ← netConnectComplete
  if status ≠ .ok then listenerConnectionShortFailure now
  else
    let c ← get
    if timeutilCompare now c.lifetimeDeadline ≠ .lt then return .closed
    modify relayingStart
    if ← listenerConnectionTimerArmShort .shortIdle now listenerShortRelayIdleTimeoutSec then
      pure .pending
    else pure .abort

/-- A receive behind a condition; `false` is a failure of the receive. -/
def receiveWhen (condition : Bool) (d : NetRelayDirection) : Prog ShortConnection Bool :=
  if condition then listenerConnectionBufferReceive d else pure true

/-- Reading pauses at a full buffer. -/
def readPause (c : ShortConnection) : ShortConnection :=
  if (c.buffer d).size = (c.buffer d).capacity then
    { c with readPaused := update c.readPaused d true }
  else c

/-- The client's half of `listener_connection_short_event`. -/
def shortClientEvent (flags : EpollEvents) (now : Timespec) : ShortHandler := do
  if flags.epollerr then return .closed
  let c ← get
  if ¬ (← receiveWhen (c.state ≠ .shortResponding && c.state ≠ .workerRefusing &&
    (flags.epollin || flags.epollhup || flags.epollrdhup)) .c2o) then return .closed
  modify (readPause .c2o)
  listenerConnectionShortDrive now

/-- The relaying part of the upstream's half. -/
def shortUpstreamRelaying (flags : EpollEvents) (now : Timespec) : ShortHandler := do
  let c ← get
  if c.state = .shortRelaying then
    if flags.epollerr then return .closed
    if ¬ (← receiveWhen (flags.epollin || flags.epollhup || flags.epollrdhup) .o2c) then
      return .closed
    modify (readPause .o2c)
    listenerConnectionShortDrive now
  else listenerConnectionShortDrive now

/-- The upstream's half of `listener_connection_short_event`. -/
def shortUpstreamEvent (flags : EpollEvents) (sourceGeneration : Nat) (now : Timespec) :
    ShortHandler := do
  let c ← get
  if sourceGeneration ≠ c.upstreamGeneration then return .pending
  if c.state = .shortConnecting then
    let progress ← listenerConnectionShortConnectComplete now
    if progress ≠ .pending then return progress
    shortUpstreamRelaying flags now
  else shortUpstreamRelaying flags now

/-- `listener_connection_short_event`. -/
def listenerConnectionShortEvent (kind : ListenerEventKind) (flags : EpollEvents)
    (sourceGeneration : Nat) (now : Timespec) : ShortHandler := do
  modify fun c => { c with activity := 0 }
  match kind with
  | .client => shortClientEvent flags now
  | .upstream => shortUpstreamEvent flags sourceGeneration now
  | _ => pure .fatal

/-- `listener_connection_short_buffer_prepare`: the block for the upstream's bytes takes the
    response, the array of the first packet is free for the client's bytes. -/
def listenerConnectionShortBufferPrepare (plan : ShortPlan) (allocated : Bool)
    (c : ShortConnection) : Option ShortConnection :=
  match plan.response with
  | none => none
  | some response =>
    if response.length = 0 ∨ response.length > listenerShortRelayBufferBytes then none
    else if ¬ allocated then none
    else
      some { c with
        buffer := fun
          | .c2o => { c.buffer .c2o with capacity := bufsiz, data := c.inbound.bytes }
          | .o2c => { c.buffer .o2c with
              capacity := listenerShortRelayBufferBytes
              data := overwrite (List.replicate listenerShortRelayBufferBytes 0) 0 response
              size := response.length }
        inboundSize := 0 }

/-- The end of `listener_connection_short_start`, behind the plan. -/
def shortStartConnect (now : Timespec) : ShortHandler := do
  match ← netConnect with
  | .ok =>
    modify fun c => relayingStart { c with
      upstreamGeneration := generationNext c.upstreamGeneration }
    shortArmDrive .shortIdle now listenerShortRelayIdleTimeoutSec
  | .pending =>
    modify fun c => { c with
      upstreamGeneration := generationNext c.upstreamGeneration
      state := .shortConnecting }
    shortArmDrive .shortConnect now listenerShortConnectTimeoutSec
  | _ => listenerConnectionShortFailure now

/-- `listener_connection_short_start` with the plan it has made.  `released` is the outcome of the
    release of the route, `allocated` that of `malloc`. -/
def shortStartPlanned (action : ShortAction) (plan : ShortPlan) (released allocated : Bool)
    (now : Timespec) : ShortHandler := do
  if ¬ released then return .fatal
  if action = .abort then return .abort
  let c ← get
  match listenerConnectionShortBufferPrepare plan allocated c with
  | none => pure .abort
  | some prepared =>
    set { prepared with
      request := plan.request.getD []
      requestOffset := 0
      activity := 0 }
    if action = .respond then
      modify fun c => { c with state := .shortResponding }
      shortArmDrive .shortIdle now listenerShortRelayIdleTimeoutSec
    else shortStartConnect now

/-- `listener_connection_short_start`; no snapshot is a failed
    `listener_connection_snapshot_prepare`. -/
def listenerConnectionShortStart (ntop : InetNtop) (snapshot : Option SetupSnapshot)
    (client : NetAddrBundle) (released allocated : Bool) (now : Timespec) : ShortHandler := do
  match snapshot with
  | none => pure .abort
  | some snapshot =>
    let c ← get
    let prepared := connectionSetupShortPrepare ntop snapshot client
      (c.inbound.bytes.take c.inboundSize)
    shortStartPlanned prepared.1 prepared.2 released allocated now

/-- The timers and events of a connection that has not come to its plan yet. -/
structure EarlierPhase where
  timeout : Timespec → ShortHandler
  event : ListenerEventKind → EpollEvents → Timespec → ShortHandler
  ready : Timespec → ShortHandler

/-- The `read` of `listener_connection_timeout`, again after an interrupt. -/
def timerReadRound : Prog ShortConnection (Option TimerRead) := do
  match ← timerRead with
  | .failed .eintr => pure none
  | result => pure (some result)

/-- The time `listener_connection_timeout` goes by: an event of an older setting of the timer has
    the clock read again. -/
def timeoutNow (timerGeneration : Nat) (now : Timespec) :
    Prog ShortConnection (Option Timespec) := do
  let c ← get
  if timerGeneration ≠ c.timerGeneration then clock else pure (some now)

/-- `listener_connection_timeout`. -/
def listenerConnectionTimeout (earlier : EarlierPhase) (flags : EpollEvents) (timerGeneration : Nat)
    (now : Timespec) : ShortHandler := do
  if ¬ flags.epollin ∨ flags.epollerr ∨ flags.epollhup then return .abort
  let c ← get
  match ← loop timerReadRound (c.script.timerReads.length + 1) with
  | .failed .eagain => pure .pending
  | .expired =>
    match ← timeoutNow timerGeneration now with
    | none => pure .fatal
    | some currentNow =>
      let c ← get
      if timeutilCompare currentNow c.timerDeadline = .lt then return .pending
      match c.timer with
      | .shortConnect => listenerConnectionShortFailure currentNow
      | .shortIdle | .shortLifetime | .workerRefusal => pure .closed
      | .route | .grace | .assembly => earlier.timeout currentNow
  | _ => pure .abort

/-- An event the loop has collected for a connection. -/
inductive ShortEvent where
  | socket (kind : ListenerEventKind) (flags : EpollEvents) (sourceGeneration : Nat)
    (now : Timespec)
  | timeout (flags : EpollEvents) (timerGeneration : Nat) (now : Timespec)

/-- What `listener_loop` does with the progress of a connection.  A fatal one ends the listener. -/
def progressApply (earlier : EarlierPhase) (now : Timespec) :
    ListenerConnectionProgress → Prog ShortConnection PUnit
  | .pending => pure ⟨⟩
  | .ready => do
    let progress ← earlier.ready now
    modify fun c => { c with closing := c.closing || progress ≠ .pending }
  | _ => modify fun c => { c with closing := true }

/-- One event in `listener_loop`. -/
def shortStep (earlier : EarlierPhase) (event : ShortEvent) : Prog ShortConnection PUnit := do
  let c ← get
  if c.closing then return ⟨⟩
  match event with
  | .timeout flags timerGeneration now =>
    progressApply earlier now (← listenerConnectionTimeout earlier flags timerGeneration now)
  | .socket kind flags sourceGeneration now =>
    match c.state with
    | .initial | .routeWaiting => progressApply earlier now (← earlier.event kind flags now)
    | _ =>
      progressApply earlier now (← listenerConnectionShortEvent kind flags sourceGeneration now)

/-- The plan is made and carried out, event after event. -/
def shortRun (earlier : EarlierPhase) (start : ShortHandler)
    (startNow : Timespec) (events : List ShortEvent) : Prog ShortConnection PUnit := do
  progressApply earlier startNow (← start)
  events.forM (shortStep earlier)

/-! ## 5. The invariant -/

/-- The window of a buffer is inside its array. -/
structure BufferSound (buffer : ListenerConnectionBuffer) : Prop where
  inside : buffer.offset + buffer.size ≤ buffer.capacity
  data_length : buffer.data.length = buffer.capacity

namespace ShortTransfer

/-- What a direction has to send before anything it receives. -/
def seed (plan : ShortPlan) (t : ShortTransfer) : NetRelayDirection → Bytes
  | .c2o => plan.request.getD []
  | .o2c => if t.connected then [] else plan.response.getD []

/-- What a direction has to send before the bytes of its buffer. -/
def front (t : ShortTransfer) : NetRelayDirection → Bytes
  | .c2o => t.request.drop t.requestOffset
  | .o2c => []

/-- What each state says about the way to the client. -/
def PhaseSound (t : ShortTransfer) : Prop :=
  match t.state with
  | .shortConnecting => t.connected = false ∧ t.log .o2c = []
  | .shortResponding => t.connected = false ∧ received (t.log .o2c) = []
  | .shortRelaying => t.connected = true
  | _ => False

end ShortTransfer

/-- A short connection between two steps. -/
structure ShortSound (plan : ShortPlan) (t : ShortTransfer) : Prop where
  buffers : ∀ d, BufferSound (t.buffer d)
  ended : ∀ d, t.readClosed d = true → .ended ∈ t.log d
  once : ∀ d, .shut ∈ t.log d → t.writeClosed d = true
  carries : ∀ d, Carries (t.seed plan d) (t.log d) (t.front d ++ (t.buffer d).live)
  phase : t.PhaseSound

/-- A short connection wherever it has come to. -/
structure ShortRelayed (plan : ShortPlan) (t : ShortTransfer) : Prop where
  /-- The request and the client's bytes go to the upstream, in this order. -/
  upstream : Orderly (plan.request.getD []) (t.log .c2o)
  /-- Without an upstream the client gets the response, and nothing else is there for it. -/
  fallback : t.connected = false →
    Orderly (plan.response.getD []) (t.log .o2c) ∧ received (t.log .o2c) = []
  /-- With one it gets the upstream's bytes, and nothing of the response. -/
  relayed : t.connected = true → Orderly [] (t.log .o2c)
  bounds : ∀ d, (t.buffer d).offset + (t.buffer d).size ≤ (t.buffer d).capacity

variable {plan : ShortPlan} {t u : ShortTransfer} {d : NetRelayDirection}

theorem ShortSound.relayed (h : ShortSound plan t) : ShortRelayed plan t where
  upstream := (h.carries .c2o).orderly
  fallback hc := by
    have horderly := (h.carries .o2c).orderly
    rw [ShortTransfer.seed, hc] at horderly
    refine ⟨horderly, ?_⟩
    have hphase := h.phase
    unfold ShortTransfer.PhaseSound at hphase
    split at hphase
    · rw [hphase.2]
      rfl
    · exact hphase.2
    · rw [hphase] at hc
      cases hc
    · exact hphase.elim
  relayed hc := by
    have horderly := (h.carries .o2c).orderly
    rw [ShortTransfer.seed, hc] at horderly
    exact horderly
  bounds d := (h.buffers d).inside

/-- A step of one direction leaves the other one alone. -/
theorem ShortSound.step (h : ShortSound plan t)
    {log : List (Io UInt8)} {readClosed writeClosed : Bool} (hstate : u.state = t.state)
    (hconnected : u.connected = t.connected) (hbuffer : u.buffer = update t.buffer d buffer)
    (hlog : u.log = update t.log d log) (hread : u.readClosed = update t.readClosed d readClosed)
    (hwrite : u.writeClosed = update t.writeClosed d writeClosed)
    (hfront : ∀ e, e ≠ d → u.front e = t.front e) (hb : BufferSound buffer)
    (hended : readClosed = true → .ended ∈ log) (honce : .shut ∈ log → writeClosed = true)
    (hcarries : Carries (t.seed plan d) log (u.front d ++ buffer.live))
    (hphase : d = .o2c → t.state ≠ .shortConnecting ∧
      (t.state = .shortResponding → received log = [])) : ShortSound plan u := by
  have hseed : u.seed plan = t.seed plan := by
    funext e
    cases e with
    | c2o => rfl
    | o2c => rw [ShortTransfer.seed, hconnected, ShortTransfer.seed]
  have hsides : ∀ e, BufferSound (u.buffer e) ∧ (u.readClosed e = true → .ended ∈ u.log e) ∧
      (.shut ∈ u.log e → u.writeClosed e = true) ∧
      Carries (u.seed plan e) (u.log e) (u.front e ++ (u.buffer e).live) := by
    intro e
    rw [hbuffer, hlog, hread, hwrite, hseed]
    by_cases he : e = d
    · subst he
      simp only [update_self]
      exact ⟨hb, hended, honce, hcarries⟩
    · simp only [update_of_ne he, hfront e he]
      exact ⟨h.buffers e, h.ended e, h.once e, h.carries e⟩
  refine ⟨fun e => (hsides e).1, fun e => (hsides e).2.1, fun e => (hsides e).2.2.1,
    fun e => (hsides e).2.2.2, ?_⟩
  have hold := h.phase
  unfold ShortTransfer.PhaseSound at hold ⊢
  rw [hstate, hconnected, hlog]
  by_cases hd : d = .o2c
  · subst hd
    obtain ⟨hne, hresponding⟩ := hphase rfl
    split at hold
    · exact absurd (by assumption) hne
    · exact ⟨hold.1, hresponding (by assumption)⟩
    · exact hold
    · exact hold.elim
  · rw [update_of_ne (Ne.symm hd)]
    exact hold

/-! ### The buffers -/

theorem BufferSound.live_length (h : BufferSound buffer) :
    buffer.live.length = buffer.size :=
  window_length (by rw [h.data_length]; exact h.inside)

theorem BufferSound.compact (h : BufferSound buffer) :
    BufferSound buffer.compact ∧ buffer.compact.live = buffer.live := by
  have hlength := h.live_length
  have hdata := h.data_length
  unfold ListenerConnectionBuffer.compact
  split
  · refine ⟨⟨?_, ?_⟩, window_front hlength⟩
    · show 0 + buffer.size ≤ buffer.capacity
      omega
    · rw [overwrite_length (by omega), hdata]
  · exact ⟨h, rfl⟩

theorem BufferSound.received {bytes : Bytes} (h : BufferSound buffer)
    (hfits : buffer.offset + buffer.size + bytes.length ≤ buffer.capacity) :
    BufferSound (buffer.received bytes) ∧ (buffer.received bytes).live = buffer.live ++ bytes := by
  have hdata := h.data_length
  refine ⟨⟨?_, ?_⟩, window_overwrite (by omega)⟩
  · show buffer.offset + (buffer.size + bytes.length) ≤ buffer.capacity
    omega
  · show (overwrite buffer.data (buffer.offset + buffer.size) bytes).length = buffer.capacity
    rw [overwrite_length (by omega), hdata]

theorem BufferSound.sent {count : Nat} (h : BufferSound buffer) (hcount : count ≤ buffer.size) :
    BufferSound (buffer.sent count) ∧ (buffer.sent count).live = buffer.live.drop count := by
  have hinside := h.inside
  have hlive := window_drop buffer.data buffer.offset buffer.size count
  have hempty : buffer.size - count = 0 → buffer.live.drop count = [] := by
    intro e
    refine List.drop_eq_nil_of_le ?_
    rw [h.live_length]
    omega
  unfold ListenerConnectionBuffer.sent
  split
  · rename_i he
    rw [hempty he, he]
    exact ⟨⟨Nat.zero_le _, h.data_length⟩, window_zero _ _⟩
  · refine ⟨⟨?_, h.data_length⟩, hlive⟩
    show buffer.offset + count + (buffer.size - count) ≤ buffer.capacity
    omega

/-! ### One direction at a time -/

section

variable (h : ShortSound plan t)

include h

/-- The buffer and the log of a direction have changed. -/
theorem ShortSound.transfer
    {log : List (Io UInt8)} (hbuffer : BufferSound buffer)
    (hended : .ended ∈ t.log d → .ended ∈ log) (honce : .shut ∈ log → .shut ∈ t.log d)
    (hcarries : Carries (t.seed plan d) log (t.front d ++ buffer.live))
    (hphase : d = .o2c → t.state ≠ .shortConnecting ∧
      (t.state = .shortResponding → received log = [])) :
    ShortSound plan { t with
      buffer := update t.buffer d buffer
      log := update t.log d log } :=
  h.step rfl rfl rfl rfl (update_eq_self d _).symm (update_eq_self d _).symm
    (fun e _ => by cases e <;> rfl) hbuffer (fun e => hended (h.ended d e))
    (fun e => h.once d (honce e)) (by cases d <;> exact hcarries) hphase

theorem ShortSound.compact (hd : d = .o2c → t.state = .shortRelaying) :
    ShortSound plan { t with buffer := update t.buffer d (t.buffer d).compact } := by
  obtain ⟨hbuffer, hlive⟩ := (h.buffers d).compact
  have hcarries : Carries (t.seed plan d) (t.log d) (t.front d ++ (t.buffer d).compact.live) := by
    rw [hlive]
    exact h.carries d
  have hstep := h.transfer hbuffer id id hcarries fun e => by rw [hd e]; exact ⟨nofun, nofun⟩
  rwa [update_eq_self] at hstep

theorem ShortSound.receive {bytes : Bytes} (hd : d = .o2c → t.state = .shortRelaying)
    (hfits : (t.buffer d).offset + (t.buffer d).size + bytes.length ≤ (t.buffer d).capacity) :
    ShortSound plan { t with
      buffer := update t.buffer d ((t.buffer d).received bytes)
      log := update t.log d (.received bytes :: t.log d) } := by
  obtain ⟨hbuffer, hlive⟩ := (h.buffers d).received hfits
  refine h.transfer hbuffer (List.mem_cons_of_mem _) (shut_mem_of_cons · nofun) ?_
    fun e => by rw [hd e]; exact ⟨nofun, nofun⟩
  rw [hlive, ← List.append_assoc]
  exact (h.carries d).receive bytes

/-- Bytes of the buffer go out, when nothing is before them. -/
theorem ShortSound.send (hfront : t.front d = [])
    (hd : d = .o2c → t.state ≠ .shortConnecting) (count : Nat) :
    ShortSound plan { t with
      buffer := update t.buffer d ((t.buffer d).sent ((t.buffer d).live.take count).length)
      log := update t.log d (.sent ((t.buffer d).live.take count) :: t.log d) } := by
  have hlength := (h.buffers d).live_length
  have hcount : ((t.buffer d).live.take count).length ≤ (t.buffer d).size := by
    rw [List.length_take]
    omega
  obtain ⟨hbuffer, hlive⟩ := (h.buffers d).sent hcount
  refine h.transfer hbuffer (List.mem_cons_of_mem _) (shut_mem_of_cons · nofun) ?_
    fun e => ⟨hd e, fun hresponding => ?_⟩
  · have hcarries := (h.carries d).send ((t.buffer d).live.take count).length
    rw [hfront, List.nil_append] at hcarries ⊢
    rwa [take_length_take, ← hlive] at hcarries
  · subst e
    have hphase := h.phase
    unfold ShortTransfer.PhaseSound at hphase
    rw [hresponding] at hphase
    exact hphase.2

/-- Bytes of the request go out, before those of the buffer. -/
theorem ShortSound.sendRequest (count : Nat) :
    ShortSound plan { t with
      requestOffset := t.requestOffset + ((t.request.drop t.requestOffset).take count).length
      log := update t.log .c2o
        (.sent ((t.request.drop t.requestOffset).take count) :: t.log .c2o) } := by
  have hcarries := (h.carries .c2o).send ((t.request.drop t.requestOffset).take count).length
  have hle := List.length_take_le' count (t.request.drop t.requestOffset)
  rw [ShortTransfer.front, List.take_append_of_le_length hle, List.drop_append_of_le_length hle,
    take_length_take, List.drop_drop] at hcarries
  refine h.step (d := .c2o) rfl rfl (update_eq_self _ _).symm rfl
    (update_eq_self _ _).symm (update_eq_self _ _).symm ?_ (h.buffers .c2o)
    (fun e => List.mem_cons_of_mem _ (h.ended .c2o e))
    (fun e => h.once .c2o (shut_mem_of_cons e nofun)) hcarries nofun
  intro e he
  cases e with
  | c2o => exact absurd rfl he
  | o2c => rfl

/-- The end of the input has been seen. -/
theorem ShortSound.finish (hd : d = .o2c → t.state = .shortRelaying) :
    ShortSound plan { t with
      readClosed := update t.readClosed d true
      log := update t.log d (.ended :: t.log d) } := by
  refine h.step rfl rfl (update_eq_self d _).symm rfl rfl
    (update_eq_self d _).symm (fun e _ => by cases e <;> rfl) (h.buffers d)
    (fun _ => List.mem_cons_self) (fun e => h.once d (shut_mem_of_cons e nofun)) ?_
    fun e => by rw [hd e]; exact ⟨nofun, nofun⟩
  have hcarries := (h.carries d).finish
  cases d <;> exact hcarries

section

variable (hread : t.readClosed d = true) (hwrite : t.writeClosed d = false)
  (hempty : t.front d ++ (t.buffer d).live = [])

include hread hwrite hempty

/-- The log of a direction that is shut down at its end. -/
theorem ShortSound.shut_carries :
    Carries (t.seed plan d) (.shut :: t.log d) [] := by
  have hcarries := h.carries d
  rw [hempty] at hcarries
  refine hcarries.shut (h.ended d hread) fun hm => ?_
  rw [h.once d hm] at hwrite
  cases hwrite

/-- The output has been shut down. -/
theorem ShortSound.shut (hd : d = .o2c → t.state = .shortRelaying) :
    ShortSound plan { t with
      writeClosed := update t.writeClosed d true
      log := update t.log d (.shut :: t.log d) } := by
  have hcarries := h.shut_carries hread hwrite hempty
  rw [← hempty] at hcarries
  refine h.step rfl rfl (update_eq_self d _).symm rfl (update_eq_self d _).symm
    rfl (fun e _ => by cases e <;> rfl) (h.buffers d)
    (fun e => List.mem_cons_of_mem _ (h.ended d e)) (fun _ => rfl) ?_
    fun e => by rw [hd e]; exact ⟨nofun, nofun⟩
  cases d <;> exact hcarries

/-- A shutdown that failed ends the connection; it was in its place all the same. -/
theorem ShortSound.shut_relayed (hd : d = .o2c → t.state = .shortRelaying) :
    ShortRelayed plan { t with log := update t.log d (.shut :: t.log d) } := by
  have hsound := (h.shut hread hwrite hempty hd).relayed
  exact ⟨hsound.upstream, hsound.fallback, hsound.relayed, hsound.bounds⟩

end

end

/-! ## 6. What each function keeps -/

/-- Wherever a run is cut short. -/
def ShortKept (plan : ShortPlan) (c : ShortConnection) : Prop := ShortRelayed plan c.toShortTransfer

/-- A short connection at work in one of its states.  Its timer is one of its own: that for the
    connection attempt is set in the state that waits for it only. -/
structure LiveAt (plan : ShortPlan) (state : ListenerConnectionState) (c : ShortConnection) :
    Prop where
  sound : ShortSound plan c.toShortTransfer
  state_eq : c.state = state
  timer : c.timer = .shortIdle ∨ c.timer = .shortLifetime ∨
    c.timer = .shortConnect ∧ state = .shortConnecting

variable {state : ListenerConnectionState} {c : ShortConnection}

section

variable (h : LiveAt plan state c)

include h

theorem LiveAt.kept : ShortKept plan c := h.sound.relayed

/-- A step that keeps the state and the timer. -/
theorem LiveAt.next {c' : ShortConnection}
    (hsound : ShortSound plan c'.toShortTransfer) (hstate : c'.state = c.state)
    (htimer : c'.timer = c.timer) : LiveAt plan state c' :=
  ⟨hsound, hstate.trans h.state_eq, htimer.symm ▸ h.timer⟩

/-- A step that moves no byte. -/
theorem LiveAt.quiet {c' : ShortConnection}
    (hsame : c'.toShortTransfer = c.toShortTransfer) (htimer : c'.timer = c.timer) :
    LiveAt plan state c' :=
  h.next (hsame.symm ▸ h.sound) (congrArg ShortTransfer.state hsame) htimer

section

variable (hfront : c.front d = []) (hd : d = .o2c → state ≠ .shortConnecting)

include hfront hd

/-- `send` has taken bytes of the buffer; the buffer has still to be moved on. -/
theorem after_sendBuffer :
    After (ShortKept plan) (ShortConnection.send d (c.buffer d).live) (fun answer c' =>
      c'.front = c.front ∧ match answer with
      | .ok (count + 1) => LiveAt plan state (c'.setBuffer d ((c.buffer d).sent (count + 1)))
      | _ => LiveAt plan state c') c := by
  refine after_take h.kept fun answer rest _ => ?_
  cases answer with
  | failed errno => exact after_pure ⟨rfl, h.quiet rfl rfl⟩
  | taken count =>
    refine after_ite (fun _ => after_pure ⟨rfl, h.quiet rfl rfl⟩) fun hne => ?_
    have hsent := h.sound.send hfront (fun e => h.state_eq.symm ▸ hd e) count
    generalize (c.buffer d).live.take count = bytes at hne hsent ⊢
    cases bytes with
    | nil => exact absurd rfl hne
    | cons b bytes => exact after_modify (after_pure ⟨rfl, h.next hsent rfl rfl⟩)

theorem after_sendRound :
    After (ShortKept plan) (sendRound d)
      (fun _ c' => LiveAt plan state c' ∧ c'.front = c.front) c := by
  refine after_get (after_ite (fun _ => after_pure ⟨h, rfl⟩) fun _ => ?_)
  refine after_bind ((after_sendBuffer h hfront hd).mono ?_)
  rintro (errno | count) c' ⟨hsame, hc'⟩
  · cases errno <;> exact after_pure ⟨hc', hsame⟩
  cases count with
  | zero => exact after_pure ⟨hc', hsame⟩
  | succ count => exact after_modify (after_modify (after_pure ⟨hc'.quiet rfl rfl, hsame⟩))

theorem after_bufferSend :
    After (ShortKept plan) (listenerConnectionBufferSend d)
      (fun _ c' => LiveAt plan state c' ∧ c'.front = c.front) c := by
  refine after_get (after_ite (fun _ => after_pure ⟨h, rfl⟩) fun _ => ?_)
  refine after_loop (J := fun c' => LiveAt plan state c' ∧ c'.front = c.front)
    (fun _ hj => hj.1.kept) (fun u hu => ?_) _ ⟨h, rfl⟩
  refine (after_sendRound hu.1 (hu.2 ▸ hfront) hd).mono fun o v hv => ?_
  cases o with
  | none => exact ⟨hv.1, hv.2.trans hu.2⟩
  | some ok => exact ⟨hv.1, hv.2.trans hu.2⟩

end

section

variable (hd : d = .o2c → state = .shortRelaying)

include hd

/-- `recv` has filled bytes into the room behind the window, or seen the end. -/
theorem after_recvBuffer :
    After (ShortKept plan)
      (ShortConnection.recv d ((c.buffer d).capacity - (c.buffer d).offset - (c.buffer d).size))
      (fun answer c' => match answer with
      | .ok [] => LiveAt plan state
          { c' with readClosed := update c'.readClosed d true }
      | .ok bytes => LiveAt plan state (c'.setBuffer d ((c.buffer d).received bytes))
      | .error _ => LiveAt plan state c') c := by
  have hd' : d = .o2c → c.state = .shortRelaying := fun e => h.state_eq.trans (hd e)
  have hinside := (h.sound.buffers d).inside
  refine after_take h.kept fun answer rest _ => ?_
  cases answer with
  | failed errno => exact after_pure (h.quiet rfl rfl)
  | bytes bytes =>
    refine after_ite (fun _ => ?_) fun hne => ?_
    · exact after_modify (after_pure (h.next (h.sound.finish hd') rfl rfl))
    · have hroom := List.length_take_le
        ((c.buffer d).capacity - (c.buffer d).offset - (c.buffer d).size) bytes
      generalize bytes.take ((c.buffer d).capacity - (c.buffer d).offset - (c.buffer d).size) =
        bytes at hne hroom ⊢
      cases bytes with
      | nil => exact absurd rfl hne
      | cons b bytes =>
        exact after_modify (after_pure (h.next (h.sound.receive hd' (by omega)) rfl rfl))

theorem after_receiveRound :
    After (ShortKept plan) (receiveRound d) (fun _ => LiveAt plan state) c := by
  refine after_get (after_ite (fun _ => after_pure h) fun _ => ?_)
  refine after_bind ((after_recvBuffer h hd).mono ?_)
  rintro (errno | bytes) c' hc'
  · cases errno <;> exact after_pure hc'
  cases bytes with
  | nil => exact after_modify (after_pure hc')
  | cons b bytes => exact after_modify (after_modify (after_pure (hc'.quiet rfl rfl)))

theorem after_bufferReceive :
    After (ShortKept plan) (listenerConnectionBufferReceive d) (fun _ => LiveAt plan state) c := by
  refine after_get (after_ite (fun _ => after_pure h) fun _ => after_modify ?_)
  have hcompact : LiveAt plan state (c.setBuffer d (c.buffer d).compact) :=
    h.next (h.sound.compact fun e => h.state_eq.trans (hd e)) rfl rfl
  refine after_loop (fun _ hj => hj.kept) (fun u hu => ?_) _ hcompact
  refine (after_receiveRound hu hd).mono fun o v hv => ?_
  cases o <;> exact hv

theorem after_receiveWhen :
    After (ShortKept plan) (receiveWhen condition d) (fun _ => LiveAt plan state) c :=
  after_ite (fun _ => after_bufferReceive h hd) fun _ => after_pure h

end

theorem after_dataRound :
    After (ShortKept plan) dataRound (fun _ => LiveAt plan state) c := by
  refine after_get (after_ite (fun _ => after_pure h) fun _ => ?_)
  refine after_bind (after_take h.kept fun answer rest _ => ?_)
  cases answer with
  | failed errno => cases errno <;> exact after_pure (h.quiet rfl rfl)
  | taken count =>
    refine after_ite (fun _ => after_pure (h.quiet rfl rfl)) fun hne => ?_
    have hsent := h.sound.sendRequest count
    generalize (c.request.drop c.requestOffset).take count = bytes at hne hsent ⊢
    cases bytes with
    | nil => exact absurd rfl hne
    | cons b bytes =>
      refine after_modify (after_pure (after_modify (after_pure ?_)))
      exact h.next hsent rfl rfl

theorem after_dataSend :
    After (ShortKept plan) listenerConnectionDataSend (fun _ => LiveAt plan state) c := by
  refine after_get (after_ite (fun _ => after_pure h) fun _ => ?_)
  refine after_loop (fun _ hj => hj.kept) (fun u hu => ?_) _ h
  refine (after_dataRound hu).mono fun o v hv => ?_
  cases o <;> exact hv

/-- Freeing a request that is out changes nothing that is left to send. -/
theorem LiveAt.requestFree : LiveAt plan state (requestFree c) := by
  unfold MinecraftRelay.requestFree
  split
  · rename_i hout
    have hfront : c.request.drop c.requestOffset = [] :=
      List.drop_eq_nil_of_le (Nat.le_of_eq hout.1.symm)
    refine h.next ⟨h.sound.buffers, h.sound.ended, h.sound.once, fun d => ?_, h.sound.phase⟩ rfl rfl
    have hcarries := h.sound.carries d
    cases d with
    | c2o =>
      rw [ShortTransfer.front, hfront] at hcarries
      exact hcarries
    | o2c => exact hcarries
  · exact h

end

theorem after_buffersSend (h : LiveAt plan .shortRelaying c) :
    After (ShortKept plan) buffersSend (fun _ => LiveAt plan .shortRelaying) c := by
  refine after_get (after_ite (fun hout => ?_) fun _ => ?_)
  · have hfront : c.front .c2o = [] := by
      rw [ShortTransfer.front, List.length_eq_zero_iff.1 hout, List.drop_nil]
    refine after_bind ((after_bufferSend h hfront nofun).mono fun ok c' hc' => ?_)
    refine after_ite (fun _ => after_pure hc'.1) fun _ => ?_
    exact (after_bufferSend hc'.1 rfl nofun).mono fun _ _ hu => hu.1
  · exact (after_bufferSend h rfl nofun).mono fun _ _ hu => hu.1

/-! ### Timers and registrations -/

section

variable (hsound : ShortSound plan c.toShortTransfer) (hstate : c.state = state)
  (htimer : timer = .shortIdle ∨ timer = .shortConnect ∧ state = .shortConnecting)

include hsound hstate htimer

theorem after_timerSet {expiration : Timespec} :
    After (ShortKept plan) (listenerConnectionTimerSet timer expiration)
      (fun ok c' => ShortKept plan c' ∧ (ok = true → LiveAt plan state c')) c := by
  refine after_get (after_take hsound.relayed fun ok rest _ => ?_)
  cases ok with
  | false => exact after_pure ⟨hsound.relayed, nofun⟩
  | true =>
    refine after_modify (after_pure ⟨hsound.relayed, fun _ => ⟨hsound, hstate, ?_⟩⟩)
    by_cases hbounded : timeutilCompare c.lifetimeDeadline expiration = .lt
    · exact Or.inr (Or.inl (if_pos hbounded))
    · rcases htimer with e | ⟨e, es⟩
      · exact Or.inl ((if_neg hbounded).trans e)
      · exact Or.inr (Or.inr ⟨(if_neg hbounded).trans e, es⟩)

theorem after_timerArm {seconds : Nat} :
    After (ShortKept plan) (listenerConnectionTimerArmShort timer now seconds)
      (fun ok c' => ShortKept plan c' ∧ (ok = true → LiveAt plan state c')) c := by
  unfold listenerConnectionTimerArmShort
  split
  · exact after_timerSet hsound hstate htimer
  · exact after_pure ⟨hsound.relayed, nofun⟩

end

theorem after_armWhen (h : LiveAt plan state c) :
    After (ShortKept plan) (armWhen condition now)
      (fun ok c' => ShortKept plan c' ∧ (ok = true → LiveAt plan state c')) c :=
  after_ite (fun _ => after_timerArm h.sound h.state_eq (Or.inl rfl))
    fun _ => after_pure ⟨h.kept, fun _ => h⟩

theorem after_interestUpdate {interest : EpollInterest}
    (h : LiveAt plan state c) : After (ShortKept plan)
      (listenerConnectionInterestUpdate flags interest) (fun _ => LiveAt plan state) c := by
  have hcall : ∀ f : Bool → Option EpollInterest,
      After (ShortKept plan) (do pure (f (← epollCtl))) (fun _ => LiveAt plan state) c := fun f =>
    after_take h.kept fun _ _ _ => after_pure (h.quiet rfl rfl)
  refine after_ite (fun _ => hcall fun ok => if ok then _ else _) fun _ => ?_
  refine after_ite (fun _ => hcall fun ok => if ok then _ else _) fun _ => ?_
  exact after_ite (fun _ => hcall fun ok => if ok then _ else _) fun _ => after_pure h

theorem after_interestsUpdate (h : LiveAt plan state c) :
    After (ShortKept plan) listenerConnectionInterestsUpdate (fun _ => LiveAt plan state) c := by
  refine after_get (after_bind ((after_interestUpdate h).mono fun o c' hc' => ?_))
  cases o with
  | none => exact after_pure hc'
  | some interest =>
    have hnoted : LiveAt plan state { c' with clientInterest := interest } := hc'.quiet rfl rfl
    refine after_modify (after_ite (fun _ => after_pure hnoted) fun _ => ?_)
    refine after_bind ((after_interestUpdate hnoted).mono fun o u hu => ?_)
    cases o with
    | none => exact after_pure hu
    | some interest => exact after_modify (after_pure (hu.quiet rfl rfl))

/-! ### The handlers -/

/-- What the progress of a handler says about the connection. -/
def Settled (plan : ShortPlan) (progress : ListenerConnectionProgress) (c : ShortConnection) :
    Prop :=
  ShortKept plan c ∧ progress ≠ .ready ∧ (progress = .pending → ∃ state, LiveAt plan state c)

/-- The connection is not kept. -/
def ListenerConnectionProgress.over : ListenerConnectionProgress → Bool
  | .pending | .ready => false
  | _ => true

section

variable {progress : ListenerConnectionProgress} (h : ShortKept plan c)
  (hover : progress.over = true)

include h hover

theorem settled_over : Settled plan progress c := by
  refine ⟨h, ?_, ?_⟩ <;> rintro rfl <;> cases hover

theorem after_over : After (ShortKept plan) (pure progress) (Settled plan) c :=
  after_pure (settled_over h hover)

end

theorem after_interestsProgress (h : LiveAt plan state c) :
    After (ShortKept plan) interestsProgress (Settled plan) c := by
  refine after_bind ((after_interestsUpdate h).mono fun ok c' hc' => after_pure ?_)
  cases ok with
  | false => exact settled_over hc'.kept rfl
  | true => exact ⟨hc'.kept, nofun, fun _ => ⟨state, hc'⟩⟩

theorem after_respondDrive (h : LiveAt plan .shortResponding c) :
    After (ShortKept plan) (shortRespondDrive now) (Settled plan) c := by
  refine after_bind ((after_bufferSend h rfl nofun).mono fun ok c' hc' => ?_)
  refine after_ite (fun _ => after_over hc'.1.kept rfl) fun _ => ?_
  refine after_get (after_ite (fun _ => after_over hc'.1.kept rfl) fun _ => ?_)
  refine after_bind ((after_armWhen hc'.1).mono fun armed u hu => ?_)
  refine after_ite (fun _ => after_over hu.1 rfl) fun harmed => ?_
  exact after_interestsProgress (hu.2 (not_not.1 harmed))

/-- A half close that is made only at the end of its direction. -/
theorem after_shutdownWhen (h : LiveAt plan .shortRelaying c)
    (hcondition : condition = true → c.readClosed d = true ∧ c.writeClosed d = false ∧
      c.front d ++ (c.buffer d).live = []) :
    After (ShortKept plan) (shutdownWhen condition d)
      (fun ok c' => ShortKept plan c' ∧ (ok = true → LiveAt plan .shortRelaying c')) c := by
  refine after_ite (fun _ => after_pure ⟨h.kept, fun _ => h⟩) fun hc => ?_
  obtain ⟨hread, hwrite, hempty⟩ := hcondition (not_not.1 hc)
  refine after_bind (after_take h.kept fun ok rest _ => after_modify (after_pure ?_))
  cases ok with
  | false =>
    exact after_pure ⟨h.sound.shut_relayed hread hwrite hempty fun _ => h.state_eq, nofun⟩
  | true =>
    have hshut := h.sound.shut hread hwrite hempty fun _ => h.state_eq
    exact after_modify (after_pure ⟨hshut.relayed, fun _ => h.next hshut rfl rfl⟩)

theorem live_nil (h : buffer.size = 0) : buffer.live = [] := by
  rw [ListenerConnectionBuffer.live, h, window_zero]

theorem after_relay (h : LiveAt plan .shortRelaying c) :
    After (ShortKept plan) (shortRelay now) (Settled plan) c := by
  refine after_bind ((after_dataSend h).mono fun _ c₁ h₁ => ?_)
  refine after_ite (fun _ => after_over h₁.kept rfl) fun _ => ?_
  refine after_modify (after_bind ((after_buffersSend h₁.requestFree).mono fun _ c₂ h₂ => ?_))
  refine after_ite (fun _ => after_over h₂.kept rfl) fun _ => ?_
  refine after_modify (after_get ?_)
  have h₃ : LiveAt plan .shortRelaying (readResume c₂) := h₂.quiet rfl rfl
  refine after_bind ((after_shutdownWhen h₃ fun e => ?_).mono fun _ c₄ h₄ => ?_)
  · simp only [Bool.and_eq_true, Bool.not_eq_true', decide_eq_true_eq] at e
    obtain ⟨⟨⟨hread, hwrite⟩, hrequest⟩, hsize⟩ := e
    refine ⟨hread, hwrite, ?_⟩
    rw [live_nil hsize, ShortTransfer.front, List.length_eq_zero_iff.1 hrequest, List.drop_nil,
      List.append_nil]
  refine after_ite (fun _ => after_over h₄.1 rfl) fun hok => ?_
  have h₅ := h₄.2 (not_not.1 hok)
  refine after_get (after_bind ((after_shutdownWhen h₅ fun e => ?_).mono fun _ c₆ h₆ => ?_))
  · simp only [Bool.and_eq_true, Bool.not_eq_true', decide_eq_true_eq] at e
    obtain ⟨⟨hread, hwrite⟩, hsize⟩ := e
    exact ⟨hread, hwrite, live_nil hsize⟩
  refine after_ite (fun _ => after_over h₆.1 rfl) fun hok => ?_
  have h₇ := h₆.2 (not_not.1 hok)
  refine after_get (after_ite (fun _ => after_over h₇.kept rfl) fun _ => ?_)
  refine after_bind ((after_armWhen h₇).mono fun _ c₈ h₈ => ?_)
  refine after_ite (fun _ => after_over h₈.1 rfl) fun harmed => ?_
  exact after_interestsProgress (h₈.2 (not_not.1 harmed))

/-- The states of a short connection. -/
theorem LiveAt.cases (h : LiveAt plan state c) :
    state = .shortConnecting ∨ state = .shortResponding ∨ state = .shortRelaying := by
  have hphase := h.sound.phase
  have hstate := h.state_eq
  unfold ShortTransfer.PhaseSound at hphase
  rw [← hstate]
  split at hphase
  · rename_i e
    exact Or.inl e
  · rename_i e
    exact Or.inr (Or.inl e)
  · rename_i e
    exact Or.inr (Or.inr e)
  · exact hphase.elim

theorem after_drive (h : LiveAt plan state c) :
    After (ShortKept plan) (listenerConnectionShortDrive now) (Settled plan) c := by
  refine after_get (after_ite (fun _ => after_over h.kept rfl) fun _ => ?_)
  have hstate := h.state_eq
  rcases h.cases with rfl | rfl | rfl
  · rw [hstate]
    exact after_interestsProgress h
  · rw [hstate]
    exact after_respondDrive h
  · rw [hstate]
    exact after_relay h

/-! ### The ways out of the connection attempt -/

section

variable (h : ShortSound plan t) (hstate : t.state = .shortConnecting)

include h hstate

theorem ShortSound.connecting :
    t.connected = false ∧ t.log .o2c = [] := by
  have hphase := h.phase
  unfold ShortTransfer.PhaseSound at hphase
  rwa [hstate] at hphase

theorem ShortSound.responding :
    ShortSound plan { t with state := .shortResponding } := by
  obtain ⟨hconnected, hlog⟩ := h.connecting hstate
  refine ⟨h.buffers, h.ended, h.once, h.carries, hconnected, ?_⟩
  rw [hlog]
  rfl

/-- Nothing of the response has been sent, so it can be forgotten. -/
theorem ShortSound.relaying :
    ShortSound plan { t with
      state := .shortRelaying
      connected := true
      buffer := update t.buffer .o2c { t.buffer .o2c with offset := 0, size := 0 } } := by
  have hlog := (h.connecting hstate).2
  refine ⟨fun d => ?_, h.ended, h.once, fun d => ?_, rfl⟩
  · cases d with
    | c2o => exact h.buffers .c2o
    | o2c => exact ⟨Nat.zero_le _, (h.buffers .o2c).data_length⟩
  · cases d with
    | c2o => exact h.carries .c2o
    | o2c =>
      show Carries [] (t.log .o2c) ([] ++ window (t.buffer .o2c).data 0 0)
      rw [hlog, window_zero]
      exact .start []

/-- An upstream that has connected too late is not used. -/
theorem ShortSound.late :
    ShortRelayed plan { t with connected := true } := by
  have hlog := (h.connecting hstate).2
  refine ⟨h.relayed.upstream, nofun, fun _ => ?_, h.relayed.bounds⟩
  rw [hlog]
  exact .nil []

end

theorem upstreamClose_transfer (c : ShortConnection) :
    (listenerConnectionUpstreamClose c).toShortTransfer = c.toShortTransfer := by
  unfold listenerConnectionUpstreamClose
  split <;> rfl

/-- An answer about the connection attempt: an upstream is noted when it is there. -/
theorem after_netConnectComplete (h : ShortKept plan c) :
    After (ShortKept plan) netConnectComplete (fun status u => u.toShortTransfer =
      { c.toShortTransfer with connected := c.connected || decide (status = .ok) }) c :=
  after_take h fun _ _ _ => after_modify (after_pure rfl)

@[inherit_doc after_netConnectComplete]
theorem after_netConnect (h : ShortKept plan c) :
    After (ShortKept plan) netConnect (fun status u => u.toShortTransfer =
      { c.toShortTransfer with connected := c.connected || decide (status = .ok) }) c :=
  after_take h fun _ _ _ => after_modify (after_pure rfl)

theorem connected_transfer {status : NetConnectStatus} {t u : ShortTransfer}
    (h : u = { t with connected := t.connected || decide (status = .ok) }) :
    (status = .ok → u = { t with connected := true }) ∧ (status ≠ .ok → u = t) := by
  constructor
  · intro e
    rw [h, decide_eq_true e, Bool.or_true]
  · intro e
    rw [h, decide_eq_false e, Bool.or_false]

theorem after_armDrive {seconds : Nat}
    (hsound : ShortSound plan c.toShortTransfer) (hstate : c.state = state)
    (htimer : timer = .shortIdle ∨ timer = .shortConnect ∧ state = .shortConnecting) :
    After (ShortKept plan) (shortArmDrive timer now seconds) (Settled plan) c := by
  refine after_bind ((after_timerArm hsound hstate htimer).mono fun armed u hu => ?_)
  refine after_ite (fun _ => after_over hu.1 rfl) fun harmed => ?_
  exact after_drive (hu.2 (not_not.1 harmed))

theorem after_failure (ht : c.toShortTransfer = t) (hkept : ShortRelayed plan t)
    (hsound : ShortSound plan { t with state := .shortResponding }) :
    After (ShortKept plan) (listenerConnectionShortFailure now) (Settled plan) c := by
  subst ht
  refine after_get (after_ite (fun _ => after_over hkept rfl) fun _ => after_modify ?_)
  rw [← upstreamClose_transfer] at hsound
  exact after_armDrive hsound rfl (Or.inl rfl)

theorem after_connectComplete (h : LiveAt plan .shortConnecting c) :
    After (ShortKept plan) (listenerConnectionShortConnectComplete now) (Settled plan) c := by
  refine after_bind ((after_netConnectComplete h.kept).mono fun status u hu => ?_)
  obtain ⟨hok, hother⟩ := connected_transfer hu
  refine after_ite (fun hne => ?_) fun hc => ?_
  · exact after_failure (hother hne) h.kept (h.sound.responding h.state_eq)
  · have hnow := hok (not_not.1 hc)
    refine after_get (after_ite (fun _ => after_over ?_ rfl) fun _ => after_modify ?_)
    · rw [ShortKept, hnow]
      exact h.sound.late h.state_eq
    have hsound : ShortSound plan (relayingStart u).toShortTransfer := by
      show ShortSound plan { u.toShortTransfer with
        state := .shortRelaying
        buffer := update u.toShortTransfer.buffer .o2c
          { u.toShortTransfer.buffer .o2c with offset := 0, size := 0 } }
      rw [hnow]
      exact h.sound.relaying h.state_eq
    refine after_bind ((after_timerArm hsound rfl (Or.inl rfl)).mono fun armed v hv => ?_)
    refine after_ite (fun harmed => after_pure ?_) fun _ => after_pure ?_
    · exact ⟨hv.1, nofun, fun _ => ⟨.shortRelaying, hv.2 harmed⟩⟩
    · exact settled_over hv.1 rfl

/-! ### Events, timers, runs -/

section

variable (h : LiveAt plan state c)

include h

theorem LiveAt.readPause : LiveAt plan state (readPause d c) := by
  unfold MinecraftRelay.readPause
  split
  · exact h.quiet rfl rfl
  · exact h

theorem after_clientEvent :
    After (ShortKept plan) (shortClientEvent flags now) (Settled plan) c := by
  refine after_ite (fun _ => after_over h.kept rfl) fun _ => after_get ?_
  refine after_bind ((after_receiveWhen (d := .c2o) h nofun).mono fun _ u hu => ?_)
  refine after_ite (fun _ => after_over hu.kept rfl) fun _ => ?_
  exact after_modify (after_drive hu.readPause)

theorem after_upstreamRelaying :
    After (ShortKept plan) (shortUpstreamRelaying flags now) (Settled plan) c := by
  refine after_get (after_ite (fun hrelaying => ?_) fun _ => after_drive h)
  have hstate : state = .shortRelaying := h.state_eq.symm.trans hrelaying
  refine after_ite (fun _ => after_over h.kept rfl) fun _ => ?_
  refine after_bind ((after_receiveWhen h fun _ => hstate).mono fun _ u hu => ?_)
  refine after_ite (fun _ => after_over hu.kept rfl) fun _ => ?_
  exact after_modify (after_drive hu.readPause)

theorem after_upstreamEvent {sourceGeneration : Nat} :
    After (ShortKept plan) (shortUpstreamEvent flags sourceGeneration now) (Settled plan) c := by
  refine after_get (after_ite (fun _ => ?_) fun _ => ?_)
  · -- the event of a descriptor that is gone
    exact after_pure ⟨h.kept, nofun, fun _ => ⟨state, h⟩⟩
  refine after_ite (fun hconnecting => ?_) fun _ => after_upstreamRelaying h
  cases h.state_eq.symm.trans hconnecting
  refine after_bind ((after_connectComplete h).mono fun progress u hu => ?_)
  refine after_ite (fun _ => after_pure hu) fun hpending => ?_
  obtain ⟨state, hlive⟩ := hu.2.2 (not_not.1 hpending)
  exact after_upstreamRelaying hlive

theorem after_shortEvent {kind : ListenerEventKind} {sourceGeneration : Nat} :
    After (ShortKept plan) (listenerConnectionShortEvent kind flags sourceGeneration now)
      (Settled plan) c := by
  have hreset : LiveAt plan state { c with activity := 0 } := h.quiet rfl rfl
  refine after_modify ?_
  cases kind
  case client => exact after_clientEvent hreset
  case upstream => exact after_upstreamEvent hreset
  all_goals exact after_over hreset.kept rfl

/-- A short connection's timer is one of its own, so nothing of an earlier phase happens. -/
theorem after_timeout {timerGeneration : Nat} :
    After (ShortKept plan) (listenerConnectionTimeout earlier flags timerGeneration now)
      (Settled plan) c := by
  refine after_ite (fun _ => after_over h.kept rfl) fun _ => after_get ?_
  have hread : After (ShortKept plan) (loop timerReadRound (c.script.timerReads.length + 1))
      (fun _ => LiveAt plan state) c := by
    refine after_loop (fun _ hj => hj.kept) (fun u hu => ?_) _ h
    refine after_take hu.kept fun result rest _ => ?_
    cases result with
    | failed errno => cases errno <;> exact after_pure (hu.quiet rfl rfl)
    | expired => exact after_pure (hu.quiet rfl rfl)
    | short => exact after_pure (hu.quiet rfl rfl)
  refine after_bind (hread.mono fun result u hu => ?_)
  have habort : Settled plan .abort u := settled_over hu.kept rfl
  have hpending : ∀ {v}, LiveAt plan state v → Settled plan .pending v := fun hv =>
    ⟨hv.kept, nofun, fun _ => ⟨state, hv⟩⟩
  cases result with
  | short => exact after_pure habort
  | failed errno => cases errno <;> first | exact after_pure (hpending hu) | exact after_pure habort
  | expired =>
    have hnow : After (ShortKept plan) (timeoutNow timerGeneration now)
        (fun _ => LiveAt plan state) u :=
      after_get (after_ite (fun _ => after_take_pure hu.kept fun _ _ _ => hu.quiet rfl rfl) fun _ =>
        after_pure hu)
    refine after_bind (hnow.mono fun time v hv => ?_)
    cases time with
    | none => exact after_over hv.kept rfl
    | some currentNow =>
      refine after_get (after_ite (fun _ => after_pure (hpending hv)) fun _ => ?_)
      rcases hv.timer with e | e | ⟨e, hstate⟩
      · rw [e]
        exact after_over hv.kept rfl
      · rw [e]
        exact after_over hv.kept rfl
      · rw [e]
        subst hstate
        exact after_failure rfl hv.kept (hv.sound.responding hv.state_eq)

end

/-- Between two events: a connection that is not closing is at work. -/
def Going (plan : ShortPlan) (c : ShortConnection) : Prop :=
  ShortKept plan c ∧ (c.closing = false → ∃ state, LiveAt plan state c)

theorem after_progressApply
    {progress : ListenerConnectionProgress} (h : Settled plan progress c) :
    After (ShortKept plan) (progressApply earlier now progress) (fun _ => Going plan) c := by
  have hover : Going plan { c with closing := true } := ⟨h.1, nofun⟩
  cases progress with
  | pending => exact after_pure ⟨h.1, fun _ => h.2.2 rfl⟩
  | ready => exact absurd rfl h.2.1
  | abort => exact hover
  | closed => exact hover
  | fatal => exact hover

theorem after_step {event : ShortEvent} (h : Going plan c) :
    After (ShortKept plan) (shortStep earlier event) (fun _ => Going plan) c := by
  refine after_get (after_ite (fun _ => after_pure h) fun hopen => ?_)
  obtain ⟨state, hlive⟩ := h.2 (Bool.eq_false_iff.2 hopen)
  cases event with
  | timeout flags timerGeneration now =>
    exact after_bind ((after_timeout hlive).mono fun _ _ hu => after_progressApply hu)
  | socket kind flags sourceGeneration now =>
    have hevent : After (ShortKept plan)
        (listenerConnectionShortEvent kind flags sourceGeneration now >>=
          fun progress => progressApply earlier now progress) (fun _ => Going plan) c :=
      after_bind ((after_shortEvent hlive).mono fun _ _ hu => after_progressApply hu)
    rw [hlive.state_eq]
    rcases hlive.cases with rfl | rfl | rfl <;> exact hevent

theorem after_steps (events : List ShortEvent) (h : Going plan c) :
    After (ShortKept plan) (events.forM (shortStep earlier)) (fun _ => Going plan) c := by
  induction events generalizing c with
  | nil => exact after_pure h
  | cons event events ih => exact after_bind ((after_step h).mono fun _ _ hu => ih hu)

/-! ## 7. From the plan on -/

/-- What a connection brings into its plan: the first packet, its deadlines and its registration. -/
structure ShortBegin where
  state : ListenerConnectionState
  inbound : CharArray bufsiz
  inboundSize : Nat
  lifetimeDeadline : Timespec
  timer : ListenerConnectionTimer
  timerDeadline : Timespec
  timerGeneration : Nat
  clientInterest : EpollInterest
  script : ShortScript

/-- The connection before its plan; everything else is as `calloc` left it. -/
def ShortBegin.connection (b : ShortBegin) : ShortConnection where
  state := b.state
  buffer _ := .zero
  readClosed _ := false
  writeClosed _ := false
  request := []
  requestOffset := 0
  connected := false
  log _ := []
  readPaused _ := false
  inbound := b.inbound
  inboundSize := b.inboundSize
  lifetimeDeadline := b.lifetimeDeadline
  timer := b.timer
  timerDeadline := b.timerDeadline
  timerGeneration := b.timerGeneration
  clientInterest := b.clientInterest
  upstreamInterest := ⟨{}, false⟩
  upstreamOpen := false
  upstreamGeneration := 0
  activity := 0
  closing := false
  script := b.script

/-- Nothing has been received or sent. -/
theorem shortRelayed_begin {plan : ShortPlan} (hlog : ∀ d, t.log d = [])
    (hbounds : ∀ d, (t.buffer d).offset + (t.buffer d).size ≤ (t.buffer d).capacity) :
    ShortRelayed plan t where
  upstream := by
    rw [hlog]
    exact .nil _
  fallback _ := by
    rw [hlog]
    exact ⟨.nil _, rfl⟩
  relayed _ := by
    rw [hlog]
    exact .nil _
  bounds := hbounds

/-- The two buffers take up their new use. -/
theorem bufferPrepare_sound {b : ShortBegin} {allocated : Bool} {prepared : ShortConnection}
    (h : listenerConnectionShortBufferPrepare plan allocated b.connection = some prepared) :
    ShortSound plan { prepared.toShortTransfer with
      request := plan.request.getD [], requestOffset := 0, state := .shortConnecting } := by
  unfold listenerConnectionShortBufferPrepare at h
  split at h
  · cases h
  rename_i response hresponse
  split at h
  · cases h
  split at h
  · cases h
  cases h
  have hzero : (List.replicate listenerShortRelayBufferBytes (0 : UInt8)).length =
      listenerShortRelayBufferBytes := List.length_replicate
  refine ⟨fun d => ?_, nofun, nofun, fun d => ?_, rfl, rfl⟩
  · cases d with
    | c2o => exact ⟨Nat.zero_le _, b.inbound.bytes_length⟩
    | o2c =>
      refine ⟨?_, ?_⟩
      · show 0 + response.length ≤ listenerShortRelayBufferBytes
        omega
      · rw [overwrite_length (by omega), hzero]
  · cases d with
    | c2o =>
      show Carries (plan.request.getD []) [] ((plan.request.getD []).drop 0 ++
        window b.inbound.bytes 0 0)
      rw [window_zero, List.append_nil, List.drop_zero]
      exact .start _
    | o2c =>
      show Carries (plan.response.getD []) [] ([] ++ window (overwrite _ 0 response) 0
        response.length)
      rw [window_front rfl, hresponse]
      exact .start response

theorem after_startConnect
    (h : ShortSound plan { c.toShortTransfer with state := .shortConnecting }) :
    After (ShortKept plan) (shortStartConnect now) (Settled plan) c := by
  have hkept : ShortKept plan c :=
    ⟨h.relayed.upstream, h.relayed.fallback, h.relayed.relayed, h.relayed.bounds⟩
  refine after_bind ((after_netConnect hkept).mono fun status u hu => ?_)
  obtain ⟨hok, hother⟩ := connected_transfer hu
  have hfailed (hne : status ≠ .ok) :
      After (ShortKept plan) (listenerConnectionShortFailure now) (Settled plan) u :=
    after_failure (hother hne) hkept (h.responding rfl)
  cases status with
  | ok =>
    refine after_modify (after_armDrive ?_ rfl (Or.inl rfl))
    rw [hok rfl]
    exact h.relaying rfl
  | pending =>
    refine after_modify (after_armDrive ?_ rfl (Or.inr ⟨rfl, rfl⟩))
    rw [hother nofun]
    exact h
  | failure => exact hfailed nofun
  | badArgument => exact hfailed nofun
  | internal => exact hfailed nofun

/-- The start of the connection, whatever the plan says. -/
theorem after_startPlanned {action : ShortAction} {released allocated : Bool}
    (b : ShortBegin) : After (ShortKept plan) (shortStartPlanned action plan released allocated now)
      (Settled plan) b.connection := by
  have hbegin : ShortKept plan b.connection :=
    shortRelayed_begin (fun _ => rfl) fun _ => Nat.le_refl 0
  refine after_ite (fun _ => after_over hbegin rfl) fun _ => ?_
  refine after_ite (fun _ => after_over hbegin rfl) fun _ => after_get ?_
  cases hprepare : listenerConnectionShortBufferPrepare plan allocated b.connection with
  | none => exact after_over hbegin rfl
  | some prepared =>
    have hsound := bufferPrepare_sound hprepare
    refine after_set (after_ite (fun _ => ?_) fun _ => ?_)
    · have hresponding := hsound.responding rfl
      exact after_modify (after_armDrive hresponding rfl (Or.inl rfl))
    · exact after_startConnect hsound

/-- The plan a connection makes. -/
def shortPlanOf (ntop : InetNtop) (snapshot : Option SetupSnapshot) (client : NetAddrBundle)
    (b : ShortBegin) : ShortPlan :=
  match snapshot with
  | none => {}
  | some snapshot =>
    (connectionSetupShortPrepare ntop snapshot client (b.inbound.bytes.take b.inboundSize)).2

/-- **A status connection relays without a mix-up.**  For every plan, every sequence of events and
    every behaviour of the sockets, wherever the run has come to: the upstream has got a prefix of
    the planned request and of the client's bytes behind it; the client has got a prefix of the
    fallback if the upstream never connected, and of the upstream's bytes if it did; a socket has
    been shut down only at the end of its direction; both buffers are inside their arrays. -/
theorem shortRun_relayed (earlier : EarlierPhase) (ntop : InetNtop)
    (snapshot : Option SetupSnapshot) (client : NetAddrBundle) (released allocated : Bool)
    (startNow : Timespec) (events : List ShortEvent) (b : ShortBegin) :
    ShortRelayed (shortPlanOf ntop snapshot client b) (reached (shortRun earlier
      (listenerConnectionShortStart ntop snapshot client released allocated startNow)
      startNow events b.connection)).toShortTransfer := by
  have hstart : After (ShortKept (shortPlanOf ntop snapshot client b))
      (listenerConnectionShortStart ntop snapshot client released allocated startNow)
      (Settled (shortPlanOf ntop snapshot client b)) b.connection := by
    cases snapshot with
    | none =>
      refine after_over ?_ rfl
      exact shortRelayed_begin (fun _ => rfl) fun _ => Nat.le_refl 0
    | some snapshot => exact after_get (after_startPlanned b)
  have hrun : After (ShortKept (shortPlanOf ntop snapshot client b)) (shortRun earlier
      (listenerConnectionShortStart ntop snapshot client released allocated startNow)
      startNow events) (fun _ => Going (shortPlanOf ntop snapshot client b)) b.connection := by
    refine after_bind (hstart.mono fun progress u hu => ?_)
    exact after_bind ((after_progressApply hu).mono fun _ _ hv => after_steps events hv)
  exact hrun.elim (P := fun _ c => ShortKept (shortPlanOf ntop snapshot client b) c)
    (fun _ ht => ht) fun _ _ ht => ht.1

/-- A status request whose upstream answers one byte. -/
def statusBegin : ShortBegin where
  state := .routeWaiting
  inbound := ⟨statusInitial ++ List.replicate (bufsiz - statusInitial.length) 0, by decide +kernel⟩
  inboundSize := statusInitial.length
  lifetimeDeadline := ⟨30, 0⟩
  timer := .route
  timerDeadline := ⟨5, 0⟩
  timerGeneration := 1
  clientInterest := ⟨{ epollrdhup := true }, true⟩
  script :=
    { sends := [.taken 400, .taken 1]
      recvs := [.bytes [97], .bytes []]
      shutdowns := [true]
      timerSets := List.replicate 4 true
      epollCtls := List.replicate 8 true
      timerReads := []
      clocks := []
      connects := [.pending]
      completions := [.ok] }

/-- Nothing of an earlier phase is left to do. -/
def noPhase : EarlierPhase := ⟨fun _ => pure .abort, fun _ _ _ => pure .abort, fun _ => pure .abort⟩

example : (reached (shortRun noPhase (listenerConnectionShortStart sampleNtop (some sampleSnapshot)
    statusClient true true ⟨1, 0⟩) ⟨1, 0⟩
    [.socket .upstream { epollin := true, epollout := true } 1 ⟨2, 0⟩]
    statusBegin.connection)).log .o2c = [.shut, .sent [97], .ended, .received [97]] := by
  decide +kernel

end MinecraftRelay
