/-
  File:      Listener/Connection.lean
  Subject:   ONE CONNECTION IN THE LISTENER'S LOOP (src/listener.c: `listener_connection_*`).

  A connection collects its first packet, may wait for a route, and then is answered here (a short
  connection), handed to a worker process, or refused.  What the functions below share is the
  context: the generations with their reference counts, the counters and the table of workers.
  `Focus` is the context with the one connection a function works on.

  What the system, the waiter and the other modules answer is an argument, one record for all that
  one event may ask.  The bytes of a short connection are the subject of Listener/Short.lean; here a
  transfer reports only whether something moved and whether the connection is over.

  Four fields of the context are no memory of the program: `children` and `clock` are the system's,
  `settlements` and `supervision` record what was counted and how the supervisor was called.
-/
import MinecraftRelay.Listener.Metrics
import MinecraftRelay.Listener.Short
import MinecraftRelay.Route.Generation
import MinecraftRelay.Route.Waiter

namespace MinecraftRelay

/-! ## 1. The connection and its context -/

/-- The time `nanoseconds` later. -/
def Timespec.later (t : Timespec) (nanoseconds : Nat) : Timespec where
  sec := t.sec + (t.nsec + nanoseconds) / 1000000000
  nsec := (t.nsec + nanoseconds) % 1000000000

/-- A clock that is set right goes on and stays so. -/
theorem Timespec.later_spec {t : Timespec} (h : timeutilValid t = true) (nanoseconds : Nat) :
    t ≤ t.later nanoseconds ∧ timeutilValid (t.later nanoseconds) = true := by
  rw [timeutilValid_iff] at h ⊢
  rw [Timespec.le_def]
  unfold Timespec.later
  dsimp only
  omega

/-- `listener_connection_route`. -/
inductive ListenerConnectionRoute where
  | invalid
  | shortLocal
  | shortWait
  | workerBypass
  | workerWait
deriving Repr, DecidableEq

/-- `LISTENER_WORKER_LIMIT` and the timeouts of the loop, in seconds and milliseconds. -/
def listenerWorkerLimit : Nat := 256

@[inherit_doc listenerWorkerLimit]
def listenerInitialTimeoutSec : Nat := 10

@[inherit_doc listenerWorkerLimit]
def listenerShortLifetimeTimeoutSec : Nat := 30

@[inherit_doc listenerWorkerLimit]
def listenerLegacyPingGraceMs : Nat := 100

@[inherit_doc listenerWorkerLimit]
def listenerWorkerRefusalTimeoutSec : Nat := 1

/-- `listener_connection`, without its bytes and descriptors.  `id` is its address. -/
structure ListenerConnection where
  id : Nat
  assemblyDeadline : Timespec
  closing : Bool := false
  dispatch : ListenerConnectionRoute := .invalid
  generation : Option Nat
  lifetimeDeadline : Timespec
  routeMetrics : ListenerMetricsRouteRequest := {}
  state : ListenerConnectionState := .initial
  timer : ListenerConnectionTimer := .assembly
  timerDeadline : Timespec
  timerGeneration : Nat := 0
  upstreamGeneration : Nat := 0
  upstreamOpen : Bool := false
  waiter : Option WaiterHandle := none
  waiterStatus : RouteWaiterStatus := .pending
deriving Repr, DecidableEq

/-- A record of the times the supervisor was called at, the last one first.  It is `late` once a
    stale event has found a route timer due at a clock read after `route_now`. -/
structure Supervision where
  times : List Timespec := []
  late : Bool := false

namespace Supervision

variable {r : Supervision} {time time' : Timespec}

def call (r : Supervision) (now : Timespec) : Supervision := { r with times := now :: r.times }

/-- Unless it is late, the times are in order, and none is after `time`. -/
def Until (r : Supervision) (time : Timespec) : Prop :=
  r.late = false → (time :: r.times).Pairwise (· ≥ ·)

theorem Until.mono (h : r.Until time) (hle : time ≤ time') : r.Until time' := by
  intro hlate
  obtain ⟨hall, hordered⟩ := List.pairwise_cons.1 (h hlate)
  exact List.pairwise_cons.2 ⟨fun t ht => (hall t ht).trans hle, hordered⟩

theorem Until.ordered (h : r.Until time) (hlate : r.late = false) : r.times.Pairwise (· ≥ ·) :=
  (h hlate).of_cons

theorem Until.call (h : r.Until time) : (r.call time).Until time := by
  intro hlate
  refine List.pairwise_cons.2 ⟨fun t ht => ?_, h hlate⟩
  rcases List.mem_cons.1 ht with rfl | ht
  · exact le_rfl
  · exact (List.pairwise_cons.1 (h hlate)).1 t ht

end Supervision

/-- The part of `listener_context` the connections share.  `workers` is `pids[0 .. count)`. -/
structure ListenerContext (γ : Type) where
  generations : Generations γ
  metrics : ListenerMetricsState
  workers : List Nat
  /-- The worker processes that nobody has waited for. -/
  children : List Nat
  /-- The last reading of `CLOCK_MONOTONIC`. -/
  clock : Timespec
  /-- The connections whose request was counted as settled, the last one first. -/
  settlements : List Nat
  supervision : Supervision

/-- One connection and what it shares with the others. -/
structure Focus (γ : Type) where
  context : ListenerContext γ
  connection : ListenerConnection

/-! ## 2. What is asked outside -/

/-- `fork`, in the listener: the new process is none that has not been waited for. -/
structure ForkAnswer where
  pid : List Nat → Option Nat
  fresh : ∀ children p, pid children = some p → p ∉ children

/-- One `recv` of `listener_connection_receive` and what the packet looks like after it. 
    Interrupted calls are repeated and are not listed; the list ends where the array is full. -/
inductive ReceiveAnswer where
  | complete (identified : Bool)
  | invalid
  | incomplete (timerSet : Bool)
  | ambiguous (clock : Option Nat) (timerSet : Bool)
  | ended (identified : Bool)
  | wouldBlock
  | failed

/-- What a transfer of a short connection comes to. -/
inductive TransferAnswer where
  | ended
  | going (moved : Bool)

/-- The packet of `listener_connection_refusal_start`. -/
inductive RefusalAnswer where
  | unidentified
  | unwritten
  | written
deriving Repr, DecidableEq

/-- The answers to one event of a connection. -/
structure ConnectionAnswers where
  receives : List ReceiveAnswer
  /-- `read` of the timer, and the clock if the event is stale. -/
  timerRead : TimerRead
  timeoutClock : Option Nat
  /-- `protocol_identify` when the grace period is over. -/
  identified : Bool
  /-- `listener_connection_route_parse` and `protocol_proxy_socket_read`. -/
  route : ListenerConnectionRoute
  proxyRead : Bool
  /-- `route_waiter_create`: the argument checks on the proxy record, and `calloc`. -/
  waiterArguments : Bool
  waiterAllocated : Bool
  waiterProgress : RouteWaiterStatus
  snapshotTake : Bool
  selectedFamily : Option ListenerMetricsSelectedFamily
  routeTimerSet : Bool
  routeInterests : Bool
  waiterDestroy : RouteWaiterDestroyStatus
  /-- `listener_connection_snapshot_prepare`, as far as it looks at the configuration. -/
  snapshotTexts : Bool
  shortAction : ShortAction
  shortBuffer : Bool
  connect : NetConnectStatus
  connectComplete : NetConnectStatus
  shortTimerSet : Bool
  receive : TransferAnswer
  transfer : TransferAnswer
  idleTimerSet : Bool
  shortInterests : Bool
  refusal : RefusalAnswer
  fork : ForkAnswer

/-! ## 3. Clock, timers and counters -/

namespace Loop

variable {γ : Type}

def modifyConnection (f : ListenerConnection → ListenerConnection) : StateM (Focus γ) PUnit :=
  modify fun x => { x with connection := f x.connection }

def modifyContext (f : ListenerContext γ → ListenerContext γ) : StateM (Focus γ) PUnit :=
  modify fun x => { x with context := f x.context }

/-- `clock_gettime`: it fails, or the clock has gone on. -/
def ListenerContext.tick (context : ListenerContext γ) (advance : Nat) : ListenerContext γ :=
  { context with clock := context.clock.later advance }

@[inherit_doc ListenerContext.tick]
def clockGettime : Option Nat → StateM (Focus γ) (Option Timespec)
  | none => pure none
  | some advance => do
    modifyContext (ListenerContext.tick · advance)
    let x ← get
    pure (some x.context.clock)

variable (now : Timespec) (a : ConnectionAnswers)

/-- The supervisor is called at `now`. -/
def superviseAt : StateM (Focus γ) PUnit :=
  modifyContext fun context => { context with supervision := context.supervision.call now }

/-- What `listener_connection_timer_set` stores when `timerfd_settime` succeeds. -/
def timerStored (connection : ListenerConnection) (timer : ListenerConnectionTimer)
    (expiration : Timespec) : ListenerConnection :=
  let capped := timeutilCompare connection.lifetimeDeadline expiration = .lt
  { connection with
    timer := if capped then .shortLifetime else timer
    timerDeadline := if capped then connection.lifetimeDeadline else expiration
    timerGeneration := generationNext connection.timerGeneration }

/-- `listener_connection_timer_set`. -/
def listenerConnectionTimerSet (timer : ListenerConnectionTimer) (expiration : Timespec)
    (timerSet : Bool) : StateM (Focus γ) Bool :=
  if timerSet then do
    modifyConnection (timerStored · timer expiration)
    pure true
  else pure false

/-- `listener_connection_timer_arm` for the grace period. -/
def timerArmGrace (clock : Option Nat) (timerSet : Bool) : StateM (Focus γ) Bool := do
  match ← clockGettime clock with
  | none => pure false
  | some now =>
    match timeutilAddMilliseconds now listenerLegacyPingGraceMs with
    | none => pure false
    | some grace =>
      let x ← get
      if timeutilCompare grace x.connection.assemblyDeadline = .lt then
        listenerConnectionTimerSet .grace grace timerSet
      else listenerConnectionTimerSet .assembly x.connection.assemblyDeadline timerSet

/-- `listener_connection_timer_arm` for the whole packet. -/
def timerArmAssembly (timerSet : Bool) : StateM (Focus γ) Bool := do
  let x ← get
  listenerConnectionTimerSet .assembly x.connection.assemblyDeadline timerSet

/-- `listener_connection_timer_arm_short`. -/
def listenerConnectionTimerArmShort (timer : ListenerConnectionTimer) (now : Timespec)
    (seconds : Nat) (timerSet : Bool) : StateM (Focus γ) Bool :=
  match timeutilAddSeconds now seconds with
  | some expiration => listenerConnectionTimerSet timer expiration timerSet
  | none => pure false

/-- An update of the counters and the connection's request that may have answered `false`. -/
def requestUpdate (update : ListenerMetricsState → ListenerMetricsRouteRequest → RouteUpdate) :
    StateM (Focus γ) PUnit :=
  modify fun x =>
    match update x.context.metrics x.connection.routeMetrics with
    | some (metrics, request) =>
      { context := { x.context with metrics }
        connection := { x.connection with routeMetrics := request } }
    | none => x

def routeStart (mode : ListenerMetricsRequestMode) (now : Timespec) : StateM (Focus γ) PUnit :=
  requestUpdate fun metrics request => listenerMetricsRouteStart metrics request mode now

def routePending : StateM (Focus γ) PUnit := requestUpdate listenerMetricsRoutePending

def routeResolutionRecord (resolution : ListenerMetricsResolution) : StateM (Focus γ) PUnit :=
  requestUpdate fun metrics request =>
    listenerMetricsRouteResolutionRecord metrics request resolution

def routeDurationEnable : StateM (Focus γ) PUnit :=
  requestUpdate fun metrics request =>
    (listenerMetricsRouteDurationEnable request).map fun request => (metrics, request)

def routeReleaseFailureRecord : StateM (Focus γ) PUnit :=
  requestUpdate fun metrics request =>
    (listenerMetricsRouteReleaseFailureRecord metrics request).map fun metrics => (metrics, request)

/-- `listener_metrics_route_settle`, and the record that it counted. -/
def routeSettle (outcome : ListenerMetricsOutcome) (family : Option ListenerMetricsSelectedFamily)
    (now : Option Timespec) : StateM (Focus γ) PUnit :=
  modify fun x =>
    match listenerMetricsRouteSettle x.context.metrics x.connection.routeMetrics outcome family
        now with
    | some (metrics, request) =>
      { context := { x.context with
          metrics, settlements := x.connection.id :: x.context.settlements }
        connection := { x.connection with routeMetrics := request } }
    | none => x

/-- A counter outside the route requests. -/
def countEvent (counter : ListenerCounter) : StateM (Focus γ) PUnit :=
  modifyContext fun context => { context with metrics := context.metrics.increment counter }

/-! ## 4. The waiter -/

/-- What `route_waiter_create` does once its arguments are checked and its deadline is known.  The
    name of the virtual host fits: it is an array of the same size. -/
def routeWaiterAttach (generation : Nat) (deadline : Timespec) (allocated : Bool) :
    StateM (Focus γ) RouteWaiterCreateStatus := do
  if allocated then
    let x ← get
    match routeGenerationRetain x.context.generations (some generation) with
    | (true, generations) =>
      set { context := { x.context with generations }
            connection := { x.connection with waiter := some ⟨generation, deadline⟩ } : Focus γ }
      pure .ok
    | (false, _) => pure .limit
  else pure .memory

/-- `route_waiter_create`. -/
def routeWaiterCreate : StateM (Focus γ) RouteWaiterCreateStatus := do
  let x ← get
  match x.connection.generation with
  | none => pure .badArgument
  | some generation =>
    if ¬ timeutilValid now ∨ x.connection.waiter ≠ none ∨ ¬ a.waiterArguments then
      pure .badArgument
    else
      match timeutilAddSeconds now listenerRouteWaitTimeoutSec with
      | none => pure .time
      | some deadline => routeWaiterAttach generation deadline a.waiterAllocated

/-- The waiter's reference is given back. -/
def waiterReleased (x : Focus γ) : Focus γ :=
  match x.connection.waiter with
  | none => x
  | some waiter =>
    { context := { x.context with
        generations := (routeGenerationRelease x.context.generations (some waiter.generation)).2 }
      connection := { x.connection with waiter := none } }

/-- The connection's own reference is given back. -/
def generationReleased (x : Focus γ) : Focus γ :=
  { context := { x.context with
      generations := (routeGenerationRelease x.context.generations x.connection.generation).2 }
    connection := { x.connection with generation := none } }

/-- `route_waiter_destroy`; without a waiter there is nothing to do. -/
def routeWaiterDestroy (now : Option Timespec) (status : RouteWaiterDestroyStatus) :
    StateM (Focus γ) RouteWaiterDestroyStatus := do
  let x ← get
  match x.connection.waiter with
  | none => pure .ok
  | some _ =>
    now.elim (pure ⟨⟩) superviseAt
    modify waiterReleased
    pure status

/-- A waiter whose release failed is counted. -/
def waiterDestroyRecord (status : RouteWaiterDestroyStatus) : StateM (Focus γ) PUnit :=
  if status = .ok then pure ⟨⟩ else routeReleaseFailureRecord

/-- `listener_connection_route_release`. -/
def listenerConnectionRouteRelease : StateM (Focus γ) Bool := do
  let x ← get
  if x.connection.generation = none then pure false
  else
    let status ← routeWaiterDestroy (some now) a.waiterDestroy
    waiterDestroyRecord status
    modify generationReleased
    pure (status = .ok)

/-! ## 5. Routes -/

/-- `listener_connection_route_metrics_mode`. -/
def listenerConnectionRouteMetricsMode :
    ListenerConnectionRoute → Option ListenerMetricsRequestMode
  | .shortLocal | .shortWait => some .short
  | .workerBypass | .workerWait => some .worker
  | .invalid => none

/-- `listener_connection_route_metrics_outcome`. -/
def listenerConnectionRouteMetricsOutcome : RouteWaiterStatus → ListenerMetricsOutcome
  | .ready => .ready
  | .contradictory => .contradictory
  | .limit => .limit
  | .memory => .memory
  | .noRoute => .noRoute
  | .serviceUnavailable => .serviceUnavailable
  | .timeout => .timeout
  | .unavailable => .unavailable
  | .pending | .badArgument | .io | .time => .internalError

/-- `listener_connection_route_cancelled`. -/
def listenerConnectionRouteCancelled (connection : ListenerConnection) (kind : ListenerEventKind)
    (flags : EpollEvents) : Bool :=
  connection.state = .routeWaiting && kind = .client &&
    (flags.epollerr || flags.epollhup || flags.epollrdhup)

/-- The settlement of a waiter that is done. -/
def routeProgressSettle : StateM (Focus γ) ListenerConnectionProgress := do
  match a.waiterProgress with
  | .ready =>
    if a.snapshotTake then
      routeSettle .ready a.selectedFamily (some now)
      pure .ready
    else
      routeSettle .internalError none (some now)
      pure .fatal
  | .badArgument | .io | .time =>
    routeSettle .internalError none (some now)
    pure .fatal
  | status =>
    routeSettle (listenerConnectionRouteMetricsOutcome status) none (some now)
    pure .ready

/-- `listener_connection_route_progress`. -/
def listenerConnectionRouteProgress : StateM (Focus γ) ListenerConnectionProgress := do
  superviseAt now
  modifyConnection fun c => { c with waiterStatus := a.waiterProgress }
  if a.waiterProgress = .pending then
    routePending
    pure .pending
  else
    let x ← get
    routeResolutionRecord (if x.connection.routeMetrics.pending then .waited else .immediate)
    routeProgressSettle now a

/-- The timer of a connection that waits for its route: the waiter's deadline. -/
def routeTimerArm : StateM (Focus γ) Bool := do
  let x ← get
  match x.connection.waiter with
  | none => pure false
  | some waiter => listenerConnectionTimerSet .route waiter.deadline a.routeTimerSet

/-- The end of `listener_connection_route_start`, with a waiter that is not done. -/
def routeStartWait : StateM (Focus γ) ListenerConnectionProgress := do
  let armed ← routeTimerArm a
  if armed ∧ a.routeInterests then pure .pending
  else
    routeResolutionRecord .waited
    routeSettle .internalError none (some now)
    pure .fatal

/-- The waiter of `listener_connection_route_start`. -/
def routeStartWaiter : StateM (Focus γ) ListenerConnectionProgress := do
  match ← routeWaiterCreate now a with
  | .badArgument | .time =>
    routeSettle .internalError none (some now)
    pure .fatal
  | .limit =>
    modifyConnection fun c => { c with waiterStatus := .limit }
    routeSettle .limit none (some now)
    pure .ready
  | .memory =>
    modifyConnection fun c => { c with waiterStatus := .memory }
    routeSettle .memory none (some now)
    pure .ready
  | .ok =>
    routeDurationEnable
    let progress ← listenerConnectionRouteProgress now a
    if progress = .pending then routeStartWait now a else pure progress

/-- `listener_connection_route_start`. -/
def listenerConnectionRouteStart : StateM (Focus γ) ListenerConnectionProgress := do
  modifyConnection fun c => { c with dispatch := a.route }
  match listenerConnectionRouteMetricsMode a.route with
  | none => pure .abort
  | some mode =>
    routeStart mode now
    if a.route = .shortLocal ∨ a.route = .workerBypass then
      routeResolutionRecord (if a.route = .shortLocal then .localResponse else .bypass)
      routeSettle .ready none (some now)
      pure .ready
    else if a.proxyRead then
      modifyConnection fun c => { c with state := .routeWaiting }
      routeStartWaiter now a
    else
      routeSettle .internalError none (some now)
      pure .abort

/-! ## 6. Short connections -/

/-- The idle timer of `listener_connection_short_drive`, which activity starts again. -/
def idleTimerRearm (rearm : Bool) (now : Timespec) (a : ConnectionAnswers) :
    StateM (Focus γ) Bool :=
  if rearm then
    listenerConnectionTimerArmShort .shortIdle now listenerShortRelayIdleTimeoutSec a.idleTimerSet
  else pure true

/-- The end of `listener_connection_short_drive`: the idle timer, and the registrations. -/
def shortDriveRearm (rearm : Bool) (now : Timespec) (a : ConnectionAnswers) :
    StateM (Focus γ) ListenerConnectionProgress := do
  if ← idleTimerRearm rearm now a then pure (if a.shortInterests then .pending else .fatal)
  else pure .abort

/-- `listener_connection_short_drive`. -/
def listenerConnectionShortDrive (activity : Bool) (a : ConnectionAnswers) :
    StateM (Focus γ) ListenerConnectionProgress := do
  let x ← get
  if timeutilCompare now x.connection.lifetimeDeadline ≠ .lt then pure .closed
  else
    match x.connection.state with
    | .shortResponding | .shortRelaying =>
      match a.transfer with
      | .ended => pure .closed
      | .going moved => shortDriveRearm (activity || moved) now a
    | .workerRefusing =>
      match a.transfer with
      | .ended => pure .closed
      | .going _ => shortDriveRearm false now a
    | .initial | .routeWaiting | .shortConnecting => shortDriveRearm false now a

/-- `listener_connection_refusal_start`. -/
def listenerConnectionRefusalStart : StateM (Focus γ) ListenerConnectionProgress := do
  match a.refusal with
  | .unidentified => pure .closed
  | .unwritten => pure .abort
  | .written =>
    if ← listenerConnectionRouteRelease now a then
      modifyConnection fun c => { c with state := .workerRefusing }
      if ← listenerConnectionTimerArmShort .workerRefusal now listenerWorkerRefusalTimeoutSec
          a.shortTimerSet then
        listenerConnectionShortDrive now false a
      else pure .abort
    else pure .fatal

/-- `listener_connection_upstream_close`. -/
def upstreamClosed (connection : ListenerConnection) : ListenerConnection :=
  if connection.upstreamOpen then
    { connection with
      upstreamOpen := false
      upstreamGeneration := generationNext connection.upstreamGeneration }
  else connection

/-- A response of our own is begun. -/
def shortRespond : StateM (Focus γ) ListenerConnectionProgress := do
  modifyConnection fun c => { c with state := .shortResponding }
  if ← listenerConnectionTimerArmShort .shortIdle now listenerShortRelayIdleTimeoutSec
      a.shortTimerSet then
    listenerConnectionShortDrive now false a
  else pure .abort

/-- `listener_connection_short_failure`. -/
def listenerConnectionShortFailure : StateM (Focus γ) ListenerConnectionProgress := do
  let x ← get
  if timeutilCompare now x.connection.lifetimeDeadline ≠ .lt then pure .closed
  else
    modifyConnection upstreamClosed
    shortRespond now a

/-- `listener_connection_short_connect_complete`. -/
def listenerConnectionShortConnectComplete : StateM (Focus γ) ListenerConnectionProgress := do
  if a.connectComplete ≠ .ok then listenerConnectionShortFailure now a
  else
    let x ← get
    if timeutilCompare now x.connection.lifetimeDeadline ≠ .lt then pure .closed
    else
      modifyConnection fun c => { c with state := .shortRelaying }
      if ← listenerConnectionTimerArmShort .shortIdle now listenerShortRelayIdleTimeoutSec
          a.shortTimerSet then
        pure .pending
      else pure .abort

/-- The receive of `listener_connection_short_event` and the drive after it. -/
def shortEventReceive (reads : Bool) (now : Timespec) (a : ConnectionAnswers) :
    StateM (Focus γ) ListenerConnectionProgress :=
  if reads then
    match a.receive with
    | .ended => pure .closed
    | .going moved => listenerConnectionShortDrive now moved a
  else listenerConnectionShortDrive now false a

/-- The upstream's side of `listener_connection_short_event`. -/
def shortEventUpstream (flags : EpollEvents) (now : Timespec) (a : ConnectionAnswers) :
    StateM (Focus γ) ListenerConnectionProgress := do
  let x ← get
  if x.connection.state = .shortRelaying then
    if flags.epollerr then pure .closed
    else shortEventReceive (flags.epollin || flags.epollhup || flags.epollrdhup) now a
  else shortEventReceive false now a

/-- `listener_connection_short_event`. -/
def listenerConnectionShortEvent (kind : ListenerEventKind) (flags : EpollEvents)
    (sourceGeneration : Nat) (now : Timespec) (a : ConnectionAnswers) :
    StateM (Focus γ) ListenerConnectionProgress := do
  let x ← get
  match kind with
  | .client =>
    if flags.epollerr then pure .closed
    else
      shortEventReceive (x.connection.state ≠ .shortResponding ∧
        x.connection.state ≠ .workerRefusing ∧
        (flags.epollin || flags.epollhup || flags.epollrdhup)) now a
  | .upstream =>
    if sourceGeneration ≠ x.connection.upstreamGeneration then pure .pending
    else if x.connection.state = .shortConnecting then
      let progress ← listenerConnectionShortConnectComplete now a
      if progress = .pending then shortEventUpstream flags now a else pure progress
    else shortEventUpstream flags now a
  | _ => pure .fatal

/-- `listener_connection_snapshot_prepare`: whether there is a snapshot. -/
def listenerConnectionSnapshotPrepare (connection : ListenerConnection) (a : ConnectionAnswers) :
    Bool :=
  connection.generation.isSome && a.snapshotTexts &&
    (connection.state = .initial ||
      match connection.waiterStatus with
      | .pending | .badArgument | .io | .time => false
      | _ => true)

/-- The timer of `listener_connection_short_start` once the upstream is connected or will be. -/
def connectTimerArm : StateM (Focus γ) Bool :=
  if a.connect = .pending then
    listenerConnectionTimerArmShort .shortConnect now listenerShortConnectTimeoutSec a.shortTimerSet
  else
    listenerConnectionTimerArmShort .shortIdle now listenerShortRelayIdleTimeoutSec a.shortTimerSet

/-- The connect of `listener_connection_short_start`. -/
def shortStartConnect : StateM (Focus γ) ListenerConnectionProgress := do
  if a.connect ≠ .ok ∧ a.connect ≠ .pending then listenerConnectionShortFailure now a
  else
    modifyConnection fun c => { c with
      upstreamOpen := true
      upstreamGeneration := generationNext c.upstreamGeneration
      state := if a.connect = .pending then .shortConnecting else .shortRelaying }
    if ← connectTimerArm now a then listenerConnectionShortDrive now false a else pure .abort

/-- `listener_connection_short_start`. -/
def listenerConnectionShortStart : StateM (Focus γ) ListenerConnectionProgress := do
  let x ← get
  if listenerConnectionSnapshotPrepare x.connection a then
    if ← listenerConnectionRouteRelease now a then
      if a.shortAction = .abort ∨ ¬ a.shortBuffer then pure .abort
      else if a.shortAction = .respond then shortRespond now a
      else shortStartConnect now a
    else pure .fatal
  else pure .abort

/-! ## 7. Workers -/

/-- The listener's side of the `fork` of `listener_connection_dispatch`. -/
def workerForked (fork : ForkAnswer) (x : Focus γ) : Focus γ :=
  match fork.pid x.context.children with
  | some pid =>
    { context := { x.context with
        workers := x.context.workers ++ [pid]
        children := pid :: x.context.children
        metrics := listenerMetricsWorkerAdd x.context.metrics }
      connection := { x.connection with closing := true } }
  | none =>
    { context := { x.context with metrics := x.context.metrics.increment .workerForkFailure }
      connection := { x.connection with closing := true } }

/-- `listener_connection_dispatch`. -/
def listenerConnectionDispatch : StateM (Focus γ) ListenerConnectionProgress := do
  let x ← get
  if x.context.workers.length ≥ listenerWorkerLimit then
    countEvent .workerCapacityRefusal
    listenerConnectionRefusalStart now a
  else if listenerConnectionSnapshotPrepare x.connection a then
    if ← listenerConnectionRouteRelease now a then
      modify (workerForked a.fork)
      pure .pending
    else pure .fatal
  else
    modifyConnection fun c => { c with closing := true }
    pure .pending

/-- `listener_connection_ready`. -/
def listenerConnectionReady : StateM (Focus γ) ListenerConnectionProgress := do
  let x ← get
  match x.connection.dispatch with
  | .shortLocal | .shortWait => listenerConnectionShortStart now a
  | .workerBypass | .workerWait => listenerConnectionDispatch now a
  | .invalid => pure .abort

/-! ## 8. Events -/

/-- `listener_connection_receive`. -/
def listenerConnectionReceive (flags : EpollEvents) :
    List ReceiveAnswer → StateM (Focus γ) ListenerConnectionProgress
  | [] => pure .abort
  | .complete identified :: _ | .ended identified :: _ =>
    pure (if identified then .ready else .abort)
  | .invalid :: _ | .failed :: _ => pure .abort
  | .incomplete timerSet :: rest => do
    if ← timerArmAssembly timerSet then listenerConnectionReceive flags rest else pure .abort
  | .ambiguous clock timerSet :: rest => do
    if ← timerArmGrace clock timerSet then listenerConnectionReceive flags rest else pure .abort
  | .wouldBlock :: _ =>
    pure (if flags.epollerr || flags.epollhup || flags.epollrdhup then .abort else .pending)

/-- `listener_connection_timeout` from the time it goes by on. -/
def timeoutExpired : StateM (Focus γ) ListenerConnectionProgress := do
  let x ← get
  if timeutilCompare now x.connection.timerDeadline = .lt then pure .pending
  else
    match x.connection.timer with
    | .route => listenerConnectionRouteProgress now a
    | .shortConnect => listenerConnectionShortFailure now a
    | .shortIdle | .shortLifetime | .workerRefusal => pure .closed
    | .grace => pure (if a.identified then .ready else .abort)
    | .assembly => pure .abort

/-- The mark of a route timer that is due at `currentNow`, a clock read after `now`. -/
def lateMarked (currentNow : Timespec) (x : Focus γ) : Focus γ :=
  if x.connection.timer = .route ∧
      timeutilCompare currentNow x.connection.timerDeadline ≠ .lt ∧ currentNow ≠ now then
    { x with context := { x.context with
        supervision := { x.context.supervision with late := true } } }
  else x

/-- `listener_connection_timeout`; an interrupted `read` is repeated. -/
def listenerConnectionTimeout (flags : EpollEvents) (timerGeneration : Nat) (now : Timespec)
    (a : ConnectionAnswers) : StateM (Focus γ) ListenerConnectionProgress := do
  if ¬ flags.epollin ∨ flags.epollerr ∨ flags.epollhup then pure .abort
  else
    match a.timerRead with
    | .failed .eagain => pure .pending
    | .expired =>
      let x ← get
      if timerGeneration ≠ x.connection.timerGeneration then
        match ← clockGettime a.timeoutClock with
        | none => pure .fatal
        | some currentNow =>
          modify (lateMarked now currentNow)
          timeoutExpired currentNow a
      else timeoutExpired now a
    | _ => pure .abort

/-- `listener_ready_event`: what `epoll_wait` reported for a connection. -/
structure ReadyEvent where
  connection : Nat
  kind : ListenerEventKind
  flags : EpollEvents
  sourceGeneration : Nat
  timerGeneration : Nat
deriving Repr, DecidableEq

/-- The first progress of an event. -/
def eventProgress (event : ReadyEvent) (now : Timespec) (a : ConnectionAnswers) :
    StateM (Focus γ) ListenerConnectionProgress := do
  let x ← get
  if event.kind = .timeout then
    listenerConnectionTimeout event.flags event.timerGeneration now a
  else
    match x.connection.state with
    | .initial =>
      if event.kind = .client then listenerConnectionReceive event.flags a.receives
      else pure .pending
    | .routeWaiting =>
      pure (if listenerConnectionRouteCancelled x.connection event.kind event.flags then .closed
        else .pending)
    | _ =>
      listenerConnectionShortEvent event.kind event.flags event.sourceGeneration now a

/-- What becomes of a progress: a packet that is complete asks for its route. -/
def eventRoute (progress : ListenerConnectionProgress) :
    StateM (Focus γ) ListenerConnectionProgress := do
  let x ← get
  if progress = .ready ∧ x.connection.state = .initial then listenerConnectionRouteStart now a
  else pure progress

/-- A client that has gone away cancels its wait. -/
def eventCancel (event : ReadyEvent) (progress : ListenerConnectionProgress) :
    StateM (Focus γ) ListenerConnectionProgress := do
  let x ← get
  pure (if progress = .pending ∧
    listenerConnectionRouteCancelled x.connection event.kind event.flags then .closed else progress)

/-- What is ready is served. -/
def eventServe (progress : ListenerConnectionProgress) :
    StateM (Focus γ) ListenerConnectionProgress :=
  if progress = .ready then listenerConnectionReady now a else pure progress

/-- The last step: whether the loop goes on. -/
def eventClose : ListenerConnectionProgress → StateM (Focus γ) Bool
  | .fatal => pure false
  | .abort | .closed => do
    modifyConnection fun c => { c with closing := true }
    pure true
  | .pending | .ready => pure true

/-- What the loop does with one ready event of a connection that is not closing. -/
def listenerConnectionEvent (event : ReadyEvent) (now : Timespec) (a : ConnectionAnswers) :
    StateM (Focus γ) Bool := do
  let progress ← eventProgress event now a
  let progress ← eventRoute now a progress
  let progress ← eventCancel event progress
  let progress ← eventServe now a progress
  eventClose progress

/-- The body of `listener_connections_route_progress`, for a connection that waits. -/
def listenerConnectionResume : StateM (Focus γ) Bool := do
  let progress ← listenerConnectionRouteProgress now a
  let progress ← eventServe now a progress
  eventClose progress

/-! ## 9. Creation and destruction -/

/-- A request that is still pending when its connection goes has waited. -/
def destroyResolution : StateM (Focus γ) PUnit := do
  let x ← get
  if x.connection.routeMetrics.pending then routeResolutionRecord .waited else pure ⟨⟩

/-- `route_waiter_destroy`, or `route_waiter_dispose` without a supervisor. -/
def destroyWaiter (supervised : Bool) (now : Option Timespec) (status : RouteWaiterDestroyStatus) :
    StateM (Focus γ) RouteWaiterDestroyStatus :=
  if supervised then routeWaiterDestroy now status
  else do
    modify waiterReleased
    pure .ok

/-- `listener_connection_destroy` up to the freeing of the memory. -/
def listenerConnectionDestroy (outcome : ListenerMetricsOutcome) (supervised : Bool)
    (now : Option Timespec) (status : RouteWaiterDestroyStatus) : StateM (Focus γ) Bool := do
  destroyResolution
  routeSettle outcome none now
  let status ← destroyWaiter supervised now status
  waiterDestroyRecord status
  modify generationReleased
  pure (status = .ok)

/-- The answers to `listener_connection_create`. -/
structure CreateAnswers where
  allocated : Bool
  clock : Option Nat
  timerCreate : Bool
  timerSet : Bool
  socketAdd : Bool
  timerAdd : Bool

/-- `listener_connection_create`: the connection at the address `id`, and its context.  The
    reference of `generation` is given back when there is none. -/
def listenerConnectionCreate (id : Nat) (generation : Nat) (context : ListenerContext γ)
    (a : CreateAnswers) : Option ListenerConnection × ListenerContext γ :=
  let failed (context : ListenerContext γ) : Option ListenerConnection × ListenerContext γ :=
    (none, { context with
      generations := (routeGenerationRelease context.generations (some generation)).2 })
  if a.allocated = false then failed context
  else
    match a.clock with
    | none => failed context
    | some advance =>
      let context := ListenerContext.tick context advance
      match timeutilAddSeconds context.clock listenerInitialTimeoutSec,
          timeutilAddSeconds context.clock listenerShortLifetimeTimeoutSec with
      | some assemblyDeadline, some lifetimeDeadline =>
        if a.timerCreate && a.timerSet && a.socketAdd && a.timerAdd then
          let connection : ListenerConnection :=
            { id, assemblyDeadline, lifetimeDeadline, generation := some generation,
              timerDeadline := assemblyDeadline }
          (some (timerStored connection .assembly assemblyDeadline), context)
        else failed context
      | _, _ => failed context

end Loop

end MinecraftRelay
