/-
  File:      Listener/Loop.lean
  Subject:   THE LISTENER'S LOOP (src/listener.c: listener_loop).

  One turn waits for events, marks the connections whose client has gone, lets the resolver and the
  workers report, goes on with the connections that wait for a route, takes up a reload, schedules
  the warm-up, serves the connections that are ready (timeouts last), destroys the closed ones,
  collects the retired generation and accepts new clients.  A failure leaves the loop; what is left
  of the connections is then destroyed.

  * `focusStep`, `destroyStep` -- a step of one connection, within all of them;
  * `listenerLoopTurn`, `listenerCleanup`, `listenerLoopStart`.

  What the system answers to a turn is one record.  Connections are told apart by their address,
  which is a number here; `destroyed` records the connections there were.
-/
import MinecraftRelay.Listener.Reload

namespace MinecraftRelay

open Scripted

/-! ## 1. The variables of the loop -/

/-- The variables of `listener_loop`. -/
structure ListenerLoop (η : Type) extends ListenerServer η where
  connections : List ListenerConnection
  /-- The connections that have been destroyed, the last one first. -/
  destroyed : List ListenerConnection
  /-- The address of the next connection. -/
  nextConnection : Nat
  connectionCount : Nat
  connectionLimit : Nat
  hostsReloadPending : Bool
  reloadPending : Bool
  shuttingDown : Bool
  /-- `route_runtime`. -/
  ready : Bool
  deadline : Timespec
  /-- What the route timer is armed for. -/
  routeTimer : Option Timespec
  routeNow : Timespec

namespace Loop

variable {η : Type}

/-- The loop with another context. -/
def withContext (s : ListenerLoop η) (context : ListenerContext (RouteContents η)) :
    ListenerLoop η :=
  { s with toListenerServer := { s.toListenerServer with toListenerContext := context } }

/-- A step of the connection at place `i`. -/
def focusStep (i : Nat) (m : StateM (Focus (RouteContents η)) Bool) (s : ListenerLoop η) :
    Bool × ListenerLoop η :=
  match s.connections[i]? with
  | none => (true, s)
  | some connection =>
    let r := Stateful.exec m ⟨s.toListenerContext, connection⟩
    (r.1, { withContext s r.2.context with connections := s.connections.set i r.2.connection })

/-- `listener_connection_destroy` of the connection at place `i`. -/
def destroyStep (outcome : ListenerMetricsOutcome) (supervised : Bool) (now : Option Timespec)
    (status : Nat → RouteWaiterDestroyStatus) (i : Nat) (s : ListenerLoop η) :
    Bool × ListenerLoop η :=
  match s.connections[i]? with
  | none => (true, s)
  | some connection =>
    let r := Stateful.exec
      (listenerConnectionDestroy outcome supervised now (status connection.id))
      ⟨s.toListenerContext, connection⟩
    (r.1,
      { withContext s { r.2.context with
          metrics := listenerMetricsConnectionRemove r.2.context.metrics } with
        connections := s.connections.eraseIdx i
        destroyed := r.2.connection :: s.destroyed })

/-- The place of a connection; past the end if there is none. -/
def connectionPlace (s : ListenerLoop η) (id : Nat) : Nat :=
  s.connections.findIdx fun connection => connection.id = id

/-! ## 2. Events -/

/-- What `epoll_wait` reports for a connection. -/
structure PolledEvent where
  connection : Nat
  kind : ListenerEventKind
  flags : EpollEvents

/-- The requests of one turn. -/
structure ListenerRequests where
  acceptReady : Bool
  childReady : Bool
  /-- Whether the watch reports a change, if it reports at all. -/
  hostsChanged : Bool
  polled : List PolledEvent
  reload : Bool
  resolverReady : Bool
  routeTimerReady : Bool
  stop : Bool

/-- The event with the generations its connection has when it is reported. -/
def readyEvent (s : ListenerLoop η) (event : PolledEvent) : Option ReadyEvent :=
  (s.connections[connectionPlace s event.connection]?).map fun connection =>
    { connection := event.connection, kind := event.kind, flags := event.flags
      sourceGeneration := if event.kind = .upstream then connection.upstreamGeneration else 0
      timerGeneration := if event.kind = .timeout then connection.timerGeneration else 0 }

/-- The mark of a client that has gone while its connection waits for a route. -/
def eventMark (event : ReadyEvent) : StateM (Focus (RouteContents η)) Bool := do
  let x ← get
  if listenerConnectionRouteCancelled x.connection event.kind event.flags then
    modifyConnection fun c => { c with closing := true }
    pure true
  else pure true

/-- An event of a connection that is not closing. -/
def eventServeOpen (event : ReadyEvent) (now : Timespec) (a : ConnectionAnswers) :
    StateM (Focus (RouteContents η)) Bool := do
  let x ← get
  if x.connection.closing then pure true else listenerConnectionEvent event now a

/-- The body of `listener_connections_route_progress`. -/
def routeResume (now : Timespec) (a : ConnectionAnswers) :
    StateM (Focus (RouteContents η)) Bool := do
  let x ← get
  if x.connection.closing = false ∧ x.connection.state = .routeWaiting then
    listenerConnectionResume now a
  else pure true

/-! ## 3. Workers -/

/-- `waitpid` for a child that has not been waited for. -/
inductive WaitAnswer where
  | running
  | exited
  | failed
deriving Repr, DecidableEq

/-- The last element takes the place `i`. -/
def swapRemove (l : List Nat) (i : Nat) : List Nat := (l.set i (l.getLastD 0)).dropLast

/-- A worker goes. -/
def workerGone {γ : Type} (context : ListenerContext γ) (index pid : Nat) : ListenerContext γ :=
  { context with
    workers := swapRemove context.workers index
    children := context.children.filter (· ≠ pid)
    metrics := listenerMetricsWorkerRemove context.metrics }

/-- `listener_workers_reap` from `index` on; a process that is no child is `ECHILD`. -/
def workersReap {γ : Type} (answer : Nat → WaitAnswer) :
    Nat → Nat → ListenerContext γ → Bool × ListenerContext γ
  | 0, _, context => (true, context)
  | fuel + 1, index, context =>
    match context.workers[index]? with
    | none => (true, context)
    | some pid =>
      if pid ∉ context.children then workersReap answer fuel index (workerGone context index pid)
      else
        match answer pid with
        | .exited => workersReap answer fuel index (workerGone context index pid)
        | .failed => (false, context)
        | .running => workersReap answer fuel (index + 1) context

/-- `listener_workers_reap`.  Each round removes a worker or goes on to the next. -/
def listenerWorkersReap (answer : Nat → WaitAnswer) (s : ListenerLoop η) :
    Bool × ListenerLoop η :=
  let r := workersReap answer s.workers.length 0 s.toListenerContext
  (r.1, withContext s r.2)

/-! ## 4. Destruction -/

/-- All connections are destroyed, the first one first. -/
def destroyAll (outcome : ListenerMetricsOutcome) (supervised : Bool) (now : Option Timespec)
    (status : Nat → RouteWaiterDestroyStatus) :
    Nat → ListenerLoop η → Bool × ListenerLoop η
  | 0, s => (true, s)
  | n + 1, s =>
    let r := destroyStep outcome supervised now status 0 s
    let rest := destroyAll outcome supervised now status n r.2
    (r.1 && rest.1, rest.2)

/-- `listener_connections_destroy_closed` from place `i` on: the result, how many, and the loop. -/
def destroyClosed (now : Timespec) (status : Nat → RouteWaiterDestroyStatus) :
    Nat → Nat → ListenerLoop η → Bool × Nat × ListenerLoop η
  | 0, _, s => (true, 0, s)
  | fuel + 1, i, s =>
    match s.connections[i]? with
    | none => (true, 0, s)
    | some connection =>
      if connection.closing then
        let r := destroyStep .abandoned true (some now) status i s
        let rest := destroyClosed now status fuel i r.2
        (r.1 && rest.1, rest.2.1 + 1, rest.2.2)
      else destroyClosed now status fuel (i + 1) s

/-! ## 5. Generations and the route timer -/

/-- `clock_gettime`, which the loop cannot go on without. -/
def loopClock (advance : Option Nat) : Prog (ListenerLoop η) Timespec :=
  match advance with
  | none => cut
  | some advance => do
    modify fun s => { s with clock := s.clock.later advance }
    let s ← get
    pure s.clock

/-- `route_now` is read anew. -/
def routeClock (advance : Option Nat) : Prog (ListenerLoop η) PUnit := do
  let now ← loopClock advance
  modify fun s => { s with routeNow := now }

/-- The supervisor is called at `route_now`. -/
def superviseNow : Prog (ListenerLoop η) PUnit :=
  modify fun s => { s with supervision := s.supervision.call s.routeNow }

/-- `listener_generation_collect`. -/
def listenerGenerationCollect (release : RouteResolutionReleaseStatus) :
    Prog (ListenerLoop η) PUnit := do
  superviseNow
  let s ← get
  match registryCollect s.generations s.routeNow release with
  | (status, generations) =>
    set { s with generations }
    require (status = .none || status = .retained || status = .collected)

/-- What `timerfd_settime` makes of a time: zero disarms the timer. -/
def timerArmed (time : Timespec) : Option Timespec := if time = ⟨0, 0⟩ then none else some time

/-- `listener_route_timer_set`. -/
def listenerRouteTimerSet (time : Option Timespec) (timerSet : Bool) :
    Prog (ListenerLoop η) PUnit := do
  require timerSet
  modify fun s => { s with routeTimer := time.bind timerArmed }

/-- `route_prewarm_status`. -/
inductive RoutePrewarmStatus where
  | complete
  | more
  | capacity
  | badArgument
  | io
  | memory
  | time
deriving Repr, DecidableEq

/-- The answers to `listener_route_runtime_schedule`. -/
structure ScheduleAnswers where
  status : RoutePrewarmStatus
  warmupComplete : Bool
  socketAdd : Bool
  timerSet : Bool

/-- `listener_route_runtime_ready`: the listening socket is registered. -/
def listenerRouteRuntimeReady (socketAdd : Bool) : Prog (ListenerLoop η) PUnit := do
  require socketAdd
  modify fun s => { s with
    ready := true
    listening := { s.listening with
      sockets := s.listening.fd.elim s.listening.sockets fun fd =>
        socketRegister s.listening.sockets fd true } }

/-- The timer after a schedule: for more work at once, for the deadline of the warm-up, or off. -/
def scheduleTimer (s : ListenerLoop η) (status : RoutePrewarmStatus) : Option Timespec :=
  if status = .more then some s.routeNow else if s.ready then none else some s.deadline

/-- `listener_route_runtime_schedule` at `route_now`. -/
def listenerRouteRuntimeSchedule (a : ScheduleAnswers) : Prog (ListenerLoop η) PUnit := do
  superviseNow
  require (a.status ≠ .badArgument ∧ a.status ≠ .io ∧ a.status ≠ .time)
  let s ← get
  onlyIf (s.ready = false ∧ (a.warmupComplete ∨ timeutilCompare s.routeNow s.deadline ≠ .lt))
    (listenerRouteRuntimeReady a.socketAdd)
  let s ← get
  listenerRouteTimerSet (scheduleTimer s a.status) a.timerSet

/-! ## 6. Accepting -/

/-- `LISTENER_ACCEPT_BATCH`. -/
def listenerAcceptBatch : Nat := 128

/-- One attempt of the accept loop: `accept4`, and what follows a new client. -/
inductive AcceptAnswer where
  | interrupted
  | wouldBlock
  | retryable
  | fdExhausted
  | failed
  | accepted (create : CreateAnswers)

/-- A counter outside the route requests and the gauges. -/
def count (counter : ListenerCounter) : Prog (ListenerLoop η) PUnit :=
  modify fun s => { s with metrics := s.metrics.increment counter }

/-- Whether there is a place for another connection. -/
def hasRoom (s : ListenerLoop η) : Bool :=
  decide (s.connectionCount < s.connectionLimit) &&
    decide (s.workers.length < s.connectionLimit - s.connectionCount)

/-- A client that is taken: whether the attempts go on. -/
def acceptTrack (a : CreateAnswers) : Prog (ListenerLoop η) Bool := do
  let s ← get
  match registryActiveRetain s.generations with
  | (none, _) => cut
  | (some generation, generations) =>
    match listenerConnectionCreate s.nextConnection generation
        { s.toListenerContext with generations } a with
    | (none, context) =>
      set (withContext s { context with
        metrics := context.metrics.increment .connectionTrackFailure })
      pure false
    | (some connection, context) =>
      set { withContext s
          { context with metrics := listenerMetricsConnectionAdd context.metrics } with
        connections := connection :: s.connections
        nextConnection := s.nextConnection + 1
        connectionCount := s.connectionCount + 1 }
      pure true

/-- A new client. -/
def acceptClient (a : CreateAnswers) : Prog (ListenerLoop η) Bool := do
  count .accepted
  let s ← get
  if hasRoom s then acceptTrack a
  else do
    count .acceptCapacityRejected
    pure true

/-- The attempts of one turn. -/
def acceptAttempts : List AcceptAnswer → Prog (ListenerLoop η) PUnit
  | [] => pure ⟨⟩
  | .interrupted :: rest | .retryable :: rest => acceptAttempts rest
  | .wouldBlock :: _ => pure ⟨⟩
  | .fdExhausted :: _ => count .acceptFdExhausted
  | .failed :: _ => cut
  | .accepted create :: rest => do
    if ← acceptClient create then acceptAttempts rest else pure ⟨⟩

/-! ## 7. The turn -/

/-- The answers to one turn. -/
structure TurnAnswers (η : Type) where
  /-- `listener_events_wait`. -/
  requests : Option ListenerRequests
  routeClock : Option Nat
  resolverEvents : Bool
  timerDrain : Bool
  wait : Nat → WaitAnswer
  stopClock : Option Nat
  stopDestroy : Nat → RouteWaiterDestroyStatus
  stopTimerSet : Bool
  resolverShutdown : Bool
  shutdownComplete : Bool
  /-- The connections that wait for a route, by address. -/
  resume : Nat → ConnectionAnswers
  collect : RouteResolutionReleaseStatus
  notifyReloading : Bool
  reload : ReloadAnswers η
  hostsReload : HostsReloadAnswers η
  scheduleClock : Option Nat
  schedule : ScheduleAnswers
  /-- The events, by their place in the batch. -/
  serve : Nat → ConnectionAnswers
  timeoutClock : Option Nat
  destroy : Nat → RouteWaiterDestroyStatus
  collectAgain : RouteResolutionReleaseStatus
  resumeClock : Option Nat
  resumeTimerSet : Bool
  accepts : List AcceptAnswer

section Turn

variable (w : Surroundings) (a : TurnAnswers η) (r : ListenerRequests)

/-- The marks of the clients that have gone. -/
def turnMarks (events : List ReadyEvent) : Prog (ListenerLoop η) PUnit :=
  events.forM fun event => do
    let _ ← lift fun s => focusStep (connectionPlace s event.connection) (eventMark event) s
    pure ⟨⟩

/-- The resolver and its timer. -/
def turnResolver : Prog (ListenerLoop η) PUnit :=
  onlyIf (r.resolverReady || r.routeTimerReady) do
    routeClock a.routeClock
    onlyIf r.resolverReady do
      superviseNow
      require a.resolverEvents
    onlyIf r.routeTimerReady do
      require a.timerDrain
      modify fun s => { s with routeTimer := none }

/-- The workers that have exited. -/
def turnReap : Prog (ListenerLoop η) PUnit :=
  onlyIf r.childReady do
    let ok ← lift (listenerWorkersReap a.wait)
    require ok

/-- A stop: all connections are destroyed. -/
def turnStop : Prog (ListenerLoop η) PUnit := do
  let s ← get
  onlyIf (r.stop && !s.shuttingDown) do
    routeClock a.stopClock
    let s ← get
    let ok ← lift (destroyAll .shutdown true (some s.routeNow) a.stopDestroy s.connections.length)
    modify fun s => { s with connectionCount := 0 }
    require ok
    listenerRouteTimerSet none a.stopTimerSet
    require a.resolverShutdown
    modify fun s => { s with shuttingDown := true }

/-- `listener_connections_route_progress`. -/
def turnResume : Prog (ListenerLoop η) PUnit := do
  let s ← get
  onlyIf r.resolverReady do
    (List.range s.connections.length).forM fun i => do
      let ok ← lift fun s => focusStep i
        (routeResume s.routeNow (a.resume ((s.connections[i]?).elim 0 ListenerConnection.id))) s
      require ok

/-- A program of the server, within the loop. -/
def serverStep {α : Type} (m : StateM (ListenerServer η) α) (s : ListenerLoop η) :
    α × ListenerLoop η :=
  let r := Stateful.exec m s.toListenerServer
  (r.1, { s with toListenerServer := r.2 })

/-- Whether a reload may be taken up. -/
def reloadDue (s : ListenerLoop η) : Bool :=
  s.ready && s.reloadPending && s.generations.retired.isNone

/-- Whether a reload of the hosts may be taken up. -/
def hostsReloadDue (s : ListenerLoop η) : Bool :=
  s.ready && !s.reloadPending && s.hostsReloadPending && s.generations.retired.isNone

/-- The reload: whether there was one. -/
def turnReload : Prog (ListenerLoop η) Bool := do
  let s ← get
  if reloadDue s then do
    require a.notifyReloading
    let ok ← lift (serverStep (listenerReload w a.reload))
    modify fun s => { s with hostsReloadPending := false, reloadPending := false }
    require ok
    pure true
  else pure false

/-- The reload of the hosts: whether there was one. -/
def turnHostsReload : Prog (ListenerLoop η) Bool := do
  let s ← get
  if hostsReloadDue s then do
    modify fun s => { s with hostsReloadPending := false }
    let ok ← lift (serverStep (listenerHostsReload w a.hostsReload))
    require ok
    pure true
  else pure false

/-- The events of one pass; `pass` is whether it is that of the timeouts. -/
def turnServe (events : List (ReadyEvent × Nat)) (pass : Bool) : Prog (ListenerLoop η) PUnit :=
  (events.filter fun event => (event.1.kind = .timeout) = pass).forM fun event => do
    let ok ← lift fun s => focusStep (connectionPlace s event.1.connection)
      (eventServeOpen event.1 s.routeNow (a.serve event.2)) s
    require ok

/-- `listener_connections_destroy_closed` and the count. -/
def turnDestroy : Prog (ListenerLoop η) PUnit := do
  let s ← get
  let result ← lift fun s =>
    let r := destroyClosed s.routeNow a.destroy s.connections.length 0 s
    ((r.1, r.2.1), r.2.2)
  require (result.1 && decide (result.2 ≤ s.connectionCount))
  modify fun s => { s with connectionCount := s.connectionCount - result.2 }

/-- A reload that was put off is resumed at once. -/
def turnLateArm : Prog (ListenerLoop η) PUnit := do
  let s ← get
  onlyIf (s.ready && (s.hostsReloadPending || s.reloadPending) && s.generations.retired.isNone) do
    routeClock a.resumeClock
    let s ← get
    listenerRouteTimerSet (some s.routeNow) a.resumeTimerSet

/-- The new clients. -/
def turnAccept : Prog (ListenerLoop η) PUnit := do
  let s ← get
  onlyIf (s.ready && r.acceptReady) (acceptAttempts (a.accepts.take listenerAcceptBatch))

/-- The first half of a turn that is not one of a shutdown: up to the reloads. -/
def turnTakeUp : Prog (ListenerLoop η) Bool := do
  modify fun s => { s with reloadPending := r.reload || s.reloadPending }
  turnResume a r
  listenerGenerationCollect a.collect
  let reloaded ← turnReload w a
  let hostsReloaded ← turnHostsReload w a
  pure (reloaded || hostsReloaded)

/-- The second half: the schedule, the events, the closed connections, the new clients. -/
def turnGoOn (events : List ReadyEvent) (reloadProcessed : Bool) : Prog (ListenerLoop η) PUnit := do
  onlyIf (r.acceptReady || !events.isEmpty || r.reload || r.resolverReady || r.routeTimerReady ||
      reloadProcessed) do
    routeClock a.scheduleClock
    listenerRouteRuntimeSchedule a.schedule
  turnServe a events.zipIdx false
  routeClock a.timeoutClock
  turnServe a events.zipIdx true
  turnDestroy a
  listenerGenerationCollect a.collectAgain
  turnLateArm a
  turnAccept a r

/-- What a turn begins with: the watch, the marks, the resolver, the workers, a stop. -/
def turnBegin (events : List ReadyEvent) : Prog (ListenerLoop η) PUnit := do
  modify fun s => { s with hostsReloadPending := r.hostsChanged || s.hostsReloadPending }
  turnMarks events
  turnResolver a r
  turnReap a r
  turnStop a r

/-- One turn of `listener_loop`.  Being cut short means leaving the loop. -/
def listenerLoopTurn : Prog (ListenerLoop η) PUnit := do
  match a.requests with
  | none => cut
  | some r => do
    let s ← get
    let events := r.polled.filterMap (readyEvent s)
    turnBegin a r events
    let s ← get
    if s.shuttingDown then require (!a.shutdownComplete)
    else do
      let reloadProcessed ← turnTakeUp w a r
      turnGoOn a r events reloadProcessed

/-- The end of `listener_loop`: what is left of the connections is destroyed. -/
def listenerCleanup (clock : Option Nat) (s : ListenerLoop η) : ListenerLoop η :=
  let s := clock.elim s fun advance => { s with clock := s.clock.later advance }
  (destroyAll .internalError false (clock.map fun _ => s.clock) (fun _ => .ok)
    s.connections.length s).2

/-! ## 8. The start -/

/-- `getrlimit` for the descriptors. -/
inductive RlimitAnswer where
  | failed
  | infinity
  | current (value : Nat)
deriving Repr, DecidableEq

/-- `LISTENER_CONNECTION_LIMIT`. -/
def listenerConnectionLimitMaximum : Nat := 4096

/-- `listener_connection_limit`. -/
def listenerConnectionLimit : RlimitAnswer → Nat
  | .failed => 256
  | .infinity => listenerConnectionLimitMaximum
  | .current value => if value ≤ 16 then 0
    else min ((value - 16) / 3) listenerConnectionLimitMaximum

theorem listenerConnectionLimit_le (answer : RlimitAnswer) :
    listenerConnectionLimit answer ≤ listenerConnectionLimitMaximum := by
  unfold listenerConnectionLimit
  split
  · decide
  · exact Nat.le_refl _
  · split
    · exact Nat.zero_le _
    · exact Nat.min_le_right _ _

/-- The answers to the start. -/
structure StartAnswers (η : Type) where
  fd : Nat
  hosts : η
  create : Bool
  publish : PublishAnswers
  rlimit : RlimitAnswer
  clock : Option Nat
  deadlineTimerSet : Bool
  schedule : ScheduleAnswers

/-- `LISTENER_ROUTE_WARMUP_TIMEOUT_SEC`. -/
def listenerRouteWarmupTimeoutSec : Nat := 10

/-- The loop before anything has been published. -/
def loopBlank (config : Conf) (configCache : Option Bytes) (logFilename : Bytes)
    (endpoint : ListenerEndpoint) (routes : RouteTable) (clock : Timespec) (a : StartAnswers η) :
    ListenerLoop η where
  generations := Generations.create
  metrics := {}
  workers := []
  children := []
  clock := clock
  settlements := []
  supervision := {}
  current := ⟨config, a.hosts, routes⟩
  logFilename := logFilename
  configCache := configCache
  generationNextIdentity := 1
  listening := ⟨endpoint, some a.fd, [⟨a.fd, endpoint, false⟩]⟩
  publishes := []
  connections := []
  destroyed := []
  nextConnection := 0
  connectionCount := 0
  connectionLimit := listenerConnectionLimit a.rlimit
  hostsReloadPending := false
  reloadPending := false
  shuttingDown := false
  ready := false
  deadline := clock
  routeTimer := none
  routeNow := clock

/-- `listener_route_runtime_start` and the first schedule. -/
def startRuntime (a : StartAnswers η) : Prog (ListenerLoop η) PUnit := do
  routeClock a.clock
  let s ← get
  match timeutilAddSeconds s.routeNow listenerRouteWarmupTimeoutSec with
  | none => cut
  | some deadline => do
    modify fun s => { s with deadline }
    listenerRouteTimerSet (some deadline) a.deadlineTimerSet
    listenerRouteRuntimeSchedule a.schedule

/-- The first generation. -/
def startGeneration (a : StartAnswers η) : Prog (ListenerLoop η) PUnit := do
  let s ← get
  match ← lift (serverStep (listenerGenerationCreate s.current a.create)) with
  | .ok generation => do
    let published ← lift (serverStep (listenerGenerationPublish generation a.publish))
    require (published.1 = .ok)
  | _ => cut

/-- The start of the listener: the loop at its first head, if it gets there. -/
def listenerLoopStart (config : Conf) (configCache : Option Bytes) (logFilename : Bytes)
    (clock : Timespec) (a : StartAnswers η) : Option (ListenerLoop η) :=
  match listenerEndpointPrepare w config, routeTableBuild w.netAddrParse config.proxy with
  | some endpoint, some routes =>
    match (do startGeneration a; startRuntime a : Prog (ListenerLoop η) PUnit)
        (loopBlank config configCache logFilename endpoint routes clock a) with
    | .ok _ s => some s
    | .error _ _ => none
  | _, _ => none

end Turn

end Loop

end MinecraftRelay
