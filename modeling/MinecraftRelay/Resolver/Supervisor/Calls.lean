/-
  File:      Resolver/Supervisor/Calls.lean
  Subject:   THE RESOLVER SUPERVISOR (resolver/supervisor.c): dispatch, answers, timers, and the
             calls of its interface.

  The kernel's answers to a call are one record each (`CallEnv`, `EventsEnv`); a loop of the
  source that ends for a reason of its own has a fuel that its number of turns cannot reach.
-/
import MinecraftRelay.Resolver.Supervisor.State

namespace MinecraftRelay

/-! ## 1. Dispatch -/

variable (limits : SupervisorLimits) (s : Supervisor) (now : Timespec)

/-- What `resolver_supervisor_dispatch` does with a job after the assignment to helper `i`. -/
def dispatchOutcome (i : Nat) (j : JobId) (now : Timespec) (status : AssignStatus) : Supervisor :=
  let entry := ((s.jobs j).map (·.entry)).getD 0
  match status with
  | .ok => s
  | .retry => jobRetry limits s j now
  | .limit => jobComplete s j .limit (emptyResponse s entry .limit)
  | .time => jobComplete s j .time (emptyResponse s entry .permanentError)
  | .io => helperFail limits s i .io now

/-- The `while` loop of `resolver_supervisor_dispatch` for one helper.  Every turn but the last
    takes a job off a queue for good, so `fuel` is never used up when it exceeds the number of
    queued jobs; `env` answers the turns by their number. -/
def dispatchLoop (limits : SupervisorLimits) (i : Nat) (now : Timespec) (env : Nat → AssignEnv) :
    Nat → Supervisor → Supervisor
  | 0, s => s
  | fuel + 1, s =>
    if (s.helpers i).state ≠ .idle then s
    else
      match queueFirst s with
      | none => s
      | some j =>
        let r := jobAssign limits (queueRemove s j) i j now (env fuel)
        let s := dispatchOutcome limits r.1 i j now r.2
        if r.2 = .ok then s else dispatchLoop limits i now env fuel s

/-- The number of queued jobs. -/
def queuedCount : Nat :=
  (s.queues .interactive).ids.length + (s.queues .background).ids.length

/-- `resolver_supervisor_dispatch`; `env` answers the assignments of each helper. -/
def dispatch (env : Nat → Nat → AssignEnv) : Supervisor :=
  if s.shuttingDown then s
  else
    (List.range limits.helperCount).foldl
      (fun s i => dispatchLoop limits i now (env i) (queuedCount s + 1) s) s

/-! ## 2. Answers -/

/-- `resolver_supervisor_result_publish`: the publication, and what is left of the response. -/
def resultPublish (e : EntryId) (response : AssemblyResult) (allocated : Bool) :
    Supervisor × PublishStatus × AssemblyResult :=
  match response.payload with
  | .srv result =>
    let r := entryPublishSrv limits.toCacheLimits s.cache e response.status response.completedAt
      result allocated
    ({ s with cache := r.1 }, r.2.1, { response with payload := .srv r.2.2 })
  | .address result =>
    let r := entryPublishAddress limits.toCacheLimits s.cache e response.status
      response.completedAt result allocated
    ({ s with cache := r.1 }, r.2.1, { response with payload := .address r.2.2 })

/-- `resolver_supervisor_metrics_response_record`. -/
def responseRecord (job : Job) (response : AssemblyResult) : Supervisor :=
  let s := s.incrementAttempt job.entry (.response response.status)
  let s := if job.orphaned then s.incrementAttempt job.entry (.orphanResponse response.status)
    else s
  s.observeDuration job.entry .attemptDuration job.dispatchedAt response.completedAt

section

variable (j : JobId) (job : Job) (response : AssemblyResult) (now : Timespec)
  (payloadAllocated : Bool)

/-- The publication in `resolver_supervisor_helper_result_finish`, of the results the cache keeps.
    -/
def answerPublish : Supervisor × PublishStatus × AssemblyResult :=
  if response.status = .ok ∨ response.status = .nodata ∨ response.status = .notFound then
    let r := resultPublish limits s job.entry response payloadAllocated
    let entryName := ((s.cache.entries job.entry).map (·.name)).getD []
    if r.2.1 = .stored then
      (r.1.record (.published j job.entry entryName response now), r.2.1, r.2.2)
    else r
  else (s, .invalid, response)

/-- The end of `resolver_supervisor_helper_result_finish`: the answer of a job that its helper
    has given up is published, and the job completes, is retried, or is dropped. -/
def answerFinish : Supervisor :=
  let s := responseRecord s job response
  -- `resolver_supervisor_job_result_retryable`
  if response.status = .temporaryError then
    jobRetry limits { s with budget := resultDestroy s.budget response } j now
  else
    let r := answerPublish limits s j job response now payloadAllocated
    if job.orphaned then
      jobDestroy limits { r.1 with budget := resultDestroy r.1.budget r.2.2 } j
    else jobComplete r.1 j r.2.1 r.2.2

end

/-- `resolver_supervisor_helper_result_finish`. -/
def resultFinish (i : Nat) (now : Timespec) (payloadAllocated : Bool) : Supervisor :=
  match (s.helpers i).job with
  | none => helperFail limits s i .protocol now
  | some j =>
    match s.jobs j with
    | none => helperFail limits s i .protocol now
    | some job =>
      match job.assembly.bind resultTake with
      | none => helperFail limits s i .protocol now
      | some (assembly, response) =>
        -- the assembly has handed its charge over to the response
        let s := { s.setJob j job.dropped with
          budget := assemblyDestroy s.budget assembly }
        if ¬ jobTimestampValid job response.completedAt now then
          let timedOut := timeutilValid response.completedAt &&
            decide (timeutilCompare response.completedAt job.deadline = .gt)
          helperFail limits { s with budget := resultDestroy s.budget response } i
            (if timedOut then .timeout else .protocol) now
        else
          let s := s.setHelper i { s.helpers i with job := none, state := .idle }
          let s := helperSuccess limits s i now
          answerFinish limits s j job response now payloadAllocated

/-- One packet that `resolver_supervisor_helper_drain` received, and whether its loop goes on. -/
def drainPacket (i : Nat) (now : Timespec)
    (data : Bytes) (arraysAllocated payloadAllocated : Bool) : Supervisor × Bool :=
  let helper := s.helpers i
  if helper.state = .shuttingDown then (s, true)
  else
    match helper.job.bind fun j => (s.jobs j).map fun job => (j, job) with
    | none => (helperFail limits s i .protocol now, false)
    | some (j, job) =>
      if data.length > ipcPacketByteLimit ∨ helper.state ≠ .busy then
        (helperFail limits s i .protocol now, false)
      else
        match job.assembly with
        | none => (helperFail limits s i .protocol now, false)
        | some assembly =>
          let r := packetConsume limits.toAssemblyLimits s.budget assembly data arraysAllocated
          let s := { s.setJob j { job with assembly := some r.2.1 } with budget := r.1 }
          match r.2.2 with
          | .complete =>
            (resultFinish limits (s.record (.accepted j data)) i now payloadAllocated, true)
          | .ok => (s.record (.accepted j data), true)
          | _ => (helperFail limits s i .protocol now, false)

/-- `resolver_supervisor_helper_drain`; the socket has nothing more once `receives` is used up. -/
def drain (limits : SupervisorLimits) (i : Nat) (now : Timespec) :
    List Receive → Supervisor → Supervisor
  | [], s => s
  | receive :: receives, s =>
    if ¬ (s.helpers i).connected then s
    else
      match receive with
      | .packet data arraysAllocated payloadAllocated =>
        match drainPacket limits s i now data arraysAllocated payloadAllocated with
        | (s, true) => drain limits i now receives s
        | (s, false) => s
      | .empty isEnd isEndAgain =>
        if (s.helpers i).state = .shuttingDown then
          if isEnd then helperStop s i
          else helperFail limits s i (if isEndAgain then .exit else .protocol) now
        else helperFail limits s i (if isEnd then .exit else .protocol) now
      | .wouldBlock => s
      | .failed => helperFail limits s i .io now

/-! ## 3. Timers -/

/-- `resolver_supervisor_timer_candidate`. -/
def timerCandidate (target : Option Timespec) (candidate : Timespec) : Option Timespec :=
  if ¬ timeutilValid candidate then target
  else
    match target with
    | none => some candidate
    | some current =>
      if timeutilCompare candidate current = .lt then some candidate else some current

/-- All jobs, in the order of the hash chains. -/
def jobList : List JobId :=
  (List.range limits.jobLimit).flatMap s.buckets

/-- The time a job waits for. -/
def Job.waitsFor (job : Job) : Option Timespec :=
  match job.state with
  | .dispatched => some job.deadline
  | .retryWait => some job.retryAt
  | _ => none

/-- The time a helper slot waits for. -/
def Helper.waitsFor (helper : Helper) : Option Timespec :=
  if helper.state = .backoff ∨ helper.state = .shuttingDown ∨ (helper.failureCount > 0 ∧
      (helper.state = .idle ∨ helper.state = .sending ∨ helper.state = .busy)) then
    some helper.nextEventAt
  else none

/-- The time `resolver_supervisor_timer_rearm` arms the timer for. -/
def timerTarget : Option Timespec :=
  let candidates :=
    ((jobList limits s).filterMap fun j => (s.jobs j).bind Job.waitsFor) ++
      (List.range limits.helperCount).filterMap fun i => (s.helpers i).waitsFor
  (candidates.foldl timerCandidate none).map fun target =>
    if target.sec = 0 ∧ target.nsec = 0 then ⟨0, 1⟩ else target

/-- `resolver_supervisor_timer_rearm`; `set` is the outcome of `timerfd_settime`. -/
def timerRearm (set : Bool) : Supervisor × Bool :=
  if set then ({ s with timer := timerTarget limits s }, true) else (s, false)

/-- One job of `resolver_supervisor_timers_process_jobs`. -/
def timerJob (s : Supervisor) (j : JobId) : Supervisor :=
  match s.jobs j with
  | none => s
  | some job =>
    if job.state = .retryWait ∧ timeutilCompare now job.retryAt ≠ .lt then
      queueAppend (s.setJob j { job with dispatchWaitAt := now }) j
    else s

/-- `resolver_supervisor_timers_process_jobs`: no job enters or leaves a chain on the way. -/
def timersProcessJobs : Supervisor :=
  (jobList limits s).foldl (timerJob now) s

/-- A busy helper past the deadline of its job: what it still sent is read, then it fails. -/
def timerOverdue (receives : List Receive) (s : Supervisor) (i : Nat) : Supervisor :=
  let overdue := ((s.helpers i).job.bind s.jobs).any fun job =>
    decide (timeutilCompare now job.deadline ≠ .lt)
  if (s.helpers i).state = .busy ∧ overdue then
    let s := drain limits i now receives s
    if (s.helpers i).state = .busy ∧ (s.helpers i).job ≠ none then
      helperFail limits s i .timeout now
    else s
  else s

/-- A helper that has been up for long enough has recovered. -/
def timerStable (s : Supervisor) (i : Nat) : Supervisor :=
  let helper := s.helpers i
  if helper.failureCount > 0 ∧
      (helper.state = .idle ∨ helper.state = .sending ∨ helper.state = .busy) ∧
      timeutilCompare now helper.nextEventAt ≠ .lt then
    helperRecover limits s i .stableUptime now
  else s

/-- `resolver_supervisor_timers_process_helpers` for one helper. -/
def timerHelper (receives : List Receive) (spawn : Spawn) (s : Supervisor) (i : Nat) : Supervisor :=
  let s := timerStable limits now (timerOverdue limits now receives s i) i
  let helper := s.helpers i
  if helper.state = .backoff ∧ timeutilCompare now helper.nextEventAt ≠ .lt then
    helperSpawn limits s i spawn now
  else if helper.state = .shuttingDown ∧ timeutilCompare now helper.nextEventAt ≠ .lt then
    helperStop s i
  else s

/-! ## 4. The public calls -/

/-- The supervisor before its first helper. -/
def supervisorEmpty (cache : Cache) (now : Timespec) : Supervisor where
  cache
  budget := assemblyBudgetCreate
  buckets := fun _ => []
  jobs := fun _ => none
  nextJob := 0
  queues := fun _ => {}
  completions := []
  helpers := fun _ => {}
  jobCount := 0
  lastNow := now
  metrics := {}
  nextQueryId := 1
  observationCount := 0
  observationHead := 0
  observations := fun _ => none
  shuttingDown := false
  timer := none
  trace := []

/-- `resolver_supervisor_create`, past its allocations; `spawns` are the first helpers. -/
def supervisorCreate (cache : Cache) (now : Timespec) (spawns : Nat → Spawn) : Supervisor :=
  let s := (List.range limits.helperCount).foldl
    (fun s i => helperSpawn limits s i (spawns i) now) (supervisorEmpty cache now)
  (timerRearm limits s true).1

/-- The kernel's answers to a schedule or a release. -/
structure CallEnv where
  jobAllocated : Bool := true
  eventsUpdated : Bool := true
  assigns : Nat → Nat → AssignEnv := fun _ _ => {}
  timerSet : Bool := true

/-- The interest count of a priority. -/
def Job.interest (job : Job) : Priority → Nat
  | .background => job.backgroundInterestCount
  | .interactive => job.interactiveInterestCount

/-- Write the interest count of a priority. -/
def Job.setInterest (job : Job) (priority : Priority) (count : Nat) : Job :=
  match priority with
  | .background => { job with backgroundInterestCount := count }
  | .interactive => { job with interactiveInterestCount := count }

/-- One interest less in a job: without interest a dispatched job is orphaned and any other
    destroyed.  The flag is the outcome of the `epoll_ctl` for a helper that was sending. -/
def interestDrop (j : JobId) (job : Job)
    (priority : Priority) (eventsUpdated : Bool) : Supervisor × Bool :=
  let released := job.setInterest priority (job.interest priority - 1)
  let s := s.setJob j released
  if released.backgroundInterestCount = 0 ∧ released.interactiveInterestCount = 0 then
    if job.state = .dispatched then
      (priorityDowngrade (s.setJob j { released with orphaned := true }) j, true)
    else if job.state = .sending then
      let s := s.setHelper job.slotIndex { s.helpers job.slotIndex with
        job := none, requestPacket := [], state := .idle }
      (jobDestroy limits (s.setJob j { released with queryId := 0 }) j, eventsUpdated)
    else (jobDestroy limits s j, true)
  else (priorityDowngrade s j, true)

/-- `resolver_supervisor_entry_release`, the job found and its interest positive. -/
def interestRelease (j : JobId) (job : Job)
    (priority : Priority) (now : Timespec) (env : CallEnv) : Supervisor × ReleaseStatus :=
  let r := interestDrop limits s j job priority env.eventsUpdated
  let finish := timerRearm limits (dispatch limits r.1 now env.assigns) env.timerSet
  (finish.1, if r.2 ∧ finish.2 then .ok else .io)

section

variable (e : EntryId) (priority : Priority) (now : Timespec) (env : CallEnv)

/-- `resolver_supervisor_entry_release`; its two callers fix the priority
    (`resolver_supervisor_entry_background_release`,
    `resolver_supervisor_entry_interactive_release`). -/
def entryReleaseInterest : Supervisor × ReleaseStatus :=
  if s.shuttingDown then (s, .badArgument)
  else
    match timeUpdate (s.record (.called now)) now with
    | none => (s.record (.called now), .time)
    | some s =>
      match jobFind limits s e with
      | none => (s, .satisfied)
      | some j =>
        match s.jobs j with
        | none => (s, .satisfied)
        | some job =>
          if job.state = .complete then (s, .satisfied)
          else if job.interest priority = 0 then (s, .badArgument)
          else if job.state = .sending ∧ (job.slotIndex ≥ limits.helperCount ∨
              (s.helpers job.slotIndex).job ≠ some j) then (s, .badArgument)
          else interestRelease limits s j job priority now env

/-- The job that `resolver_supervisor_entry_schedule_priority` creates. -/
def Job.created : Job where
  backgroundInterestCount := if priority = .background then 1 else 0
  interactiveInterestCount := if priority = .interactive then 1 else 0
  dispatchWaitAt := now
  entry := e
  priority := priority

/-- And its creation. -/
def jobCreate : Supervisor :=
  let j := s.nextJob
  let job := Job.created e priority now
  let bucket := jobBucket limits e
  let s := { s with
    buckets := Function.update s.buckets bucket (j :: s.buckets bucket)
    jobs := Function.update s.jobs j (some job)
    nextJob := j + 1
    jobCount := s.jobCount + 1
    metrics := s.metrics.highWater .jobsHighWater (s.jobCount + 1) }
  queueAppend s j

/-- One more interest in a job that exists (`COALESCED`). -/
def jobCoalesce (j : JobId) (job : Job) (priority : Priority) : Supervisor :=
  let s := s.setJob j
    { job.setInterest priority (job.interest priority + 1) with orphaned := false }
  if priority = .interactive then priorityPromote s j else s

/-- The number of jobs below which a schedule of this priority may add one. -/
def admissionLimit : Priority → Nat
  | .interactive => limits.jobLimit
  | .background => limits.jobLimit - limits.interactiveReserve

/-- `resolver_supervisor_entry_schedule_priority` for an entry that has a job. -/
def scheduleJoin (j : JobId) (job : Job) (priority : Priority) : Supervisor × ScheduleStatus :=
  if job.state = .complete then (s, .complete)
  else if job.interest priority ≥ limits.interestCountLimit then
    (s.increment (.schedule priority (s.metricsQueryType e) .limitInterestCount), .limit)
  else (jobCoalesce s j job priority, .coalesced)

/-- `resolver_supervisor_entry_schedule_priority` for an entry without a job. -/
def scheduleStart : Supervisor × ScheduleStatus :=
  let query := s.metricsQueryType e
  if s.jobCount ≥ admissionLimit limits priority then
    (s.increment (.schedule priority query
      (if priority = .background then .limitBackgroundAdmission else .limitTotalAdmission)), .limit)
  else if ¬ env.jobAllocated then (s, .memory)
  else
    match entryRetain s.cache e with
    | (_, false) => (s.increment (.schedule priority query .limitEntryReference), .limit)
    | (cache, true) =>
      let s := jobCreate limits { s with cache } e priority now
      let r := timerRearm limits (dispatch limits s now env.assigns) env.timerSet
      (r.1, if r.2 then .started else .io)

/-- `resolver_supervisor_entry_schedule_priority`. -/
def entrySchedulePriority : Supervisor × ScheduleStatus :=
  if s.shuttingDown then (s, .badArgument)
  else
    match timeUpdate (s.record (.called now)) now with
    | none => (s.record (.called now), .time)
    | some s =>
      match entryView s.cache e now with
      | (_, none) => (s, .badArgument)
      | (cache, some view) =>
        let s := { s with cache }
        if view.status ≠ .empty then (s, .fresh)
        else
          match (jobFind limits s e).bind fun j => (s.jobs j).map fun job => (j, job) with
          | some (j, job) => scheduleJoin limits s e j job priority
          | none => scheduleStart limits s e priority now env

/-- `resolver_supervisor_entry_schedule` (background) and
    `resolver_supervisor_entry_schedule_interactive`. -/
def entrySchedule : Supervisor × ScheduleStatus :=
  let r := entrySchedulePriority limits s e priority now env
  (r.1.increment (.schedule priority (r.1.metricsQueryType e) (.status r.2)), r.2)

end

/-- `resolver_supervisor_completion`. -/
structure Completion where
  entry : EntryId
  publication : PublishStatus
  response : AssemblyResult
deriving Repr, DecidableEq

/-- `resolver_supervisor_completion_take`: the taker owns the job's reference and response. -/
def completionTake : Supervisor × Option Completion :=
  match s.completions with
  | [] => (s, none)
  | j :: rest =>
    match s.jobs j with
    | none => (s, none)
    | some job =>
      let s := s.incrementAttempt job.entry .completionTaken
      let s := jobFree limits { s with completions := rest } j job
      (s, some
        { entry := job.entry, publication := job.publication,
          response := job.response.getD (emptyResponse s job.entry .ok) })

/-- `resolver_supervisor_completion_destroy`. -/
def completionDestroy (completion : Completion) : Supervisor :=
  { s with
    cache := entryRelease limits.toCacheLimits s.cache completion.entry
    budget := resultDestroy s.budget completion.response }

/-- The events `epoll_wait` reported for one helper, and the answers to what they cause. -/
structure HelperEnv where
  out : Bool := false
  input : Bool := false
  hangup : Bool := false
  send : SendEnv := {}
  inputReceives : List Receive := []
  hangupReceives : List Receive := []
  timerReceives : List Receive := []
  spawn : Spawn := .failed

/-- The kernel's answers to one `resolver_supervisor_events_process`. -/
structure EventsEnv where
  waited : Bool := true
  /-- the clock at `epoll_wait` -/
  waitedAt : Timespec := ⟨0, 0⟩
  /-- the read of a timer that is ready -/
  timerDrained : Bool := true
  helper : Nat → HelperEnv := fun _ => {}
  assigns : Nat → Nat → AssignEnv := fun _ _ => {}
  timerSet : Bool := true

/-- The `EPOLLOUT` event of a helper that is sending. -/
def outEvent (env : SendEnv) (s : Supervisor) (i : Nat) : Supervisor :=
  match (s.helpers i).job with
  | none => s
  | some j =>
    match requestSend limits s i j now env with
    | (s, .ok) => s
    | (s, .time) =>
      let entry := ((s.jobs j).map (·.entry)).getD 0
      let s := helperDetach s i j
      let s := s.setHelper i { s.helpers i with state := .idle }
      jobComplete s j .time (emptyResponse s entry .permanentError)
    | (s, .io) => helperFail limits s i .io now

/-- The events of one helper. -/
def helperEvents (env : HelperEnv) (s : Supervisor) (i : Nat) : Supervisor :=
  let s := if env.out ∧ (s.helpers i).state = .sending then outEvent limits now env.send s i else s
  let s := if env.input ∧ (s.helpers i).connected then drain limits i now env.inputReceives s else s
  if env.hangup ∧ (s.helpers i).connected then
    let s := drain limits i now env.hangupReceives s
    if (s.helpers i).connected then
      if (s.helpers i).state = .shuttingDown then helperStop s i
      else helperFail limits s i .exit now
    else s
  else s

/-- `timer_ready`: `epoll_wait` reports a timer that is armed and due. -/
def timerReady (clock : Timespec) : Bool :=
  s.timer.any fun target => timeutilCompare clock target != .lt

/-- `resolver_supervisor_events_process`. -/
def eventsProcess (env : EventsEnv) : Supervisor × EventStatus :=
  match timeUpdate (s.record (.called now)) now with
  | none => (s.record (.called now), .time)
  | some s =>
    if ¬ env.waited then (s, .io)
    else
      let ready := timerReady s env.waitedAt
      let indices := List.range limits.helperCount
      let s := indices.foldl (fun s i => helperEvents limits now (env.helper i) s i) s
      if ready ∧ ¬ env.timerDrained then (s, .io)
      else
        let s := indices.foldl (fun s i =>
          timerHelper limits now (env.helper i).timerReceives (env.helper i).spawn s i) s
        let s := timersProcessJobs limits s now
        let s := dispatch limits s now env.assigns
        let r := timerRearm limits s env.timerSet
        (r.1, if r.2 then .ok else .io)

/-- The counters of a job that a shutdown gives up. -/
def shutdownRecord (job : Job) : Supervisor :=
  if s.shuttingDown ∧ job.state = .complete then
    s.incrementAttempt job.entry .completionAbandonedShutdown
  else if s.shuttingDown ∧ job.state = .dispatched then
    s.incrementAttempt job.entry .attemptAbandonedShutdown
  else s

/-- A job that a shutdown gives up leaves its helper; the state of the slot stays for now. -/
def shutdownDetach (j : JobId) (job : Job) : Supervisor :=
  if job.state = .sending ∨ job.state = .dispatched then
    let s := assemblyDrop s j
    if job.slotIndex < limits.helperCount ∧ (s.helpers job.slotIndex).job = some j then
      s.setHelper job.slotIndex { s.helpers job.slotIndex with job := none, requestPacket := [] }
    else s
  else s

/-- One job of `resolver_supervisor_jobs_destroy_all`. -/
def shutdownJob (j : JobId) : Supervisor :=
  match s.jobs j with
  | none => s
  | some job => jobDestroy limits (shutdownDetach limits (shutdownRecord s job) j job) j

/-- `resolver_supervisor_jobs_destroy_all`: each chain is emptied from its head. -/
def jobsDestroyAll : Supervisor :=
  (jobList limits s).foldl (shutdownJob limits) s

/-- The shutdown of one helper. -/
def helperShutdown (s : Supervisor) (i : Nat) : Supervisor :=
  let helper := s.helpers i
  if ¬ helper.connected ∨ helper.processId ≤ 0 then s.setHelper i { helper with state := .stopped }
  else
    s.setHelper i { helper with
      state := .shuttingDown
      nextEventAt := (timeutilAddMilliseconds now limits.shutdownGraceMs).getD now }

/-- `resolver_supervisor_shutdown`. -/
def supervisorShutdown (timerSet : Bool) : Supervisor × Bool :=
  match timeUpdate (s.record (.called now)) now with
  | none => (s.record (.called now), false)
  | some s =>
    if s.shuttingDown then (s, true)
    else
      let s := jobsDestroyAll limits { s with shuttingDown := true }
      let s := (List.range limits.helperCount).foldl (helperShutdown limits now) s
      timerRearm limits s timerSet

end MinecraftRelay
