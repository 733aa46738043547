/-
  File:      Resolver/Supervisor/State.lean
  Subject:   THE RESOLVER SUPERVISOR (resolver/supervisor.c): its state, its jobs, its helpers.

  The supervisor turns interests in cache entries into jobs, hands the jobs to a pool of helper
  processes, and turns their answers into cache payloads and completions.

  Reading of the source:
  * a pointer to a job is a `JobId`, `Supervisor.jobs` is the heap of the jobs not yet freed, and
    ids are handed out once; the intrusive lists (hash chains, queues, completion list) are lists
    of ids; the cache the entries belong to is a field of the state;
  * the pointer `helper->job` is `Helper.job`; `helper->fd != -1` is `Helper.connected`;
  * what the kernel answers is an argument: the outcome of each `send`, `recv`, `epoll_ctl`,
    `calloc`, `fork` and `timerfd_settime`.  A call that is only repeated on `EINTR` is answered
    by its last outcome;
  * compile-time constants are a `SupervisorLimits`, with what `resolver_supervisor_create`
    requires of them as fields;
  * `trace` is history: it records the calls' times, the query ids given out, the requests sent,
    the packets accepted and the results published.  Nothing reads it; it is what statements about
    runs speak of.
    Code under `RESOLVER_SUPERVISOR_TEST_API` is not part of the program.
-/
import MinecraftRelay.Resolver.Assembly

namespace MinecraftRelay

open Function (update)

/-! ## 1. State -/

/-- `RESOLVER_SUPERVISOR_*`, with the conditions of `resolver_supervisor_create`. -/
structure SupervisorLimits extends AssemblyLimits where
  helperCount : Nat := 2
  jobLimit : Nat := 4096
  interactiveReserve : Nat := 256
  observationCapacity : Nat := 32
  respawnInitialMs : Nat := 100
  respawnMaxMs : Nat := 30000
  respawnResetStableSec : Nat := 60
  respawnResetSuccessCount : Nat := 3
  queryRetryInitialMs : Nat := 1000
  queryRetryMaxMs : Nat := 60000
  queryTimeoutSec : Nat := 10
  jitterPercent : Nat := 20
  shutdownGraceMs : Nat := 1000
  interestCountLimit : Nat := sizeMax
  observationCycleIdLimit : Nat := uint64Max
  helperCount_pos : 0 < helperCount := by decide
  jobLimit_pos : 0 < jobLimit := by decide
  interactiveReserve_le : interactiveReserve ≤ jobLimit := by decide
  interestCountLimit_pos : 0 < interestCountLimit := by decide
  observationCapacity_pos : 0 < observationCapacity := by decide
  jitterPercent_le : jitterPercent ≤ 100 := by decide
  queryRetryInitialMs_pos : 0 < queryRetryInitialMs := by decide
  queryRetry_le : queryRetryInitialMs ≤ queryRetryMaxMs := by decide
  queryTimeoutSec_pos : 0 < queryTimeoutSec := by decide
  respawnInitialMs_pos : 0 < respawnInitialMs := by decide
  respawn_le : respawnInitialMs ≤ respawnMaxMs := by decide
  observationCycleIdLimit_pos : 0 < observationCycleIdLimit := by decide
  respawnResetStableSec_pos : 0 < respawnResetStableSec := by decide
  respawnResetSuccessCount_pos : 0 < respawnResetSuccessCount := by decide
  shutdownGraceMs_pos : 0 < shutdownGraceMs := by decide

/-- A pointer to a job. -/
abbrev JobId := Nat

/-- `resolver_supervisor_job_state`. -/
inductive JobState where
  | queued | sending | dispatched | retryWait | complete
deriving Repr, DecidableEq

/-- `resolver_supervisor_priority`. -/
inductive Priority where
  | background | interactive
deriving Repr, DecidableEq

/-- `resolver_supervisor_helper_failure` other than `NONE`. -/
inductive HelperFailure where
  | exit | io | protocol | spawn | timeout
deriving Repr, DecidableEq

/-- `resolver_supervisor_helper_recovery`. -/
inductive HelperRecovery where
  | successStreak | stableUptime
deriving Repr, DecidableEq

/-- `resolver_supervisor_helper_state`. -/
inductive HelperState where
  | idle | sending | busy | backoff | shuttingDown | stopped
deriving Repr, DecidableEq

/-- `resolver_supervisor_job`; the zeroed `response` of a job that is not complete is `none`. -/
structure Job where
  backgroundInterestCount : Nat
  interactiveInterestCount : Nat
  deadline : Timespec := ⟨0, 0⟩
  dispatchedAt : Timespec := ⟨0, 0⟩
  dispatchWaitAt : Timespec
  entry : EntryId
  orphaned : Bool := false
  assembly : Option Assembly := none
  priority : Priority
  queryId : Nat := 0
  publication : PublishStatus := .stored
  response : Option AssemblyResult := none
  retryAt : Timespec := ⟨0, 0⟩
  retryCount : Nat := 0
  slotIndex : Nat := sizeMax
  state : JobState := .queued
deriving Repr, DecidableEq

/-- The query id and the assembly of a job are given up. -/
def Job.dropped (job : Job) : Job := { job with queryId := 0, assembly := none }

/-- `resolver_supervisor_helper`; `request_size` is the length of the pending packet. -/
structure Helper where
  consecutiveSuccesses : Nat := 0
  cycleId : Nat := 0
  degradedAt : Timespec := ⟨0, 0⟩
  failureCount : Nat := 0
  connected : Bool := false
  job : Option JobId := none
  lastFailedProcessId : Int := -1
  lastFailure : Option HelperFailure := none
  nextCycleId : Nat := 1
  nextEventAt : Timespec := ⟨0, 0⟩
  processId : Int := -1
  requestPacket : Bytes := []
  state : HelperState := .stopped
deriving Repr, DecidableEq

/-- The process of a helper that fails is remembered. -/
def Helper.marked (helper : Helper) : Helper :=
  { helper with lastFailedProcessId := helper.processId }

/-- `resolver_supervisor_job_queue`. -/
structure JobQueue where
  ids : List JobId := []
  count : Nat := 0
deriving Repr, DecidableEq

/-- `resolver_supervisor_observation`. -/
inductive Observation where
  | degraded (backoffMilliseconds cycleId : Nat) (failure : HelperFailure) (failureCount : Nat)
      (observedAt : Timespec) (processId : Int) (slot : Nat)
  | recovered (cycleId : Nat) (degradedAt : Timespec) (failureCount : Nat)
      (lastFailure : Option HelperFailure) (observedAt : Timespec) (processId : Int)
      (recovery : HelperRecovery) (slot : Nat)
deriving Repr, DecidableEq

/-- `resolver_supervisor_schedule_status`. -/
inductive ScheduleStatus where
  | started | coalesced | complete | fresh | badArgument | io | limit | memory | time
deriving Repr, DecidableEq

/-- `resolver_supervisor_release_status`. -/
inductive ReleaseStatus where
  | ok | satisfied | badArgument | io | time
deriving Repr, DecidableEq

/-- `resolver_supervisor_event_status`, a NULL argument apart. -/
inductive EventStatus where
  | ok | io | time
deriving Repr, DecidableEq

/-- The counters of `resolver_supervisor_metrics_attempt`; a DNS outcome is a lookup status. -/
inductive AttemptCounter where
  | attemptAbandonedShutdown | completionAbandonedShutdown | completionEnqueued
  | completionTaken | dispatched | failure (failure : HelperFailure)
  | orphanResponse (outcome : LookupStatus) | response (outcome : LookupStatus) | retryScheduled
deriving Repr, DecidableEq

/-- The counters of `resolver_supervisor_metrics_schedule`. -/
inductive ScheduleCounter where
  | limitBackgroundAdmission | limitEntryReference | limitInterestCount | limitTotalAdmission
  | status (status : ScheduleStatus)
deriving Repr, DecidableEq

/-- The counters of `resolver_supervisor_metrics_helper`. -/
inductive HelperCounter where
  | failure (failure : HelperFailure) | observationDropped | recovery (recovery : HelperRecovery)
  | spawnAttempt | spawnSuccess
deriving Repr, DecidableEq

/-- The counters of `resolver_supervisor_metrics_state`. -/
inductive SupervisorMetric where
  | attempt (type : QueryType) (counter : AttemptCounter)
  | helper (counter : HelperCounter)
  | jobsHighWater
  | queueHighWater (priority : Priority)
  | schedule (priority : Priority) (type : MetricsQueryType) (counter : ScheduleCounter)
deriving Repr, DecidableEq

/-- The histograms of `resolver_supervisor_metrics_state`. -/
inductive SupervisorHistogram where
  | attemptDuration (type : QueryType)
  | dispatchWait (priority : Priority) (type : QueryType)
deriving Repr, DecidableEq

/-- One entry of the history. -/
inductive TraceEvent where
  /-- A call with the time `now` reached `resolver_supervisor_time_update`. -/
  | called (now : Timespec)
  /-- A query id was allocated for the job, and an assembly created with it. -/
  | assigned (job : JobId) (entry : EntryId) (queryId : Nat)
  /-- The request of the job was sent. -/
  | sent (job : JobId) (dispatchedAt deadline : Timespec)
  /-- The assembly of the job accepted a packet of its helper. -/
  | accepted (job : JobId) (packet : Bytes)
  /-- The result of the job went to the cache and was stored in the entry of this name. -/
  | published (job : JobId) (entry : EntryId) (entryName : Bytes) (response : AssemblyResult)
      (now : Timespec)
deriving Repr, DecidableEq

/-- `resolver_supervisor`, with the cache, the heap of jobs and the history. -/
structure Supervisor where
  cache : Cache
  budget : AssemblyBudget
  buckets : Nat → List JobId
  jobs : JobId → Option Job
  nextJob : JobId
  queues : Priority → JobQueue
  completions : List JobId
  helpers : Nat → Helper
  jobCount : Nat
  lastNow : Timespec
  metrics : MetricsState SupervisorMetric SupervisorHistogram
  nextQueryId : Nat
  observationCount : Nat
  observationHead : Nat
  observations : Nat → Option Observation
  shuttingDown : Bool
  timer : Option Timespec
  trace : List TraceEvent

namespace Supervisor

variable (s : Supervisor)

/-- Write the fields of a job. -/
def setJob (j : JobId) (job : Job) : Supervisor :=
  { s with jobs := update s.jobs j (some job) }

/-- Write the fields of a helper slot. -/
def setHelper (i : Nat) (helper : Helper) : Supervisor :=
  { s with helpers := update s.helpers i helper }

/-- Write a queue. -/
def setQueue (priority : Priority) (queue : JobQueue) : Supervisor :=
  { s with queues := update s.queues priority queue }

/-- Append to the history. -/
def record (event : TraceEvent) : Supervisor :=
  { s with trace := event :: s.trace }

/-- `resolver_cache_entry_query_type`, `none` for a pointer that finds no entry. -/
def entryQueryType (e : EntryId) : Option QueryType :=
  (s.cache.entries e).map (·.queryType)

/-- `resolver_supervisor_metrics_query_type`. -/
def metricsQueryType (e : EntryId) : MetricsQueryType :=
  ((s.entryQueryType e).map QueryType.metrics).getD .other

/-- `resolver_supervisor_metrics_increment`. -/
def increment (counter : SupervisorMetric) : Supervisor :=
  { s with metrics := s.metrics.increment counter }

/-- An increment of the attempt counters that `resolver_supervisor_metrics_attempt_select` finds. -/
def incrementAttempt (e : EntryId) (counter : AttemptCounter) : Supervisor :=
  match s.entryQueryType e with
  | none => s
  | some type => s.increment (.attempt type counter)

/-- An observation of a duration that is recorded by query type. -/
def observeDuration (e : EntryId) (histogram : QueryType → SupervisorHistogram)
    (start finish : Timespec) : Supervisor :=
  match s.entryQueryType e with
  | none => s
  | some type => { s with metrics := s.metrics.observeDuration (histogram type) start finish }

end Supervisor

/-! ## 2. Delays -/

/-- `resolver_supervisor_hash_byte`. -/
def hashByte (hash : UInt64) (value : UInt8) : UInt64 :=
  (hash ^^^ value.toUInt64) * 1099511628211

/-- `resolver_supervisor_hash_u64`: the bytes of the value, most significant first. -/
def hashU64 (hash : UInt64) (value : Nat) : UInt64 :=
  (BigEndian.encode 8 value).foldl hashByte hash

variable (limits : SupervisorLimits) (s : Supervisor)

/-- `resolver_supervisor_delay_jitter`. -/
def delayJitter (baseMilliseconds maximumMilliseconds : Nat)
    (domain : UInt8) (identity attempt : Nat) : Nat :=
  let hash := hashU64 (hashU64 (hashByte 14695981039346656037 domain) identity) attempt
  let factor := 100 + hash.toNat % (limits.jitterPercent * 2 + 1) - limits.jitterPercent
  let delay :=
    if factor = 0 then 0
    else if baseMilliseconds > uint64Max / factor then uint64Max
    else baseMilliseconds * factor / 100
  if delay < maximumMilliseconds then delay else maximumMilliseconds

/-- The doubling loop of the two base delays; `steps` counts the iterations left. -/
def delayDouble (maximum : Nat) : Nat → Nat → Nat
  | 0, delay => delay
  | steps + 1, delay =>
    if delay < maximum then
      if delay > maximum / 2 then maximum else delayDouble maximum steps (delay * 2)
    else delay

/-- `resolver_supervisor_delay_query_base`. -/
def delayQueryBase (retryCount : Nat) : Nat :=
  if retryCount = 0 then 0
  else
    let delay := delayDouble limits.queryRetryMaxMs (retryCount - 1) limits.queryRetryInitialMs
    if delay < limits.queryRetryMaxMs then delay else limits.queryRetryMaxMs

/-- `resolver_supervisor_delay_respawn_base`. -/
def delayRespawnBase (failureCount : Nat) : Nat :=
  if failureCount ≤ 1 then 0
  else
    let delay := delayDouble limits.respawnMaxMs (failureCount - 2) limits.respawnInitialMs
    if delay < limits.respawnMaxMs then delay else limits.respawnMaxMs

/-! ## 3. Jobs -/

/-- `resolver_supervisor_time_update`: the call's time, unless it is not valid or goes back. -/
def timeUpdate (now : Timespec) : Option Supervisor :=
  if ¬ timeutilValid now ∨ timeutilCompare now s.lastNow = .lt then none
  else some { s with lastNow := now }

/-- `resolver_supervisor_job_bucket`. -/
def jobBucket (e : EntryId) : Nat := e % limits.jobLimit

/-- `resolver_supervisor_job_find`. -/
def jobFind (e : EntryId) : Option JobId :=
  (s.buckets (jobBucket limits e)).find? fun j => (s.jobs j).any fun job => decide (job.entry = e)

/-- The response of a job that ends without an answer. -/
def emptyResponse (e : EntryId) (status : LookupStatus) : AssemblyResult where
  completedAt := ⟨0, 0⟩
  dynamicBytes := 0
  payload := if s.entryQueryType e = some .srv then .srv {} else .address {}
  queryId := 0
  -- a job holds a reference to its entry, so the entry is there
  queryType := (s.entryQueryType e).getD .a
  status

/-- `resolver_supervisor_job_complete`. -/
def jobComplete (j : JobId) (publication : PublishStatus)
    (response : AssemblyResult) : Supervisor :=
  match s.jobs j with
  | none => s
  | some job =>
    let s := s.incrementAttempt job.entry .completionEnqueued
    { s.setJob j { job with
        backgroundInterestCount := 0
        interactiveInterestCount := 0
        publication
        response := some response
        state := .complete } with
      completions := s.completions ++ [j] }

/-- `resolver_supervisor_job_queue_first`. -/
def queueFirst : Option JobId :=
  match (s.queues .interactive).ids with
  | j :: _ => some j
  | [] => (s.queues .background).ids.head?

section

variable (j : JobId)

/-- `resolver_supervisor_job_queue_remove`. -/
def queueRemove : Supervisor :=
  match s.jobs j with
  | none => s
  | some job =>
    let queue := s.queues job.priority
    s.setQueue job.priority { ids := queue.ids.erase j, count := queue.count - 1 }

/-- The two ways into a queue, `ids` being the queue with the job in it. -/
def queueInsert (job : Job) (ids : List JobId) : Supervisor :=
  let count := (s.queues job.priority).count + 1
  let s := s.setQueue job.priority { ids, count }
  { s.setJob j { job with state := .queued } with
    metrics := s.metrics.highWater (.queueHighWater job.priority) count }

/-- `resolver_supervisor_job_queue_append`. -/
def queueAppend : Supervisor :=
  match s.jobs j with
  | none => s
  | some job => queueInsert s j job ((s.queues job.priority).ids ++ [j])

/-- `resolver_supervisor_job_queue_prepend`. -/
def queuePrepend : Supervisor :=
  match s.jobs j with
  | none => s
  | some job => queueInsert s j job (j :: (s.queues job.priority).ids)

/-- Unlink a job from its hash chain (`resolver_supervisor_job_hash_remove`) and free it. -/
def jobFree (job : Job) : Supervisor :=
  let bucket := jobBucket limits job.entry
  { s with
    buckets := update s.buckets bucket ((s.buckets bucket).erase j)
    jobs := update s.jobs j none
    jobCount := if s.jobCount > 0 then s.jobCount - 1 else s.jobCount }

/-- `resolver_supervisor_job_destroy`. -/
def jobDestroy : Supervisor :=
  match s.jobs j with
  | none => s
  | some job =>
    let s :=
      match job.state with
      | .queued => queueRemove s j
      -- `resolver_supervisor_job_completion_remove`
      | .complete => { s with completions := s.completions.erase j }
      | _ => s
    let budget := (job.assembly.map (assemblyDestroy s.budget)).getD s.budget
    let budget := (job.response.map (resultDestroy budget)).getD budget
    { jobFree limits s j job with
      budget
      cache := entryRelease limits.toCacheLimits s.cache job.entry }

/-- `resolver_supervisor_job_priority_downgrade` and `resolver_supervisor_job_priority_promote`
    past their tests: a queued job moves to the end of its new queue. -/
def priorityMove (job : Job) (priority : Priority) : Supervisor :=
  if job.state = .queued then
    queueAppend ((queueRemove s j).setJob j { job with priority }) j
  else s.setJob j { job with priority }

/-- `resolver_supervisor_job_priority_downgrade`. -/
def priorityDowngrade : Supervisor :=
  match s.jobs j with
  | none => s
  | some job =>
    if job.priority ≠ .interactive ∨ job.interactiveInterestCount ≠ 0 then s
    else priorityMove s j job .background

/-- `resolver_supervisor_job_priority_promote`. -/
def priorityPromote : Supervisor :=
  match s.jobs j with
  | none => s
  | some job => if job.priority = .interactive then s else priorityMove s j job .interactive

/-- `resolver_supervisor_job_retry`. -/
def jobRetry (now : Timespec) : Supervisor :=
  match s.jobs j with
  | none => s
  | some job =>
    if job.orphaned then jobDestroy limits s j
    else
      let retryCount := if job.retryCount < uint64Max then job.retryCount + 1 else job.retryCount
      let baseDelay := delayQueryBase limits retryCount
      let delay := delayJitter limits baseDelay limits.queryRetryMaxMs 0x51 job.entry retryCount
      match timeutilAddMilliseconds now delay with
      | none =>
        jobComplete (s.setJob j { job with retryCount }) j .time
          (emptyResponse s job.entry .permanentError)
      | some retryAt =>
        (s.setJob j { job with retryCount, retryAt, state := .retryWait }).incrementAttempt
          job.entry .retryScheduled

end

/-- `resolver_supervisor_job_timestamp_valid`. -/
def jobTimestampValid (job : Job) (completedAt now : Timespec) : Bool :=
  timeutilValid completedAt && decide (timeutilCompare completedAt job.dispatchedAt ≠ .lt) &&
    decide (timeutilCompare completedAt job.deadline ≠ .gt) &&
    decide (timeutilCompare completedAt now ≠ .gt)

/-! ## 4. Observations -/

/-- `resolver_supervisor_observation_drop`. -/
def observationDrop : Supervisor := s.increment (.helper .observationDropped)

/-- `resolver_supervisor_observation_push`. -/
def observationPush (observation : Observation) : Supervisor :=
  let s :=
    if s.observationCount = limits.observationCapacity then
      observationDrop { s with
        observationHead := (s.observationHead + 1) % limits.observationCapacity
        observationCount := s.observationCount - 1 }
    else s
  let index := (s.observationHead + s.observationCount) % limits.observationCapacity
  { s with
    observations := update s.observations index (some observation)
    observationCount := s.observationCount + 1 }

/-- `resolver_supervisor_observation_take`. -/
def observationTake : Supervisor × Option Observation :=
  if s.observationCount = 0 then (s, none)
  else
    ({ s with
        observations := update s.observations s.observationHead none
        observationHead := (s.observationHead + 1) % limits.observationCapacity
        observationCount := s.observationCount - 1 },
      s.observations s.observationHead)

/-! ## 5. Helpers -/

/-- What one `send` of the pending request did. -/
inductive SendOutcome where
  | sent | short | wouldBlock | failed
deriving Repr, DecidableEq

/-- The kernel's answers to one attempt to send: the `send` and the `epoll_ctl` after it. -/
structure SendEnv where
  outcome : SendOutcome := .sent
  eventsUpdated : Bool := true
deriving Repr, DecidableEq

/-- The kernel's answers to one assignment of a job. -/
structure AssignEnv extends SendEnv where
  assemblyAllocated : Bool := true
deriving Repr, DecidableEq

/-- What one `recv` from a helper returned.  A received packet brings the outcomes of the
    allocations it causes; an empty record, those of the one or two peeks after it. -/
inductive Receive where
  | packet (data : Bytes) (arraysAllocated payloadAllocated : Bool)
  | empty (isEnd isEndAgain : Bool)
  | wouldBlock
  | failed
deriving Repr, DecidableEq

/-- What starting a helper process did: no process, a process that could not be registered with
    epoll, or a running helper. -/
inductive Spawn where
  | failed
  | unregistered (processId : Int)
  | started (processId : Int)
deriving Repr, DecidableEq

/-- `resolver_supervisor_helper_process_close`, of which the state sees the closed descriptor. -/
def helperClose (helper : Helper) : Helper := { helper with connected := false, processId := -1 }

/-- `resolver_supervisor_helper_recover`. -/
def helperRecover (i : Nat) (recovery : HelperRecovery) (now : Timespec) : Supervisor :=
  let helper := s.helpers i
  if helper.failureCount = 0 then s
  else
    let s := s.increment (.helper (.recovery recovery))
    let s :=
      if helper.cycleId = 0 then observationDrop s
      else
        observationPush limits s (.recovered helper.cycleId helper.degradedAt helper.failureCount
          helper.lastFailure now helper.processId recovery i)
    s.setHelper i { helper with
      consecutiveSuccesses := 0
      cycleId := 0
      degradedAt := ⟨0, 0⟩
      failureCount := 0
      lastFailedProcessId := -1
      lastFailure := none
      nextEventAt := ⟨0, 0⟩ }

/-- The helper that `resolver_supervisor_helper_respawn_schedule` leaves in backoff, and the
    delay it waits for. -/
def helperBackoff (i : Nat) (helper : Helper)
    (failure : HelperFailure) (now : Timespec) : Helper × Nat :=
  let helper :=
    if helper.failureCount = 0 then
      let helper := { helper with degradedAt := now }
      if helper.nextCycleId ≠ 0 then
        { helper with
          cycleId := helper.nextCycleId
          nextCycleId :=
            if helper.nextCycleId = limits.observationCycleIdLimit then 0
            else helper.nextCycleId + 1 }
      else helper
    else helper
  let failureCount :=
    if helper.failureCount < uint64Max then helper.failureCount + 1 else helper.failureCount
  let baseDelay := delayRespawnBase limits failureCount
  let delay :=
    if baseDelay = 0 then 0
    else delayJitter limits baseDelay limits.respawnMaxMs 0x52 i failureCount
  ({ helper with
      failureCount
      lastFailure := some failure
      state := .backoff
      nextEventAt := (timeutilAddMilliseconds now delay).getD now }, delay)

/-- `resolver_supervisor_helper_respawn_schedule`. -/
def respawnSchedule (i : Nat) (failure : HelperFailure) (now : Timespec) : Supervisor :=
  let helper := { s.helpers i with consecutiveSuccesses := 0 }
  if s.shuttingDown then s.setHelper i { helper with state := .stopped, nextEventAt := ⟨0, 0⟩ }
  else
    let (helper, delay) := helperBackoff limits i helper failure now
    let s := (s.setHelper i helper).increment (.helper (.failure failure))
    if helper.cycleId = 0 then observationDrop s
    else
      observationPush limits s (.degraded delay helper.cycleId failure helper.failureCount now
        (if helper.lastFailedProcessId > 0 then helper.lastFailedProcessId else 0) i)

/-- `resolver_supervisor_helper_success`. -/
def helperSuccess (i : Nat) (now : Timespec) : Supervisor :=
  let helper := s.helpers i
  if helper.failureCount = 0 then s
  else
    let successes := helper.consecutiveSuccesses + 1
    let s := s.setHelper i { helper with consecutiveSuccesses := successes }
    if successes ≥ limits.respawnResetSuccessCount then
      helperRecover limits s i .successStreak now
    else s

def assemblyDrop (j : JobId) : Supervisor :=
  match s.jobs j with
  | none => s
  | some job =>
    { s.setJob j job.dropped with
      budget := (job.assembly.map (assemblyDestroy s.budget)).getD s.budget }

/-- A helper gives its job up: `query_id`, `assembly`, `helper->job` and `request_size` are
    cleared, as on every path that takes a job from a helper before it was answered. -/
def helperDetach (i : Nat) (j : JobId) : Supervisor :=
  let s := assemblyDrop s j
  s.setHelper i { s.helpers i with job := none, requestPacket := [] }

/-- `resolver_supervisor_metrics_attempt_failure_record`. -/
def attemptFailureRecord (job : Job) (failure : HelperFailure) (now : Timespec) : Supervisor :=
  if failure = .spawn then s
  else
    (s.incrementAttempt job.entry (.failure failure)).observeDuration job.entry .attemptDuration
      job.dispatchedAt now

/-- `resolver_supervisor_helper_fail`. -/
def helperFail (i : Nat) (failure : HelperFailure) (now : Timespec) : Supervisor :=
  let s := s.setHelper i (s.helpers i).marked
  let s : Supervisor :=
    match (s.helpers i).job with
    | none => s
    | some j =>
      let detached := helperDetach s i j
      match s.jobs j with
      | none => detached
      | some job =>
        if job.state = .dispatched then
          jobRetry limits (attemptFailureRecord detached job failure now) j now
        else queuePrepend detached j
  let s := s.setHelper i (helperClose (s.helpers i))
  respawnSchedule limits s i failure now

/-- `resolver_supervisor_helper_spawn`. -/
def helperSpawn (i : Nat) (spawn : Spawn) (now : Timespec) : Supervisor :=
  let s := s.increment (.helper .spawnAttempt)
  let helper := s.helpers i
  match spawn with
  | .failed =>
    respawnSchedule limits (s.setHelper i { helper with lastFailedProcessId := -1 }) i .spawn now
  | .unregistered processId =>
    respawnSchedule limits (s.setHelper i { helper with lastFailedProcessId := processId }) i
      .spawn now
  | .started processId =>
    let nextEventAt :=
      if helper.failureCount > 0 then
        (timeutilAddSeconds now limits.respawnResetStableSec).getD now
      else now
    (s.setHelper i { helper with
      connected := true
      nextEventAt
      processId
      state := .idle }).increment (.helper .spawnSuccess)

/-- `resolver_supervisor_helper_stop`. -/
def helperStop (i : Nat) : Supervisor :=
  s.setHelper i { helperClose (s.helpers i) with state := .stopped, nextEventAt := ⟨0, 0⟩ }

/-- `resolver_supervisor_send_status`. -/
inductive SendStatus where
  | ok | io | time
deriving Repr, DecidableEq

/-- `resolver_supervisor_helper_request_send`, of the request of job `j`. -/
def requestSend (i : Nat) (j : JobId) (now : Timespec) (env : SendEnv) : Supervisor × SendStatus :=
  match timeutilAddSeconds now limits.queryTimeoutSec, s.jobs j with
  | none, _ => (s, .time)
  | _, none => (s, .io)
  | some deadline, some job =>
    let helper := s.helpers i
    let updated := if env.eventsUpdated then SendStatus.ok else .io
    match env.outcome with
    | .sent =>
      let sent : Job := { job with state := .dispatched, dispatchedAt := now, deadline }
      let s := s.setJob j sent
      -- `resolver_supervisor_metrics_dispatch_record`
      let s := (s.incrementAttempt job.entry .dispatched).observeDuration job.entry
        (.dispatchWait job.priority) job.dispatchWaitAt now
      ((s.setHelper i { helper with requestPacket := [], state := .busy }).record
        (.sent j now deadline), updated)
    | .short => (s, .io)
    | .wouldBlock =>
      ((s.setJob j { job with state := .sending }).setHelper i { helper with state := .sending },
        updated)
    | .failed => (s, .io)

/-- `resolver_supervisor_query_id_allocate`: the counter wraps to zero once, and stays there. -/
def queryIdAllocate : Option (Supervisor × Nat) :=
  if s.nextQueryId = 0 then none
  else
    some ({ s with nextQueryId := if s.nextQueryId = uint64Max then 0 else s.nextQueryId + 1 },
      s.nextQueryId)

/-- `resolver_supervisor_assign_status`. -/
inductive AssignStatus where
  | ok | retry | limit | time | io
deriving Repr, DecidableEq

/-- The end of `resolver_supervisor_helper_job_assign`: slot `i` gets the job, with its assembly,
    and the request is sent. -/
def assignSend (i : Nat) (j : JobId) (job : Job)
    (requestPacket : Bytes) (now : Timespec) (env : SendEnv) : Supervisor × AssignStatus :=
  let s := s.setJob j job
  let s := (s.setHelper i { s.helpers i with job := some j, requestPacket }).record
    (.assigned j job.entry job.queryId)
  match requestSend limits s i j now env with
  | (s, .time) =>
    let s := helperDetach s i j
    (s.setHelper i { s.helpers i with state := .idle }, .time)
  | (s, .ok) => (s, .ok)
  | (s, .io) => (s, .io)

/-- `resolver_supervisor_helper_job_assign`. -/
def jobAssign (i : Nat) (j : JobId)
    (now : Timespec) (env : AssignEnv) : Supervisor × AssignStatus :=
  match timeutilAddSeconds now limits.queryTimeoutSec, s.jobs j with
  | none, _ => (s, .time)
  | _, none => (s, .retry)
  | some deadline, some job =>
    let s := s.setJob j { job with deadline }
    match queryIdAllocate s with
    | none => (s, .limit)
    | some (s, queryId) =>
      match s.cache.entries job.entry with
      | none => (s, .retry)
      | some entry =>
        match assemblyCreate limits.toAssemblyLimits s.budget entry.name classIn entry.queryType
            queryId env.assemblyAllocated with
        | (budget, .error _) => ({ s with budget }, .retry)
        | (budget, .ok assembly) =>
          let request : Request :=
            { queryName := entry.name, queryClass := classIn, queryId,
              queryType := entry.queryType }
          match requestEncode request ipcPacketByteLimit with
          | .error _ => ({ s with budget := assemblyDestroy budget assembly }, .limit)
          | .ok requestPacket =>
            assignSend limits { s with budget } i j
              { job with deadline, assembly := some assembly, queryId, slotIndex := i }
              requestPacket now env.toSendEnv

end MinecraftRelay
