/-
  File:      Resolver/Supervisor/Books.lean
  Subject:   THE BOOKS OF THE SUPERVISOR: what its counters, its jobs' references, the answers of
             its completions and the times it waits for have to do with its jobs.

  The functions of supervisor.c count an event at one place and write the job at another.  In
  between, the job is in the hand of the running function (`hand`): whatever its state says, it is
  in no count.

  `Booked` says that the books are right; it has one rule for each thing that happens to a job
  between two counts.  That the functions follow these rules is Refinement.lean and Rounds.lean.
-/
import MinecraftRelay.Library.Ledger
import MinecraftRelay.Resolver.Cache.References
import MinecraftRelay.Resolver.Supervisor.Calls

namespace MinecraftRelay

open Placement
open Function (update update_apply update_idem update_of_ne update_self)

variable {x : Option Job} {e : EntryId} {k : AttemptCounter}

/-! ## 1. The books -/

/-- What the books are kept of. -/
structure Books where
  cache : Cache
  jobs : JobId → Option Job
  nextJob : JobId
  helpers : Nat → Helper
  metrics : MetricsState SupervisorMetric SupervisorHistogram

/-- The books of a supervisor. -/
def Supervisor.books (s : Supervisor) : Books :=
  { cache := s.cache, jobs := s.jobs, nextJob := s.nextJob, helpers := s.helpers,
    metrics := s.metrics }

/-- The ways an attempt ends. -/
def attemptOutcomes : List AttemptCounter :=
  [.response .ok, .response .badArgument, .response .limit, .response .malformed,
    .response .memory, .response .nodata, .response .notFound, .response .permanentError,
    .response .temporaryError, .response .truncated, .failure .exit, .failure .io,
    .failure .protocol, .failure .spawn, .failure .timeout, .attemptAbandonedShutdown]

/-- The ways a completion leaves the supervisor. -/
def completionOutcomes : List AttemptCounter := [.completionTaken, .completionAbandonedShutdown]

/-- What goes into the supervisor and comes out of it. -/
inductive Flow
  | attempt
  | completion
  deriving DecidableEq

namespace Flow

/-- The counter of what goes in. -/
def source : Flow → AttemptCounter
  | attempt => .dispatched
  | completion => .completionEnqueued

/-- The counters of what comes out. -/
def outcomes : Flow → List AttemptCounter
  | attempt => attemptOutcomes
  | completion => completionOutcomes

/-- The state of the jobs in between. -/
def state : Flow → JobState
  | attempt => .dispatched
  | completion => .complete

end Flow

/-- The counters of attempts and completions. -/
def SupervisorMetric.Booked : SupervisorMetric → Prop
  | .attempt _ counter =>
    counter ∈ .dispatched :: attemptOutcomes ++ .completionEnqueued :: completionOutcomes
  | _ => False

/-- A response that the owners of an entry of this type accept with this publication. -/
structure Deliverable (type : Option QueryType) (publication : PublishStatus)
    (response : AssemblyResult) : Prop where
  type : type = some response.queryType
  status : response.status ≠ .temporaryError
  time : timeutilValid response.completedAt = true
  payload : match response.payload with
    | .address _ => response.queryType ≠ .srv
    | .srv _ => response.queryType = .srv
  /-- what the cache did not keep although it is valid is there, and within its limit -/
  records : publication = .transient → response.status = .ok →
    match response.payload with
    | .address result => 0 < result.records.length ∧ result.records.length ≤ addressRecordLimit
    | .srv result => 0 < result.records.length ∧ result.records.length ≤ srvRecordLimit

/-- One, for a job in this state whose entry has this type. -/
def Job.share (state : JobState) (type : QueryType) (typeOf : EntryId → Option QueryType) :
    Option Job → Nat
  | none => 0
  | some job => if job.state = state ∧ typeOf job.entry = some type then 1 else 0

/-- One, for a job of this entry. -/
def Job.entryShare (e : EntryId) : Option Job → Nat
  | none => 0
  | some job => if job.entry = e then 1 else 0

namespace Books

/-- The type of an entry. -/
def typeOf (b : Books) (e : EntryId) : Option QueryType := (b.cache.entries e).map (·.queryType)

/-- The jobs, but not the one in the hand. -/
def outside (b : Books) (hand : Option JobId) (k : JobId) : Option Job :=
  if hand = some k then none else b.jobs k

/-- The number of jobs of a type in a state, without the one in the hand. -/
def inState (b : Books) (state : JobState) (type : QueryType) (hand : Option JobId) : Nat :=
  ∑ k ∈ Finset.range b.nextJob, Job.share state type b.typeOf (b.outside hand k)

/-- The number of jobs of an entry. -/
def jobsOf (b : Books) (e : EntryId) : Nat :=
  ∑ k ∈ Finset.range b.nextJob, Job.entryShare e (b.jobs k)

/-- What went in and did not come out are the jobs in between: the attempts without an outcome are
    the DISPATCHED jobs, the completions that were not taken the COMPLETE ones. -/
def Conserved (b : Books) (metrics : MetricsState SupervisorMetric SupervisorHistogram)
    (hand : Option JobId) : Prop :=
  ∀ (flow : Flow) (type : QueryType), metrics.Conserves (.attempt type flow.source)
    (flow.outcomes.map (.attempt type)) (b.inState flow.state type hand)

end Books

/-- A job that waits for a time: a DISPATCHED one in its slot, or one in RETRY_WAIT. -/
structure Wait where
  job : JobId
  state : JobState
  slotIndex : Nat
  time : Timespec

/-- What job `j` waits for. -/
def Job.waiting (job : Job) (j : JobId) : Option Wait :=
  job.waitsFor.map fun time => ⟨j, job.state, job.slotIndex, time⟩

/-- Job `j` fits the type of its entry and waits as it may. -/
structure Job.Fit (W : Wait → Prop) (type : Option QueryType) (j : JobId) (job : Job) : Prop where
  /-- an assembly asks what the entry of its job stands for -/
  asked : ∀ a, job.assembly = some a → type = some a.queryType
  answered : job.state = .complete → ∃ response, job.response = some response ∧
    Deliverable type job.publication response
  waits : ∀ w, job.waiting j = some w → W w

/-- **The books are right**, when others hold `refs` references to the entries and the jobs wait
    only as `W` allows. -/
structure Booked (limits : SupervisorLimits) (W : Wait → Prop) (refs : EntryId → Nat)
    (b : Books) (hand : Option JobId) : Prop where
  cache : CacheSound limits.toCacheLimits b.cache
  fresh : ∀ j, b.nextJob ≤ j → b.jobs j = none
  /-- every job has a reference of its own to its entry -/
  owned : ∀ e, refs e + b.jobsOf e ≤ b.cache.references e
  conserved : b.Conserved b.metrics hand
  fit : ∀ j job, b.jobs j = some job → job.Fit W (b.typeOf job.entry) j
  events : ∀ i, timeutilValid (b.helpers i).nextEventAt = true

/-- The times that a call at `now` makes jobs wait for are allowed. -/
structure Arms (limits : SupervisorLimits) (now : Timespec) (W : Wait → Prop) :
    Prop where
  valid : timeutilValid now = true
  deadline : ∀ j i t, timeutilAddSeconds now limits.queryTimeoutSec = some t →
    W ⟨j, .dispatched, i, t⟩
  retry : ∀ j i t e retryCount, 0 < retryCount →
    timeutilAddMilliseconds now (delayJitter limits (delayQueryBase limits retryCount)
      limits.queryRetryMaxMs 0x51 e retryCount) = some t → W ⟨j, .retryWait, i, t⟩

/-! ## 2. Counting jobs -/

section Counting

variable {b : Books} {j : JobId} {job job' : Job} {state : JobState} {type : QueryType}

theorem Job.share_of_ne (h : job.state ≠ state) (typeOf : EntryId → Option QueryType) :
    Job.share state type typeOf (some job) = 0 :=
  if_neg fun hs => h hs.1

theorem Books.outside_none (b : Books) : b.outside none = b.jobs := by
  funext k
  exact if_neg nofun

theorem Books.outside_some (b : Books) (j : JobId) :
    b.outside (some j) = update b.jobs j none := by
  funext k
  grind [Books.outside, update_apply]

/-- Whatever is written into the job in the hand changes no count. -/
theorem Books.inState_hand (b : Books) (x : Option Job) :
    ({ b with jobs := update b.jobs j x } : Books).inState state type (some j) =
      b.inState state type (some j) := by
  unfold Books.inState
  rw [Books.outside_some, Books.outside_some, update_idem]
  rfl

/-- A job goes into the hand, or comes out of it. -/
theorem Books.inState_take (hlt : j < b.nextJob) :
    b.inState state type none =
      b.inState state type (some j) + Job.share state type b.typeOf (b.jobs j) := by
  unfold Books.inState
  rw [Books.outside_none, Books.outside_some]
  exact (Ledger.sum_range_update (Job.share state type b.typeOf) hlt none).symm

/-- A job that the count does not know. -/
theorem Books.inState_of_ne (hlt : j < b.nextJob) (hj : b.jobs j = some job)
    (hs : job.state ≠ state) :
    b.inState state type none = b.inState state type (some j) := by
  rw [Books.inState_take hlt, hj, Job.share_of_ne hs, Nat.add_zero]

/-- A job of one flow, in the count of another. -/
theorem Books.inState_flow {flow : Flow} (hlt : j < b.nextJob) (hj : b.jobs j = some job)
    (hs : job.state = flow.state) (ht : b.typeOf job.entry = some type) (flow' : Flow)
    (type' : QueryType) :
    b.inState flow'.state type' none =
      b.inState flow'.state type' (some j) + if flow = flow' ∧ type = type' then 1 else 0 := by
  have hstate : flow.state = flow'.state ↔ flow = flow' := by
    cases flow <;> cases flow' <;> decide
  rw [Books.inState_take hlt, hj]
  simp [Job.share, hs, ht, hstate]

/-- A job comes out of the hand as `x`. -/
theorem Books.inState_put (hlt : j < b.nextJob) (x : Option Job) :
    ({ b with jobs := update b.jobs j x } : Books).inState state type none =
      b.inState state type (some j) + Job.share state type b.typeOf x := by
  rw [Books.inState_take (b := { b with jobs := update b.jobs j x }) (j := j) hlt,
    Books.inState_hand]
  simp only [update_self]
  rfl

theorem Books.jobsOf_edit (b' : Books) (hlt : j < b.nextJob)
    (hn : b'.nextJob = b.nextJob) (hjobs : b'.jobs = update b.jobs j x) (e : EntryId) :
    b'.jobsOf e + Job.entryShare e (b.jobs j) = b.jobsOf e + Job.entryShare e x := by
  unfold Books.jobsOf
  rw [hjobs, hn]
  exact Ledger.sum_range_update (Job.entryShare e) hlt x

/-- An entry that is referenced all along keeps its type. -/
theorem Books.typeOf_counted {c : Cache} {n : EntryId → Nat}
    (hc : Counted b.cache c n) (hbefore : 0 < b.cache.references e) (hafter : 0 < n e) :
    ({ b with cache := c } : Books).typeOf e = b.typeOf e := by
  have hsnd : ∀ d : Cache, (d.entries e).map (·.queryType) = (d.question e).map Prod.snd := by
    intro d
    rw [Cache.question, Option.map_map]
    rfl
  unfold Books.typeOf
  rw [hsnd, hsnd, hc.same e hbefore (by rw [hc.count]; exact hafter)]

end Counting

/-! The counters of one flow and one type are apart from those of another. -/

namespace Flow

variable {type : QueryType}

theorem booked (flow : Flow) (h : k ∈ flow.source :: flow.outcomes) :
    (SupervisorMetric.attempt type k).Booked := by
  cases flow
  · exact List.mem_append_left _ h
  · exact List.mem_append_right _ h

theorem outcomes_nodup (flow : Flow) :
    (flow.outcomes.map (SupervisorMetric.attempt type)).Nodup := by
  have hnodup : flow.outcomes.Nodup := by cases flow <;> decide
  exact hnodup.map fun _ _ e => (SupervisorMetric.attempt.inj e).2

theorem source_not_mem (flow : Flow) :
    SupervisorMetric.attempt type flow.source ∉ flow.outcomes.map (.attempt type) := by
  have hsource : flow.source ∉ flow.outcomes := by cases flow <;> decide
  intro hmem
  obtain ⟨k, hk, e⟩ := List.mem_map.1 hmem
  exact hsource ((SupervisorMetric.attempt.inj e).2 ▸ hk)

theorem apart {flow flow' : Flow} {type' : QueryType} (hne : ¬ (flow = flow' ∧ type = type'))
    (hk : k ∈ flow.source :: flow.outcomes) :
    SupervisorMetric.attempt type' flow'.source ≠ .attempt type k ∧
      SupervisorMetric.attempt type k ∉ flow'.outcomes.map (.attempt type') := by
  have hcounters : flow ≠ flow' → ∀ k ∈ flow.source :: flow.outcomes,
      flow'.source ≠ k ∧ k ∉ flow'.outcomes := by
    cases flow <;> cases flow' <;> decide
  refine ⟨?_, fun hmem => ?_⟩
  · rintro ⟨⟩
    exact hne ⟨by_contra fun h => (hcounters h _ hk).1 rfl, rfl⟩
  · obtain ⟨k', hk', e⟩ := List.mem_map.1 hmem
    obtain ⟨rfl, rfl⟩ := SupervisorMetric.attempt.inj e
    exact hne ⟨by_contra fun h => (hcounters h _ hk).2 hk', rfl⟩

end Flow

/-! ## 3. The rules -/

namespace Booked

variable {limits : SupervisorLimits} {W : Wait → Prop} {refs : EntryId → Nat} {b : Books}
  {hand : Option JobId} {j : JobId} {job job' : Job} {type : QueryType}
  {metrics' : MetricsState SupervisorMetric SupervisorHistogram}

section

variable (h : Booked limits W refs b hand) (hj : b.jobs j = some job)

include h hj

theorem lt_next : j < b.nextJob := by
  by_contra hle
  rw [h.fresh j (Nat.le_of_not_lt hle)] at hj
  cases hj

/-- The entry of a job has one. -/
theorem jobsOf_pos : 0 < b.jobsOf job.entry := by
  have hcount := Books.jobsOf_edit { b with jobs := update b.jobs j none } (h.lt_next hj)
    rfl rfl job.entry
  rw [hj, show Job.entryShare job.entry (some job) = 1 from if_pos rfl,
    show Job.entryShare job.entry none = 0 from rfl] at hcount
  omega

/-- The entry of a job is referenced. -/
theorem referenced :
    refs job.entry < b.cache.references job.entry := by
  have howned := h.owned job.entry
  have hpos := h.jobsOf_pos hj
  omega

theorem typed :
    ∃ type, b.typeOf job.entry = some type := by
  have hpos := h.referenced hj
  obtain ⟨entry, he⟩ := Cache.references_pos (Nat.zero_lt_of_lt hpos)
  exact ⟨entry.queryType, by rw [Books.typeOf, he]; rfl⟩

/-- The general rule for a write to a job that keeps its entry. -/
theorem rejob {hand' : Option JobId} (he : job'.entry = job.entry)
    (hconserved : ({ b with jobs := update b.jobs j (some job') } : Books).Conserved
      metrics' hand')
    (hfit : job'.Fit W (b.typeOf job.entry) j) :
    Booked limits W refs
      { b with jobs := update b.jobs j (some job'), metrics := metrics' } hand' where
  cache := h.cache
  fresh := by
    intro k hk
    have hne : k ≠ j := fun he => absurd (h.lt_next hj) (Nat.not_lt.2 (he ▸ hk))
    show update b.jobs j (some job') k = none
    rw [update_of_ne hne]
    exact h.fresh k hk
  owned := by
    intro e
    have hcount := Books.jobsOf_edit
      { b with jobs := update b.jobs j (some job'), metrics := metrics' } (h.lt_next hj)
      rfl rfl e
    have hsame : Job.entryShare e (some job') = Job.entryShare e (b.jobs j) := by
      rw [hj]
      show (if job'.entry = e then 1 else 0) = if job.entry = e then 1 else 0
      rw [he]
    rw [hsame, Nat.add_right_cancel_iff] at hcount
    rw [hcount]
    exact h.owned e
  conserved := hconserved
  fit := by
    intro k job₁ hk
    rcases update_some hk with ⟨rfl, rfl⟩ | ⟨_, hk⟩
    · rw [he]
      exact hfit
    · exact h.fit k job₁ hk
  events := h.events

end

/-- Counters that the books do not know. -/
theorem counters (h : Booked limits W refs b hand)
    (hm : MetricsState.Leaves SupervisorMetric.Booked b.metrics metrics') :
    Booked limits W refs { b with metrics := metrics' } hand := by
  refine { h with conserved := fun flow type => ?_ }
  refine (h.conserved flow type).of_eq (fun k hk => hm.counters k ?_) hm.saturation
  rcases List.mem_cons.1 hk with rfl | hk
  · exact flow.booked List.mem_cons_self
  · obtain ⟨counter, hc, rfl⟩ := List.mem_map.1 hk
    exact flow.booked (List.mem_cons_of_mem _ hc)

/-- A slot is written, with a valid time of its next event. -/
theorem helper (h : Booked limits W refs b hand) (i : Nat) (helper : Helper)
    (hv : timeutilValid helper.nextEventAt = true) :
    Booked limits W refs { b with helpers := update b.helpers i helper } hand := by
  refine { h with events := fun k => ?_ }
  show timeutilValid (update b.helpers i helper k).nextEventAt = true
  have hevent := h.events k
  grind [update_apply]

/-- The counts that a rule asks for, from those with the job in the hand. -/
theorem written (h : Booked limits W refs b (some j)) (x : Option Job) :
    ({ b with jobs := update b.jobs j x } : Books).Conserved b.metrics (some j) := by
  intro flow type
  rw [Books.inState_hand]
  exact h.conserved flow type

/-- The job in the hand is written. -/
theorem write (h : Booked limits W refs b (some j)) (job' : Job) (hj : b.jobs j = some job)
    (he : job'.entry = job.entry) (hfit : job'.Fit W (b.typeOf job.entry) j) :
    Booked limits W refs { b with jobs := update b.jobs j (some job') } (some j) :=
  h.rejob hj he (h.written _) hfit

theorem uncounted (hlt : j < b.nextJob) (hj : b.jobs j = some job)
    (hd : job.state ≠ .dispatched) (hc : job.state ≠ .complete) (flow : Flow) :
    b.inState flow.state type none = b.inState flow.state type (some j) :=
  Books.inState_of_ne hlt hj (by cases flow; exacts [hd, hc])

/-- A job that no count knows goes into the hand. -/
theorem take (h : Booked limits W refs b none) (hj : b.jobs j = some job)
    (hd : job.state ≠ .dispatched) (hc : job.state ≠ .complete) :
    Booked limits W refs b (some j) :=
  { h with
    conserved := fun flow type => uncounted (h.lt_next hj) hj hd hc flow ▸ h.conserved flow type }

/-- A job that no count knows comes out of the hand. -/
theorem put (h : Booked limits W refs b (some j)) (hj : b.jobs j = some job)
    (hd : job.state ≠ .dispatched) (hc : job.state ≠ .complete) : Booked limits W refs b none :=
  { h with
    conserved := fun flow type => uncounted (h.lt_next hj) hj hd hc flow ▸ h.conserved flow type }

/-- The end of an attempt or a completion is counted: the job goes into the hand. -/
theorem settle (flow : Flow) (h : Booked limits W refs b none) (hj : b.jobs j = some job)
    (hs : job.state = flow.state) (ht : b.typeOf job.entry = some type)
    (hk : k ∈ flow.outcomes) :
    Booked limits W refs { b with metrics := b.metrics.increment (.attempt type k) } (some j) := by
  refine { h with conserved := fun flow' type' => ?_ }
  have hcount := h.conserved flow' type'
  rw [Books.inState_flow (h.lt_next hj) hj hs ht] at hcount
  by_cases hsame : flow = flow' ∧ type = type'
  · obtain ⟨rfl, rfl⟩ := hsame
    rw [if_pos ⟨rfl, rfl⟩] at hcount
    exact hcount.leave flow.source_not_mem flow.outcomes_nodup (List.mem_map_of_mem hk)
  · rw [if_neg hsame] at hcount
    obtain ⟨hsource, houtcomes⟩ := Flow.apart hsame (List.mem_cons_of_mem _ hk)
    exact hcount.other hsource houtcomes

/-- A request is sent or a job completes, and that is counted: the job comes out of the hand. -/
theorem register (h : Booked limits W refs b (some j)) (job' : Job) (hj : b.jobs j = some job)
    (he : job'.entry = job.entry) (flow : Flow) (hs : job'.state = flow.state)
    (ht : b.typeOf job.entry = some type) (hfit : job'.Fit W (b.typeOf job.entry) j) :
    Booked limits W refs
      { b with
        jobs := update b.jobs j (some job')
        metrics := b.metrics.increment (.attempt type flow.source) } none := by
  refine h.rejob hj he (fun flow' type' => ?_) hfit
  have hcount := h.written (some job') flow' type'
  rw [Books.inState_flow (b := { b with jobs := update b.jobs j (some job') }) (h.lt_next hj)
    (update_self ..) hs (by rw [he]; exact ht)]
  by_cases hsame : flow = flow' ∧ type = type'
  · obtain ⟨rfl, rfl⟩ := hsame
    rw [if_pos ⟨rfl, rfl⟩]
    exact hcount.enter flow.source_not_mem
  · rw [if_neg hsame]
    obtain ⟨hsource, houtcomes⟩ := Flow.apart hsame List.mem_cons_self
    exact hcount.other hsource houtcomes

/-- A job is written that stays in its state. -/
theorem amend (h : Booked limits W refs b hand) (job' : Job) (hj : b.jobs j = some job)
    (he : job'.entry = job.entry) (hs : job'.state = job.state)
    (hasked : ∀ a, job'.assembly = some a → b.typeOf job.entry = some a.queryType)
    (hresponse : job'.response = job.response) (hpublication : job'.publication = job.publication)
    (hwaits : job'.waiting j = job.waiting j) :
    Booked limits W refs { b with jobs := update b.jobs j (some job') } hand := by
  have hsame : ∀ state type, ({ b with jobs := update b.jobs j (some job') } : Books).inState
      state type hand = b.inState state type hand := by
    intro state type
    refine Finset.sum_congr rfl fun k _ => ?_
    unfold Books.outside
    split
    · rfl
    show Job.share state type b.typeOf (update b.jobs j (some job') k) = _
    grind [Job.share, update_apply]
  refine h.rejob hj he ?_ ⟨hasked, ?_, ?_⟩
  · intro flow type
    rw [hsame]
    exact h.conserved flow type
  · rw [hs, hresponse, hpublication]
    exact (h.fit j job hj).answered
  · rw [hwaits]
    exact (h.fit j job hj).waits

/-- The job in the hand is freed; its reference is somebody else's now. -/
theorem free (h : Booked limits W refs b (some j)) (hj : b.jobs j = some job) :
    Booked limits W (fun e => refs e + if job.entry = e then 1 else 0)
      { b with jobs := update b.jobs j none } none := by
  have hlt := h.lt_next hj
  refine { h with
    fresh := ?_, owned := ?_, conserved := ?_
    fit := fun k job₁ hk => h.fit k job₁ (update_none hk).2 }
  · intro k hk
    have hfresh := h.fresh k hk
    grind [update_apply]
  · intro e
    have hcount := Books.jobsOf_edit { b with jobs := update b.jobs j none } hlt rfl rfl e
    have howned := h.owned e
    have hnone : Job.entryShare e none = 0 := rfl
    have hshare : Job.entryShare e (b.jobs j) = if job.entry = e then 1 else 0 := by rw [hj]; rfl
    dsimp only
    omega
  · intro flow type
    rw [Books.inState_put hlt]
    exact h.conserved flow type

/-- A reference that somebody holds becomes the reference of a new job, which is in the hand. -/
theorem create (h : Booked limits W (fun e => refs e + if job.entry = e then 1 else 0) b none)
    (hd : job.state ≠ .dispatched) (hc : job.state ≠ .complete) (ha : job.assembly = none)
    (hw : job.waitsFor = none) :
    Booked limits W refs
      { b with jobs := update b.jobs b.nextJob (some job), nextJob := b.nextJob + 1 }
      (some b.nextJob) := by
  have hinState : ∀ state type,
      ({ b with jobs := update b.jobs b.nextJob (some job), nextJob := b.nextJob + 1 } :
        Books).inState state type (some b.nextJob) = b.inState state type none := by
    intro state type
    unfold Books.inState
    rw [Books.outside_some, Books.outside_none, update_idem]
    exact Ledger.sum_range_grow (Job.share state type b.typeOf) none
  refine { h with
    fresh := ?_, owned := ?_, fit := ?_
    conserved := fun flow type => by rw [hinState]; exact h.conserved flow type }
  · intro k hk
    show update b.jobs b.nextJob (some job) k = none
    rw [update_of_ne (Nat.ne_of_gt hk)]
    exact h.fresh k (Nat.le_of_lt hk)
  · intro e
    have howned := h.owned e
    have hcount : ({ b with
        jobs := update b.jobs b.nextJob (some job), nextJob := b.nextJob + 1 } :
        Books).jobsOf e = b.jobsOf e + if job.entry = e then 1 else 0 :=
      Ledger.sum_range_grow (Job.entryShare e) (some job)
    dsimp only
    omega
  · intro k job₁ hk
    rcases update_some hk with ⟨_, rfl⟩ | ⟨_, hk⟩
    · exact ⟨fun a hassembly => absurd (ha.symm.trans hassembly) nofun, fun hs => absurd hs hc,
        fun w hwait => by rw [Job.waiting, hw] at hwait; cases hwait⟩
    · exact h.fit k job₁ hk

/-! Whoever shares an entry. -/

/-- Others hold fewer references than was said. -/
theorem weaken {refs' : EntryId → Nat} (h : Booked limits W refs b hand)
    (hle : ∀ e, refs' e ≤ refs e) : Booked limits W refs' b hand :=
  { h with owned := fun e => (Nat.add_le_add_right (hle e) _).trans (h.owned e) }

/-- The cache changes, and still every job has its reference. -/
theorem recache {refs' n : EntryId → Nat} {c : Cache} (h : Booked limits W refs b hand)
    (hsound : CacheSound limits.toCacheLimits c) (hc : Counted b.cache c n)
    (howned : ∀ e, refs' e + b.jobsOf e ≤ n e) :
    Booked limits W refs' { b with cache := c } hand := by
  have htype : ∀ {k : JobId} {job₁ : Job}, b.jobs k = some job₁ →
      ({ b with cache := c } : Books).typeOf job₁.entry = b.typeOf job₁.entry := by
    intro k job₁ hk
    refine Books.typeOf_counted hc (Nat.zero_lt_of_lt (h.referenced hk)) ?_
    have hpos := h.jobsOf_pos hk
    have := howned job₁.entry
    omega
  have hinState : ∀ state type, ({ b with cache := c } : Books).inState state type hand =
      b.inState state type hand := by
    intro state type
    refine Finset.sum_congr rfl fun k _ => ?_
    show Job.share state type _ (b.outside hand k) = Job.share state type _ (b.outside hand k)
    cases hk : b.outside hand k with
    | none => rfl
    | some job₁ =>
      have hjob : b.jobs k = some job₁ := by
        unfold Books.outside at hk
        split at hk
        · cases hk
        · exact hk
      show (if _ ∧ _ then 1 else 0) = if _ ∧ _ then 1 else 0
      rw [htype hjob]
  exact { h with
    cache := hsound
    owned := fun e => by rw [hc.count]; exact howned e
    conserved := fun flow type => by rw [hinState]; exact h.conserved flow type
    fit := fun k job₁ hk => by rw [htype hk]; exact h.fit k job₁ hk }

theorem retain (h : Booked limits W refs b hand) (ht : (entryRetain b.cache e).2 = true) :
    Booked limits W (fun x => refs x + if e = x then 1 else 0)
      { b with cache := (entryRetain b.cache e).1 } hand := by
  refine h.recache (entryRetain_moves.sound h.cache) (entryRetain_counted ht) fun x => ?_
  have howned := h.owned x
  grind

theorem release
    (h : Booked limits W (fun x => refs x + if e = x then 1 else 0) b hand) :
    Booked limits W refs { b with cache := entryRelease limits.toCacheLimits b.cache e } hand := by
  have hpos : 0 < b.cache.references e := by
    have howned := h.owned e
    rw [if_pos rfl] at howned
    omega
  refine h.recache (entryRelease_moves.sound h.cache) (entryRelease_counted hpos) fun x => ?_
  have howned := h.owned x
  grind

theorem view {now : Timespec} (h : Booked limits W refs b hand) :
    Booked limits W refs { b with cache := (entryView b.cache e now).1 } hand :=
  h.recache (entryView_moves.sound h.cache) entryView_counted h.owned

theorem acquire (h : Booked limits W refs b hand) (queryName : Bytes) (queryType : Nat)
    (allocated : Bool) :
    Booked limits W
      (fun x => refs x + if (entryAcquire limits.toCacheLimits b.cache queryName queryType
        allocated).2.2 = some x then 1 else 0)
      { b with
        cache := (entryAcquire limits.toCacheLimits b.cache queryName queryType allocated).1 }
      hand := by
  refine h.recache ((entryAcquire_moves h.cache queryName queryType allocated).sound h.cache)
    (entryAcquire_counted h.cache queryName queryType allocated) fun x => ?_
  have howned := h.owned x
  omega

theorem publish {ρ : Type} {type : DnsResult ρ → AnyResult} {validate : ResultCheck}
    {size : Option Nat} {completedAt : Timespec} {result : DnsResult ρ} {allocated : Bool}
    (h : Booked limits W refs b hand) :
    Booked limits W refs
      { b with
        cache := (entryPublish limits.toCacheLimits b.cache e type validate size completedAt
          result allocated).1 } hand :=
  h.recache (entryPublish_moves.sound h.cache) entryPublish_counted h.owned

end Booked

end MinecraftRelay
