/-
  File:      Resolver/Supervisor/Board.lean
  Subject:   THE JOB BOARD: what the supervisor does to its jobs, as an abstract machine.

  The board is the part of the supervisor's state that places jobs: the hash chains, the two
  queues, the completion list, the helper slots, the jobs themselves, the cache and the history.
  Counters, timers, budgets and observations are not on it.  While a function of the supervisor
  runs, one job may be in no list (the function holds it in a local variable: `loose`), one
  helper slot may be between two states (`opened`), and a shutdown may be giving all jobs up
  (`stopping`); between two calls none of this is the case.

  * `Move` -- the twenty-odd things that can happen to the board, with the interest they add or
    take as a label;
  * `Placed` -- every job is where its state says, the counts are exact, and the rest of the
    invariant;
  * `Move.placed`, `Steps.placed` -- every move, hence every sequence of moves, keeps it.

  That the functions of supervisor.c make only such moves is Refinement.lean.
-/
import MinecraftRelay.Library.Placement
import MinecraftRelay.Resolver.Supervisor.Calls

namespace MinecraftRelay

open Placement
open Function (update update_apply update_eq_self_iff update_of_ne update_self)

/-! ## 1. The board -/

/-- The lists a job can be in. -/
inductive Place where
  | queue (priority : Priority)
  | completions
  | helper (slot : Nat)
deriving Repr, DecidableEq

/-- The list that the state of a job names; a job waiting for a retry is in none. -/
def Job.place (job : Job) : Option Place :=
  match job.state with
  | .queued => some (.queue job.priority)
  | .sending => some (.helper job.slotIndex)
  | .dispatched => some (.helper job.slotIndex)
  | .retryWait => none
  | .complete => some .completions

theorem Job.place_eq_queue {job : Job} {p : Priority} (h : job.place = some (.queue p)) :
    job.state = .queued ∧ job.priority = p := by
  unfold Job.place at h
  split at h <;> cases h
  exact ⟨‹_›, rfl⟩

theorem Job.place_eq_completions {job : Job} (h : job.place = some .completions) :
    job.state = .complete := by
  unfold Job.place at h
  split at h <;> cases h
  assumption

theorem Job.place_eq_helper {job : Job} {i : Nat} (h : job.place = some (.helper i)) :
    (job.state = .sending ∨ job.state = .dispatched) ∧ job.slotIndex = i := by
  unfold Job.place at h
  split at h <;> cases h
  · exact ⟨Or.inl ‹_›, rfl⟩
  · exact ⟨Or.inr ‹_›, rfl⟩

/-- The jobs and the lists they are in. -/
structure Board where
  cache : Cache
  buckets : Nat → List JobId
  jobs : JobId → Option Job
  nextJob : JobId
  queues : Priority → JobQueue
  completions : List JobId
  helpers : Nat → Helper
  jobCount : Nat
  nextQueryId : Nat
  lastNow : Timespec
  trace : List TraceEvent
  loose : Option JobId
  opened : Option Nat
  stopping : Bool

/-- The board of a supervisor whose running function holds `loose` and works on slot `opened`. -/
def Supervisor.board (s : Supervisor) (loose : Option JobId) (opened : Option Nat)
    (stopping : Bool := false) : Board :=
  { cache := s.cache, buckets := s.buckets, jobs := s.jobs, nextJob := s.nextJob,
    queues := s.queues, completions := s.completions, helpers := s.helpers,
    jobCount := s.jobCount, nextQueryId := s.nextQueryId, lastNow := s.lastNow, trace := s.trace,
    loose, opened, stopping }

namespace Board

/-- The list of a place; what an opened slot holds does not count. -/
def list (b : Board) : Place → List JobId
  | .queue priority => (b.queues priority).ids
  | .completions => b.completions
  | .helper slot => if b.opened = some slot then [] else (b.helpers slot).job.toList

/-- The list a job should be in: none for the loose job and for pointers to freed jobs. -/
def placeOf (b : Board) (j : JobId) : Option Place :=
  if b.loose = some j then none else (b.jobs j).bind Job.place

end Board

/-! ## 2. What a placed job satisfies -/

/-- A job some interest waits for, of the priority its interests give it. -/
structure Job.Wanted (job : Job) : Prop where
  orphaned : job.orphaned = false
  interested : 0 < job.backgroundInterestCount + job.interactiveInterestCount
  priority : job.priority = .interactive ↔ 0 < job.interactiveInterestCount

/-- A dispatched job whose last interest is gone: its answer is awaited for the cache only. -/
structure Job.Orphan (job : Job) : Prop where
  orphaned : job.orphaned = true
  background : job.backgroundInterestCount = 0
  interactive : job.interactiveInterestCount = 0
  priority : job.priority = .background

/-- Interests, priority and assembly of a job agree with its state. -/
def Job.Sound (job : Job) : Prop :=
  match job.state with
  | .queued => job.Wanted ∧ job.assembly = none
  | .sending => job.Wanted
  | .dispatched => job.Wanted ∨ job.Orphan
  | .retryWait => job.Wanted ∧ job.assembly = none
  | .complete =>
    job.backgroundInterestCount = 0 ∧ job.interactiveInterestCount = 0 ∧ job.orphaned = false ∧
      job.assembly = none

/-- A helper slot agrees with the job it holds; a slot that a shutdown has just emptied is in the
    state it was in. -/
def SlotSound (jobs : JobId → Option Job) (stopping : Bool) (helper : Helper) : Prop :=
  match helper.job with
  | none => stopping = false → helper.state ≠ .sending ∧ helper.state ≠ .busy
  | some j => ∃ job, jobs j = some job ∧
      ((job.state = .sending ∧ helper.state = .sending) ∨
        (job.state = .dispatched ∧ helper.state = .busy))

/-- **The placement invariant.** -/
structure Placed (limits : SupervisorLimits) (b : Board) : Prop where
  hash : Holds b.buckets fun j => (b.jobs j).map fun job => jobBucket limits job.entry
  count : b.jobCount = (chain limits.jobLimit b.buckets).length
  count_le : b.jobCount ≤ limits.jobLimit
  unique : ∀ j k job job', b.jobs j = some job → b.jobs k = some job' →
    job.entry = job'.entry → j = k
  fresh : ∀ j, b.nextJob ≤ j → b.jobs j = none
  lists : Holds b.list b.placeOf
  queue_count : ∀ p, (b.queues p).count = (b.queues p).ids.length
  slots : ∀ i, i < limits.helperCount → b.opened ≠ some i →
    SlotSound b.jobs b.stopping (b.helpers i)
  slot_lt : ∀ i j, b.opened ≠ some i → (b.helpers i).job = some j → i < limits.helperCount
  loose_live : ∀ j, b.loose = some j → b.jobs j ≠ none
  sound : ∀ j job, b.jobs j = some job → b.loose ≠ some j → job.Sound
  payload : ∀ j job, b.jobs j = some job → b.loose ≠ some j → job.state ≠ .complete →
    b.cache.payload job.entry = none

/-- Between two functions every job is in its place. -/
abbrev AtRest (limits : SupervisorLimits) (q : Bool) (s : Supervisor) : Prop :=
  Placed limits (s.board none none q)

/-! ## 3. Moves -/

/-- What a move does to the interests. -/
inductive Label where
  | join (entry : EntryId) (priority : Priority)
  | leave (entry : EntryId) (priority : Priority)
  /-- A job is given up with interests left, at shutdown. -/
  | abandon (entry : EntryId)
deriving Repr, DecidableEq

/-- The times and the retry count of a job change; the deadline of a sent request does not. -/
structure Retimed (job job' : Job) : Prop where
  same : job' = { job with
    deadline := job'.deadline, dispatchWaitAt := job'.dispatchWaitAt, retryAt := job'.retryAt,
    retryCount := job'.retryCount }
  deadline : job.state = .dispatched → job'.deadline = job.deadline

/-- Only orphan mark and priority of a job change. -/
def Job.ranked (job : Job) (orphaned : Bool) (priority : Priority) : Job :=
  { job with orphaned, priority }

section Fields

variable (job : Job) (p q : Priority) (n : Nat) (orphaned : Bool)

@[simp] theorem Job.ranked_entry : (job.ranked orphaned p).entry = job.entry := rfl
@[simp] theorem Job.ranked_state : (job.ranked orphaned p).state = job.state := rfl
@[simp] theorem Job.ranked_slotIndex : (job.ranked orphaned p).slotIndex = job.slotIndex := rfl
@[simp] theorem Job.ranked_assembly : (job.ranked orphaned p).assembly = job.assembly := rfl
@[simp] theorem Job.ranked_queryId : (job.ranked orphaned p).queryId = job.queryId := rfl
@[simp] theorem Job.ranked_deadline : (job.ranked orphaned p).deadline = job.deadline := rfl
@[simp] theorem Job.ranked_dispatchedAt :
    (job.ranked orphaned p).dispatchedAt = job.dispatchedAt := rfl

@[simp] theorem Job.setInterest_entry : (job.setInterest p n).entry = job.entry := by
  cases p <;> rfl
@[simp] theorem Job.setInterest_state : (job.setInterest p n).state = job.state := by
  cases p <;> rfl
@[simp] theorem Job.setInterest_slotIndex : (job.setInterest p n).slotIndex = job.slotIndex := by
  cases p <;> rfl
@[simp] theorem Job.setInterest_assembly : (job.setInterest p n).assembly = job.assembly := by
  cases p <;> rfl
@[simp] theorem Job.setInterest_queryId : (job.setInterest p n).queryId = job.queryId := by
  cases p <;> rfl
@[simp] theorem Job.setInterest_deadline : (job.setInterest p n).deadline = job.deadline := by
  cases p <;> rfl
@[simp] theorem Job.setInterest_dispatchedAt :
    (job.setInterest p n).dispatchedAt = job.dispatchedAt := by
  cases p <;> rfl

end Fields

/-- The query id after `q`: the counter stays at zero once it has wrapped. -/
def queryIdNext (q : Nat) : Nat := if q = uint64Max then 0 else q + 1

/-- **One move of the board**, with what it does to the interests. -/
inductive Move (limits : SupervisorLimits) : Board → List Label → Board → Prop where
  -- clock, history and cache
  | called (b : Board) (now : Timespec) :
      Move limits b [] { b with trace := .called now :: b.trace }
  | advance (b : Board) (now : Timespec) (h : b.lastNow ≤ now) :
      Move limits b [] { b with lastNow := now }
  | cache (b : Board) (c : Cache) (h : PayloadsKept b.cache c) :
      Move limits b [] { b with cache := c }
  -- queues, completion list and the retry wait
  | unqueue (b : Board) (j : JobId) (job : Job) (hl : b.loose = none) (hj : b.jobs j = some job)
      (hs : job.state = .queued) :
      Move limits b [] { b with
        queues := update b.queues job.priority
          { ids := (b.queues job.priority).ids.erase j, count := (b.queues job.priority).count - 1 }
        loose := some j }
  | enqueue (b : Board) (j : JobId) (job : Job) (ids : List JobId) (hl : b.loose = some j)
      (hj : b.jobs j = some job) (hw : job.Wanted) (ha : job.assembly = none)
      (hp : b.cache.payload job.entry = none)
      (hids : ids.Perm (j :: (b.queues job.priority).ids)) :
      Move limits b [] { b with
        queues := update b.queues job.priority
          { ids, count := (b.queues job.priority).count + 1 }
        jobs := update b.jobs j (some { job with state := .queued })
        loose := none }
  | wake (b : Board) (j : JobId) (job : Job) (hl : b.loose = none) (hj : b.jobs j = some job)
      (hs : job.state = .retryWait) :
      Move limits b [] { b with loose := some j }
  | wait (b : Board) (j : JobId) (job : Job) (hl : b.loose = some j) (hj : b.jobs j = some job)
      (hw : job.Wanted) (ha : job.assembly = none) (hp : b.cache.payload job.entry = none) :
      Move limits b [] { b with
        jobs := update b.jobs j (some { job with state := .retryWait })
        loose := none }
  | complete (b : Board) (j : JobId) (job : Job) (publication : PublishStatus)
      (response : AssemblyResult) (hl : b.loose = some j) (hj : b.jobs j = some job)
      (ho : job.orphaned = false) (ha : job.assembly = none) :
      Move limits b [] { b with
        jobs := update b.jobs j (some { job with
          backgroundInterestCount := 0
          interactiveInterestCount := 0
          publication
          response := some response
          state := .complete })
        completions := b.completions ++ [j]
        loose := none }
  | uncomplete (b : Board) (j : JobId) (job : Job) (hl : b.loose = none)
      (hj : b.jobs j = some job) (hs : job.state = .complete) :
      Move limits b [] { b with completions := b.completions.erase j, loose := some j }
  -- helper slots
  | openSlot (b : Board) (i : Nat) (ho : b.opened = none) (hh : (b.helpers i).job = none) :
      Move limits b [] { b with opened := some i }
  | closeSlot (b : Board) (i : Nat) (ho : b.opened = some i) (hj : (b.helpers i).job = none)
      (hs : b.stopping = false → (b.helpers i).state ≠ .sending ∧ (b.helpers i).state ≠ .busy) :
      Move limits b [] { b with opened := none }
  | helper (b : Board) (i : Nat) (helper : Helper)
      (h : b.opened = some i ∨
        (helper.job = (b.helpers i).job ∧ helper.state = (b.helpers i).state)) :
      Move limits b [] { b with helpers := update b.helpers i helper }
  | lift (b : Board) (i : Nat) (j : JobId) (hl : b.loose = none) (ho : b.opened = none)
      (hh : (b.helpers i).job = some j) :
      Move limits b [] { b with loose := some j, opened := some i }
  | send (b : Board) (i : Nat) (j : JobId) (job : Job) (now deadline : Timespec)
      (hl : b.loose = some j) (ho : b.opened = some i) (hi : i < limits.helperCount)
      (hj : b.jobs j = some job) (hd : job.state ≠ .dispatched) (hslot : job.slotIndex = i)
      (hw : job.Wanted) (hp : b.cache.payload job.entry = none) (hh : (b.helpers i).job = some j)
      (hs : (b.helpers i).state = .busy) :
      Move limits b [] { b with
        jobs := update b.jobs j (some { job with
          state := .dispatched, dispatchedAt := now, deadline })
        trace := .sent j now deadline :: b.trace
        loose := none
        opened := none }
  | park (b : Board) (i : Nat) (j : JobId) (job : Job)
      (hl : b.loose = some j) (ho : b.opened = some i) (hi : i < limits.helperCount)
      (hj : b.jobs j = some job) (hd : job.state ≠ .dispatched) (hslot : job.slotIndex = i)
      (hw : job.Wanted) (hp : b.cache.payload job.entry = none) (hh : (b.helpers i).job = some j)
      (hs : (b.helpers i).state = .sending) :
      Move limits b [] { b with
        jobs := update b.jobs j (some { job with state := .sending })
        loose := none
        opened := none }
  -- shutdown
  | halt (b : Board) : Move limits b [] { b with stopping := true }
  | halted (b : Board)
      (h : ∀ i, i < limits.helperCount → b.opened ≠ some i → (b.helpers i).job = none →
        (b.helpers i).state ≠ .sending ∧ (b.helpers i).state ≠ .busy) :
      Move limits b [] { b with stopping := false }
  -- the assembly of a job
  | burn (b : Board) (h : b.nextQueryId ≠ 0) :
      Move limits b [] { b with nextQueryId := queryIdNext b.nextQueryId }
  | assign (b : Board) (i : Nat) (j : JobId) (job : Job) (a : Assembly) (deadline : Timespec)
      (hl : b.loose = some j) (hj : b.jobs j = some job) (ha : job.assembly = none)
      (hq : b.nextQueryId ≠ 0) (hs : job.state ≠ .dispatched)
      (hid : a.queryId = b.nextQueryId) (hn : Normalized a.expectedName)
      (hquestion : a.questionName = []) :
      Move limits b [] { b with
        jobs := update b.jobs j (some { job with
          deadline, assembly := some a, queryId := b.nextQueryId, slotIndex := i })
        nextQueryId := queryIdNext b.nextQueryId
        trace := .assigned j job.entry b.nextQueryId :: b.trace }
  | feed (b : Board) (j : JobId) (job : Job) (a a' : Assembly) (hj : b.jobs j = some job)
      (hs : job.state = .dispatched) (ha : job.assembly = some a) (hk : Kept a a') :
      Move limits b [] { b with
        jobs := update b.jobs j (some { job with assembly := some a' }) }
  | accept (b : Board) (j : JobId) (job : Job) (a a' : Assembly) (packet : Bytes)
      (header : PacketHeader) (hj : b.jobs j = some job) (hs : job.state = .dispatched)
      (ha : job.assembly = some a) (hk : Kept a a') (hheader : packetInspect packet = .ok header)
      (hid : header.queryId = a.queryId) :
      Move limits b [] { b with
        jobs := update b.jobs j (some { job with assembly := some a' })
        trace := .accepted j packet :: b.trace }
  | drop (b : Board) (j : JobId) (job : Job) (hl : b.loose = some j) (hj : b.jobs j = some job) :
      Move limits b [] { b with jobs := update b.jobs j (some job.dropped) }
  | retime (b : Board) (j : JobId) (job job' : Job) (hl : b.loose = some j)
      (hj : b.jobs j = some job) (hr : Retimed job job') :
      Move limits b [] { b with jobs := update b.jobs j (some job') }
  | publish (b : Board) (j : JobId) (job : Job) (a : Assembly) (c : Cache)
      (kind : MetricsPayloadKind) (entryName : Bytes) (response : AssemblyResult) (now : Timespec)
      (hl : b.loose = some j) (hj : b.jobs j = some job) (hs : job.state = .dispatched)
      (ha : job.assembly = some a) (hid : response.queryId = a.queryId)
      (hquestion : response.payload.questionName = a.questionName)
      (hname : nameNormalize response.payload.questionName = some entryName)
      (hafter : job.dispatchedAt ≤ response.completedAt)
      (hdeadline : response.completedAt ≤ job.deadline) (hnow : response.completedAt ≤ now)
      (hst : Stored b.cache c job.entry kind response.completedAt response.payload) :
      Move limits b [] { b with
        cache := c
        trace := .published j job.entry entryName response now :: b.trace }
  -- interests
  | create (b : Board) (job : Job) (priority : Priority) (hl : b.loose = none)
      (hcount : b.jobCount < limits.jobLimit)
      (hnew : ∀ j job', b.jobs j = some job' → job'.entry ≠ job.entry)
      (ha : job.assembly = none) (ho : job.orphaned = false)
      (hi : job.interactiveInterestCount = if priority = .interactive then 1 else 0)
      (hb : job.backgroundInterestCount = if priority = .background then 1 else 0) :
      Move limits b [.join job.entry priority] { b with
        buckets := update b.buckets (jobBucket limits job.entry)
          (b.nextJob :: b.buckets (jobBucket limits job.entry))
        jobs := update b.jobs b.nextJob (some job)
        nextJob := b.nextJob + 1
        jobCount := b.jobCount + 1
        loose := some b.nextJob }
  | join (b : Board) (j : JobId) (job : Job) (priority priority' : Priority)
      (hj : b.jobs j = some job) (hc : job.state ≠ .complete)
      (hs : b.loose = some j ∨ ((job.state = .queued → priority' = job.priority) ∧
        ((job.setInterest priority (job.interest priority + 1)).ranked false priority').Sound)) :
      Move limits b [.join job.entry priority] { b with
        jobs := update b.jobs j (some
          ((job.setInterest priority (job.interest priority + 1)).ranked false priority')) }
  | leave (b : Board) (j : JobId) (job : Job) (priority priority' : Priority) (orphaned : Bool)
      (hj : b.jobs j = some job) (hc : job.state ≠ .complete) (hi : 0 < job.interest priority)
      (hs : b.loose = some j ∨ ((job.state = .queued → priority' = job.priority) ∧
        ((job.setInterest priority (job.interest priority - 1)).ranked orphaned
          priority').Sound)) :
      Move limits b [.leave job.entry priority] { b with
        jobs := update b.jobs j (some
          ((job.setInterest priority (job.interest priority - 1)).ranked orphaned priority')) }
  | free (b : Board) (j : JobId) (job : Job) (hl : b.loose = some j) (hj : b.jobs j = some job) :
      Move limits b
        (if job.backgroundInterestCount = 0 ∧ job.interactiveInterestCount = 0 then []
          else [.abandon job.entry])
        { b with
          buckets := update b.buckets (jobBucket limits job.entry)
            ((b.buckets (jobBucket limits job.entry)).erase j)
          jobs := update b.jobs j none
          jobCount := b.jobCount - 1
          loose := none }

/-- Moves one after another, with what they do to the interests in order. -/
inductive Steps (limits : SupervisorLimits) : Board → List Label → Board → Prop where
  | refl (b : Board) : Steps limits b [] b
  | cons {b b' b'' : Board} {l ls : List Label} (h : Move limits b l b')
      (hs : Steps limits b' ls b'') : Steps limits b (l ++ ls) b''

theorem Move.steps {limits : SupervisorLimits} {b b' : Board} {l : List Label}
    (h : Move limits b l b') : Steps limits b l b' := by
  have hs := Steps.cons h (Steps.refl b')
  rwa [List.append_nil] at hs

theorem Steps.trans {limits : SupervisorLimits} {b b' b'' : Board} {l l' : List Label}
    (h : Steps limits b l b') (h' : Steps limits b' l' b'') : Steps limits b (l ++ l') b'' := by
  induction h with
  | refl b => exact h'
  | cons hm _ ih =>
    rw [List.append_assoc]
    exact .cons hm (ih h')

/-! ## 4. Lists and places under the moves -/

namespace Board

variable {b : Board}

theorem placeOf_hold {j : JobId} (hl : b.loose = none) :
    ({ b with loose := some j } : Board).placeOf = update b.placeOf j none := by
  funext k
  grind [placeOf, update_apply]

/-- Putting the job in the hand back, with new fields. -/
theorem placeOf_put {j : JobId} {job' : Job} (hl : b.loose = some j) :
    ({ b with jobs := update b.jobs j (some job'), loose := none } : Board).placeOf =
      update b.placeOf j job'.place := by
  funext k
  grind [placeOf, update_apply]

/-- The job in the hand is freed. -/
theorem placeOf_free {j : JobId} (hl : b.loose = some j) :
    ({ b with jobs := update b.jobs j none, loose := none } : Board).placeOf =
      b.placeOf := by
  funext k
  grind [placeOf, update_apply]

theorem placeOf_loose {j : JobId} (hl : b.loose = some j) : b.placeOf j = none := by
  unfold placeOf
  rw [if_pos hl]

theorem placeOf_placed {j : JobId} {job : Job} (hl : b.loose ≠ some j) (hj : b.jobs j = some job) :
    b.placeOf j = job.place := by
  unfold placeOf
  rw [if_neg hl, hj]
  rfl

theorem list_queue (p : Priority) (queue : JobQueue) :
    ({ b with queues := update b.queues p queue } : Board).list =
      update b.list (.queue p) queue.ids := by
  funext k
  cases k <;> grind [list, update_apply]

theorem list_completions (ids : List JobId) :
    ({ b with completions := ids } : Board).list = update b.list .completions ids := by
  funext k
  cases k <;> grind [list, update_apply]

/-- A slot is opened: what it holds no longer counts. -/
theorem list_open {i : Nat} (ho : b.opened = none) :
    ({ b with opened := some i } : Board).list = update b.list (.helper i) [] := by
  funext k
  cases k <;> grind [list, update_apply]

/-- A slot is closed on what it holds. -/
theorem list_close {i : Nat} (ho : b.opened = some i) :
    ({ b with opened := none } : Board).list =
      update b.list (.helper i) (b.helpers i).job.toList := by
  funext k
  cases k <;> grind [list, update_apply]

theorem list_opened {i : Nat} (ho : b.opened = some i) : b.list (.helper i) = [] := if_pos ho

theorem list_helper {i : Nat} (ho : b.opened ≠ some i) :
    b.list (.helper i) = (b.helpers i).job.toList := if_neg ho

/-- A helper is written that keeps its job, or whose slot is open. -/
theorem list_write {i : Nat} {helper : Helper}
    (h : b.opened = some i ∨ helper.job = (b.helpers i).job) :
    ({ b with helpers := update b.helpers i helper } : Board).list = b.list := by
  funext k
  cases k <;> grind [list, update_apply]

end Board

namespace SlotSound

variable {jobs jobs' : JobId → Option Job} {stopping : Bool} {helper : Helper}

section

variable (h : SlotSound jobs stopping helper)

include h

/-- Jobs that the slot does not hold may change. -/
theorem congr
    (hj : ∀ j, helper.job = some j → jobs' j = jobs j) : SlotSound jobs' stopping helper := by
  unfold SlotSound at h ⊢
  split
  · rename_i hn
    rw [hn] at h
    exact h
  · rename_i j hn
    rw [hn] at h
    rw [hj j hn]
    exact h

/-- The held job may change in what is not its state. -/
theorem edit {j : JobId} {job job' : Job} (hj : jobs j = some job) (hs : job'.state = job.state) :
    SlotSound (update jobs j (some job')) stopping helper := by
  unfold SlotSound at h ⊢
  split
  · rename_i hn
    rw [hn] at h
    exact h
  · rename_i k hn
    rw [hn] at h
    obtain ⟨held, hheld, hstate⟩ := h
    by_cases hk : k = j
    · subst hk
      rw [hj] at hheld
      cases hheld
      refine ⟨job', update_self .., ?_⟩
      rw [hs]
      exact hstate
    · exact ⟨held, by rw [update_of_ne hk, hheld], hstate⟩

/-- The helper may change in what is neither its job nor its state. -/
theorem write {helper' : Helper}
    (hj : helper'.job = helper.job) (hs : helper'.state = helper.state) :
    SlotSound jobs stopping helper' := by
  unfold SlotSound at h ⊢
  rw [hj, hs]
  exact h

theorem halt : SlotSound jobs true helper := by
  unfold SlotSound at h ⊢
  split
  · exact nofun
  · rename_i hn
    rw [hn] at h
    exact h

theorem halted (hs : helper.job = none → helper.state ≠ .sending ∧ helper.state ≠ .busy) :
    SlotSound jobs false helper := by
  unfold SlotSound at h ⊢
  split
  · rename_i hn
    exact fun _ => hs hn
  · rename_i hn
    rw [hn] at h
    exact h

end

end SlotSound

/-! ## 5. Every move keeps the invariant -/

theorem jobBucket_lt (limits : SupervisorLimits) (e : EntryId) :
    jobBucket limits e < limits.jobLimit := Nat.mod_lt _ limits.jobLimit_pos

namespace Placed

variable {limits : SupervisorLimits} {b : Board} {i : Nat} {j : JobId} {job job' : Job}

section

variable (h : Placed limits b)

include h

/-- What is in a list is a job whose state names the list. -/
theorem of_mem {k : Place} (hmem : j ∈ b.list k) :
    ∃ job, b.jobs j = some job ∧ job.place = some k := by
  have hplace := (h.lists.mem k j).1 hmem
  unfold Board.placeOf at hplace
  split at hplace
  · cases hplace
  · exact Option.bind_eq_some_iff.1 hplace

/-- A closed slot holds only jobs that are placed there. -/
theorem held (ho : b.opened ≠ some i) (hj : (b.helpers i).job = some j) :
    b.placeOf j = some (.helper i) := by
  rw [← h.lists.mem, Board.list_helper ho, hj]
  exact List.mem_singleton.2 rfl

/-- No closed slot holds the job in the hand. -/
theorem held_ne (hl : b.loose = some j) (ho : b.opened ≠ some i) {k : JobId}
    (hk : (b.helpers i).job = some k) : k ≠ j := by
  intro e
  subst e
  have hplace := h.held ho hk
  rw [Board.placeOf_loose hl] at hplace
  cases hplace

/-- The hash chains do not see a change that keeps the entry. -/
theorem hash_edit (hj : b.jobs j = some job) (he : job'.entry = job.entry) :
    Holds b.buckets fun k =>
      (update b.jobs j (some job') k).map fun job => jobBucket limits job.entry := by
  have hsame : (fun k => (update b.jobs j (some job') k).map
      fun job => jobBucket limits job.entry) =
      fun k => (b.jobs k).map fun job => jobBucket limits job.entry := by
    funext k
    grind [update_apply]
  rw [hsame]
  exact h.hash

theorem unique_edit (hj : b.jobs j = some job) (he : job'.entry = job.entry) :
    ∀ k l x y, update b.jobs j (some job') k = some x →
      update b.jobs j (some job') l = some y → x.entry = y.entry → k = l := by
  -- every job has the entry it had
  have hentry : ∀ k x, update b.jobs j (some job') k = some x →
      ∃ x', b.jobs k = some x' ∧ x'.entry = x.entry := by
    intro k x hx
    rcases update_some hx with ⟨rfl, rfl⟩ | ⟨_, hx⟩
    · exact ⟨job, hj, he.symm⟩
    · exact ⟨x, hx, rfl⟩
  intro k l x y hx hy hxy
  obtain ⟨x', hx', hex⟩ := hentry k x hx
  obtain ⟨y', hy', hey⟩ := hentry l y hy
  exact h.unique k l x' y' hx' hy' (by rw [hex, hey, hxy])

theorem fresh_edit (hj : b.jobs j = some job) :
    ∀ k, b.nextJob ≤ k → update b.jobs j (some job') k = none := by
  intro k hk
  have hne : k ≠ j := by
    intro e
    subst e
    rw [h.fresh k hk] at hj
    cases hj
  rw [update_of_ne hne]
  exact h.fresh k hk

/-- A job changes where it is: in the hand, or without leaving its place. -/
theorem edit (hj : b.jobs j = some job) (he : job'.entry = job.entry)
    (hs : b.loose = some j ∨ (job'.place = job.place ∧ job'.state = job.state ∧ job'.Sound)) :
    Placed limits { b with jobs := update b.jobs j (some job') } := by
  have hplace : ({ b with jobs := update b.jobs j (some job') } : Board).placeOf =
      b.placeOf := by
    funext k
    grind [Board.placeOf, update_apply]
  refine { h with
    hash := h.hash_edit hj he
    unique := h.unique_edit hj he
    fresh := h.fresh_edit hj
    lists := hplace ▸ h.lists
    slots := ?_, loose_live := ?_, sound := ?_, payload := ?_ }
  · intro i hi ho
    rcases hs with hl | hs
    · exact (h.slots i hi ho).congr fun k hk => update_of_ne (h.held_ne hl ho hk) ..
    · exact (h.slots i hi ho).edit hj hs.2.1
  · intro k hk
    have hlive := h.loose_live k hk
    grind [update_apply]
  · intro k x hx hl
    rcases update_some hx with ⟨rfl, rfl⟩ | ⟨_, hx⟩
    · exact (hs.resolve_left hl).2.2
    · exact h.sound k x hx hl
  · intro k x hx hl hc
    rcases update_some hx with ⟨rfl, rfl⟩ | ⟨_, hx⟩
    · rw [he]
      exact h.payload k job hj hl ((hs.resolve_left hl).2.1 ▸ hc)
    · exact h.payload k x hx hl hc

/-- A job is taken into the hand: out of the lists, and out of a slot that is opened for it. -/
theorem hold (hl : b.loose = none) (hj : b.jobs j = some job)
    (queues : Priority → JobQueue) (completions : List JobId) (opened : Option Nat)
    (hlists : Holds ({ b with queues, completions, opened } : Board).list
      (update b.placeOf j none))
    (hcount : ∀ p, (queues p).count = (queues p).ids.length)
    (hopened : ∀ i, opened ≠ some i → b.opened ≠ some i) :
    Placed limits { b with queues, completions, opened, loose := some j } := by
  have hfree : ∀ k, b.loose ≠ some k := by
    intro k
    rw [hl]
    exact nofun
  refine { h with
    lists := ?_, queue_count := hcount
    slots := fun i hi ho => h.slots i hi (hopened i ho)
    slot_lt := fun i k ho => h.slot_lt i k (hopened i ho)
    loose_live := ?_
    sound := fun k x hx _ => h.sound k x hx (hfree k)
    payload := fun k x hx _ => h.payload k x hx (hfree k) }
  · rw [← Board.placeOf_hold hl] at hlists
    exact hlists
  · intro k hk
    cases hk
    rw [hj]
    exact nofun

/-- The job in the hand is put into its place, with its slot if it has one. -/
theorem put (hl : b.loose = some j) (hj : b.jobs j = some job)
    (job' : Job) (he : job'.entry = job.entry) (hsound : job'.Sound)
    (hp : job'.state ≠ .complete → b.cache.payload job.entry = none)
    (queues : Priority → JobQueue) (completions : List JobId) (opened : Option Nat)
    (trace : List TraceEvent) (hlists : Holds ({ b with queues, completions, opened } : Board).list
      (update b.placeOf j job'.place))
    (hcount : ∀ p, (queues p).count = (queues p).ids.length)
    (hslots : ∀ i, opened ≠ some i → b.opened = some i → i < limits.helperCount ∧
      SlotSound (update b.jobs j (some job')) b.stopping (b.helpers i)) :
    Placed limits { b with
      jobs := update b.jobs j (some job'), queues, completions, opened, trace,
      loose := none } := by
  refine { h with
    hash := h.hash_edit hj he
    unique := h.unique_edit hj he
    fresh := h.fresh_edit hj
    lists := ?_, queue_count := hcount, slots := ?_, slot_lt := ?_, loose_live := nofun
    sound := ?_, payload := ?_ }
  · rw [← Board.placeOf_put hl] at hlists
    exact hlists
  · intro i hi ho
    by_cases hold : b.opened = some i
    · exact (hslots i ho hold).2
    · exact (h.slots i hi hold).congr fun k hk => update_of_ne (h.held_ne hl hold hk) ..
  · intro i k ho hk
    by_cases hold : b.opened = some i
    · exact (hslots i ho hold).1
    · exact h.slot_lt i k hold hk
  · intro k x hx _
    rcases update_some hx with ⟨rfl, rfl⟩ | ⟨hne, hx⟩
    · exact hsound
    · exact h.sound k x hx (by rw [hl]; exact fun e => hne (Option.some.inj e).symm)
  · intro k x hx _ hc
    rcases update_some hx with ⟨rfl, rfl⟩ | ⟨hne, hx⟩
    · rw [he]
      exact hp hc
    · exact h.payload k x hx (by rw [hl]; exact fun e => hne (Option.some.inj e).symm) hc

theorem queue_count_update (p : Priority) {queue : JobQueue}
    (hq : queue.count = queue.ids.length) (q : Priority) :
    (update b.queues p queue q).count = (update b.queues p queue q).ids.length := by
  have hcount := h.queue_count q
  grind [update_apply]

end

/-- Where a job is while nothing is in the hand. -/
theorem placeOf_state (hl : b.loose = none) (hj : b.jobs j = some job) : b.placeOf j = job.place :=
  Board.placeOf_placed (by rw [hl]; exact nofun) hj

section

variable (h : Placed limits b)

include h

theorem unqueue (hl : b.loose = none) (hj : b.jobs j = some job) (hs : job.state = .queued) :
    Placed limits { b with
      queues := update b.queues job.priority
        { ids := (b.queues job.priority).ids.erase j, count := (b.queues job.priority).count - 1 }
      loose := some j } := by
  have hplace : b.placeOf j = some (.queue job.priority) := by
    rw [placeOf_state hl hj, Job.place, hs]
  have hmem : j ∈ (b.queues job.priority).ids := (h.lists.mem (.queue job.priority) j).2 hplace
  refine h.hold hl hj _ b.completions b.opened ?_ ?_ fun _ ho => ho
  · have hr := h.lists.remove hplace
    rw [← Board.list_queue job.priority ⟨_, (b.queues job.priority).count - 1⟩] at hr
    exact hr
  · refine h.queue_count_update job.priority ?_
    rw [List.length_erase_of_mem hmem, h.queue_count]

theorem enqueue (hl : b.loose = some j) (hj : b.jobs j = some job)
    (hw : job.Wanted) (ha : job.assembly = none) (hp : b.cache.payload job.entry = none)
    {ids : List JobId} (hids : ids.Perm (j :: (b.queues job.priority).ids)) :
    Placed limits { b with
      queues := update b.queues job.priority
        { ids, count := (b.queues job.priority).count + 1 }
      jobs := update b.jobs j (some { job with state := .queued })
      loose := none } := by
  refine h.put hl hj { job with state := .queued } rfl ?_ (fun _ => hp) _ b.completions b.opened
    b.trace ?_ ?_ fun i hn ho => absurd ho hn
  · exact ⟨⟨hw.orphaned, hw.interested, hw.priority⟩, ha⟩
  · have hr := h.lists.insert (k := .queue job.priority) (Board.placeOf_loose hl) hids
    rw [← Board.list_queue job.priority ⟨_, (b.queues job.priority).count + 1⟩] at hr
    exact hr
  · refine h.queue_count_update job.priority ?_
    rw [hids.length_eq, List.length_cons, h.queue_count]

theorem wake (hl : b.loose = none) (hj : b.jobs j = some job)
    (hs : job.state = .retryWait) : Placed limits { b with loose := some j } := by
  refine h.hold hl hj b.queues b.completions b.opened ?_ h.queue_count fun _ ho => ho
  -- the job was in no list
  have hplace : update b.placeOf j none = b.placeOf := by
    rw [update_eq_self_iff, placeOf_state hl hj, Job.place, hs]
  rw [hplace]
  exact h.lists

theorem wait (hl : b.loose = some j) (hj : b.jobs j = some job)
    (hw : job.Wanted) (ha : job.assembly = none) (hp : b.cache.payload job.entry = none) :
    Placed limits { b with
      jobs := update b.jobs j (some { job with state := .retryWait })
      loose := none } := by
  refine h.put hl hj { job with state := .retryWait } rfl ?_ (fun _ => hp) b.queues b.completions
    b.opened b.trace ?_ h.queue_count fun i hn ho => absurd ho hn
  · exact ⟨⟨hw.orphaned, hw.interested, hw.priority⟩, ha⟩
  · have hplace : update b.placeOf j none = b.placeOf := by
      rw [update_eq_self_iff, Board.placeOf_loose hl]
    rw [show ({ job with state := .retryWait } : Job).place = none from rfl, hplace]
    exact h.lists

theorem complete (hl : b.loose = some j) (hj : b.jobs j = some job)
    (he : job'.entry = job.entry) (hs : job'.state = .complete) (hsound : job'.Sound) :
    Placed limits { b with
      jobs := update b.jobs j (some job')
      completions := b.completions ++ [j]
      loose := none } := by
  refine h.put hl hj job' he hsound (fun hc => absurd hs hc) b.queues _ b.opened b.trace ?_
    h.queue_count fun i hn ho => absurd ho hn
  have hr := h.lists.append (k := .completions) (Board.placeOf_loose hl)
  have hplace : job'.place = some .completions := by rw [Job.place, hs]
  rw [← hplace, ← Board.list_completions] at hr
  exact hr

theorem uncomplete (hl : b.loose = none) (hj : b.jobs j = some job) (hs : job.state = .complete) :
    Placed limits { b with completions := b.completions.erase j, loose := some j } := by
  have hplace : b.placeOf j = some .completions := by rw [placeOf_state hl hj, Job.place, hs]
  refine h.hold hl hj b.queues _ b.opened ?_ h.queue_count fun _ ho => ho
  have hr := h.lists.remove hplace
  rw [← Board.list_completions] at hr
  exact hr

theorem openSlot (ho : b.opened = none) (hh : (b.helpers i).job = none) :
    Placed limits { b with opened := some i } := by
  have hne : ∀ k, b.opened ≠ some k := by
    intro k
    rw [ho]
    exact nofun
  refine { h with
    lists := ?_
    slots := fun k hk _ => h.slots k hk (hne k)
    slot_lt := fun k j _ => h.slot_lt k j (hne k) }
  have hlist : update b.list (.helper i) [] = b.list := by
    rw [update_eq_self_iff, Board.list_helper (hne i), hh]
    rfl
  rw [Board.list_open ho, hlist]
  exact h.lists

theorem closeSlot (ho : b.opened = some i) (hj : (b.helpers i).job = none)
    (hs : b.stopping = false → (b.helpers i).state ≠ .sending ∧ (b.helpers i).state ≠ .busy) :
    Placed limits { b with opened := none } := by
  refine { h with lists := ?_, slots := ?_, slot_lt := ?_ }
  · have hlist : update b.list (.helper i) (b.helpers i).job.toList = b.list := by
      rw [update_eq_self_iff, hj, Board.list_opened ho]
      rfl
    rw [Board.list_close ho, hlist]
    exact h.lists
  · intro k hk _
    by_cases hki : b.opened = some k
    · rw [ho] at hki
      cases hki
      unfold SlotSound
      rw [hj]
      exact hs
    · exact h.slots k hk hki
  · intro k l _ hl
    refine h.slot_lt k l ?_ hl
    intro hki
    rw [ho] at hki
    cases hki
    rw [hj] at hl
    cases hl

theorem write {helper : Helper} (hh : b.opened = some i ∨
      (helper.job = (b.helpers i).job ∧ helper.state = (b.helpers i).state)) :
    Placed limits { b with helpers := update b.helpers i helper } := by
  -- a closed slot keeps its job and its state
  have hsame : ∀ k, b.opened ≠ some k →
      (update b.helpers i helper k).job = (b.helpers k).job ∧
        (update b.helpers i helper k).state = (b.helpers k).state := by
    intro k ho
    grind [update_apply]
  refine { h with lists := ?_, slots := ?_, slot_lt := ?_ }
  · rw [Board.list_write (hh.imp_right And.left)]
    exact h.lists
  · intro k hk ho
    exact (h.slots k hk ho).write (hsame k ho).1 (hsame k ho).2
  · intro k l ho hl
    exact h.slot_lt k l ho ((hsame k ho).1.symm.trans hl)

/-- The job a closed slot holds exists, and its state and the slot's agree. -/
theorem held_job (hl : b.loose = none) (ho : b.opened ≠ some i) (hh : (b.helpers i).job = some j) :
    i < limits.helperCount ∧ ∃ job, b.jobs j = some job ∧ job.slotIndex = i ∧
      ((job.state = .sending ∧ (b.helpers i).state = .sending) ∨
        (job.state = .dispatched ∧ (b.helpers i).state = .busy)) := by
  have hi := h.slot_lt i j ho hh
  refine ⟨hi, ?_⟩
  have hslot := h.slots i hi ho
  unfold SlotSound at hslot
  rw [hh] at hslot
  obtain ⟨job, hj, hstate⟩ := hslot
  have hplace := h.held ho hh
  rw [placeOf_state hl hj] at hplace
  refine ⟨job, hj, ?_, hstate⟩
  rcases hstate with ⟨hs, _⟩ | ⟨hs, _⟩ <;>
    · rw [Job.place, hs] at hplace
      exact Place.helper.inj (Option.some.inj hplace)

theorem lift (hl : b.loose = none) (ho : b.opened = none) (hh : (b.helpers i).job = some j) :
    Placed limits { b with loose := some j, opened := some i } := by
  have hne : ∀ k, b.opened ≠ some k := by
    intro k
    rw [ho]
    exact nofun
  obtain ⟨_, job, hj, _⟩ := h.held_job hl (hne i) hh
  refine h.hold hl hj b.queues b.completions (some i) ?_ h.queue_count fun k _ => hne k
  have hr := h.lists.remove (h.held (hne i) hh)
  have herase : (b.list (.helper i)).erase j = [] := by
    rw [Board.list_helper (hne i), hh]
    simp
  rw [herase, ← Board.list_open ho] at hr
  exact hr

/-- The job in the hand goes to the opened slot, which is closed on it. -/
theorem seat (hl : b.loose = some j) (ho : b.opened = some i)
    (hi : i < limits.helperCount) (hj : b.jobs j = some job) (job' : Job)
    (he : job'.entry = job.entry) (hslot : job'.slotIndex = i) (hsound : job'.Sound)
    (hp : b.cache.payload job.entry = none) (hh : (b.helpers i).job = some j)
    (hs : (job'.state = .sending ∧ (b.helpers i).state = .sending) ∨
      (job'.state = .dispatched ∧ (b.helpers i).state = .busy)) (trace : List TraceEvent) :
    Placed limits { b with
      jobs := update b.jobs j (some job'), trace, loose := none, opened := none } := by
  refine h.put hl hj job' he hsound (fun _ => hp) b.queues b.completions none trace ?_
    h.queue_count ?_
  · have hr := h.lists.insert (k := .helper i) (l := [j]) (Board.placeOf_loose hl)
      (by rw [Board.list_opened ho])
    have hplace : job'.place = some (.helper i) := by
      rcases hs with ⟨hs, _⟩ | ⟨hs, _⟩ <;> rw [Job.place, hs, hslot]
    have hlist := Board.list_close ho
    rw [hh] at hlist
    rw [hplace]
    rw [show [j] = (some j).toList from rfl, ← hlist] at hr
    exact hr
  · intro k _ hk
    rw [ho] at hk
    cases hk
    refine ⟨hi, ?_⟩
    unfold SlotSound
    rw [hh]
    exact ⟨job', update_self .., hs⟩

theorem create (hl : b.loose = none) (hcount : b.jobCount < limits.jobLimit)
    (hnew : ∀ j job', b.jobs j = some job' → job'.entry ≠ job.entry) :
    Placed limits { b with
      buckets := update b.buckets (jobBucket limits job.entry)
        (b.nextJob :: b.buckets (jobBucket limits job.entry))
      jobs := update b.jobs b.nextJob (some job)
      nextJob := b.nextJob + 1
      jobCount := b.jobCount + 1
      loose := some b.nextJob } := by
  have hnone := h.fresh b.nextJob (Nat.le_refl _)
  have hfree : ∀ k, b.loose ≠ some k := by
    intro k
    rw [hl]
    exact nofun
  have hne : ∀ {k x}, b.jobs k = some x → k ≠ b.nextJob := by
    intro k x hx e
    rw [e, hnone] at hx
    cases hx
  refine { h with
    hash := ?_, count := ?_, count_le := hcount, unique := ?_, fresh := ?_, lists := ?_
    slots := ?_, loose_live := ?_, sound := ?_, payload := ?_ }
  · have hr := h.hash.cons (k := jobBucket limits job.entry) (a := b.nextJob) (by rw [hnone]; rfl)
    simpa only [map_update, Option.map_some] using hr
  · rw [length_chain_cons (jobBucket_lt limits job.entry), h.count]
  · intro k l x y hx hy hxy
    rcases update_some hx with ⟨hk, hx⟩ | ⟨_, hx⟩
    · rcases update_some hy with ⟨hl, _⟩ | ⟨_, hy⟩
      · rw [hk, hl]
      · rw [hx] at hxy
        exact absurd hxy.symm (hnew l y hy)
    · rcases update_some hy with ⟨_, hy⟩ | ⟨_, hy⟩
      · rw [hy] at hxy
        exact absurd hxy (hnew k x hx)
      · exact h.unique k l x y hx hy hxy
  · intro k hk
    have hlt : b.nextJob < k := Nat.lt_of_succ_le hk
    exact (update_of_ne (Nat.ne_of_gt hlt) ..).trans (h.fresh k (Nat.le_of_lt hlt))
  · -- the new job is in the hand, and was nowhere
    have hplace : Board.placeOf { b with
        jobs := update b.jobs b.nextJob (some job), loose := some b.nextJob } =
        b.placeOf := by
      funext k
      grind [Board.placeOf, update_apply]
    have hr := h.lists
    rw [← hplace] at hr
    exact hr
  · intro i hi ho
    refine (h.slots i hi ho).congr fun k hk => update_of_ne ?_ ..
    obtain ⟨_, job, hj, _⟩ := h.held_job hl ho hk
    exact hne hj
  · intro k hk
    cases hk
    simp
  · intro k x hx hk
    rcases update_some hx with ⟨rfl, rfl⟩ | ⟨_, hx⟩
    · exact absurd rfl hk
    · exact h.sound k x hx (hfree k)
  · intro k x hx hk hc
    rcases update_some hx with ⟨rfl, rfl⟩ | ⟨_, hx⟩
    · exact absurd rfl hk
    · exact h.payload k x hx (hfree k) hc

theorem free (hl : b.loose = some j) (hj : b.jobs j = some job) :
    Placed limits { b with
      buckets := update b.buckets (jobBucket limits job.entry)
        ((b.buckets (jobBucket limits job.entry)).erase j)
      jobs := update b.jobs j none
      jobCount := b.jobCount - 1
      loose := none } := by
  have hbucket : (b.jobs j).map (fun job => jobBucket limits job.entry) =
      some (jobBucket limits job.entry) := by rw [hj]; rfl
  have hother : ∀ {k}, k ≠ j → b.loose ≠ some k := by
    intro k hk
    rw [hl]
    exact fun e => hk (Option.some.inj e).symm
  refine { h with
    hash := ?_, count := ?_, count_le := Nat.le_trans (Nat.sub_le ..) h.count_le, unique := ?_
    fresh := ?_, lists := ?_, slots := ?_, loose_live := nofun, sound := ?_, payload := ?_ }
  · simpa only [map_update, Option.map_none] using h.hash.remove hbucket
  · have hlen := length_chain_erase (jobBucket_lt limits job.entry) ((h.hash.mem _ j).2 hbucket)
    have hcount := h.count
    show b.jobCount - 1 = (chain limits.jobLimit (update b.buckets _ (List.erase _ _))).length
    omega
  · intro k l x y hx hy hxy
    exact h.unique k l x y (update_none hx).2 (update_none hy).2 hxy
  · intro k hk
    have hfresh := h.fresh k hk
    grind [update_apply]
  · have hr := h.lists
    rw [← Board.placeOf_free hl] at hr
    exact hr
  · intro i hi ho
    exact (h.slots i hi ho).congr fun k hk => update_of_ne (h.held_ne hl ho hk) ..
  · intro k x hx _
    obtain ⟨hk, hx⟩ := update_none hx
    exact h.sound k x hx (hother hk)
  · intro k x hx _ hc
    obtain ⟨hk, hx⟩ := update_none hx
    exact h.payload k x hx (hother hk) hc

/-- The interests of a job change: in the hand, or where it is. -/
theorem rank (hj : b.jobs j = some job) {p p' : Priority} {n : Nat} {orphaned : Bool}
    (hs : b.loose = some j ∨ ((job.state = .queued → p' = job.priority) ∧
      ((job.setInterest p n).ranked orphaned p').Sound)) :
    Placed limits { b with
      jobs := update b.jobs j (some ((job.setInterest p n).ranked orphaned p')) } := by
  refine h.edit hj (by simp) (hs.imp_right ?_)
  intro hs
  refine ⟨?_, by simp, hs.2⟩
  unfold Job.place
  simp only [Job.ranked_state, Job.setInterest_state, Job.ranked_slotIndex,
    Job.setInterest_slotIndex]
  -- only the place of a queued job depends on its priority
  split
  · rename_i hq
    exact congrArg (fun p => some (Place.queue p)) (hs.1 hq)
  all_goals rfl

/-- The assembly of a dispatched job changes. -/
theorem feed (hj : b.jobs j = some job) (hs : job.state = .dispatched) (a : Assembly) :
    Placed limits { b with
      jobs := update b.jobs j (some { job with assembly := some a }) } := by
  by_cases hl : b.loose = some j
  · exact h.edit hj rfl (Or.inl hl)
  · have hsound := h.sound j job hj hl
    unfold Job.Sound at hsound
    rw [hs] at hsound
    refine h.edit hj rfl (Or.inr ⟨rfl, rfl, ?_⟩)
    rw [hs]
    exact hsound.imp (fun w => ⟨w.orphaned, w.interested, w.priority⟩)
      fun o => ⟨o.orphaned, o.background, o.interactive, o.priority⟩

end

end Placed

variable {limits : SupervisorLimits} {b b' : Board} {ls : List Label}

/-- **Every move keeps the placement invariant.** -/
theorem Move.placed (hm : Move limits b ls b') (h : Placed limits b) : Placed limits b' := by
  cases hm with
  | called now => exact { h with }
  | advance now _ => exact { h with }
  | cache c hk =>
    exact { h with payload := fun k x hx hl hc => hk.none (h.payload k x hx hl hc) }
  | unqueue j job hl hj hs => exact h.unqueue hl hj hs
  | enqueue j job ids hl hj hw ha hp hids => exact h.enqueue hl hj hw ha hp hids
  | wake j job hl hj hs => exact h.wake hl hj hs
  | wait j job hl hj hw ha hp => exact h.wait hl hj hw ha hp
  | complete j job publication response hl hj ho ha =>
    exact h.complete hl hj rfl rfl ⟨rfl, rfl, ho, ha⟩
  | uncomplete j job hl hj hs => exact h.uncomplete hl hj hs
  | openSlot i ho hh => exact h.openSlot ho hh
  | closeSlot i ho hj hs => exact h.closeSlot ho hj hs
  | helper i helper hh => exact h.write hh
  | lift i j hl ho hh => exact h.lift hl ho hh
  | send i j job now deadline hl ho hi hj _ hslot hw hp hh hs =>
    refine h.seat hl ho hi hj { job with state := .dispatched, dispatchedAt := now, deadline } rfl
      hslot ?_ hp hh (Or.inr ⟨rfl, hs⟩) _
    exact Or.inl ⟨hw.orphaned, hw.interested, hw.priority⟩
  | park i j job hl ho hi hj _ hslot hw hp hh hs =>
    refine h.seat hl ho hi hj { job with state := .sending } rfl hslot ?_ hp hh
      (Or.inl ⟨rfl, hs⟩) b.trace
    exact ⟨hw.orphaned, hw.interested, hw.priority⟩
  | halt => exact { h with slots := fun i hi ho => (h.slots i hi ho).halt }
  | halted hs => exact { h with slots := fun i hi ho => (h.slots i hi ho).halted (hs i hi ho) }
  | burn _ => exact { h with }
  | assign i j job a deadline hl hj =>
    have hedit := h.edit hj (Eq.refl ({ job with
      deadline, assembly := some a, queryId := b.nextQueryId, slotIndex := i } : Job).entry)
      (Or.inl hl)
    exact { hedit with }
  | feed j job a a' hj hs _ _ => exact h.feed hj hs a'
  | accept j job a a' packet header hj hs _ _ _ _ => exact { h.feed hj hs a' with }
  | drop j job hl hj => exact h.edit hj rfl (Or.inl hl)
  | retime j job job' hl hj hr => exact h.edit hj (by rw [hr.same]) (Or.inl hl)
  | publish j job a c kind entryName response now hl hj _ _ _ _ _ _ _ _ hst =>
    -- the other jobs are for other entries
    refine { h with payload := ?_ }
    intro k x hx hk hc
    refine (hst.other x.entry ?_).trans (h.payload k x hx hk hc)
    intro he
    exact hk (by rw [hl, h.unique j k job x hj hx he.symm])
  | create job priority hl hcount hnew => exact h.create hl hcount hnew
  | join j job priority priority' hj hc hs => exact h.rank hj hs
  | leave j job priority priority' orphaned hj hc hi hs => exact h.rank hj hs
  | free j job hl hj => exact h.free hl hj

/-- **Hence every sequence of moves does.** -/
theorem Steps.placed (hs : Steps limits b ls b') (h : Placed limits b) : Placed limits b' := by
  induction hs with
  | refl b => exact h
  | cons hm _ ih => exact ih (hm.placed h)

end MinecraftRelay
