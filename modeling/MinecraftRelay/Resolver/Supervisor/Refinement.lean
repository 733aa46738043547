/-
  File:      Resolver/Supervisor/Refinement.lean
  Subject:   THE SUPERVISOR REFINES THE JOB BOARD AND KEEPS ITS BOOKS: every function of
             supervisor.c makes moves of the board only, and leaves right books right.

  Each function has one lemma: a `Course` from the point it is called at to the point it leaves.
  A point is the state, with the job the function holds, the slot it works on, and the job that it
  has counted out.  Timers, budgets and observations never appear; what a function needs to know
  about the jobs it finds comes from `Placed`, which the moves keep.

  Jobs, helpers and dispatch are here, up to `dispatch_course`; answers, events, timers and
  interests are Rounds.lean.
-/
import MinecraftRelay.Resolver.Supervisor.Board
import MinecraftRelay.Resolver.Supervisor.Books

namespace MinecraftRelay

open Placement
open Function (update update_eq_self update_idem update_self)

variable {limits : SupervisorLimits} {s : Supervisor} {L : Option JobId} {H : Option Nat} {q : Bool}
  {i : Nat} {j : JobId} {job : Job} {t : Timespec}

variable {s' : Supervisor} {failure : HelperFailure} {response : AssemblyResult} {e : EntryId}
  {status : AssignStatus} {env : SendEnv}

variable {W : Wait → Prop} {refs : EntryId → Nat} {hand : Option JobId}

/-- Moves that leave the interests alone. -/
abbrev Tau (limits : SupervisorLimits) (b b' : Board) : Prop := Steps limits b [] b'

theorem Tau.trans {b b' b'' : Board} (h : Tau limits b b') (h' : Tau limits b' b'') :
    Tau limits b b'' := Steps.trans h h'

/-- A point in a function of the supervisor: it holds the job `loose`, works on the slot `opened`,
    and the job `hand` is in no count. -/
structure Point where
  s : Supervisor
  loose : Option JobId
  opened : Option Nat
  hand : Option JobId

/-- The point between two functions. -/
abbrev Supervisor.rest (s : Supervisor) : Point := ⟨s, none, none, none⟩

/-- **From one point of a call at `t` to another**: by moves of the board, and right books stay
    right. -/
structure Course (limits : SupervisorLimits) (t : Timespec) (q : Bool) (a : Point) (ls : List Label)
    (b : Point) : Prop where
  steps : Steps limits (a.s.board a.loose a.opened q) ls (b.s.board b.loose b.opened q)
  booked : ∀ {W : Wait → Prop} {refs : EntryId → Nat}, Arms limits t W →
    Booked limits W refs a.s.books a.hand → Booked limits W refs b.s.books b.hand

/-- From the state between two functions to another such state. -/
abbrev Passes (limits : SupervisorLimits) (t : Timespec) (q : Bool) (s s' : Supervisor) : Prop :=
  Course limits t q s.rest [] s'.rest

namespace Course

variable {a b c : Point} {ls : List Label}

theorem refl (a : Point) : Course limits t q a [] a := ⟨.refl _, fun _ h => h⟩

theorem trans (h : Course limits t q a [] b) (h' : Course limits t q b ls c) :
    Course limits t q a ls c :=
  ⟨Steps.trans h.steps h'.steps, fun harms hbooked => h'.booked harms (h.booked harms hbooked)⟩

/-- What follows leaves the interests alone. -/
theorem quietly (h : Course limits t q a ls b) (h' : Course limits t q b [] c) :
    Course limits t q a ls c := by
  refine ⟨?_, fun harms hbooked => h'.booked harms (h.booked harms hbooked)⟩
  have hsteps := h.steps.trans h'.steps
  rwa [List.append_nil] at hsteps

theorem placed (h : Course limits t q a ls b) (hp : Placed limits (a.s.board a.loose a.opened q)) :
    Placed limits (b.s.board b.loose b.opened q) := h.steps.placed hp

/-- What is neither on the board nor in the books may differ. -/
theorem unseen (h : Course limits t q a ls ⟨s, L, H, hand⟩)
    (hboard : s'.board L H q = s.board L H q) (hbooks : s'.books = s.books) :
    Course limits t q a ls ⟨s', L, H, hand⟩ where
  steps := by
    rw [hboard]
    exact h.steps
  booked := fun harms hbooked => by
    rw [hbooks]
    exact h.booked harms hbooked

/-- The memory that is charged is on no board and in no book. -/
theorem charge (h : Course limits t q a ls ⟨s, L, H, hand⟩) (budget : AssemblyBudget) :
    Course limits t q a ls ⟨{ s with budget }, L, H, hand⟩ := h.unseen rfl rfl

end Course

/-! ## 1. What is not on the board, and not in the books -/

section Quiet

variable (s : Supervisor) (L : Option JobId) (H : Option Nat) (q : Bool)

/-- Counting an attempt writes nothing but the metrics. -/
theorem incrementAttempt_metered (e : EntryId) (counter : AttemptCounter) :
    ∃ metrics, s.incrementAttempt e counter = { s with metrics } := by
  unfold Supervisor.incrementAttempt
  split <;> exact ⟨_, rfl⟩

theorem board_incrementAttempt (e : EntryId) (counter : AttemptCounter) :
    (s.incrementAttempt e counter).board L H q = s.board L H q := by
  unfold Supervisor.incrementAttempt
  split <;> rfl

theorem board_observeDuration (e : EntryId) (histogram : QueryType → SupervisorHistogram)
    (start finish : Timespec) :
    (s.observeDuration e histogram start finish).board L H q = s.board L H q := by
  unfold Supervisor.observeDuration
  split <;> rfl

theorem board_observationPush (observation : Observation) :
    (observationPush limits s observation).board L H q = s.board L H q := by
  unfold observationPush
  split <;> rfl

theorem board_timerRearm (set : Bool) :
    (timerRearm limits s set).1.board L H q = s.board L H q := by
  unfold timerRearm
  split <;> rfl

theorem board_attemptFailureRecord (job : Job) (failure : HelperFailure) (t : Timespec) :
    (attemptFailureRecord s job failure t).board L H q = s.board L H q := by
  unfold attemptFailureRecord
  split
  · rfl
  · rw [board_observeDuration, board_incrementAttempt]

theorem board_responseRecord (job : Job) (response : AssemblyResult) :
    (responseRecord s job response).board L H q = s.board L H q := by
  unfold responseRecord
  split
  · rw [board_observeDuration, board_incrementAttempt, board_incrementAttempt]
  · rw [board_observeDuration, board_incrementAttempt]

theorem board_jobFree (j : JobId) (job : Job) :
    (jobFree limits s j job).board L H q = { s.board L H q with
      buckets := update s.buckets (jobBucket limits job.entry)
        ((s.buckets (jobBucket limits job.entry)).erase j)
      jobs := update s.jobs j none
      jobCount := s.jobCount - 1 } := by
  have hcount : (if s.jobCount > 0 then s.jobCount - 1 else s.jobCount) = s.jobCount - 1 := by
    split <;> omega
  unfold jobFree Supervisor.board
  rw [hcount]

end Quiet

theorem increment_booked {k : SupervisorMetric} (hk : ¬ k.Booked)
    (h : Booked limits W refs s.books hand) : Booked limits W refs (s.increment k).books hand :=
  h.counters (.increment hk)

theorem increment_course {k : SupervisorMetric} (hk : ¬ k.Booked) :
    Course limits t q ⟨s, L, H, hand⟩ [] ⟨s.increment k, L, H, hand⟩ :=
  ⟨.refl _, fun _ h => increment_booked hk h⟩

theorem incrementAttempt_eq {type : QueryType} (ht : s.books.typeOf e = some type)
    (k : AttemptCounter) : s.incrementAttempt e k = s.increment (.attempt type k) := by
  unfold Supervisor.incrementAttempt
  rw [show s.entryQueryType e = some type from ht]

theorem incrementAttempt_booked {k : AttemptCounter}
    (hk : k ∉ .dispatched :: attemptOutcomes ++ .completionEnqueued :: completionOutcomes)
    (h : Booked limits W refs s.books hand) :
    Booked limits W refs (s.incrementAttempt e k).books hand := by
  unfold Supervisor.incrementAttempt
  split
  · exact h
  · exact increment_booked hk h

theorem observeDuration_booked (e : EntryId) (histogram : QueryType → SupervisorHistogram)
    (start finish : Timespec) (h : Booked limits W refs s.books hand) :
    Booked limits W refs (s.observeDuration e histogram start finish).books hand := by
  unfold Supervisor.observeDuration
  split
  · exact h
  · exact h.counters (.observeDuration ..)

theorem observationPush_booked (observation : Observation) (h : Booked limits W refs s.books hand) :
    Booked limits W refs (observationPush limits s observation).books hand := by
  unfold observationPush
  split
  · exact increment_booked (s := { s with observationHead := _, observationCount := _ }) id h
  · exact h

/-! ## 2. Writes to one job or one slot -/

@[simp] theorem setJob_jobs_self : (s.setJob j job).jobs j = some job := update_self ..

@[simp] theorem setJob_setJob (job job' : Job) :
    (s.setJob j job).setJob j job' = s.setJob j job' := by
  unfold Supervisor.setJob
  simp only [update_idem]

theorem setJob_self (hj : s.jobs j = some job) : s.setJob j job = s := by
  unfold Supervisor.setJob
  rw [← hj, update_eq_self]

@[simp] theorem setHelper_helpers_self (helper : Helper) :
    (s.setHelper i helper).helpers i = helper := update_self ..

theorem retime_course (hj : s.jobs j = some job) (job' : Job) (hr : Retimed job job')
    (hw : job'.waitsFor = job.waitsFor) :
    Course limits t q ⟨s, some j, H, hand⟩ [] ⟨s.setJob j job', some j, H, hand⟩ where
  steps := (Move.retime (s.board (some j) H q) j job job' rfl hj hr).steps
  booked := fun _ h => by
    refine h.amend job' hj (by rw [hr.same]) (by rw [hr.same]) (fun a ha => ?_) (by rw [hr.same])
      (by rw [hr.same]) ?_
    · rw [hr.same] at ha
      exact (h.fit j job hj).asked a ha
    · rw [Job.waiting, hw, hr.same]
      rfl

theorem drop_course (hj : s.jobs j = some job) :
    Course limits t q ⟨s, some j, H, hand⟩ [] ⟨s.setJob j job.dropped, some j, H, hand⟩ where
  steps := (Move.drop (s.board (some j) H q) j job rfl hj).steps
  booked := fun _ h => h.amend _ hj rfl rfl (fun _ ha => by cases ha) rfl rfl rfl

theorem helper_course (helper : Helper)
    (h : H = some i ∨ (helper.job = (s.helpers i).job ∧ helper.state = (s.helpers i).state))
    (hv : timeutilValid t = true → timeutilValid (s.helpers i).nextEventAt = true →
      timeutilValid helper.nextEventAt = true) :
    Course limits t q ⟨s, L, H, hand⟩ [] ⟨s.setHelper i helper, L, H, hand⟩ where
  steps := (Move.helper (s.board L H q) i helper h).steps
  booked := fun harms h => h.helper i helper (hv harms.valid (h.events i))

theorem closeSlot_course (hj : (s.helpers i).job = none)
    (hs : q = false → (s.helpers i).state ≠ .sending ∧ (s.helpers i).state ≠ .busy) :
    Course limits t q ⟨s, L, some i, hand⟩ [] ⟨s, L, none, hand⟩ :=
  ⟨(Move.closeSlot (s.board L (some i) q) i rfl hj hs).steps, fun _ h => h⟩

/-- A helper without a job is written into the opened slot, which is closed. -/
theorem shutSlot_course (helper : Helper) (hj : helper.job = none)
    (hs : helper.state ≠ .sending ∧ helper.state ≠ .busy)
    (hv : timeutilValid t = true → timeutilValid (s.helpers i).nextEventAt = true →
      timeutilValid helper.nextEventAt = true) :
    Course limits t q ⟨s, L, some i, hand⟩ [] ⟨s.setHelper i helper, L, none, hand⟩ := by
  refine (helper_course helper (Or.inl rfl) hv).trans (closeSlot_course ?_ fun _ => ?_) <;>
    rw [setHelper_helpers_self]
  · exact hj
  · exact hs

theorem openSlot_course (hj : (s.helpers i).job = none) :
    Course limits t q ⟨s, L, none, hand⟩ [] ⟨s, L, some i, hand⟩ :=
  ⟨(Move.openSlot (s.board L none q) i rfl hj).steps, fun _ h => h⟩

theorem lift_course (hj : (s.helpers i).job = some j) :
    Course limits t q ⟨s, none, none, hand⟩ [] ⟨s, some j, some i, hand⟩ :=
  ⟨(Move.lift (s.board none none q) i j rfl rfl hj).steps, fun _ h => h⟩

/-- A job that no count knows goes into the hand. -/
theorem take_course (hj : s.jobs j = some job) (hd : job.state ≠ .dispatched)
    (hc : job.state ≠ .complete) : Course limits t q ⟨s, L, H, none⟩ [] ⟨s, L, H, some j⟩ :=
  ⟨.refl _, fun _ h => h.take hj hd hc⟩

/-! ## 3. Queues, completions and the end of a job -/

@[simp] theorem queueRemove_jobs : (queueRemove s j).jobs = s.jobs := by
  unfold queueRemove
  split <;> rfl

@[simp] theorem queueRemove_cache : (queueRemove s j).cache = s.cache := by
  unfold queueRemove
  split <;> rfl

theorem queueRemove_books : (queueRemove s j).books = s.books := by
  unfold queueRemove
  split <;> rfl

theorem queueRemove_course (hj : s.jobs j = some job) (hs : job.state = .queued) :
    Course limits t q ⟨s, none, H, hand⟩ [] ⟨queueRemove s j, some j, H, hand⟩ where
  steps := by
    unfold queueRemove
    rw [hj]
    exact (Move.unqueue (s.board none H q) j job rfl hj hs).steps
  booked := fun _ h => by
    rw [queueRemove_books]
    exact h

/-- A job in the hand that may go to a queue. -/
structure Job.Idle (cache : Cache) (job : Job) : Prop where
  wanted : job.Wanted
  assembly : job.assembly = none
  payload : cache.payload job.entry = none

theorem queueInsert_booked {ids : List JobId} (h : Booked limits W refs s.books (some j))
    (hj : s.jobs j = some job) (ha : job.assembly = none) :
    Booked limits W refs (queueInsert s j job ids).books none := by
  have hwritten := h.write { job with state := .queued } hj rfl
    ⟨fun a hassembly => absurd (ha.symm.trans hassembly) nofun, nofun, nofun⟩
  have hput := hwritten.put (j := j) (update_self ..) nofun nofun
  exact hput.counters (.highWater id _)

section

variable (hj : s.jobs j = some job) (hidle : job.Idle s.cache)

include hj hidle

theorem queueInsert_course {ids : List JobId} (hids : ids.Perm (j :: (s.queues job.priority).ids)) :
    Course limits t q ⟨s, some j, H, some j⟩ [] ⟨queueInsert s j job ids, none, H, none⟩ where
  steps := (Move.enqueue (s.board (some j) H q) j job ids rfl hj hidle.wanted hidle.assembly
    hidle.payload hids).steps
  booked := fun _ h => queueInsert_booked h hj hidle.assembly

theorem queueAppend_course :
    Course limits t q ⟨s, some j, H, some j⟩ [] ⟨queueAppend s j, none, H, none⟩ := by
  unfold queueAppend
  rw [hj]
  exact queueInsert_course hj hidle (List.perm_append_singleton j _)

theorem queuePrepend_course :
    Course limits t q ⟨s, some j, H, some j⟩ [] ⟨queuePrepend s j, none, H, none⟩ := by
  unfold queuePrepend
  rw [hj]
  exact queueInsert_course hj hidle (List.Perm.refl _)

end

/-- A response without an answer is fit for the owners of the entry. -/
theorem emptyResponse_deliverable {type : QueryType} {publication : PublishStatus}
    {status : LookupStatus} (hs : status ≠ .temporaryError) (hp : publication ≠ .transient)
    (ht : s.books.typeOf e = some type) :
    Deliverable (some type) publication (emptyResponse s e status) := by
  have htype : s.entryQueryType e = some type := ht
  have hquery : (emptyResponse s e status).queryType = type := by
    unfold emptyResponse
    rw [htype]
    rfl
  refine ⟨by rw [hquery], hs, rfl, ?_, fun h => absurd h hp⟩
  unfold emptyResponse
  rw [htype]
  cases type <;> simp

theorem jobComplete_booked {publication : PublishStatus}
    (h : Booked limits W refs s.books (some j)) (hj : s.jobs j = some job)
    (ha : job.assembly = none) (hd : Deliverable (s.books.typeOf job.entry) publication response) :
    Booked limits W refs (jobComplete s j publication response).books none := by
  obtain ⟨type, ht⟩ := h.typed hj
  unfold jobComplete
  rw [hj]
  dsimp only
  rw [incrementAttempt_eq ht]
  exact h.register { job with
      backgroundInterestCount := 0, interactiveInterestCount := 0, publication,
      response := some response, state := .complete }
    hj rfl .completion rfl ht ⟨fun a hassembly => absurd (ha.symm.trans hassembly) nofun,
      fun _ => ⟨response, rfl, hd⟩, nofun⟩

section

variable {publication : PublishStatus} (hj : s.jobs j = some job) (ho : job.orphaned = false)
  (ha : job.assembly = none)

include hj ho ha

theorem jobComplete_steps :
    Tau limits (s.board (some j) H q) ((jobComplete s j publication response).board none H q) := by
  have hm : Tau limits _ _ := (Move.complete (s.board (some j) H q) j job publication response
    rfl hj ho ha).steps
  unfold jobComplete
  rw [hj]
  dsimp only
  -- the counter of enqueued completions is not on the board
  unfold Supervisor.incrementAttempt
  split <;> exact hm

theorem jobComplete_course (hd : ∀ {type}, s.books.typeOf job.entry = some type →
      Deliverable (some type) publication response) :
    Course limits t q ⟨s, some j, H, some j⟩ []
      ⟨jobComplete s j publication response, none, H, none⟩ where
  steps := jobComplete_steps hj ho ha
  booked := fun _ h => by
    obtain ⟨type, ht⟩ := h.typed hj
    exact jobComplete_booked h hj ha (ht ▸ hd ht)

end

/-- The label of a job that is given up with the interests it has. -/
def Job.leftover (job : Job) : List Label :=
  if job.backgroundInterestCount = 0 ∧ job.interactiveInterestCount = 0 then []
  else [.abandon job.entry]

/-- Freeing the job in the hand and giving its reference to the entry back. -/
theorem jobFree_steps {cache : Cache} (hj : s.jobs j = some job) (hk : PayloadsKept s.cache cache) :
    Steps limits (s.board (some j) H q) job.leftover
      ({ (jobFree limits s j job).board none H q with cache }) := by
  have hfree : Steps limits (s.board (some j) H q) job.leftover
      ((jobFree limits s j job).board none H q) := by
    rw [board_jobFree]
    exact (Move.free (s.board (some j) H q) j job rfl hj).steps
  have hboth := hfree.trans (Move.cache _ cache hk).steps
  rwa [List.append_nil] at hboth

/-- The job in the hand is freed, and gives its reference back. -/
theorem jobDestroy_booked (h : Booked limits W refs s.books (some j)) (hj : s.jobs j = some job) :
    Booked limits W refs (jobDestroy limits s j).books none := by
  have hfreed := (h.free hj).release
  unfold jobDestroy
  rw [hj]
  dsimp only
  split
  · have hbooks := queueRemove_books (s := s) (j := j)
    generalize queueRemove s j = s₁ at hbooks ⊢
    rw [← hbooks] at hfreed
    exact hfreed
  · exact hfreed
  · exact hfreed

theorem jobDestroy_course (hj : s.jobs j = some job) (hq : job.state ≠ .queued)
    (hc : job.state ≠ .complete) :
    Course limits t q ⟨s, some j, H, some j⟩ job.leftover
      ⟨jobDestroy limits s j, none, H, none⟩ where
  steps := by
    have hf : Steps limits _ _ _ := jobFree_steps (H := H) (q := q) hj
      (entryRelease_kept : PayloadsKept _ (entryRelease limits.toCacheLimits _ job.entry))
    unfold jobDestroy
    rw [hj]
    dsimp only
    split
    · exact absurd ‹job.state = .queued› hq
    · exact absurd ‹job.state = .complete› hc
    · exact hf
  booked := fun _ h => jobDestroy_booked h hj

/-- Destroying a job that is in a queue, in the completion list, or in no list. -/
theorem jobDestroy_placed_steps (hj : s.jobs j = some job) (hs : job.state ≠ .sending)
    (hd : job.state ≠ .dispatched) :
    Steps limits (s.board none H q) job.leftover ((jobDestroy limits s j).board none H q) := by
  have hk : PayloadsKept s.cache (entryRelease limits.toCacheLimits s.cache job.entry) :=
    entryRelease_kept
  unfold jobDestroy
  rw [hj]
  dsimp only
  cases hstate : job.state with
  | queued =>
    have hf : Steps limits _ _ _ := jobFree_steps (H := H) (q := q)
      (s := queueRemove s j) (by rw [queueRemove_jobs]; exact hj)
      (by rw [queueRemove_cache]; exact hk)
    simp only [queueRemove_cache]
    have hremove : Course limits s.lastNow q ⟨s, none, H, none⟩ [] _ := queueRemove_course hj hstate
    exact hremove.steps.trans hf
  | complete =>
    have hf : Steps limits _ _ _ := jobFree_steps (H := H) (q := q)
      (s := { s with completions := s.completions.erase j }) hj hk
    exact (Move.uncomplete (s.board none H q) j job rfl hj hstate).steps.trans hf
  | retryWait =>
    have hf : Steps limits _ _ _ := jobFree_steps (H := H) (q := q) hj hk
    exact (Move.wake (s.board none H q) j job rfl hj hstate).steps.trans hf
  | sending => exact absurd hstate hs
  | dispatched => exact absurd hstate hd

/-- A job in the hand that a helper failed or that is to be tried again: it is wanted, or it is an
    orphan that was dispatched. -/
def Job.Open (job : Job) : Prop := job.Wanted ∨ (job.state = .dispatched ∧ job.Orphan)

theorem Job.Orphan.leftover {job : Job} (h : job.Orphan) : job.leftover = [] := by
  unfold Job.leftover
  rw [if_pos ⟨h.background, h.interactive⟩]

/-- The three ends of a retry: an orphan is dropped, a time that cannot be represented completes the
    job, and otherwise the job waits. -/
theorem jobRetry_cases (limits : SupervisorLimits) (t : Timespec) (hj : s.jobs j = some job) :
    (job.orphaned = true ∧ jobRetry limits s j t = jobDestroy limits s j) ∨
    (job.orphaned = false ∧ ∃ retryCount, 0 < retryCount ∧
      (jobRetry limits s j t = jobComplete (s.setJob j { job with retryCount }) j .time
          (emptyResponse s job.entry .permanentError) ∨
        ∃ retryAt, timeutilAddMilliseconds t (delayJitter limits (delayQueryBase limits retryCount)
            limits.queryRetryMaxMs 0x51 job.entry retryCount) = some retryAt ∧
          jobRetry limits s j t =
            (s.setJob j { job with retryCount, retryAt, state := .retryWait }).incrementAttempt
              job.entry .retryScheduled)) := by
  unfold jobRetry
  rw [hj]
  dsimp only
  split
  · rename_i ho
    exact Or.inl ⟨ho, rfl⟩
  · rename_i ho
    refine Or.inr ⟨Bool.eq_false_iff.2 ho,
      if job.retryCount < uint64Max then job.retryCount + 1 else job.retryCount, ?_, ?_⟩
    · split
      · exact Nat.succ_pos _
      · rename_i hmax
        exact Nat.lt_of_lt_of_le (by decide) (Nat.le_of_not_lt hmax)
    · split
      · exact Or.inl rfl
      · rename_i retryAt hretry
        exact Or.inr ⟨retryAt, hretry, rfl⟩

theorem jobRetry_course (hj : s.jobs j = some job) (hopen : job.Open) (ha : job.assembly = none)
    (hp : s.cache.payload job.entry = none) :
    Course limits t q ⟨s, some j, H, some j⟩ [] ⟨jobRetry limits s j t, none, H, none⟩ := by
  rcases jobRetry_cases limits t hj with ⟨ho, heq⟩ | ⟨ho, retryCount, hpos, hrest⟩
  · rw [heq]
    rcases hopen with hw | ⟨hd, horphan⟩
    · rw [hw.orphaned] at ho
      cases ho
    · rw [← horphan.leftover]
      exact jobDestroy_course hj (by rw [hd]; exact nofun) (by rw [hd]; exact nofun)
  · have hw : job.Wanted := hopen.resolve_right fun h => by
      rw [h.2.orphaned] at ho
      cases ho
    rcases hrest with heq | ⟨retryAt, hretry, heq⟩
    · rw [heq]
      exact (retime_course hj { job with retryCount } ⟨rfl, fun _ => rfl⟩ rfl).trans
        (jobComplete_course setJob_jobs_self hw.orphaned ha
          (emptyResponse_deliverable nofun nofun))
    · rw [heq]
      constructor
      · rw [board_incrementAttempt]
        have hretime : Tau limits _ _ := (Move.retime (s.board (some j) H q) j job
          { job with retryCount, retryAt } rfl hj ⟨rfl, fun _ => rfl⟩).steps
        have hwait : Tau limits _ _ := (Move.wait ((s.setJob j
          { job with retryCount, retryAt }).board (some j) H q) j _ rfl setJob_jobs_self
          ⟨hw.orphaned, hw.interested, hw.priority⟩ ha hp).steps
        have hboth := Tau.trans hretime hwait
        dsimp only [Supervisor.setJob, Supervisor.board] at hboth ⊢
        rw [update_idem] at hboth
        exact hboth
      · intro W refs harms h
        have hwritten : Booked limits W refs
            (s.setJob j { job with retryCount, retryAt, state := .retryWait }).books (some j) := by
          refine h.write _ hj rfl ⟨fun a hassembly => absurd (ha.symm.trans hassembly) nofun, nofun,
            fun w hwait => ?_⟩
          rw [← Option.some.inj hwait]
          exact harms.retry j _ retryAt job.entry retryCount hpos hretry
        exact incrementAttempt_booked (by decide) (hwritten.put setJob_jobs_self nofun nofun)

/-! ## 4. Helper slots -/

theorem board_setHelper (s : Supervisor) (L : Option JobId) (H : Option Nat) (q : Bool) (i : Nat)
    (helper : Helper) :
    (s.setHelper i helper).board L H q = { s.board L H q with
      helpers := update (s.board L H q).helpers i helper } := rfl

/-- The helper counts differently afterwards; job and state of the slot are the same. -/
structure Recounts (helper helper' : Helper) : Prop where
  job : helper'.job = helper.job
  state : helper'.state = helper.state
  event : timeutilValid helper.nextEventAt = true → timeutilValid helper'.nextEventAt = true

/-- A slot is recounted, and counters and observations that nobody books may change. -/
def Recounted (s s' : Supervisor) (i : Nat) : Prop :=
  ∃ helper metrics observationHead observationCount observations,
    s' = { s with
      helpers := update s.helpers i helper
      metrics, observationHead, observationCount, observations } ∧
    Recounts (s.helpers i) helper ∧ MetricsState.Leaves SupervisorMetric.Booked s.metrics metrics

theorem Recounted.refl (s : Supervisor) (i : Nat) : Recounted s s i :=
  ⟨s.helpers i, s.metrics, s.observationHead, s.observationCount, s.observations,
    by rw [update_eq_self], ⟨rfl, rfl, id⟩, .refl ..⟩

theorem Recounted.course (h : Recounted s s' i) :
    Course limits t q ⟨s, L, H, hand⟩ [] ⟨s', L, H, hand⟩ := by
  obtain ⟨helper, _, _, _, _, rfl, hr, hm⟩ := h
  exact ⟨(Move.helper (s.board L H q) i helper (Or.inr ⟨hr.job, hr.state⟩)).steps, fun _ h =>
    (h.helper i helper (hr.event (h.events i))).counters hm⟩

theorem Recounted.jobs (h : Recounted s s' i) : s'.jobs = s.jobs := by
  obtain ⟨_, _, _, _, _, rfl, _⟩ := h
  rfl

theorem Recounted.cache (h : Recounted s s' i) : s'.cache = s.cache := by
  obtain ⟨_, _, _, _, _, rfl, _⟩ := h
  rfl

theorem Recounted.setJob (h : Recounted s s' i) (j : JobId) (job : Job) :
    Recounted (s.setJob j job) (s'.setJob j job) i := by
  obtain ⟨helper, metrics, _, _, _, rfl, hr, hm⟩ := h
  exact ⟨helper, metrics, _, _, _, rfl, hr, hm⟩

section

variable (limits : SupervisorLimits)

theorem observationPush_spec (s : Supervisor) (observation : Observation) :
    ∃ metrics observationHead observationCount observations,
      observationPush limits s observation = { s with
        metrics, observationHead, observationCount, observations } ∧
      MetricsState.Leaves SupervisorMetric.Booked s.metrics metrics := by
  unfold observationPush
  split
  · exact ⟨_, _, _, _, rfl, .increment id⟩
  · exact ⟨_, _, _, _, rfl, .refl ..⟩

theorem helperRecover_recounted (recovery : HelperRecovery) :
    Recounted s (helperRecover limits s i recovery t) i := by
  unfold helperRecover
  dsimp only
  split
  · exact .refl s i
  · have hcounted : MetricsState.Leaves SupervisorMetric.Booked s.metrics
        (s.increment (.helper (.recovery recovery))).metrics := .increment id
    split
    · exact ⟨_, _, _, _, _, rfl, ⟨rfl, rfl, fun _ => rfl⟩, hcounted.trans (.increment id)⟩
    · obtain ⟨_, _, _, _, hpush, hm⟩ := observationPush_spec limits
        (s.increment (.helper (.recovery recovery))) (.recovered (s.helpers i).cycleId
          (s.helpers i).degradedAt (s.helpers i).failureCount (s.helpers i).lastFailure t
          (s.helpers i).processId recovery i)
      rw [hpush]
      exact ⟨_, _, _, _, _, rfl, ⟨rfl, rfl, fun _ => rfl⟩, hcounted.trans hm⟩

theorem helperSuccess_recounted :
    Recounted s (helperSuccess limits s i t) i := by
  unfold helperSuccess
  dsimp only
  split
  · exact .refl s i
  · split
    · obtain ⟨helper, metrics, head, count, kept, heq, hr, hm⟩ := helperRecover_recounted limits
        (i := i) (t := t) (s := s.setHelper i { s.helpers i with
          consecutiveSuccesses := (s.helpers i).consecutiveSuccesses + 1 }) .successStreak
      rw [setHelper_helpers_self] at hr
      rw [heq]
      refine ⟨helper, metrics, head, count, kept, ?_, ⟨hr.job, hr.state, hr.event⟩, hm⟩
      dsimp only [Supervisor.setHelper]
      rw [update_idem]
    · exact ⟨_, s.metrics, s.observationHead, s.observationCount, s.observations, rfl,
        ⟨rfl, rfl, id⟩, .refl ..⟩

theorem helperBackoff_job (helper : Helper) (failure : HelperFailure) :
    (helperBackoff limits i helper failure t).1.job = helper.job := by
  unfold helperBackoff
  dsimp only
  split
  · split <;> rfl
  · rfl

/-- A slot whose process is gone is stopped, or waits for the next one; the board sees only this. -/
theorem respawnSchedule_spec (s : Supervisor) (i : Nat) (failure : HelperFailure) (t : Timespec) :
    ∃ helper : Helper, (∀ L H q, (respawnSchedule limits s i failure t).board L H q =
        (s.setHelper i helper).board L H q) ∧
      helper.job = (s.helpers i).job ∧ (helper.state = .stopped ∨ helper.state = .backoff) := by
  unfold respawnSchedule
  dsimp only
  split
  · exact ⟨_, fun _ _ _ => rfl, rfl, Or.inl rfl⟩
  · have hjob := helperBackoff_job limits (i := i) (t := t)
      { s.helpers i with consecutiveSuccesses := 0 } failure
    split
    · exact ⟨_, fun _ _ _ => rfl, hjob, Or.inr rfl⟩
    · exact ⟨_, fun L H q => board_observationPush _ L H q _, hjob, Or.inr rfl⟩

end

theorem respawnSchedule_booked (hv : timeutilValid t = true)
    (h : Booked limits W refs s.books hand) :
    Booked limits W refs (respawnSchedule limits s i failure t).books hand := by
  unfold respawnSchedule
  dsimp only
  split
  · exact h.helper i _ rfl
  · have hvalid : timeutilValid (helperBackoff limits i
        { s.helpers i with consecutiveSuccesses := 0 } failure t).1.nextEventAt = true :=
      timeutilAddMilliseconds_getD_valid hv _
    generalize helperBackoff limits i { s.helpers i with consecutiveSuccesses := 0 } failure t = r
      at hvalid ⊢
    have hslot := h.helper i r.1 hvalid
    have hcounted := increment_booked (s := s.setHelper i r.1) (k := .helper (.failure failure)) id
      hslot
    split
    · exact increment_booked (k := .helper .observationDropped) id hcounted
    · exact observationPush_booked _ hcounted

/-- An opened slot without a job is closed for a respawn, or for good at shutdown. -/
theorem respawnSchedule_course (hj : (s.helpers i).job = none) :
    Course limits t q ⟨s, L, some i, hand⟩ []
      ⟨respawnSchedule limits s i failure t, L, none, hand⟩ where
  steps := by
    obtain ⟨helper, hboard, hjob, hstate⟩ := respawnSchedule_spec limits s i failure t
    have hhelper : Tau limits _ _ :=
      (Move.helper (s.board L (some i) q) i helper (Or.inl rfl)).steps
    rw [hboard]
    refine Tau.trans hhelper
      (Move.closeSlot ((s.setHelper i helper).board L (some i) q) i rfl ?_ fun _ => ?_).steps
    · exact (congrArg Helper.job (setHelper_helpers_self helper)).trans (hjob.trans hj)
    · show ((s.setHelper i helper).helpers i).state ≠ .sending ∧
        ((s.setHelper i helper).helpers i).state ≠ .busy
      rw [setHelper_helpers_self]
      rcases hstate with hs | hs <;> (rw [hs]; exact ⟨nofun, nofun⟩)
  booked := fun harms h => respawnSchedule_booked harms.valid h

/-- A helper without a job is written into the opened slot first. -/
theorem respawnWith_course {helper : Helper} (hj : helper.job = none)
    (hv : helper.nextEventAt = (s.helpers i).nextEventAt) :
    Course limits t q ⟨s, L, some i, hand⟩ []
      ⟨respawnSchedule limits (s.setHelper i helper) i failure t, L, none, hand⟩ := by
  refine (helper_course helper (Or.inl rfl) fun _ h => hv ▸ h).trans (respawnSchedule_course ?_)
  rw [setHelper_helpers_self]
  exact hj

section Detach

variable (hj : s.jobs j = some job)

include hj

theorem assemblyDrop_jobs : (assemblyDrop s j).jobs j = some job.dropped := by
  unfold assemblyDrop
  rw [hj]
  exact update_self ..

theorem assemblyDrop_course :
    Course limits t q ⟨s, some j, H, hand⟩ [] ⟨assemblyDrop s j, some j, H, hand⟩ := by
  unfold assemblyDrop
  rw [hj]
  exact (drop_course hj).unseen rfl rfl

theorem helperDetach_course :
    Course limits t q ⟨s, some j, some i, hand⟩ [] ⟨helperDetach s i j, some j, some i, hand⟩ :=
  (assemblyDrop_course hj).trans (helper_course _ (Or.inl rfl) fun _ h => h)

theorem helperDetach_jobs : (helperDetach s i j).jobs j = some job.dropped :=
  assemblyDrop_jobs hj

end Detach

theorem assemblyDrop_cache : (assemblyDrop s j).cache = s.cache := by
  unfold assemblyDrop
  split <;> rfl

theorem helperDetach_cache : (helperDetach s i j).cache = s.cache := assemblyDrop_cache

theorem helperDetach_job : ((helperDetach s i j).helpers i).job = none := by
  unfold helperDetach
  rw [setHelper_helpers_self]

/-! ## 5. The failure of a helper -/

/-- What leaves the board alone leaves its helpers alone. -/
theorem helpers_of_board (h : s'.board none none = s.board none none) :
    s'.helpers = s.helpers := congrArg Board.helpers h

@[simp] theorem incrementAttempt_helpers (e : EntryId) (counter : AttemptCounter) :
    (s.incrementAttempt e counter).helpers = s.helpers :=
  helpers_of_board (board_incrementAttempt ..)

@[simp] theorem jobComplete_helpers (publication : PublishStatus) (response : AssemblyResult) :
    (jobComplete s j publication response).helpers = s.helpers := by
  unfold jobComplete
  split
  · rfl
  · exact incrementAttempt_helpers ..

@[simp] theorem queueRemove_helpers : (queueRemove s j).helpers = s.helpers := by
  unfold queueRemove
  split <;> rfl

@[simp] theorem queuePrepend_helpers : (queuePrepend s j).helpers = s.helpers := by
  unfold queuePrepend
  split <;> rfl

@[simp] theorem jobDestroy_helpers : (jobDestroy limits s j).helpers = s.helpers := by
  unfold jobDestroy
  split
  · rfl
  · split
    · exact queueRemove_helpers
    · rfl
    · rfl

@[simp] theorem jobRetry_helpers : (jobRetry limits s j t).helpers = s.helpers := by
  unfold jobRetry
  split
  · rfl
  · dsimp only
    split
    · exact jobDestroy_helpers
    · split
      · exact jobComplete_helpers ..
      · exact incrementAttempt_helpers ..

theorem attemptFailureRecord_frame (job : Job) (failure : HelperFailure) :
    (attemptFailureRecord s job failure t).jobs = s.jobs ∧
      (attemptFailureRecord s job failure t).cache = s.cache ∧
      (attemptFailureRecord s job failure t).helpers = s.helpers := by
  have h := board_attemptFailureRecord s none none false job failure t
  exact ⟨congrArg Board.jobs h, congrArg Board.cache h, congrArg Board.helpers h⟩

/-- The failure of a DISPATCHED job is counted, which takes the job into the hand. -/
theorem attemptFailureRecord_course (job' : Job) (hj : s.jobs j = some job)
    (hs : job.state = .dispatched) (he : job'.entry = job.entry) (hf : failure ≠ .spawn) :
    Course limits t q ⟨s, L, H, none⟩ [] ⟨attemptFailureRecord s job' failure t, L, H, some j⟩ where
  steps := by
    rw [board_attemptFailureRecord]
    exact .refl _
  booked := fun _ h => by
    obtain ⟨type, ht⟩ := h.typed hj
    unfold attemptFailureRecord
    rw [if_neg hf, he, incrementAttempt_eq ht]
    refine observeDuration_booked _ _ _ _ (h.settle .attempt hj hs ht ?_)
    cases failure <;> decide

/-- An open job without its assembly. -/
theorem Job.Open.dropped (h : job.Open) : job.dropped.Open :=
  h.imp (fun w => ⟨w.orphaned, w.interested, w.priority⟩)
    fun o => ⟨o.1, o.2.orphaned, o.2.background, o.2.interactive, o.2.priority⟩

/-- An open job that is not complete, whose entry has no payload. -/
structure Job.Live (cache : Cache) (job : Job) : Prop where
  opened : job.Open
  incomplete : job.state ≠ .complete
  payload : cache.payload job.entry = none

/-- **A helper fails while the supervisor has its job in the hand.** -/
theorem helperFail_hand_course (hf : failure ≠ .spawn) (hh : (s.helpers i).job = some j)
    (hj : s.jobs j = some job) (hlive : job.Live s.cache) :
    Course limits t q ⟨s, some j, some i, none⟩ [] (helperFail limits s i failure t).rest := by
  unfold helperFail
  dsimp only
  have hstart : Course limits t q ⟨s, some j, some i, none⟩ []
      ⟨s.setHelper i (s.helpers i).marked, some j, some i, none⟩ :=
    helper_course _ (Or.inl rfl) fun _ h => h
  generalize hfailed : s.setHelper i (s.helpers i).marked = failed at hstart ⊢
  have hjob : (failed.helpers i).job = some j := by
    rw [← hfailed, setHelper_helpers_self]
    exact hh
  have hjobs : failed.jobs j = some job := by
    rw [← hfailed]
    exact hj
  have hpayload : (helperDetach failed i j).cache.payload job.entry = none := by
    rw [helperDetach_cache, ← hfailed]
    exact hlive.payload
  have hdetach := hstart.trans (helperDetach_course (i := i) hjobs)
  have hj' := helperDetach_jobs (i := i) hjobs
  rw [hjob]
  dsimp only
  rw [hjobs]
  dsimp only
  split
  · -- the request was sent: the job is tried again later
    rename_i hd
    have hframe := attemptFailureRecord_frame (s := helperDetach failed i j) (t := t) job failure
    have hcounted := hdetach.trans (attemptFailureRecord_course job hj' hd rfl hf)
    refine (hcounted.trans (jobRetry_course ?_ hlive.opened.dropped rfl ?_)).trans
      (respawnWith_course ?_ rfl)
    · exact (congrFun hframe.1 j).trans hj'
    · rw [hframe.2.1]
      exact hpayload
    · rw [jobRetry_helpers, hframe.2.2]
      exact helperDetach_job
  · -- the request was not sent: the job goes back to the head of its queue
    rename_i hd
    have hw : job.Wanted := hlive.opened.resolve_right fun h => hd h.1
    have htaken := hdetach.trans (take_course hj' hd hlive.incomplete)
    refine (htaken.trans (queuePrepend_course hj'
      ⟨⟨hw.orphaned, hw.interested, hw.priority⟩, rfl, hpayload⟩)).trans (respawnWith_course ?_ rfl)
    rw [queuePrepend_helpers]
    exact helperDetach_job

section

variable (h : AtRest limits q s)

include h

/-- What a closed slot holds is a live job of the slot. -/
theorem Placed.held_open (hh : (s.helpers i).job = some j) :
    ∃ job, s.jobs j = some job ∧ job.Live s.cache ∧ i < limits.helperCount ∧ job.slotIndex = i ∧
      ((job.state = .sending ∧ (s.helpers i).state = .sending) ∨
        (job.state = .dispatched ∧ (s.helpers i).state = .busy)) := by
  obtain ⟨hi, job, hj, hslot, hstate⟩ := h.held_job (i := i) rfl nofun hh
  have hsound := h.sound j job hj nofun
  have hc : job.state ≠ .complete := by
    rcases hstate with ⟨hs, _⟩ | ⟨hs, _⟩ <;> (rw [hs]; exact nofun)
  refine ⟨job, hj, ⟨?_, hc, h.payload j job hj nofun hc⟩, hi, hslot, hstate⟩
  unfold Job.Sound at hsound
  rcases hstate with ⟨hs, _⟩ | ⟨hs, _⟩
  · rw [hs] at hsound
    exact Or.inl hsound
  · rw [hs] at hsound
    exact hsound.imp_right fun o => ⟨hs, o⟩

/-- The job of a busy slot is dispatched. -/
theorem Placed.slot_busy (hh : (s.helpers i).job = some j)
    (hbusy : (s.helpers i).state = .busy) (hj : s.jobs j = some job) : job.state = .dispatched := by
  obtain ⟨held, hheld, _, _, _, hstate⟩ := h.held_open hh
  rw [hj] at hheld
  cases hheld
  rcases hstate with ⟨_, hs⟩ | ⟨hd, _⟩
  · rw [hbusy] at hs
    cases hs
  · exact hd

/-- A job that is being sent or was sent is held by its slot. -/
theorem Placed.holds (hj : s.jobs j = some job)
    (hs : job.state = .sending ∨ job.state = .dispatched) :
    (s.helpers job.slotIndex).job = some j := by
  have hplace : (s.board none none q).placeOf j = some (.helper job.slotIndex) := by
    rw [placeOf_state rfl hj, Job.place]
    rcases hs with hs | hs <;> rw [hs]
  have hmem := (h.lists.mem _ j).2 hplace
  rw [Board.list_helper (b := s.board none none q) (fun ho => by cases ho), Option.mem_toList]
    at hmem
  exact hmem

/-- The slot of a dispatched job is busy with it. -/
theorem Placed.dispatched (hj : s.jobs j = some job) (hd : job.state = .dispatched) :
    (s.helpers job.slotIndex).job = some j ∧ (s.helpers job.slotIndex).state = .busy ∧
      job.slotIndex < limits.helperCount := by
  have hheld := h.holds hj (Or.inr hd)
  obtain ⟨held, hheldJob, _, hi, _, hstate⟩ := h.held_open hheld
  rw [hj] at hheldJob
  obtain rfl := Option.some.inj hheldJob
  exact ⟨hheld, (hstate.resolve_left fun hs => by rw [hd] at hs; cases hs.1).2, hi⟩

end

/-- **A helper fails**, whatever its slot holds. -/
theorem helperFail_course (hf : failure ≠ .spawn) (h : AtRest limits q s) :
    Passes limits t q s (helperFail limits s i failure t) := by
  cases hh : (s.helpers i).job with
  | some j =>
    obtain ⟨job, hj, hlive, _⟩ := h.held_open hh
    exact (lift_course hh).trans (helperFail_hand_course hf hh hj hlive)
  | none =>
    have hstart : Course limits t q s.rest []
        ⟨s.setHelper i (s.helpers i).marked, none, some i, none⟩ :=
      (openSlot_course hh).trans (helper_course _ (Or.inl rfl) fun _ h => h)
    have hjob : ((s.setHelper i (s.helpers i).marked).helpers i).job = none := by
      rw [setHelper_helpers_self]
      exact hh
    unfold helperFail
    dsimp only
    generalize s.setHelper i (s.helpers i).marked = failed at hstart hjob ⊢
    rw [hjob]
    exact hstart.trans (respawnWith_course hjob rfl)

/-! ## 6. Dispatch -/

theorem board_record (s : Supervisor) (L : Option JobId) (H : Option Nat) (q : Bool)
    (event : TraceEvent) :
    (s.record event).board L H q = { s.board L H q with
      trace := event :: (s.board L H q).trace } := rfl

/-- The job in the hand, which slot `i` is to send. -/
structure Job.Sendable (limits : SupervisorLimits) (cache : Cache) (i : Nat) (job : Job) :
    Prop where
  slot : i < limits.helperCount
  slotIndex : job.slotIndex = i
  unsent : job.state ≠ .dispatched
  incomplete : job.state ≠ .complete
  wanted : job.Wanted
  payload : cache.payload job.entry = none

theorem Job.Sendable.live (h : job.Sendable limits s.cache i) : job.Live s.cache :=
  ⟨Or.inl h.wanted, h.incomplete, h.payload⟩

/-- The request of the job in the hand is sent, left to be sent, or not sent at all. -/
theorem requestSend_course {status : SendStatus}
    (h : requestSend limits s i j t env = (s', status)) (hh : (s.helpers i).job = some j)
    (hj : s.jobs j = some job) (hsend : job.Sendable limits s.cache i) :
    (status ≠ .time ∧ Course limits t q ⟨s, some j, some i, none⟩ [] s'.rest) ∨
      (status ≠ .ok ∧ s' = s) := by
  have hupdated : (if env.eventsUpdated then SendStatus.ok else .io) ≠ .time := by
    split <;> exact nofun
  obtain ⟨hi, hslot, hd, hc, hw, hp⟩ := hsend
  unfold requestSend at h
  cases htime : timeutilAddSeconds t limits.queryTimeoutSec with
  | none =>
    rw [htime] at h
    cases h
    exact Or.inr ⟨nofun, rfl⟩
  | some deadline =>
    rw [htime, hj] at h
    dsimp only at h
    split at h
    · -- sent: the slot becomes busy, and is closed on the dispatched job
      cases h
      refine Or.inl ⟨hupdated, ?_, fun harms h => ?_⟩
      · rw [board_record, board_setHelper, board_observeDuration, board_incrementAttempt]
        have hhelper : Tau limits _ _ := (Move.helper (s.board (some j) (some i) q) i
          { s.helpers i with requestPacket := [], state := .busy } (Or.inl rfl)).steps
        exact hhelper.trans (Move.send _ i j job t deadline rfl rfl hi hj hd hslot hw hp
          (by simp [Supervisor.board, hh]) (by simp [Supervisor.board])).steps
      · obtain ⟨type, ht⟩ := h.typed hj
        have hsent := (h.take hj hd hc).register { job with
          state := .dispatched, dispatchedAt := t, deadline } hj rfl .attempt rfl ht
          ⟨(h.fit j job hj).asked, nofun,
            fun w hwait => Option.some.inj hwait ▸ harms.deadline j _ deadline htime⟩
        rw [incrementAttempt_eq (s := s.setJob j { job with
          state := .dispatched, dispatchedAt := t, deadline }) ht]
        exact (observeDuration_booked job.entry (.dispatchWait job.priority) job.dispatchWaitAt t
          (s := (s.setJob j { job with
            state := .dispatched, dispatchedAt := t, deadline }).increment
              (.attempt type .dispatched)) hsent).helper i _ (h.events i)
    · cases h
      exact Or.inr ⟨nofun, rfl⟩
    · -- not yet: the slot waits for the socket
      cases h
      refine Or.inl ⟨hupdated, ?_, fun _ h => ?_⟩
      · have hhelper : Tau limits _ _ := (Move.helper (s.board (some j) (some i) q) i
          { s.helpers i with state := .sending } (Or.inl rfl)).steps
        exact hhelper.trans (Move.park _ i j job rfl rfl hi hj hd hslot hw hp
          (by simp [Supervisor.board, hh]) (by simp [Supervisor.board])).steps
      · have hwritten := (h.take hj hd hc).write { job with state := .sending } hj rfl
          ⟨(h.fit j job hj).asked, nofun, nofun⟩
        exact (hwritten.put (update_self ..) nofun nofun).helper i _ (h.events i)
    · cases h
      exact Or.inr ⟨nofun, rfl⟩

/-- What an assignment of the job in the hand to slot `i` can come to. -/
inductive Assigned (limits : SupervisorLimits) (t : Timespec) (s : Supervisor) (q : Bool) (i : Nat)
    (j : JobId) : Supervisor → AssignStatus → Prop where
  /-- The slot has the job. -/
  | placed {s' : Supervisor} {status : AssignStatus} (hs : status = .ok ∨ status = .io)
      (h : Course limits t q ⟨s, some j, none, none⟩ [] s'.rest) :
        Assigned limits t s q i j s' status
  /-- The request could not be sent, and slot and job still point at each other. -/
  | stuck {s' : Supervisor} {job : Job}
      (h : Course limits t q ⟨s, some j, none, none⟩ [] ⟨s', some j, some i, none⟩)
      (hh : (s'.helpers i).job = some j) (hj : s'.jobs j = some job) (hlive : job.Live s'.cache) :
      Assigned limits t s q i j s' .io
  /-- The slot does not have the job. -/
  | held {s' : Supervisor} {status : AssignStatus} {job : Job} (hs : status ≠ .ok)
      (hio : status ≠ .io)
      (h : Course limits t q ⟨s, some j, none, none⟩ [] ⟨s', some j, none, none⟩)
      (hj : s'.jobs j = some job) (hqueued : job.state = .queued) (hidle : job.Idle s'.cache) :
      Assigned limits t s q i j s' status

/-- The slot gets the job in the hand, whose assembly has just been created, and sends. -/
theorem assignSend_assigned {s₀ s' : Supervisor} {requestPacket : Bytes}
    (h : assignSend limits s i j job requestPacket t env = (s', status))
    (h₀ : Course limits t q ⟨s₀, some j, none, none⟩ []
      ⟨(s.setJob j job).record (.assigned j job.entry job.queryId), some j, none, none⟩)
    (hh : (s.helpers i).job = none) (hqueued : job.state = .queued)
    (hsend : job.Sendable limits s.cache i) : Assigned limits t s₀ q i j s' status := by
  have hstart : Course limits t q ⟨s₀, some j, none, none⟩ []
      ⟨((s.setJob j job).setHelper i { (s.setJob j job).helpers i with
        job := some j, requestPacket }).record (.assigned j job.entry job.queryId), some j, some i,
        none⟩ := by
    have hgiven := (h₀.trans (openSlot_course (i := i) hh)).trans
      (helper_course { (s.setJob j job).helpers i with job := some j, requestPacket }
        (Or.inl rfl) fun _ h => h)
    exact ⟨hgiven.steps, hgiven.booked⟩
  unfold assignSend at h
  dsimp only at h
  generalize hgiven : (((s.setJob j job).setHelper i { (s.setJob j job).helpers i with
    job := some j, requestPacket }).record (.assigned j job.entry job.queryId)) = given at h hstart
  have hjob : (given.helpers i).job = some j := by
    rw [← hgiven]
    exact congrArg Helper.job (setHelper_helpers_self (s := s.setJob j job) _)
  have hjobs : given.jobs j = some job := by
    rw [← hgiven]
    exact setJob_jobs_self
  have hsend' : job.Sendable limits given.cache i := by
    rw [← hgiven]
    exact { hsend with }
  cases hr : requestSend limits given i j t env with
  | mk s₁ sent =>
    have hcourse := requestSend_course (q := q) hr hjob hjobs hsend'
    rw [hr] at h
    cases sent with
    | ok =>
      cases h
      rcases hcourse with ⟨_, hcourse⟩ | ⟨hne, _⟩
      · exact .placed (Or.inl rfl) (hstart.trans hcourse)
      · exact absurd rfl hne
    | io =>
      cases h
      rcases hcourse with ⟨_, hcourse⟩ | ⟨_, rfl⟩
      · exact .placed (Or.inr rfl) (hstart.trans hcourse)
      · exact .stuck hstart hjob hjobs hsend'.live
    | time =>
      cases h
      rcases hcourse with ⟨hne, _⟩ | ⟨_, rfl⟩
      · exact absurd rfl hne
      · -- the slot is idle again and the job is back in the hand
        have hidle := (hstart.trans (helperDetach_course (i := i) hjobs)).trans
          (shutSlot_course { (helperDetach s₁ i j).helpers i with state := .idle } helperDetach_job
            ⟨nofun, nofun⟩ fun _ h => h)
        have hw := hsend.wanted
        refine .held (by decide) (by decide) hidle (helperDetach_jobs (i := i) hjobs) hqueued
          ⟨⟨hw.orphaned, hw.interested, hw.priority⟩, rfl, ?_⟩
        show (helperDetach s₁ i j).cache.payload job.entry = none
        rw [helperDetach_cache]
        exact hsend'.payload

/-- **The assignment of the job in the hand to an idle slot.** -/
theorem jobAssign_assigned (env : AssignEnv)
    (h : jobAssign limits s i j t env = (s', status)) (hh : (s.helpers i).job = none)
    (hi : i < limits.helperCount) (hj : s.jobs j = some job) (hs : job.state = .queued)
    (hidle : job.Idle s.cache) : Assigned limits t s q i j s' status := by
  obtain ⟨hw, ha, hp⟩ := hidle
  unfold jobAssign at h
  cases hd : timeutilAddSeconds t limits.queryTimeoutSec with
  | none =>
    rw [hd] at h
    cases h
    exact .held (by decide) (by decide) (.refl _) hj hs ⟨hw, ha, hp⟩
  | some deadline =>
    rw [hd, hj] at h
    dsimp only at h
    have hwaits : ({ job with deadline } : Job).waitsFor = job.waitsFor := by
      simp only [Job.waitsFor, hs]
    have htimed : Course limits t q ⟨s, some j, none, none⟩ []
        ⟨s.setJob j { job with deadline }, some j, none, none⟩ :=
      retime_course hj { job with deadline } ⟨rfl, fun hd => by rw [hs] at hd; cases hd⟩ hwaits
    have hleft : ({ job with deadline } : Job).Idle s.cache :=
      ⟨⟨hw.orphaned, hw.interested, hw.priority⟩, ha, hp⟩
    unfold queryIdAllocate at h
    split at h
    · rename_i hq
      cases h
      split at hq
      · exact .held (by decide) (by decide) htimed setJob_jobs_self hs hleft
      · cases hq
    · rename_i s₁ queryId hq
      split at hq
      · cases hq
      · rename_i hzero
        cases hq
        -- the id is used up whatever happens next
        have hburn : ∀ budget, Course limits t q ⟨s, some j, none, none⟩ []
            ⟨{ s.setJob j { job with deadline } with
              nextQueryId := queryIdNext s.nextQueryId, budget }, some j, none, none⟩ :=
          fun budget => htimed.trans ⟨(Move.burn ((s.setJob j { job with deadline }).board (some j)
            none q) hzero).steps, fun _ h => h⟩
        split at h
        · cases h
          exact .held (by decide) (by decide) (hburn _) setJob_jobs_self hs hleft
        · rename_i entry hentry
          split at h
          · cases h
            exact .held (by decide) (by decide) (hburn _) setJob_jobs_self hs hleft
          · rename_i budget assembly hcreate
            split at h
            · cases h
              exact .held (by decide) (by decide) (hburn _) setJob_jobs_self hs hleft
            · obtain ⟨hname, hid, _, htype, _, _, hquestion⟩ := assemblyCreate_spec hcreate
              have hqueued : job.state ≠ .dispatched := by
                rw [hs]
                decide
              refine assignSend_assigned h ⟨?_, fun _ h => ?_⟩ hh hs
                ⟨hi, rfl, hqueued, by show job.state ≠ _; rw [hs]; decide,
                  ⟨hw.orphaned, hw.interested, hw.priority⟩, hp⟩
              · have hassign : Tau limits _ _ := (Move.assign (s.board (some j) none q) i j job
                  assembly deadline rfl hj ha hzero hqueued hid (nameNormalize_normalized hname)
                  hquestion).steps
                -- the deadline was written on its own first
                dsimp only [Supervisor.record, Supervisor.setJob, Supervisor.board]
                rw [update_idem]
                exact hassign
              · have hassigned := h.amend { job with
                  deadline, assembly := some assembly, queryId := s.nextQueryId, slotIndex := i }
                  hj rfl rfl ?_ rfl rfl
                    (by simp only [Job.waiting, Job.waitsFor, hs, Option.map_none])
                · dsimp only [Supervisor.record, Supervisor.setJob, Supervisor.books]
                  rw [update_idem]
                  exact hassigned
                · intro a hassembly
                  obtain rfl := Option.some.inj hassembly
                  show (s.cache.entries job.entry).map (·.queryType) = some assembly.queryType
                  rw [show s.cache.entries job.entry = some entry from hentry, htype]
                  rfl

theorem dispatchOutcome_course
    (h : Assigned limits t s q i j s' status) (hplaced : Placed limits (s.board (some j) none q)) :
    Course limits t q ⟨s, some j, none, none⟩ [] (dispatchOutcome limits s' i j t status).rest := by
  cases h with
  | placed hs hcourse =>
    rcases hs with rfl | rfl
    · exact hcourse
    · exact hcourse.trans (helperFail_course nofun (hcourse.placed hplaced))
  | stuck hcourse hh hj hlive => exact hcourse.trans (helperFail_hand_course nofun hh hj hlive)
  | held hs hio hcourse hj hqueued hidle =>
    have htaken := hcourse.trans (take_course hj (by rw [hqueued]; exact nofun)
      (by rw [hqueued]; exact nofun))
    have hw := hidle.wanted
    unfold dispatchOutcome
    rw [hj]
    cases status with
    | ok => exact absurd rfl hs
    | io => exact absurd rfl hio
    | retry => exact htaken.trans (jobRetry_course hj (Or.inl hw) hidle.assembly hidle.payload)
    | limit =>
      exact htaken.trans (jobComplete_course hj hw.orphaned hidle.assembly
        (emptyResponse_deliverable nofun nofun))
    | time =>
      exact htaken.trans (jobComplete_course hj hw.orphaned hidle.assembly
        (emptyResponse_deliverable nofun nofun))

/-- A job in a queue is a wanted job without assembly, for an entry without payload. -/
theorem Placed.queued {p : Priority} (h : AtRest limits q s) (hmem : j ∈ (s.queues p).ids) :
    ∃ job, s.jobs j = some job ∧ job.state = .queued ∧ job.Idle s.cache := by
  obtain ⟨job, hj, hplace⟩ := h.of_mem (k := .queue p) hmem
  obtain ⟨hs, -⟩ := Job.place_eq_queue hplace
  have hsound := h.sound j job hj nofun
  unfold Job.Sound at hsound
  rw [hs] at hsound
  exact ⟨job, hj, hs, hsound.1, hsound.2, h.payload j job hj nofun (by rw [hs]; exact nofun)⟩

theorem queueFirst_mem (h : queueFirst s = some j) : ∃ p, j ∈ (s.queues p).ids := by
  unfold queueFirst at h
  split at h
  · rename_i hids
    cases h
    exact ⟨.interactive, by rw [hids]; exact List.mem_cons_self⟩
  · exact ⟨.background, List.mem_of_mem_head? h⟩

/-- A closed slot that is neither sending nor busy is free. -/
theorem Placed.slot_free (h : AtRest limits q s)
    (hs : (s.helpers i).state ≠ .sending) (hb : (s.helpers i).state ≠ .busy) :
    (s.helpers i).job = none := by
  cases hh : (s.helpers i).job with
  | none => rfl
  | some j =>
    obtain ⟨_, _, _, _, _, hstate⟩ := h.held_open hh
    rcases hstate with ⟨_, hstate⟩ | ⟨_, hstate⟩
    · exact absurd hstate hs
    · exact absurd hstate hb

/-- One turn of the dispatch loop: the first queued job is assigned to an idle slot. -/
theorem dispatchTurn_course (env : AssignEnv) (hi : i < limits.helperCount)
    (hidle : (s.helpers i).state = .idle) (hfirst : queueFirst s = some j) (h : AtRest limits q s) :
    Passes limits t q s
      (dispatchOutcome limits (jobAssign limits (queueRemove s j) i j t env).1 i j t
        (jobAssign limits (queueRemove s j) i j t env).2) := by
  obtain ⟨p, hmem⟩ := queueFirst_mem hfirst
  obtain ⟨job, hj, hs, hw, ha, hp⟩ := h.queued hmem
  have hfree := h.slot_free (by rw [hidle]; exact nofun) (by rw [hidle]; exact nofun)
  have htake : Course limits t q s.rest [] ⟨queueRemove s j, some j, none, none⟩ :=
    queueRemove_course hj hs
  have hassign := jobAssign_assigned (q := q) (t := t) (s := queueRemove s j) env rfl
    (by rw [queueRemove_helpers]; exact hfree) hi (by rw [queueRemove_jobs]; exact hj) hs
    ⟨hw, ha, by rw [queueRemove_cache]; exact hp⟩
  exact htake.trans (dispatchOutcome_course hassign (htake.placed h))

/-- One job after another goes from the queues to slot `i`, until it has one. -/
theorem dispatchLoop_course {env : Nat → AssignEnv} (hi : i < limits.helperCount) (fuel : Nat)
    (h : AtRest limits q s) :
    Passes limits t q s (dispatchLoop limits i t env fuel s) := by
  induction fuel generalizing s with
  | zero => exact .refl _
  | succ fuel ih =>
    unfold dispatchLoop
    split
    · exact .refl _
    · rename_i hidle
      split
      · exact .refl _
      · rename_i j hfirst
        have hturn := dispatchTurn_course (t := t) (env fuel) hi (Decidable.of_not_not hidle)
          hfirst h
        dsimp only
        split
        · exact hturn
        · exact hturn.trans (ih (hturn.placed h))

/-- A loop over slots or jobs. -/
theorem foldl_course {α : Type} {f : Supervisor → α → Supervisor} (l : List α)
    (hf : ∀ s a, a ∈ l → AtRest limits q s →
      Passes limits t q s (f s a))
    (h : AtRest limits q s) :
    Passes limits t q s (l.foldl f s) := by
  induction l generalizing s with
  | nil => exact .refl _
  | cons a l ih =>
    have hturn := hf s a List.mem_cons_self h
    exact hturn.trans (ih (fun s b hb => hf s b (List.mem_cons_of_mem a hb)) (hturn.placed h))

/-- **Dispatch moves the board and keeps the books.** -/
theorem dispatch_course (env : Nat → Nat → AssignEnv) (h : AtRest limits q s) :
    Passes limits t q s (dispatch limits s t env) := by
  unfold dispatch
  split
  · exact .refl _
  · exact foldl_course _ (fun s i hi hs => dispatchLoop_course (List.mem_range.1 hi) _ hs) h

end MinecraftRelay
