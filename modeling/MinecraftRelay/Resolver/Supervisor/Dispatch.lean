/-
  File:      Resolver/Supervisor/Dispatch.lean
  Subject:   DISPATCH: no helper is idle while a job is queued, interactive jobs go first, and the
             loop ends whatever the kernel answers.

  * `dispatchTurns` -- the turns of the loop for one helper, each with the state it starts in and
    the job it hands over;
  * `dispatchLoop_looped` -- there are never more of them than queued jobs and one, and the slot is
    not idle in the end, or nothing is queued; `dispatch_workConserved` -- so for all helpers;
  * `dispatchHandOvers_priority` -- a background job is handed over only when no interactive job is
    queued.
-/
import MinecraftRelay.Resolver.Supervisor.Runs

namespace MinecraftRelay

variable {limits : SupervisorLimits} {s s' : Supervisor} {q : Bool} {i : Nat} {j : JobId}
  {job : Job} {now : Timespec}

/-! ## 1. What an assignment leaves alone -/

/-- Only slot `i` is touched, and no job is added. -/
structure SlotOnly (i : Nat) (s s' : Supervisor) : Prop where
  helpers : ∀ k, k ≠ i → s'.helpers k = s.helpers k
  jobCount : s'.jobCount ≤ s.jobCount

/-- Nor is a queue touched. -/
structure OffQueue (i : Nat) (s s' : Supervisor) : Prop extends SlotOnly i s s' where
  queues : s'.queues = s.queues

theorem SlotOnly.refl (s : Supervisor) : SlotOnly i s s := ⟨fun _ _ => rfl, Nat.le_refl _⟩

theorem SlotOnly.trans {s'' : Supervisor} (h : SlotOnly i s s') (h' : SlotOnly i s' s'') :
    SlotOnly i s s'' :=
  ⟨fun k hk => (h'.helpers k hk).trans (h.helpers k hk), h'.jobCount.trans h.jobCount⟩

namespace OffQueue

theorem refl (s : Supervisor) : OffQueue i s s := ⟨.refl s, rfl⟩

theorem trans {s'' : Supervisor} (h : OffQueue i s s') (h' : OffQueue i s' s'') :
    OffQueue i s s'' :=
  ⟨h.toSlotOnly.trans h'.toSlotOnly, h'.queues.trans h.queues⟩

theorem of_board (h : s'.board none none = s.board none none) : OffQueue i s s' :=
  ⟨⟨fun k _ => congrFun (congrArg Board.helpers h) k, Nat.le_of_eq (congrArg Board.jobCount h)⟩,
    congrArg Board.queues h⟩

theorem setHelper (s : Supervisor) (helper : Helper) : OffQueue i s (s.setHelper i helper) :=
  ⟨⟨fun _ hk => Function.update_of_ne hk .., Nat.le_refl _⟩, rfl⟩

theorem setJob (s : Supervisor) (j : JobId) (job : Job) : OffQueue i s (s.setJob j job) :=
  ⟨⟨fun _ _ => rfl, Nat.le_refl _⟩, rfl⟩

theorem incrementAttempt (s : Supervisor) (e : EntryId) (k : AttemptCounter) :
    OffQueue i s (s.incrementAttempt e k) :=
  .of_board (board_incrementAttempt s none none false e k)

end OffQueue

theorem jobComplete_offQueue {publication : PublishStatus} {response : AssemblyResult} :
    OffQueue i s (jobComplete s j publication response) := by
  unfold jobComplete
  split
  · exact .refl s
  · rename_i job _
    have hcounted : OffQueue i s _ := .incrementAttempt s job.entry .completionEnqueued
    exact ⟨⟨hcounted.helpers, hcounted.jobCount⟩, hcounted.queues⟩

theorem jobDestroy_slotOnly : SlotOnly i s (jobDestroy limits s j) := by
  refine ⟨fun k _ => by rw [jobDestroy_helpers], ?_⟩
  have hle : ∀ n : Nat, (if n > 0 then n - 1 else n) ≤ n := by
    intro n
    split <;> omega
  have hremove : (queueRemove s j).jobCount = s.jobCount := by
    unfold queueRemove
    split <;> rfl
  unfold jobDestroy
  split
  · exact Nat.le_refl _
  · split
    · exact (hle _).trans (Nat.le_of_eq hremove)
    · exact hle _
    · exact hle _

/-- A retry touches no slot; of a job that is not orphaned, no queue either. -/
theorem jobRetry_slotOnly (hj : s.jobs j = some job) : SlotOnly i s (jobRetry limits s j now) ∧
    (job.orphaned = false → OffQueue i s (jobRetry limits s j now)) := by
  rcases jobRetry_cases limits now hj with ⟨ho, heq⟩ | ⟨_, retryCount, _, heq | ⟨retryAt, _, heq⟩⟩
  · rw [heq]
    exact ⟨jobDestroy_slotOnly, fun hn => absurd (ho.symm.trans hn) nofun⟩
  · have hdone : OffQueue i s (jobRetry limits s j now) := by
      rw [heq]
      exact (OffQueue.setJob ..).trans jobComplete_offQueue
    exact ⟨hdone.toSlotOnly, fun _ => hdone⟩
  · have hwaiting : OffQueue i s (jobRetry limits s j now) := by
      rw [heq]
      exact (OffQueue.setJob ..).trans (.incrementAttempt ..)
    exact ⟨hwaiting.toSlotOnly, fun _ => hwaiting⟩

theorem helperDetach_offQueue : OffQueue i s (helperDetach s i j) := by
  have hdropped : OffQueue i s (assemblyDrop s j) := by
    unfold assemblyDrop
    split
    · exact .refl s
    · exact ⟨⟨fun _ _ => rfl, Nat.le_refl _⟩, rfl⟩
  exact hdropped.trans (.setHelper _ _)

/-- An attempt to give slot `i` a job: off the queues, and a slot that got it is not idle. -/
structure Tried {σ : Type} (i : Nat) (s : Supervisor) (ok : σ) (r : Supervisor × σ) : Prop where
  off : OffQueue i s r.1
  busy : r.2 = ok → (r.1.helpers i).state ≠ .idle

theorem requestSend_tried (env : SendEnv) :
    Tried i s .ok (requestSend limits s i j now env) := by
  unfold requestSend
  split
  · exact ⟨.refl s, nofun⟩
  · exact ⟨.refl s, nofun⟩
  · rename_i deadline job _ hj
    cases env.outcome with
    | sent =>
      have hsent : OffQueue i s _ := (OffQueue.setJob s j { job with
        state := .dispatched, dispatchedAt := now, deadline }).trans
        (.incrementAttempt _ job.entry .dispatched)
      have hobserved := hsent.trans (.of_board (board_observeDuration _ none none false job.entry
        (.dispatchWait job.priority) job.dispatchWaitAt now))
      have hslot := hobserved.trans
        (.setHelper _ { s.helpers i with requestPacket := [], state := .busy })
      refine ⟨⟨⟨hslot.helpers, hslot.jobCount⟩, hslot.queues⟩, fun _ => ?_⟩
      show ((Supervisor.setHelper _ i _).helpers i).state ≠ _
      rw [setHelper_helpers_self]
      exact nofun
    | short => exact ⟨.refl s, nofun⟩
    | wouldBlock =>
      refine ⟨(OffQueue.setJob s j { job with state := .sending }).trans (.setHelper _ _),
        fun _ => ?_⟩
      rw [setHelper_helpers_self]
      exact nofun
    | failed => exact ⟨.refl s, nofun⟩

theorem assignSend_tried {requestPacket : Bytes} (env : SendEnv) :
    Tried i s .ok (assignSend limits s i j job requestPacket now env) := by
  unfold assignSend
  dsimp only
  have hslot : OffQueue i s (((s.setJob j job).setHelper i
      { (s.setJob j job).helpers i with job := some j, requestPacket }).record
      (.assigned j job.entry job.queryId)) := by
    have hset := (OffQueue.setJob s j job).trans (.setHelper (i := i) (s.setJob j job)
      { (s.setJob j job).helpers i with job := some j, requestPacket })
    exact ⟨⟨hset.helpers, hset.jobCount⟩, hset.queues⟩
  generalize ((s.setJob j job).setHelper i
    { (s.setJob j job).helpers i with job := some j, requestPacket }).record
    (.assigned j job.entry job.queryId) = s₁ at hslot ⊢
  obtain ⟨hsend, hbusy⟩ : Tried i s₁ .ok (requestSend limits s₁ i j now env) :=
    requestSend_tried env
  generalize requestSend limits s₁ i j now env = r at hsend hbusy ⊢
  obtain ⟨s₂, status⟩ := r
  cases status with
  | ok => exact ⟨hslot.trans hsend, fun _ => hbusy rfl⟩
  | io => exact ⟨hslot.trans hsend, nofun⟩
  | time => exact ⟨((hslot.trans hsend).trans helperDetach_offQueue).trans (.setHelper _ _), nofun⟩

theorem jobAssign_tried (env : AssignEnv) : Tried i s .ok (jobAssign limits s i j now env) := by
  unfold jobAssign
  split
  · exact ⟨.refl s, nofun⟩
  · exact ⟨.refl s, nofun⟩
  · rename_i deadline job _ hj
    have htimed : OffQueue i s (s.setJob j { job with deadline }) := .setJob ..
    have hnamed : ∀ nextQueryId budget, OffQueue i s { s.setJob j { job with deadline } with
        nextQueryId, budget } :=
      fun _ _ => ⟨⟨htimed.helpers, htimed.jobCount⟩, htimed.queues⟩
    dsimp only
    unfold queryIdAllocate
    split
    · exact ⟨htimed, nofun⟩
    · rename_i s₁ queryId hq
      split at hq
      · cases hq
      · cases hq
        split
        · exact ⟨hnamed _ _, nofun⟩
        · split
          · exact ⟨hnamed _ _, nofun⟩
          · split
            · exact ⟨hnamed _ _, nofun⟩
            · obtain ⟨hoff, hbusy⟩ := assignSend_tried env.toSendEnv
              exact ⟨(hnamed _ _).trans hoff, hbusy⟩

/-- A slot whose process is gone waits for another, or is given up; the others are left alone. -/
def Downed (i : Nat) (s s' : Supervisor) : Prop :=
  SlotOnly i s s' ∧ ((s'.helpers i).state = .stopped ∨ (s'.helpers i).state = .backoff)

theorem respawnSchedule_downed {failure : HelperFailure} :
    Downed i s (respawnSchedule limits s i failure now) := by
  obtain ⟨helper, hboard, _, hstate⟩ := respawnSchedule_spec limits s i failure now
  have hslot : OffQueue i (s.setHelper i helper) _ := .of_board (hboard none none false)
  refine ⟨((OffQueue.setHelper s helper).trans hslot).toSlotOnly, ?_⟩
  rw [show (respawnSchedule limits s i failure now).helpers = (s.setHelper i helper).helpers from
    congrArg Board.helpers (hboard none none false), setHelper_helpers_self]
  exact hstate

theorem queuePrepend_slotOnly : SlotOnly i s (queuePrepend s j) := by
  unfold queuePrepend
  split
  · exact .refl s
  · exact ⟨fun _ _ => rfl, Nat.le_refl _⟩

theorem helperFail_downed {failure : HelperFailure} :
    Downed i s (helperFail limits s i failure now) := by
  unfold helperFail
  have hmarked : SlotOnly i s (s.setHelper i (s.helpers i).marked) :=
    (OffQueue.setHelper s _).toSlotOnly
  generalize s.setHelper i (s.helpers i).marked = s₁ at hmarked ⊢
  suffices hgone : ∀ s₂, SlotOnly i s₁ s₂ → Downed i s
      (respawnSchedule limits (s₂.setHelper i (helperClose (s₂.helpers i))) i failure now) by
    apply hgone
    split
    · exact .refl s₁
    · rename_i j _
      have hdetached : OffQueue i s₁ (helperDetach s₁ i j) := helperDetach_offQueue
      split
      · exact hdetached.toSlotOnly
      · rename_i job hj
        split
        · have hrecorded := hdetached.trans (.of_board
            (board_attemptFailureRecord (helperDetach s₁ i j) none none false job failure now))
          have hframe := attemptFailureRecord_frame (s := helperDetach s₁ i j) (t := now)
            job failure
          exact hrecorded.toSlotOnly.trans (jobRetry_slotOnly
            ((congrFun hframe.1 j).trans (helperDetach_jobs (i := i) hj))).1
        · exact hdetached.toSlotOnly.trans queuePrepend_slotOnly
  intro s₂ hs₂
  have hclosed : SlotOnly i s₂ (s₂.setHelper i (helperClose (s₂.helpers i))) :=
    (OffQueue.setHelper s₂ _).toSlotOnly
  exact ⟨((hmarked.trans hs₂).trans hclosed).trans respawnSchedule_downed.1,
    respawnSchedule_downed.2⟩

/-! ## 2. One turn -/

/-- What one turn of the dispatch loop does. -/
structure DispatchTurn (i : Nat) (s s' : Supervisor) (status : AssignStatus) : Prop where
  slotOnly : SlotOnly i s s'
  /-- the slot has a job, or no process -/
  settled : status = .ok ∨ status = .io → (s'.helpers i).state ≠ .idle
  /-- the job has left the queue for good -/
  consumed : status ≠ .ok → status ≠ .io → queuedCount s' < queuedCount s

theorem queueRemove_queuedCount {p : Priority} (hmem : j ∈ (s.queues p).ids)
    (hj : s.jobs j = some job) (hp : job.priority = p) :
    queuedCount (queueRemove s j) < queuedCount s := by
  have hlength := List.length_erase_of_mem hmem
  have hpos := List.length_pos_of_mem hmem
  unfold queueRemove queuedCount
  rw [hj]
  dsimp only [Supervisor.setQueue]
  rw [hp]
  cases p with
  | background =>
    rw [Function.update_self,
      Function.update_of_ne (show Priority.interactive ≠ .background from nofun)]
    dsimp only
    omega
  | interactive =>
    rw [Function.update_self,
      Function.update_of_ne (show Priority.background ≠ .interactive from nofun)]
    dsimp only
    omega

/-- A queued job has the priority of its queue. -/
theorem Placed.queued_priority {p : Priority} (h : AtRest limits q s)
    (hmem : j ∈ (s.queues p).ids) (hj : s.jobs j = some job) : job.priority = p := by
  obtain ⟨job', hj', hplace⟩ := h.of_mem (k := .queue p) hmem
  rw [show (s.board none none q).jobs j = some job from hj] at hj'
  cases hj'
  exact (Job.place_eq_queue hplace).2

theorem dispatchTurn_spec (now : Timespec) (env : AssignEnv) (hi : i < limits.helperCount)
    (hidle : (s.helpers i).state = .idle) (hfirst : queueFirst s = some j) (h : AtRest limits q s) :
    DispatchTurn i s
      (dispatchOutcome limits (jobAssign limits (queueRemove s j) i j now env).1 i j now
        (jobAssign limits (queueRemove s j) i j now env).2)
      (jobAssign limits (queueRemove s j) i j now env).2 := by
  obtain ⟨p, hmem⟩ := queueFirst_mem hfirst
  obtain ⟨job, hj, hs, hw, ha, hp⟩ := h.queued hmem
  have hremoved : SlotOnly i s (queueRemove s j) := by
    unfold queueRemove
    split <;> exact ⟨fun _ _ => rfl, Nat.le_refl _⟩
  have hcount := queueRemove_queuedCount hmem hj (h.queued_priority hmem hj)
  have hfree := h.slot_free (by rw [hidle]; exact nofun) (by rw [hidle]; exact nofun)
  obtain ⟨hoff, hok⟩ :
      Tried i (queueRemove s j) .ok (jobAssign limits (queueRemove s j) i j now env) :=
    jobAssign_tried env
  cases hr : jobAssign limits (queueRemove s j) i j now env with | mk s₁ status => ?_
  rw [hr] at hoff hok
  have hassigned := jobAssign_assigned (q := q) (t := now) (s := queueRemove s j) env hr
    (by rw [queueRemove_helpers]; exact hfree) hi (by rw [queueRemove_jobs]; exact hj) hs
    ⟨hw, ha, by rw [queueRemove_cache]; exact hp⟩
  have hstart := hremoved.trans hoff.toSlotOnly
  -- a job that the slot did not get ends, or waits, off the queues
  have hdone : ∀ s₂, OffQueue i s₁ s₂ → status ≠ .ok → status ≠ .io →
      DispatchTurn i s s₂ status := by
    intro s₂ hs₂ hnotOk hnotIo
    refine ⟨hstart.trans hs₂.toSlotOnly, fun hs => absurd hs (by simp [hnotOk, hnotIo]),
      fun _ _ => ?_⟩
    unfold queuedCount
    rw [hs₂.queues, hoff.queues]
    exact hcount
  cases status with
  | ok => exact ⟨hstart, fun _ => hok rfl, fun hne => absurd rfl hne⟩
  | io =>
    obtain ⟨hslot, hstate⟩ : SlotOnly i s₁ (helperFail limits s₁ i .io now) ∧ _ :=
      helperFail_downed
    refine ⟨hstart.trans hslot, fun _ => ?_, fun _ hne => absurd rfl hne⟩
    show ((helperFail limits s₁ i .io now).helpers i).state ≠ .idle
    rcases hstate with hs | hs <;> (rw [hs]; exact nofun)
  | retry =>
    cases hassigned with
    | placed hs _ => exact absurd hs (by simp)
    | held _ _ _ hj _ hidle =>
      exact hdone _ ((jobRetry_slotOnly hj).2 hidle.wanted.orphaned) nofun nofun
  | limit => exact hdone _ jobComplete_offQueue nofun nofun
  | time => exact hdone _ jobComplete_offQueue nofun nofun

/-! ## 3. The loop -/

/-- The turns of the `while` loop of `resolver_supervisor_dispatch` for one helper: the state in
    which each begins, and the job it takes off its queue for the helper. -/
def dispatchTurns (limits : SupervisorLimits) (i : Nat) (now : Timespec) (env : Nat → AssignEnv) :
    Nat → Supervisor → List (Supervisor × JobId)
  | 0, _ => []
  | fuel + 1, s =>
    if (s.helpers i).state ≠ .idle then []
    else
      match queueFirst s with
      | none => []
      | some j =>
        let r := jobAssign limits (queueRemove s j) i j now (env fuel)
        let s' := dispatchOutcome limits r.1 i j now r.2
        (s, j) :: if r.2 = .ok then [] else dispatchTurns limits i now env fuel s'

/-- What the loop for helper `i` does.  Its turns end, whatever the kernel answers and however long
    it is let run; each begins with the jobs in their places. -/
structure Looped (limits : SupervisorLimits) (q : Bool) (i : Nat) (now : Timespec)
    (env : Nat → AssignEnv) (fuel : Nat) (s : Supervisor) : Prop where
  slotOnly : SlotOnly i s (dispatchLoop limits i now env fuel s)
  /-- the slot is not idle, or the queues are empty -/
  exit : queuedCount s < fuel → ((dispatchLoop limits i now env fuel s).helpers i).state ≠ .idle ∨
    queueFirst (dispatchLoop limits i now env fuel s) = none
  length : (dispatchTurns limits i now env fuel s).length ≤ queuedCount s + 1
  turns : ∀ turn ∈ dispatchTurns limits i now env fuel s,
    AtRest limits q turn.1 ∧ queueFirst turn.1 = some turn.2

section Loop

variable {env : Nat → AssignEnv} (fuel : Nat)

/-- A slot that is not idle takes no turn, nor does one for which nothing is queued. -/
theorem dispatchLoop_stays (h : (s.helpers i).state ≠ .idle ∨ queueFirst s = none) :
    dispatchLoop limits i now env fuel s = s ∧ dispatchTurns limits i now env fuel s = [] := by
  cases fuel with
  | zero => exact ⟨rfl, rfl⟩
  | succ fuel =>
    by_cases hidle : (s.helpers i).state ≠ .idle
    · simp only [dispatchLoop, dispatchTurns, if_pos hidle, and_self]
    · simp only [dispatchLoop, dispatchTurns, h.resolve_left hidle, ite_self, and_self]

/-- **The loop**, turn after turn. -/
theorem dispatchLoop_looped (hi : i < limits.helperCount) (h : AtRest limits q s) :
    Looped limits q i now env fuel s := by
  induction fuel generalizing s with
  | zero =>
    exact ⟨.refl s, fun h => absurd h (Nat.not_lt_zero _), Nat.zero_le _, by simp [dispatchTurns]⟩
  | succ fuel ih =>
    by_cases hstop : (s.helpers i).state ≠ .idle ∨ queueFirst s = none
    · have hstays : dispatchLoop limits i now env (fuel + 1) s = s ∧
          dispatchTurns limits i now env (fuel + 1) s = [] := dispatchLoop_stays _ hstop
      constructor <;> simp [hstays, hstop, SlotOnly.refl]
    rw [not_or, not_not] at hstop
    obtain ⟨hidle, hsome⟩ := hstop
    obtain ⟨j, hfirst⟩ := Option.ne_none_iff_exists'.1 hsome
    have hturn := dispatchTurn_spec now (env fuel) hi hidle hfirst h
    have hplaced := (dispatchTurn_course (t := now) (env fuel) hi hidle hfirst h).placed h
    generalize hr : jobAssign limits (queueRemove s j) i j now (env fuel) = r at hturn hplaced
    generalize hs' : dispatchOutcome limits r.1 i j now r.2 = s' at hturn hplaced
    have hloop : dispatchLoop limits i now env (fuel + 1) s =
        if r.2 = .ok then s' else dispatchLoop limits i now env fuel s' := by
      simp [dispatchLoop, hidle, hfirst, hr, hs']
    have hturns : dispatchTurns limits i now env (fuel + 1) s =
        (s, j) :: if r.2 = .ok then [] else dispatchTurns limits i now env fuel s' := by
      simp [dispatchTurns, hidle, hfirst, hr, hs']
    by_cases hdone : r.2 = .ok ∨ r.2 = .io
    · -- a helper that has its job takes no further turn, nor does one that failed
      have hsettled := hturn.settled hdone
      obtain ⟨hstays, hnone⟩ := dispatchLoop_stays fuel (Or.inl hsettled)
      rw [hstays, ite_self] at hloop
      rw [hnone, ite_self] at hturns
      exact ⟨hloop ▸ hturn.slotOnly, fun _ => Or.inl (hloop ▸ hsettled), by simp [hturns],
        by simp [hturns, h, hfirst]⟩
    · obtain ⟨hok, hio⟩ := not_or.1 hdone
      rw [if_neg hok] at hloop hturns
      have hrest : Looped limits q i now env fuel s' := ih hplaced
      have hlength := hrest.length
      have hless := hturn.consumed hok hio
      refine ⟨hloop ▸ hturn.slotOnly.trans hrest.slotOnly, fun _ => hloop ▸ hrest.exit (by omega),
        by rw [hturns, List.length_cons]; omega, ?_⟩
      rw [hturns]
      exact List.forall_mem_cons.2 ⟨⟨h, hfirst⟩, hrest.turns⟩

end Loop

/-! ## 4. Dispatch -/

/-- No helper is idle while a job is queued. -/
def WorkConserved (limits : SupervisorLimits) (s : Supervisor) : Prop :=
  ∀ i, i < limits.helperCount → (s.helpers i).state = .idle → queuedCount s = 0

theorem queueFirst_eq_none : queueFirst s = none ↔ queuedCount s = 0 := by
  unfold queueFirst queuedCount
  cases hids : (s.queues .interactive).ids with
  | nil =>
    rw [List.head?_eq_none_iff, List.length_nil, Nat.zero_add, List.length_eq_zero_iff]
  | cons j rest => simp

/-- The state in which `resolver_supervisor_dispatch` turns to helper `i`. -/
def dispatchBefore (limits : SupervisorLimits) (s : Supervisor) (now : Timespec)
    (env : Nat → Nat → AssignEnv) (i : Nat) : Supervisor :=
  (List.range i).foldl (fun s i => dispatchLoop limits i now (env i) (queuedCount s + 1) s) s

section

variable (env : Nat → Nat → AssignEnv)

theorem dispatchBefore_succ :
    dispatchBefore limits s now env (i + 1) =
      dispatchLoop limits i now (env i) (queuedCount (dispatchBefore limits s now env i) + 1)
        (dispatchBefore limits s now env i) := by
  unfold dispatchBefore
  rw [List.range_succ, List.foldl_append]
  rfl

theorem dispatch_eq (hdown : s.shuttingDown = false) :
    dispatch limits s now env = dispatchBefore limits s now env limits.helperCount := by
  unfold dispatch
  rw [hdown]
  rfl

/-- Helper after helper: those that had their turn are not idle, or nothing is queued. -/
theorem dispatchBefore_spec (h : AtRest limits q s) (n : Nat) (hn : n ≤ limits.helperCount) :
    AtRest limits q (dispatchBefore limits s now env n) ∧
      (dispatchBefore limits s now env n).jobCount ≤ s.jobCount ∧
      ∀ i, i < n → ((dispatchBefore limits s now env n).helpers i).state = .idle →
        queuedCount (dispatchBefore limits s now env n) = 0 := by
  induction n with
  | zero => exact ⟨h, Nat.le_refl _, fun i hi => absurd hi (Nat.not_lt_zero i)⟩
  | succ n ih =>
    obtain ⟨hplaced, hcount, hidle⟩ := ih (Nat.le_of_succ_le hn)
    rw [dispatchBefore_succ]
    generalize dispatchBefore limits s now env n = s₁ at hplaced hcount hidle ⊢
    have hlooped : Looped limits q n now (env n) (queuedCount s₁ + 1) s₁ :=
      dispatchLoop_looped _ hn hplaced
    have hslot := hlooped.slotOnly
    refine ⟨(dispatchLoop_course hn _ hplaced).placed hplaced, hslot.jobCount.trans hcount, ?_⟩
    intro i hi hstate
    by_cases hin : i = n
    · rw [hin] at hstate
      exact queueFirst_eq_none.1
        ((hlooped.exit (Nat.lt_succ_self _)).resolve_left fun hne => hne hstate)
    · rw [hslot.helpers i hin] at hstate
      have hempty := hidle i (Nat.lt_of_le_of_ne (Nat.le_of_lt_succ hi) hin) hstate
      -- with nothing queued the loop does nothing
      rw [(dispatchLoop_stays _ (Or.inr (queueFirst_eq_none.2 hempty))).1]
      exact hempty

/-- **Dispatch conserves work.** -/
theorem dispatch_workConserved
    (h : AtRest limits q s) (hdown : s.shuttingDown = false) :
    WorkConserved limits (dispatch limits s now env) := by
  rw [dispatch_eq env hdown]
  exact (dispatchBefore_spec env h limits.helperCount (Nat.le_refl _)).2.2

theorem dispatch_jobCount (h : AtRest limits q s) :
    (dispatch limits s now env).jobCount ≤ s.jobCount := by
  cases hdown : s.shuttingDown with
  | true =>
    unfold dispatch
    rw [if_pos hdown]
  | false =>
    rw [dispatch_eq env hdown]
    exact (dispatchBefore_spec env h limits.helperCount (Nat.le_refl _)).2.1

end

/-- The turns of `resolver_supervisor_dispatch`: the state in which a job is handed to a helper, and
    the job. -/
def dispatchHandOvers (limits : SupervisorLimits) (s : Supervisor) (now : Timespec)
    (env : Nat → Nat → AssignEnv) : List (Supervisor × JobId) :=
  if s.shuttingDown then []
  else
    (List.range limits.helperCount).flatMap fun i =>
      let s := dispatchBefore limits s now env i
      dispatchTurns limits i now (env i) (queuedCount s + 1) s

/-- **A background job is handed over only when no interactive job is queued.** -/
theorem dispatchHandOvers_priority (env : Nat → Nat → AssignEnv)
    (h : AtRest limits q s) {turn : Supervisor × JobId}
    (hmem : turn ∈ dispatchHandOvers limits s now env) :
    ∃ job, turn.1.jobs turn.2 = some job ∧ job.state = .queued ∧
      (job.priority = .background → (turn.1.queues .interactive).ids = []) := by
  unfold dispatchHandOvers at hmem
  split at hmem
  · cases hmem
  · obtain ⟨i, hi, hmem⟩ := List.mem_flatMap.1 hmem
    have hi := List.mem_range.1 hi
    obtain ⟨hplaced, hfirst⟩ := (dispatchLoop_looped _ hi
      (dispatchBefore_spec env h i (Nat.le_of_lt hi)).1).turns turn hmem
    obtain ⟨p, hqueued⟩ := queueFirst_mem hfirst
    obtain ⟨job, hj, hs, _⟩ := hplaced.queued hqueued
    refine ⟨job, hj, hs, fun hbackground => ?_⟩
    unfold queueFirst at hfirst
    split at hfirst
    · rename_i j rest hids
      cases hfirst
      have hp := hplaced.queued_priority (p := .interactive)
        (by rw [hids]; exact List.mem_cons_self) hj
      rw [hbackground] at hp
      cases hp
    · rename_i hids
      exact hids

end MinecraftRelay
