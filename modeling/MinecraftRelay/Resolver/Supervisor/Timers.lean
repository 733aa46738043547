/-
  File:      Resolver/Supervisor/Timers.lean
  Subject:   DEADLINES: after a round of events nothing is overdue, and the timer stands at the
             first time that something waits for.

  A job that waits after a round of events at `now` was made to wait by it, or waits as it did at
  some moment of the round; the rule of the books about waiting jobs (`Job.Fit.waits`) is used with
  the waits of that moment.  At the moment after the turn of its slot no DISPATCHED job is overdue,
  and at the moment after the walk over the jobs none in RETRY_WAIT is.

  * `backoff_arithmetic` -- the two delays in closed form, their loops and the jitter;
  * `eventsProcess_timely` -- **nothing is overdue after a round of events**;
  * `Awaits`, `Armed` -- what the supervisor waits for, and a timer that stands at the first of it;
  * `timerTarget_armed` -- the time that `resolver_supervisor_timer_rearm` finds;
  * `clientRun_deadlines` -- **the deadlines of a run**.
-/
import MinecraftRelay.Resolver.Supervisor.Conservation
import MinecraftRelay.Resolver.Supervisor.Phases

namespace MinecraftRelay

variable {limits : SupervisorLimits} {W : Wait → Prop} {refs : EntryId → Nat} {s s' : Supervisor}
  {q : Bool} {i : Nat} {j : JobId} {job : Job} {now : Timespec}

/-! ## 1. Delays -/

/-- **The loop doubles up to the maximum.** -/
theorem delayDouble_eq {maximum delay : Nat} (hle : delay ≤ maximum) (steps : Nat) :
    delayDouble maximum steps delay = min (delay * 2 ^ steps) maximum := by
  induction steps generalizing delay with
  | zero => simp [delayDouble, hle]
  | succ steps ih =>
    have hpow : delay * 2 ^ (steps + 1) = delay * 2 * 2 ^ steps := by
      rw [Nat.pow_succ', Nat.mul_assoc]
    have hgrow := Nat.le_mul_of_pos_right (delay * 2) steps.two_pow_pos
    unfold delayDouble
    split
    · split
      · omega
      · rw [ih (by omega), hpow]
    · omega

theorem delayQueryBase_eq (limits : SupervisorLimits) (n : Nat) : delayQueryBase limits n =
    if n = 0 then 0 else min (limits.queryRetryInitialMs * 2 ^ (n - 1)) limits.queryRetryMaxMs := by
  unfold delayQueryBase
  rw [delayDouble_eq limits.queryRetry_le]
  split <;> grind

theorem delayRespawnBase_eq (limits : SupervisorLimits) (n : Nat) : delayRespawnBase limits n =
    if n ≤ 1 then 0 else min (limits.respawnInitialMs * 2 ^ (n - 2)) limits.respawnMaxMs := by
  unfold delayRespawnBase
  rw [delayDouble_eq limits.respawn_le]
  split <;> grind

theorem le_delayQueryBase {retryCount : Nat} (h : 0 < retryCount) :
    limits.queryRetryInitialMs ≤ delayQueryBase limits retryCount := by
  rw [delayQueryBase_eq, if_neg (Nat.ne_of_gt h)]
  exact Nat.le_min.2 ⟨Nat.le_mul_of_pos_right _ (Nat.two_pow_pos _), limits.queryRetry_le⟩

/-- The same loop on 64-bit words, and the number of its turns. -/
def delayDoubleWords (maximum : UInt64) : Nat → UInt64 → UInt64 × Nat
  | 0, delay => (delay, 0)
  | steps + 1, delay =>
    if delay < maximum then
      if delay > maximum / 2 then (maximum, 1)
      else
        let (delay, turns) := delayDoubleWords maximum steps (delay * 2)
        (delay, turns + 1)
    else (delay, 0)

/-- **The words never overflow, and the loop ends soon**: after `k` turns the delay is at least
    `2 ^ k`. -/
theorem delayDoubleWords_spec {maximum delay : UInt64} {k : Nat} (hk : 2 ^ k ≤ delay.toNat)
    (steps : Nat) :
    (delayDoubleWords maximum steps delay).1.toNat = delayDouble maximum.toNat steps delay.toNat ∧
      (delayDoubleWords maximum steps delay).2 + k ≤ 64 := by
  have hsmall {delay : UInt64} {k : Nat} (hk : 2 ^ k ≤ delay.toNat) : k < 64 :=
    (Nat.pow_lt_pow_iff_right Nat.one_lt_two).1 (Nat.lt_of_le_of_lt hk delay.toNat_lt)
  induction steps generalizing delay k with
  | zero =>
    have := hsmall hk
    exact ⟨rfl, by simp [delayDoubleWords]; omega⟩
  | succ steps ih =>
    have := hsmall hk
    have hhalf : delay > maximum / 2 ↔ delay.toNat > maximum.toNat / 2 := by
      simp [UInt64.lt_iff_toNat_lt]
    simp only [delayDoubleWords, delayDouble, UInt64.lt_iff_toNat_lt, hhalf]
    split
    · split
      · exact ⟨rfl, by omega⟩
      · have hmax := maximum.toNat_lt
        have hdouble : (delay * 2).toNat = delay.toNat * 2 := by
          exact Nat.mod_eq_of_lt (by simp; omega)
        have hk' : 2 ^ (k + 1) ≤ (delay * 2).toNat := by
          omega
        obtain ⟨hvalue, hturns⟩ := ih hk'
        rw [hdouble] at hvalue
        exact ⟨hvalue, by dsimp only; omega⟩
    · exact ⟨rfl, by dsimp only; omega⟩

/-- The jitter stays within its percentage, and under the maximum. -/
theorem delayJitter_spec {base maximum : Nat} (hjitter : limits.jitterPercent = 20)
    (hbase : base ≤ maximum) (hmax : 120 * maximum < 2 ^ 64) (domain : UInt8)
    (identity attempt : Nat) :
    base * 80 / 100 ≤ delayJitter limits base maximum domain identity attempt ∧
      delayJitter limits base maximum domain identity attempt ≤ base * 120 / 100 ∧
      delayJitter limits base maximum domain identity attempt ≤ maximum := by
  unfold delayJitter
  dsimp only
  rw [hjitter]
  generalize (hashU64 (hashU64 (hashByte 14695981039346656037 domain) identity)
    attempt).toNat = hash
  have hlow : 80 ≤ 100 + hash % (20 * 2 + 1) - 20 := by omega
  have hhigh : 100 + hash % (20 * 2 + 1) - 20 ≤ 120 := by omega
  generalize 100 + hash % (20 * 2 + 1) - 20 = factor at hlow hhigh
  have hfits : ¬ base > uint64Max / factor := by
    rw [gt_iff_lt, Nat.not_lt, Nat.le_div_iff_mul_le (by omega)]
    have := Nat.mul_le_mul hbase hhigh
    have : uint64Max = 2 ^ 64 - 1 := rfl
    omega
  have h1 : base * 80 / 100 ≤ base * factor / 100 :=
    Nat.div_le_div_right (Nat.mul_le_mul_left base hlow)
  have h2 : base * factor / 100 ≤ base * 120 / 100 :=
    Nat.div_le_div_right (Nat.mul_le_mul_left base hhigh)
  rw [if_neg (show factor ≠ 0 by omega), if_neg hfits]
  split <;> omega

/-- A delay that the jitter cannot make vanish. -/
theorem delayJitter_pos {base maximum : Nat} (domain : UInt8) (identity attempt : Nat)
    (hbase : 100 ≤ base * (100 - limits.jitterPercent)) (hmax : 0 < maximum) :
    0 < delayJitter limits base maximum domain identity attempt := by
  unfold delayJitter
  dsimp only
  generalize (hashU64 (hashU64 (hashByte 14695981039346656037 domain) identity)
    attempt).toNat % (limits.jitterPercent * 2 + 1) = jitter
  have hfactor : 100 - limits.jitterPercent ≤ 100 + jitter - limits.jitterPercent := by omega
  generalize 100 + jitter - limits.jitterPercent = factor at hfactor
  have hproduct : 100 ≤ base * factor := Nat.le_trans hbase (Nat.mul_le_mul_left base hfactor)
  have hzero : factor ≠ 0 := by
    rintro rfl
    omega
  rw [if_neg hzero]
  have hdelay : 0 < if base > uint64Max / factor then uint64Max else base * factor / 100 := by
    split
    · decide
    · exact Nat.div_pos hproduct (by decide)
  generalize (if base > uint64Max / factor then uint64Max else base * factor / 100) =
    delay at hdelay
  split
  · exact hdelay
  · exact hmax

/-- The retry delays are long enough for their jitter. -/
def SupervisorLimits.Delays (limits : SupervisorLimits) : Prop :=
  100 ≤ limits.queryRetryInitialMs * (100 - limits.jitterPercent)

theorem delays_default : SupervisorLimits.Delays {} := by
  unfold SupervisorLimits.Delays
  decide

/-- What a call at `now` makes jobs wait for is after `now`. -/
theorem arms_later (hdelays : limits.Delays) (hv : timeutilValid now = true) (P : Wait → Prop) :
    Arms limits now fun w => now < w.time ∨ P w where
  valid := hv
  deadline := fun _ _ _ h => Or.inl (timeutilAddSeconds_lt h limits.queryTimeoutSec_pos)
  retry := by
    intro j i t e retryCount hpos h
    refine Or.inl (timeutilAddMilliseconds_lt h (delayJitter_pos _ _ _ ?_ ?_))
    · exact Nat.le_trans hdelays (Nat.mul_le_mul_right _ (le_delayQueryBase hpos))
    · exact Nat.lt_of_lt_of_le limits.queryRetryInitialMs_pos limits.queryRetry_le

/-- What the delays are, for constants that leave room for the jitter. -/
structure BackoffArithmetic (limits : SupervisorLimits) : Prop where
  query : ∀ n, delayQueryBase limits n =
    if n = 0 then 0 else min (limits.queryRetryInitialMs * 2 ^ (n - 1)) limits.queryRetryMaxMs
  respawn : ∀ n, delayRespawnBase limits n =
    if n ≤ 1 then 0 else min (limits.respawnInitialMs * 2 ^ (n - 2)) limits.respawnMaxMs
  /-- The loops on 64-bit words: the same values, after at most 64 turns. -/
  words : ∀ initial maximum : UInt64, 0 < initial → ∀ steps,
    (delayDoubleWords maximum steps initial).1.toNat =
        delayDouble maximum.toNat steps initial.toNat ∧
      (delayDoubleWords maximum steps initial).2 ≤ 64
  query_mono : ∀ m n, m ≤ n → delayQueryBase limits m ≤ delayQueryBase limits n
  respawn_mono : ∀ m n, m ≤ n → delayRespawnBase limits m ≤ delayRespawnBase limits n
  jitter : ∀ maximum ∈ [limits.queryRetryMaxMs, limits.respawnMaxMs], ∀ base ≤ maximum,
    ∀ domain identity attempt,
      base * 80 / 100 ≤ delayJitter limits base maximum domain identity attempt ∧
        delayJitter limits base maximum domain identity attempt ≤ base * 120 / 100 ∧
        delayJitter limits base maximum domain identity attempt ≤ maximum

/-- **The arithmetic of the delays.** -/
theorem backoff_arithmetic (limits : SupervisorLimits) (hjitter : limits.jitterPercent = 20)
    (hquery : 120 * limits.queryRetryMaxMs < 2 ^ 64)
    (hrespawn : 120 * limits.respawnMaxMs < 2 ^ 64) : BackoffArithmetic limits where
  query := delayQueryBase_eq limits
  respawn := delayRespawnBase_eq limits
  words initial maximum hpos steps :=
    delayDoubleWords_spec (k := 0) (UInt64.lt_iff_toNat_lt.1 hpos) steps
  query_mono m n h := by
    have hpow := Nat.mul_le_mul_left limits.queryRetryInitialMs
      (Nat.pow_le_pow_right Nat.two_pos (Nat.sub_le_sub_right h 1))
    rw [delayQueryBase_eq, delayQueryBase_eq]
    split <;> split <;> omega
  respawn_mono m n h := by
    have hpow := Nat.mul_le_mul_left limits.respawnInitialMs
      (Nat.pow_le_pow_right Nat.two_pos (Nat.sub_le_sub_right h 2))
    rw [delayRespawnBase_eq, delayRespawnBase_eq]
    split <;> split <;> omega
  jitter maximum hmem base hbase domain identity attempt := by
    have hmax : 120 * maximum < 2 ^ 64 := by
      rcases List.mem_pair.1 hmem with rfl | rfl
      · exact hquery
      · exact hrespawn
    exact delayJitter_spec hjitter hbase hmax domain identity attempt

theorem backoff_arithmetic_default : BackoffArithmetic {} :=
  backoff_arithmetic {} rfl (by decide) (by decide)

/-! ## 2. Nothing is overdue -/

theorem Job.waiting_eq {w : Wait} (h : job.waiting j = some w) :
    job.state = w.state ∧ job.slotIndex = w.slotIndex ∧ job.waitsFor = some w.time := by
  obtain ⟨time, htime, rfl⟩ := Option.map_eq_some_iff.1 h
  exact ⟨rfl, rfl, htime⟩

/-- A job waits as it did in `s`. -/
def WaitsAsIn (s : Supervisor) (w : Wait) : Prop :=
  ∃ job, s.jobs w.job = some job ∧ job.waiting w.job = some w

/-- At any moment the jobs wait as they do then. -/
theorem Orderly.rewait (h : Orderly limits W refs q s) (now : Timespec) :
    Orderly limits (fun w => now < w.time ∨ WaitsAsIn s w) refs q s where
  placed := h.placed
  booked :=
    { h.booked with
      fit := by
        intro j job hj
        refine { h.booked.fit j job hj with waits := fun w hw => ?_ }
        have hself : w.job = j := by
          obtain ⟨time, _, rfl⟩ := Option.map_eq_some_iff.1 hw
          rfl
        subst hself
        exact Or.inr ⟨job, hj, hw⟩ }

/-- **When its deadline has been looked at, the job of a slot is not overdue.** -/
theorem timerOverdue_due {receives : List Receive} (h : AtRest limits q s)
    (hj : (timerOverdue limits now receives s i).jobs j = some job) (hd : job.state = .dispatched)
    (hslot : job.slotIndex = i) : now < job.deadline := by
  have hcourse : Passes limits now q s (timerOverdue limits now receives s i) :=
    timerOverdue_course receives h
  obtain ⟨hheld, hbusy, _⟩ := (hcourse.placed h).dispatched hj hd
  rw [hslot] at hheld hbusy
  unfold timerOverdue at hbusy hheld hj
  dsimp only at hbusy hheld hj
  split at hbusy
  · rename_i hoverdue
    rw [if_pos hoverdue] at hheld
    split at hbusy
    · -- a helper that fails is not busy
      obtain ⟨_, hstate⟩ : SlotOnly i _
          (helperFail limits (drain limits i now receives s) i .timeout now) ∧ _ :=
        helperFail_downed
      rw [hbusy] at hstate
      exact hstate.elim nofun nofun
    · rename_i hstays
      rw [if_neg hstays] at hheld
      exact absurd ⟨hbusy, by rw [hheld]; exact nofun⟩ hstays
  · rename_i hoverdue
    rw [if_neg hoverdue] at hheld hj
    have hearly : ¬ timeutilCompare now job.deadline ≠ .lt := by
      intro hlate
      refine hoverdue ⟨hbusy, ?_⟩
      rw [hheld, Option.bind_some, hj]
      simpa using hlate
    rw [Decidable.not_not, timeutilCompare_eq_lt] at hearly
    exact hearly

/-- The rest of the turn of a slot writes no job. -/
theorem timerHelper_jobs {receives : List Receive} {spawn : Spawn} :
    (timerHelper limits now receives spawn s i).jobs =
      (timerOverdue limits now receives s i).jobs := by
  have hstable : (timerStable limits now (timerOverdue limits now receives s i) i).jobs =
      (timerOverdue limits now receives s i).jobs := by
    unfold timerStable
    dsimp only
    split
    · exact (helperRecover_recounted ..).jobs
    · rfl
  unfold timerHelper
  dsimp only
  split
  · rw [helperSpawn_jobs]
    exact hstable
  · split
    · exact hstable
    · exact hstable

/-- The retry of job `k` is not overdue. -/
def RetryLater (now : Timespec) (s : Supervisor) (k : JobId) : Prop :=
  ∀ job, s.jobs k = some job → job.state = .retryWait → now < job.retryAt

theorem timerJob_retryLater {k : JobId} (h : k ≠ j → RetryLater now s k) :
    RetryLater now (timerJob now s j) k := by
  intro job hk hs
  unfold timerJob at hk
  split at hk
  · rename_i hj
    refine h (fun hkj => ?_) job hk hs
    rw [hkj, hj] at hk
    cases hk
  · rename_i job₀ hj
    split at hk
    · unfold queueAppend at hk
      rw [setJob_jobs_self] at hk
      change Function.update (Function.update s.jobs j _) j _ k = some job at hk
      rw [Function.update_idem] at hk
      rcases Placement.update_some hk with ⟨_, rfl⟩ | ⟨hkj, hk⟩
      · cases hs
      · exact h hkj job hk hs
    · rename_i hdue
      by_cases hkj : k = j
      · rw [hkj, hj] at hk
        obtain rfl := Option.some.inj hk
        have hearly : timeutilCompare now job₀.retryAt = .lt :=
          Decidable.of_not_not fun hne => hdue ⟨hs, hne⟩
        exact (timeutilCompare_eq_lt ..).1 hearly
      · exact h hkj job hk hs

/-- **After the walk over the jobs no retry is overdue.** -/
theorem timersProcessJobs_retryLater (h : AtRest limits q s) (k : JobId) :
    RetryLater now (timersProcessJobs limits s now) k := by
  have hwalk : ∀ (l : List JobId) (s : Supervisor), (k ∉ l → RetryLater now s k) →
      RetryLater now (l.foldl (timerJob now) s) k := by
    intro l
    induction l with
    | nil => exact fun s hs => hs (List.not_mem_nil)
    | cons j l ih =>
      intro s hs
      refine ih _ fun hl => timerJob_retryLater fun hkj => hs fun hmem => ?_
      exact (List.mem_cons.1 hmem).elim hkj hl
  refine hwalk _ s fun hk job hj => ?_
  rw [h.mem_jobList] at hk
  exact absurd (by rw [hj]; exact nofun) hk

/-- Nothing that a job waits for is at `now` or before it. -/
def Timely (now : Timespec) (s : Supervisor) : Prop :=
  ∀ j job t, s.jobs j = some job → job.waitsFor = some t → now < t

section Round

variable (hdelays : limits.Delays) (env : EventsEnv)

/-- The state in which a round of events looks at the timers of slot `n`. -/
def timersBefore (limits : SupervisorLimits) (now : Timespec) (env : EventsEnv) (s : Supervisor)
    (n : Nat) : Supervisor :=
  (List.range n).foldl
    (fun s i => timerHelper limits now (env.helper i).timerReceives (env.helper i).spawn s i) s

theorem timersBefore_succ (n : Nat) :
    timersBefore limits now env s (n + 1) =
      timerHelper limits now (env.helper n).timerReceives (env.helper n).spawn
        (timersBefore limits now env s n) n := by
  unfold timersBefore
  rw [List.range_succ, List.foldl_append]
  rfl

theorem timersBefore_orderly (harms : Arms limits now W) {m n : Nat} (hmn : m ≤ n)
    (h : Orderly limits W refs q (timersBefore limits now env s m)) :
    Orderly limits W refs q (timersBefore limits now env s n) := by
  induction n, hmn using Nat.le_induction with
  | base => exact h
  | succ n _ ih =>
    rw [timersBefore_succ]
    exact (timerHelper_course ih.placed).orderly harms ih

theorem timersProcessJobs_orderly (harms : Arms limits now W) (h : Orderly limits W refs q s) :
    Orderly limits W refs q (timersProcessJobs limits s now) :=
  (timersProcessJobs_course h.placed).orderly harms h

theorem dispatch_orderly (assigns : Nat → Nat → AssignEnv) (harms : Arms limits now W)
    (h : Orderly limits W refs q s) : Orderly limits W refs q (dispatch limits s now assigns) :=
  (dispatch_course assigns h.placed).orderly harms h

include hdelays

/-- **From the timers to the end of a round**: nothing stays overdue. -/
theorem timers_timely (hv : timeutilValid now = true) (h : Orderly limits W refs q s)
    (harms : Arms limits now W) :
    Timely now (dispatch limits (timersProcessJobs limits
      (timersBefore limits now env s limits.helperCount) now) now env.assigns) := by
  intro j job t hj hwait
  have htimers : Orderly limits W refs q (timersBefore limits now env s limits.helperCount) :=
    timersBefore_orderly env harms (Nat.zero_le _) h
  have hfinal := dispatch_orderly env.assigns harms (timersProcessJobs_orderly harms htimers)
  have hwaiting : job.waiting j = some ⟨j, job.state, job.slotIndex, t⟩ := by
    rw [Job.waiting, hwait]
    rfl
  cases hs : job.state with
  | dispatched =>
    -- the moment after the turn of its slot
    obtain ⟨_, _, hi⟩ := hfinal.placed.dispatched hj hs
    have hmoment := (timersBefore_orderly env harms (Nat.zero_le (job.slotIndex + 1)) h).rewait now
    have hlast := timersBefore_orderly env (arms_later hdelays hv _) (Nat.succ_le_of_lt hi) hmoment
    have hlater := dispatch_orderly env.assigns (arms_later hdelays hv _)
      (timersProcessJobs_orderly (arms_later hdelays hv _) hlast)
    refine ((hlater.booked.fit j job hj).waits _ hwaiting).elim id fun hold => ?_
    obtain ⟨job', hj', hw'⟩ := hold
    obtain ⟨hs', hslot', ht'⟩ := Job.waiting_eq hw'
    rw [timersBefore_succ, timerHelper_jobs] at hj'
    have hbefore : Orderly limits W refs q (timersBefore limits now env s job.slotIndex) :=
      timersBefore_orderly env harms (Nat.zero_le _) h
    have hdue := timerOverdue_due hbefore.placed hj' (hs'.trans hs) hslot'
    rw [Job.waitsFor, hs', hs] at ht'
    have ht : job'.deadline = t := Option.some.inj ht'
    rw [← ht]
    exact hdue
  | retryWait =>
    have hmoment := (timersProcessJobs_orderly harms htimers).rewait now
    have hlater := dispatch_orderly env.assigns (arms_later hdelays hv _) hmoment
    refine ((hlater.booked.fit j job hj).waits _ hwaiting).elim id fun hold => ?_
    obtain ⟨job', hj', hw'⟩ := hold
    obtain ⟨hs', _, ht'⟩ := Job.waiting_eq hw'
    rw [Job.waitsFor, hs', hs] at ht'
    have ht : job'.retryAt = t := Option.some.inj ht'
    rw [← ht]
    exact timersProcessJobs_retryLater htimers.placed j job' hj' (hs'.trans hs)
  | queued => rw [Job.waitsFor, hs] at hwait; cases hwait
  | sending => rw [Job.waitsFor, hs] at hwait; cases hwait
  | complete => rw [Job.waitsFor, hs] at hwait; cases hwait

/-- **Nothing is overdue after a round of events.** -/
theorem eventsProcess_timely (h : Orderly limits W refs q s)
    (harms : timeutilValid now = true → Arms limits now W)
    (hok : (eventsProcess limits s now env).2 = .ok) :
    Timely now (eventsProcess limits s now env).1 := by
  unfold eventsProcess at hok ⊢
  split at hok
  · cases hok
  · rename_i s₀ htime
    have hv := timeUpdate_valid htime
    split at hok
    · cases hok
    · rename_i hwaited
      rw [if_neg hwaited]
      dsimp only at hok ⊢
      split at hok
      · cases hok
      · rename_i hdrained
        rw [if_neg hdrained]
        have hevents : Orderly limits W refs q ((List.range limits.helperCount).foldl
            (fun s i => helperEvents limits now (env.helper i) s i) s₀) :=
          List.foldlRecOn _ _ (timeUpdate_orderly h htime) fun s hs i _ =>
            (helperEvents_course hs.placed).orderly (harms hv) hs
        have htimely := timers_timely hdelays env hv hevents (harms hv)
        intro j job t hj
        refine htimely j job t (Eq.trans ?_ hj)
        exact congrFun (congrArg Board.jobs (board_timerRearm _ none none q env.timerSet).symm) j

end Round

/-! ## 3. The timer -/

/-- What the supervisor waits for: a time of a job, or of a helper slot. -/
def Supervisor.Awaits (limits : SupervisorLimits) (s : Supervisor) (t : Timespec) : Prop :=
  (∃ j, (s.jobs j).bind Job.waitsFor = some t) ∨
    ∃ i, i < limits.helperCount ∧ (s.helpers i).waitsFor = some t

/-- The timer stands at the first time that is awaited; a timer set to zero would be disarmed. -/
def Armed (limits : SupervisorLimits) (s : Supervisor) : Prop :=
  match s.timer with
  | none => ∀ t, ¬ s.Awaits limits t
  | some armed =>
    ∃ t, s.Awaits limits t ∧ (∀ t', s.Awaits limits t' → t ≤ t') ∧
      armed = if t = ⟨0, 0⟩ then ⟨0, 1⟩ else t

/-- The earlier of two candidates, as far as they are valid times. -/
theorem foldl_timerCandidate (l : List Timespec) (hvalid : ∀ t ∈ l, timeutilValid t = true)
    (target : Option Timespec) :
    match l.foldl timerCandidate target with
    | none => target = none ∧ l = []
    | some t => (target = some t ∨ t ∈ l) ∧ (∀ t', target = some t' → t ≤ t') ∧
        ∀ t' ∈ l, t ≤ t' := by
  induction l generalizing target with
  | nil =>
    cases target with
    | none => exact ⟨rfl, rfl⟩
    | some t => exact ⟨Or.inl rfl, fun t' ht => le_of_eq (Option.some.inj ht), nofun⟩
  | cons a l ih =>
    have ha := hvalid a List.mem_cons_self
    have hrest := ih (fun t ht => hvalid t (List.mem_cons_of_mem a ht)) (timerCandidate target a)
    rw [List.foldl_cons]
    -- the first candidate is taken, or an earlier one stays
    have hfirst : ∃ t, timerCandidate target a = some t ∧ (target = some t ∨ t = a) ∧ t ≤ a ∧
        ∀ t', target = some t' → t ≤ t' := by
      unfold timerCandidate
      rw [if_neg (not_not.2 ha)]
      cases target with
      | none => exact ⟨a, rfl, Or.inr rfl, le_rfl, nofun⟩
      | some current =>
        dsimp only
        split
        · rename_i hlt
          rw [timeutilCompare_eq_lt] at hlt
          refine ⟨a, rfl, Or.inr rfl, le_rfl, fun t' ht => ?_⟩
          rw [← Option.some.inj ht]
          exact le_of_lt hlt
        · rename_i hge
          rw [timeutilCompare_eq_lt, not_lt] at hge
          exact ⟨current, rfl, Or.inl rfl, hge, fun t' ht => le_of_eq (Option.some.inj ht)⟩
    obtain ⟨t, htaken, hfrom, hle, hleast⟩ := hfirst
    rw [htaken] at hrest ⊢
    cases hfold : l.foldl timerCandidate (some t) with
    | none =>
      rw [hfold] at hrest
      cases hrest.1
    | some t₁ =>
      rw [hfold] at hrest
      obtain ⟨hmem, hbefore, hall⟩ := hrest
      have ht₁ := hbefore t rfl
      refine ⟨?_, fun t' ht' => ht₁.trans (hleast t' ht'), fun t' ht' => ?_⟩
      · rcases hmem with hsame | hmem
        · obtain rfl := Option.some.inj hsame
          refine hfrom.imp_right fun hta => ?_
          rw [hta]
          exact List.mem_cons_self
        · exact Or.inr (List.mem_cons_of_mem a hmem)
      · rcases List.mem_cons.1 ht' with rfl | ht'
        · exact ht₁.trans hle
        · exact hall t' ht'

/-- **The time that `resolver_supervisor_timer_rearm` finds is the first that is awaited.** -/
theorem timerTarget_armed (h : AtRest limits q s)
    (hvalid : ∀ t, s.Awaits limits t → timeutilValid t = true) :
    Armed limits { s with timer := timerTarget limits s } := by
  have hmem : ∀ t, t ∈ ((jobList limits s).filterMap fun j => (s.jobs j).bind Job.waitsFor) ++
      ((List.range limits.helperCount).filterMap fun i => (s.helpers i).waitsFor) ↔
      s.Awaits limits t := by
    intro t
    rw [List.mem_append, List.mem_filterMap, List.mem_filterMap]
    refine or_congr ⟨fun ⟨j, _, hj⟩ => ⟨j, hj⟩, fun ⟨j, hj⟩ => ⟨j, ?_, hj⟩⟩ ?_
    · rw [h.mem_jobList]
      intro hnone
      rw [hnone] at hj
      cases hj
    · simp only [List.mem_range]
  have hspec := foldl_timerCandidate _ (fun t ht => hvalid t ((hmem t).1 ht)) none
  unfold Armed timerTarget
  dsimp only
  generalize ((jobList limits s).filterMap fun j => (s.jobs j).bind Job.waitsFor) ++
    ((List.range limits.helperCount).filterMap fun i => (s.helpers i).waitsFor) = candidates
    at hmem hspec ⊢
  cases hfold : candidates.foldl timerCandidate none with
  | none =>
    rw [hfold] at hspec
    intro t ht
    have hin := (hmem t).2 ht
    rw [hspec.2] at hin
    cases hin
  | some t =>
    rw [hfold] at hspec
    obtain ⟨hin, _, hall⟩ := hspec
    refine ⟨t, (hmem t).1 (hin.resolve_left nofun), fun t' ht' => hall t' ((hmem t').2 ht'), ?_⟩
    obtain ⟨sec, nsec⟩ := t
    simp only [Timespec.mk.injEq]

/-- What the books say about the times that are awaited. -/
theorem Orderly.awaits_valid (h : Orderly limits (fun w => timeutilValid w.time = true) refs q s)
    {t : Timespec} (ht : s.Awaits limits t) : timeutilValid t = true := by
  rcases ht with ⟨j, hj⟩ | ⟨i, _, hi⟩
  · obtain ⟨job, hjob, hwait⟩ := Option.bind_eq_some_iff.1 hj
    exact (h.booked.fit j job hjob).waits ⟨j, job.state, job.slotIndex, t⟩
      (by rw [Job.waiting, hwait]; rfl)
  · unfold Helper.waitsFor at hi
    split at hi
    · rw [← Option.some.inj hi]
      exact h.booked.events i
    · cases hi

/-- **A timer that has just been set is right.** -/
theorem Orderly.armed (h : Orderly limits (fun w => timeutilValid w.time = true) refs q s)
    (ht : s.timer = timerTarget limits s) : Armed limits s := by
  have harmed := timerTarget_armed h.placed fun _ ht => h.awaits_valid ht
  rw [← ht] at harmed
  exact harmed

/-- A call that does not dispatch leaves the timer right. -/
theorem Armed.quiet (h : Armed limits s) (hquiet : Quiet s s') : Armed limits s' := by
  have hawaits : ∀ t, s'.Awaits limits t ↔ s.Awaits limits t := by
    intro t
    unfold Supervisor.Awaits
    rw [hquiet.helpers]
    simp only [hquiet.waits]
  unfold Armed at h ⊢
  rw [hquiet.timer]
  simp only [hawaits]
  exact h

/-! ## 4. Runs -/

/-- The timer is read and set whenever a call tries to. -/
def Call.TimerKept : Call → Prop
  | .schedule _ _ _ env => env.timerSet = true
  | .release _ _ _ env => env.timerSet = true
  | .events _ env => env.timerDrained = true ∧ env.timerSet = true
  | .shutdown _ timerSet => timerSet = true
  | _ => True

theorem Call.TimerKept.drained {c : Call} (h : c.TimerKept) : c.Drained := by
  cases c <;> first | exact h.1 | trivial

theorem Call.TimerKept.source {c : Call} {d : Source} (h : c.TimerKept)
    (hd : c.source limits s = some d) : d.timerSet = true := by
  cases c with
  | schedule e p now env =>
    obtain ⟨s₁, _, rfl⟩ := Option.map_eq_some_iff.1 hd
    exact h
  | release e p now env =>
    obtain ⟨s₁, _, rfl⟩ := Option.map_eq_some_iff.1 hd
    exact h
  | events now env =>
    obtain ⟨s₁, _, rfl⟩ := Option.map_eq_some_iff.1 hd
    exact h.2
  | _ => cases hd

section Run

variable {spawns : Nat → Spawn}

/-- A call that turned to the queues, and could set the timer. -/
theorem call_source_armed {c : Call} {d : Source} (h : AtRest limits q s)
    (hafter : Orderly limits (fun w => timeutilValid w.time = true) refs q (s.call limits c))
    (hd : c.source limits s = some d) (hset : d.timerSet = true) :
    Armed limits (s.call limits c) := by
  obtain ⟨_, metrics, heq⟩ := call_source h hd
  refine hafter.armed ?_
  rw [heq, Source.outcome, hset]
  rfl

theorem timerRearm_armed {set : Bool}
    (hafter : Orderly limits (fun w => timeutilValid w.time = true) refs q
      (timerRearm limits s set).1) (hset : set = true) : Armed limits
        (timerRearm limits s set).1 := by
  refine hafter.armed ?_
  rw [hset]
  rfl

/-- A shutdown that could set the timer. -/
theorem supervisorShutdown_armed
    (hafter : Orderly limits (fun w => timeutilValid w.time = true) refs q
      (supervisorShutdown limits s now true).1) (hup : s.shuttingDown = false)
    (hok : (supervisorShutdown limits s now true).2 = true) :
    Armed limits (supervisorShutdown limits s now true).1 := by
  unfold supervisorShutdown at hok hafter ⊢
  split at hok
  · cases hok
  · rename_i s₀ htime
    have hup₀ : ¬ s₀.shuttingDown = true := by
      rw [(timeUpdate_quiet htime).shuttingDown, hup]
      exact nofun
    rw [htime] at hafter
    dsimp only at hafter
    rw [if_neg hup₀] at hafter ⊢
    exact timerRearm_armed hafter rfl

/-- **One call of a caller**, its timers read and set. -/
theorem Client.call_armed {k : Client} {c : Call} (hkept : c.TimerKept)
    (h : Orderly limits (fun w => timeutilValid w.time = true) k.held false k.supervisor)
    (harmed : Armed limits k.supervisor) : Armed limits (k.call limits c).supervisor := by
  have hafter := k.call_orderly (fun _ => arms_valid) c h
  rcases k.call_supervisor c with heq | heq
  · rw [heq] at hafter ⊢
    cases hd : c.source limits k.supervisor with
    | some d => exact call_source_armed h.placed hafter hd (hkept.source hd)
    | none =>
      rcases call_quiet h.placed hkept.drained hd with hquiet | ⟨t, set, s₁, hc, _, hcall⟩
      · exact harmed.quiet hquiet
      · rw [hcall] at hafter ⊢
        rw [hc] at hkept
        exact timerRearm_armed hafter hkept
  · rw [heq]
    exact harmed

theorem Client.source_armed {k : Client} {c : Call} {d : Source}
    (h : Orderly limits (fun w => timeutilValid w.time = true) k.held false k.supervisor)
    (hd : c.source limits k.supervisor = some d) (hset : d.timerSet = true) :
    Armed limits (k.supervisor.call limits c) := by
  have hafter := k.call_orderly (fun _ => arms_valid) c h
  cases c with
  | schedule e p t env => exact call_source_armed h.placed hafter hd hset
  | release e p t env => exact call_source_armed h.placed hafter hd hset
  | events t env => exact call_source_armed h.placed hafter hd hset
  | completionTake => cases hd
  | completionDestroy completion => cases hd
  | observationTake => cases hd
  | shutdown t timerSet => cases hd
  | cacheAcquire queryName queryType allocated => cases hd
  | cacheRetain e => cases hd
  | cacheRelease e => cases hd
  | cacheView e t => cases hd

theorem clientRun_armed (hnow : timeutilValid now = true) (calls : List Call)
    (hkept : ∀ c ∈ calls, c.TimerKept) :
    Armed limits (clientRun limits now spawns calls).supervisor := by
  induction calls using List.reverseRecOn with
  | nil =>
    have hcreated : Orderly limits (fun w => timeutilValid w.time = true) (fun _ => 0) false
        (supervisorCreate limits (cacheCreate limits.toCacheLimits) now spawns) :=
      supervisorCreate_orderly hnow
    exact hcreated.armed rfl
  | append_singleton calls c ih =>
    have hstep : clientRun limits now spawns (calls ++ [c]) =
        (clientRun limits now spawns calls).call limits c := List.foldl_concat ..
    rw [hstep]
    exact Client.call_armed (hkept c (by simp)) (clientRun_orderly (fun _ => arms_valid) hnow calls)
      (ih fun c hc => hkept c (List.mem_append_left _ hc))

/-- The deadlines of a run of the supervisor. -/
structure DeadlineEnforcement (limits : SupervisorLimits) (now : Timespec) (spawns : Nat → Spawn)
    (calls : List Call) : Prop where
  /-- After a round of events at `t` no DISPATCHED job has its deadline, and no job in RETRY_WAIT
      its retry, at `t` or before. -/
  overdue : ∀ t env,
    (eventsProcess limits (clientRun limits now spawns calls).supervisor t env).2 = .ok →
    Timely t (eventsProcess limits (clientRun limits now spawns calls).supervisor t env).1
  /-- A call that turned to the queues and could set the timer: it stands at the first time that a
      job or a helper waits for. -/
  rearmed : ∀ c d, Call.source limits (clientRun limits now spawns calls).supervisor c = some d →
    d.timerSet = true →
    Armed limits ((clientRun limits now spawns calls).supervisor.call limits c)
  /-- So it does after a shutdown. -/
  stopped : ∀ t, (clientRun limits now spawns calls).supervisor.shuttingDown = false →
    (supervisorShutdown limits (clientRun limits now spawns calls).supervisor t true).2 = true →
    Armed limits (supervisorShutdown limits (clientRun limits now spawns calls).supervisor t true).1
  /-- When no call of the run failed to read or set the timer, it stands there after every call. -/
  armed : (∀ c ∈ calls, c.TimerKept) → Armed limits (clientRun limits now spawns calls).supervisor

/-- **The deadlines are enforced in every run**, with the delays that are compiled in. -/
theorem clientRun_deadlines (now : Timespec) (spawns : Nat → Spawn)
    (hnow : timeutilValid now = true) (calls : List Call) :
    DeadlineEnforcement {} now spawns calls where
  overdue := fun _ env hok => eventsProcess_timely delays_default env
    (clientRun_orderly (fun _ => arms_valid) hnow calls) (fun hv => arms_valid hv) hok
  rearmed := fun _ _ hd hset =>
    Client.source_armed (clientRun_orderly (fun _ => arms_valid) hnow calls) hd hset
  stopped := fun t hup hok => supervisorShutdown_armed
    (Client.call_orderly (fun _ => arms_valid) _ (.shutdown t true)
      (clientRun_orderly (fun _ => arms_valid) hnow calls)) hup hok
  armed := clientRun_armed hnow calls

end Run

theorem clientRun_deadlines_dispatched :
    timeutilValid ⟨0, 0⟩ = true ∧
      DeadlineEnforcement {} ⟨0, 0⟩ (fun _ => .started 7)
        [.cacheAcquire [97] 1 true, .schedule 1 .interactive ⟨1, 0⟩ {}] :=
  ⟨rfl, clientRun_deadlines ⟨0, 0⟩ (fun _ => .started 7) rfl
    [.cacheAcquire [97] 1 true, .schedule 1 .interactive ⟨1, 0⟩ {}]⟩

/-- Two timers that stand elsewhere.  A slot whose process could not be started is STOPPED by a
    shutdown: it keeps its failures and its next event, but the timer is disarmed.  And a schedule
    that joins a job finds the timer as a call that could not set it has left it. -/
theorem clientRun_timer_elsewhere :
    (let s := (clientRun {} ⟨1, 0⟩ (fun _ => .failed) []).supervisor
      let r := supervisorShutdown {} s ⟨2, 0⟩ true
      r.2 = true ∧ r.1.timer = none ∧ (r.1.helpers 0).failureCount = 1 ∧
        (r.1.helpers 0).nextEventAt = ⟨1, 0⟩) ∧
      (let s := (clientRun {} ⟨0, 0⟩ (fun _ => .started 7)
          [.cacheAcquire [97] 1 true,
            .schedule 1 .interactive ⟨1, 0⟩ { timerSet := false }]).supervisor
        let r := entrySchedule {} s 1 .interactive ⟨1, 0⟩ {}
        r.2 = .coalesced ∧ r.1.timer = none ∧
          (r.1.jobs 0).bind Job.waitsFor = some ⟨11, 0⟩) := by
  decide +kernel

end MinecraftRelay
