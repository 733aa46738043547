/-
  File:      Resolver/Supervisor/Conservation.lean
  Subject:   CONSERVATION: every attempt has one outcome and every completion one end, in runs whose
             callers give back only what they hold.

  A caller that released a reference it does not hold could free an entry under a job of the
  supervisor; such a program is wrong before anything is counted.

  * `Client`, `clientRun` -- the supervisor together with what its callers hold;
  * `clientRun_orderly` -- **places and books are right after every call**;
  * `AttemptConservation`, `clientRun_conservation` -- what the gauges of
    `resolver_supervisor_metrics_get` have to do with the counters.
-/
import MinecraftRelay.Resolver.Supervisor.Bookkeeping

namespace MinecraftRelay

variable {limits : SupervisorLimits} {W : Wait → Prop} {now : Timespec} {s : Supervisor}
  {spawns : Nat → Spawn}

/-! ## 1. Callers -/

/-- The supervisor, the references its callers acquired, and the completions they have taken. -/
structure Client where
  supervisor : Supervisor
  references : EntryId → Nat
  completions : List Completion

namespace Client

/-- The references to an entry that are the callers': a completion brings one. -/
def held (k : Client) (e : EntryId) : Nat :=
  k.references e + k.completions.countP fun completion => decide (completion.entry = e)

/-- One call; a caller does not give back what it does not hold. -/
def call (limits : SupervisorLimits) (k : Client) : Call → Client
  | .completionTake =>
    let r := completionTake limits k.supervisor
    { k with supervisor := r.1, completions := r.2.toList ++ k.completions }
  | .completionDestroy completion =>
    if completion ∈ k.completions then
      { k with
        supervisor := completionDestroy limits k.supervisor completion
        completions := k.completions.erase completion }
    else k
  | .cacheAcquire queryName queryType allocated =>
    let r := entryAcquire limits.toCacheLimits k.supervisor.cache queryName queryType allocated
    { k with
      supervisor := { k.supervisor with cache := r.1 }
      references := fun x => k.references x + if r.2.2 = some x then 1 else 0 }
  | .cacheRetain e =>
    let r := entryRetain k.supervisor.cache e
    { k with
      supervisor := { k.supervisor with cache := r.1 }
      references := fun x => k.references x + if r.2 = true ∧ e = x then 1 else 0 }
  | .cacheRelease e =>
    if 0 < k.references e then
      { k with
        supervisor :=
          { k.supervisor with cache := entryRelease limits.toCacheLimits k.supervisor.cache e }
        references := fun x => k.references x - if e = x then 1 else 0 }
    else k
  | c => { k with supervisor := k.supervisor.call limits c }

end Client

/-- The calls of a run, from a supervisor with a new cache. -/
def clientRun (limits : SupervisorLimits) (now : Timespec) (spawns : Nat → Spawn)
    (calls : List Call) : Client :=
  calls.foldl (Client.call limits)
    { supervisor := supervisorCreate limits (cacheCreate limits.toCacheLimits) now spawns
      references := fun _ => 0
      completions := [] }

/-- What the supervisor sees of a call is the call, or nothing. -/
theorem Client.call_supervisor (k : Client) (c : Call) :
    (k.call limits c).supervisor = k.supervisor.call limits c ∨
      (k.call limits c).supervisor = k.supervisor := by
  cases c with
  | completionDestroy completion =>
    unfold Client.call
    dsimp only
    split
    · exact Or.inl rfl
    · exact Or.inr rfl
  | cacheRelease e =>
    unfold Client.call
    dsimp only
    split
    · exact Or.inl rfl
    · exact Or.inr rfl
  | _ => exact Or.inl rfl

/-- A completion that was taken brings its reference. -/
theorem Client.held_take (k : Client) (taken : Option Completion) (e : EntryId) :
    ({ k with completions := taken.toList ++ k.completions } : Client).held e =
      k.held e + if taken.map (·.entry) = some e then 1 else 0 := by
  unfold Client.held
  rw [List.countP_append]
  cases taken with
  | none => simp
  | some completion =>
    simp only [Option.toList_some, List.countP_singleton, decide_eq_true_eq, Option.map_some,
      Option.some.injEq]
    omega

theorem Client.held_destroy (k : Client) {completion : Completion}
    (hmem : completion ∈ k.completions) (e : EntryId) :
    k.held e =
      ({ k with completions := k.completions.erase completion } : Client).held e +
        if completion.entry = e then 1 else 0 := by
  unfold Client.held
  have hperm := List.perm_cons_erase hmem
  rw [hperm.countP_eq, List.countP_cons]
  simp only [decide_eq_true_eq]
  omega

section Calls

variable (harms : ∀ t, timeutilValid t = true → Arms limits t W)

include harms

/-- **Every call keeps places and books right.** -/
theorem Client.call_orderly (k : Client) (c : Call)
    (h : Orderly limits W k.held false k.supervisor) :
    Orderly limits W (k.call limits c).held false (k.call limits c).supervisor := by
  cases c with
  | schedule e priority now env => exact entrySchedule_orderly (harms now) h
  | release e priority now env => exact entryReleaseInterest_orderly (harms now) h
  | events now env => exact eventsProcess_orderly (harms now) h
  | completionTake =>
    have htaken := completionTake_orderly h
    refine ⟨htaken.placed, htaken.booked.weaken fun e => Nat.le_of_eq ?_⟩
    exact k.held_take _ e
  | completionDestroy completion =>
    unfold Client.call
    dsimp only
    split
    · rename_i hmem
      refine completionDestroy_orderly ⟨h.placed, h.booked.weaken fun e => Nat.le_of_eq ?_⟩
      exact (k.held_destroy hmem e).symm
    · exact h
  | observationTake =>
    show Orderly limits W k.held false (MinecraftRelay.observationTake limits k.supervisor).1
    unfold MinecraftRelay.observationTake
    split
    · exact h
    · exact ⟨h.placed, h.booked⟩
  | shutdown now timerSet => exact supervisorShutdown_orderly (harms now) h rfl
  | cacheAcquire queryName queryType allocated =>
    refine ⟨(cache_moves entryAcquire_kept).placed h.placed, ?_⟩
    refine (h.booked.acquire queryName queryType allocated).weaken fun e => Nat.le_of_eq ?_
    exact Nat.add_right_comm ..
  | cacheRetain e =>
    refine ⟨(cache_moves (.of_eq fun x => entryRetain_payload x)).placed h.placed, ?_⟩
    cases hr : (entryRetain k.supervisor.cache e).2 with
    | true =>
      refine (h.booked.retain (e := e) hr).weaken fun x => Nat.le_of_eq ?_
      simp only [Client.held, Client.call, hr, true_and]
      exact Nat.add_right_comm ..
    | false =>
      show Booked limits W _ ({ k.supervisor with
        cache := (entryRetain k.supervisor.cache e).1 } : Supervisor).books none
      rw [entryRetain_refused hr]
      refine h.booked.weaken fun x => Nat.le_of_eq ?_
      simp [Client.held, Client.call, hr]
  | cacheRelease e =>
    unfold Client.call
    dsimp only
    split
    · rename_i hpos
      have hrest : ∀ x, ({ k with references := fun x => k.references x - if e = x then 1 else 0 } :
          Client).held x + (if e = x then 1 else 0) = k.held x := by
        intro x
        unfold Client.held
        by_cases hx : e = x
        · subst hx
          simp only [if_true]
          omega
        · simp only [if_neg hx, Nat.sub_zero, Nat.add_zero]
      have hweak := h.booked.weaken fun x => Nat.le_of_eq (hrest x)
      exact ⟨(cache_moves entryRelease_kept).placed h.placed, hweak.release⟩
    · exact h
  | cacheView e now =>
    exact ⟨(cache_moves (entryView_kept now)).placed h.placed, h.booked.view⟩

theorem clientRun_orderly (hnow : timeutilValid now = true) (calls : List Call) :
    Orderly limits W (clientRun limits now spawns calls).held false
      (clientRun limits now spawns calls).supervisor := by
  refine List.foldlRecOn (motive := fun k : Client => Orderly limits W k.held false k.supervisor)
    _ _ ?_ fun k h c _ => k.call_orderly harms c h
  exact supervisorCreate_orderly hnow

end Calls

/-- The times jobs wait for are valid. -/
theorem arms_valid {t : Timespec} (ht : timeutilValid t = true) :
    Arms limits t fun w => timeutilValid w.time = true where
  valid := ht
  deadline := fun _ _ _ h => (timeutilAddSeconds_spec h).2.1
  retry := fun _ _ _ _ _ _ h => (timeutilAddMilliseconds_spec h).2.1

/-! ## 2. Conservation -/

/-- The jobs of a state and a type that `resolver_supervisor_metrics_get` counts:
    `jobs_dispatched_current` and `jobs_complete_current`. -/
def jobsCurrent (limits : SupervisorLimits) (s : Supervisor) (state : JobState)
    (type : QueryType) : Nat :=
  (jobList limits s).countP fun j => (s.jobs j).any fun job =>
    decide (job.state = state ∧ s.entryQueryType job.entry = some type)

/-- The outcomes of a query. -/
def lookupStatuses : List LookupStatus :=
  [.ok, .badArgument, .limit, .malformed, .memory, .nodata, .notFound, .permanentError,
    .temporaryError, .truncated]

/-- The failures of a helper. -/
def helperFailures : List HelperFailure := [.exit, .io, .protocol, .spawn, .timeout]

/-- **Conservation of attempts and completions**, type by type, as long as the counter of what came
    in has not been clipped. -/
structure AttemptConservation (limits : SupervisorLimits) (s : Supervisor) : Prop where
  /-- a dispatched attempt has got an answer, has failed, was abandoned, or is under way -/
  attempts : ∀ type, s.metrics.Unsaturated (.attempt type .dispatched) →
    s.metrics.counters (.attempt type .dispatched) =
      (lookupStatuses.map fun status => s.metrics.counters (.attempt type (.response status))).sum +
      (helperFailures.map fun failure =>
        s.metrics.counters (.attempt type (.failure failure))).sum +
      s.metrics.counters (.attempt type .attemptAbandonedShutdown) +
      jobsCurrent limits s .dispatched type
  /-- a completion was taken, was abandoned, or waits -/
  completions : ∀ type, s.metrics.Unsaturated (.attempt type .completionEnqueued) →
    s.metrics.counters (.attempt type .completionEnqueued) =
      s.metrics.counters (.attempt type .completionTaken) +
      s.metrics.counters (.attempt type .completionAbandonedShutdown) +
      jobsCurrent limits s .complete type

/-- The gauge of the source counts the same jobs as the books. -/
theorem jobsCurrent_eq {refs : EntryId → Nat} (h : Orderly limits W refs false s) (state : JobState)
    (type : QueryType) : jobsCurrent limits s state type = s.books.inState state type none := by
  have hplacement := h.placed.jobPlacement
  have hshare : ∀ k, Job.share state type s.books.typeOf (s.jobs k) =
      if (s.jobs k).any (fun job => decide (job.state = state ∧
        s.entryQueryType job.entry = some type)) = true then 1 else 0 := by
    intro k
    cases s.jobs k with
    | none => rfl
    | some job => simp [Job.share, Books.typeOf, Supervisor.books, Supervisor.entryQueryType]
  unfold jobsCurrent Books.inState
  rw [Books.outside_none]
  refine Eq.trans ?_ (Finset.sum_congr rfl fun k _ => (hshare k).symm)
  refine Ledger.countP_eq_sum_range hplacement.jobCount.2.1 _ fun k hany => ?_
  rw [hplacement.jobCount.2.2]
  refine ⟨fun hlive => ?_, fun _ hnone => ?_⟩
  · obtain ⟨job, hj⟩ := Option.ne_none_iff_exists'.1 hlive
    exact h.booked.lt_next hj
  · rw [hnone] at hany
    cases hany

theorem Orderly.conservation {refs : EntryId → Nat} (h : Orderly limits W refs false s) :
    AttemptConservation limits s where
  attempts := by
    intro type hunsaturated
    refine (h.booked.conserved .attempt type hunsaturated).trans ?_
    rw [jobsCurrent_eq h]
    simp only [Flow.outcomes, Flow.state, attemptOutcomes, lookupStatuses, helperFailures,
      List.map_cons, List.map_nil, List.sum_cons, List.sum_nil, Supervisor.books]
    omega
  completions := by
    intro type hunsaturated
    refine (h.booked.conserved .completion type hunsaturated).trans ?_
    rw [jobsCurrent_eq h]
    simp only [Flow.outcomes, Flow.state, completionOutcomes, List.map_cons, List.map_nil,
      List.sum_cons, List.sum_nil, Supervisor.books, Nat.add_zero]

/-- **Attempts and completions are conserved, after every call of every run.** -/
theorem clientRun_conservation (limits : SupervisorLimits) (now : Timespec) (spawns : Nat → Spawn)
    (hnow : timeutilValid now = true) (calls : List Call) :
    AttemptConservation limits (clientRun limits now spawns calls).supervisor :=
  (clientRun_orderly (fun _ => arms_valid) hnow calls).conservation

/-- A run with one request under way. -/
def dispatchedRun : Client :=
  clientRun {} ⟨0, 0⟩ (fun _ => .started 7)
    [.cacheAcquire [97] 1 true, .schedule 1 .interactive ⟨1, 0⟩ {}]

theorem clientRun_conservation_dispatched :
    timeutilValid ⟨0, 0⟩ = true ∧ AttemptConservation {} dispatchedRun.supervisor ∧
      dispatchedRun.supervisor.metrics.counters (.attempt .a .dispatched) = 1 :=
  ⟨rfl, clientRun_conservation {} ⟨0, 0⟩ (fun _ => .started 7) rfl
    [.cacheAcquire [97] 1 true, .schedule 1 .interactive ⟨1, 0⟩ {}], by decide +kernel⟩

end MinecraftRelay
