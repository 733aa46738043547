/-
  File:      Resolver/Supervisor/Bookkeeping.lean
  Subject:   THE PUBLIC CALLS OF SUPERVISOR.C KEEP PLACES AND BOOKS.

  * `Orderly` -- places and books are right, between two calls, and the public calls keep both;
  * `completionTake_deliverable` -- what a completion that is taken looks like.
-/
import MinecraftRelay.Resolver.Supervisor.Runs

namespace MinecraftRelay

variable {limits : SupervisorLimits} {W : Wait → Prop} {refs : EntryId → Nat} {s : Supervisor}
  {hand : Option JobId} {j : JobId} {job : Job} {now : Timespec} {p : Priority} {e : EntryId}
  {env : CallEnv} {q : Bool}

/-- Jobs in their places, and right books, between two steps of a call. -/
structure Orderly (limits : SupervisorLimits) (W : Wait → Prop) (refs : EntryId → Nat)
    (stopping : Bool) (s : Supervisor) : Prop where
  placed : AtRest limits stopping s
  booked : Booked limits W refs s.books none

theorem Course.orderly {s' : Supervisor} {ls : List Label}
    (hcourse : Course limits now q s.rest ls s'.rest) (harms : Arms limits now W)
    (h : Orderly limits W refs q s) : Orderly limits W refs q s' :=
  ⟨hcourse.placed h.placed, hcourse.booked harms h.booked⟩

/-! ## 1. Events, schedules and releases -/

/-- A call begins: its time is recorded. -/
theorem timeUpdate_orderly {s' : Supervisor} (h : Orderly limits W refs q s)
    (htime : timeUpdate (s.record (.called now)) now = some s') : Orderly limits W refs q s' := by
  refine ⟨(timeUpdate_course htime).placed h.placed, ?_⟩
  rw [(timeUpdate_eq htime).1]
  exact h.booked

theorem called_orderly (h : Orderly limits W refs q s) :
    Orderly limits W refs q (s.record (.called now)) :=
  ⟨called_course.placed h.placed, h.booked⟩

theorem timeUpdate_valid {s' : Supervisor} (h : timeUpdate s now = some s') :
    timeutilValid now = true := by
  unfold timeUpdate at h
  split at h
  · cases h
  · rename_i hvalid
    by_contra hne
    exact hvalid (Or.inl hne)

/-- A time that is none is rejected. -/
theorem timeUpdate_invalid (hv : ¬ timeutilValid now = true) : timeUpdate s now = none := by
  unfold timeUpdate
  rw [if_pos (Or.inl hv)]

section

variable (harms : timeutilValid now = true → Arms limits now W) (h : Orderly limits W refs q s)

include harms h

theorem eventsProcess_orderly {env : EventsEnv} :
    Orderly limits W refs q (eventsProcess limits s now env).1 := by
  by_cases hv : timeutilValid now = true
  · obtain ⟨_, hcourse⟩ := eventsProcess_course now env h.placed
    exact hcourse.orderly (harms hv) h
  · unfold eventsProcess
    rw [timeUpdate_invalid hv]
    exact called_orderly h

theorem supervisorShutdown_orderly {timerSet : Bool} (hq : q = false) :
    Orderly limits W refs q (supervisorShutdown limits s now timerSet).1 := by
  subst hq
  by_cases hv : timeutilValid now = true
  · obtain ⟨_, hcourse⟩ := supervisorShutdown_course now timerSet h.placed
    exact hcourse.orderly (harms hv) h
  · unfold supervisorShutdown
    rw [timeUpdate_invalid hv]
    exact called_orderly h

theorem entryReleaseInterest_orderly :
    Orderly limits W refs q (entryReleaseInterest limits s e p now env).1 := by
  by_cases hv : timeutilValid now = true
  · obtain ⟨_, hcourse⟩ := (entryReleaseInterest_dispatched e p now env h.placed).course h.placed
    exact hcourse.orderly (harms hv) h
  · unfold entryReleaseInterest
    rw [timeUpdate_invalid hv]
    split
    · exact h
    · exact called_orderly h

theorem entrySchedule_orderly :
    Orderly limits W refs q (entrySchedule limits s e p now env).1 := by
  suffices hpriority : Orderly limits W refs q (entrySchedulePriority limits s e p now env).1 from
    ⟨hpriority.placed, increment_booked id hpriority.booked⟩
  by_cases hv : timeutilValid now = true
  · obtain ⟨_, hcourse⟩ := (entrySchedulePriority_dispatched e p now env h.placed).1.course h.placed
    exact hcourse.orderly (harms hv) h
  · unfold entrySchedulePriority
    rw [timeUpdate_invalid hv]
    split
    · exact h
    · exact called_orderly h

end

/-! ## 2. Completions -/

/-- There is nothing to take, or the first of the complete jobs leaves with what it answered. -/
theorem completionTake_cases (h : Orderly limits W refs q s) :
    completionTake limits s = (s, none) ∨
      ∃ j job rest response type, s.completions = j :: rest ∧ s.jobs j = some job ∧
        job.state = .complete ∧ s.books.typeOf job.entry = some type ∧
        Deliverable (some type) job.publication response ∧
        completionTake limits s =
          (jobFree limits { s.increment (.attempt type .completionTaken) with completions := rest }
              j job,
            some { entry := job.entry, publication := job.publication, response }) := by
  unfold completionTake
  cases hcompletions : s.completions with
  | nil => exact Or.inl rfl
  | cons j rest =>
    obtain ⟨job, hj, hs, _⟩ := h.placed.completed (j := j)
      (by rw [hcompletions]; exact List.mem_cons_self)
    obtain ⟨type, ht⟩ := h.booked.typed hj
    obtain ⟨response, hresponse, hd⟩ := (h.booked.fit j job hj).answered hs
    rw [ht] at hd
    refine Or.inr ⟨j, job, rest, response, type, rfl, hj, hs, ht, hd, ?_⟩
    dsimp only
    rw [hj]
    dsimp only
    rw [incrementAttempt_eq ht, hresponse]
    rfl

/-- The taker of a completion owns the job's reference to its entry. -/
theorem completionTake_orderly (h : Orderly limits W refs q s) :
    Orderly limits W
      (fun x => refs x + if (completionTake limits s).2.map (·.entry) = some x then 1 else 0) q
      (completionTake limits s).1 := by
  refine ⟨(completionTake_steps h.placed).placed h.placed, ?_⟩
  rcases completionTake_cases h with heq | ⟨j, job, rest, response, type, _, hj, hs, ht, _, heq⟩
  · rw [heq]
    exact h.booked.weaken fun e => Nat.le_of_eq rfl
  · rw [heq]
    have hdelivered :=
      (h.booked.settle (k := .completionTaken) .completion hj hs ht (by decide)).free hj
    exact hdelivered.weaken fun e => Nat.le_of_eq (by simp)

/-- **What is taken is fit for the owners of its entry.** -/
theorem completionTake_deliverable {completion : Completion} (h : Orderly limits W refs q s)
    (htake : (completionTake limits s).2 = some completion) :
    Deliverable (s.books.typeOf completion.entry) completion.publication completion.response := by
  rcases completionTake_cases h with heq | ⟨j, job, rest, response, type, _, _, _, ht, hd, heq⟩
  · rw [heq] at htake
    cases htake
  · rw [heq] at htake
    obtain rfl := Option.some.inj htake
    rw [ht]
    exact hd

theorem completionDestroy_orderly {completion : Completion}
    (h : Orderly limits W (fun x => refs x + if completion.entry = x then 1 else 0) q s) :
    Orderly limits W refs q (completionDestroy limits s completion) :=
  ⟨(cache_moves entryRelease_kept).placed h.placed, h.booked.release⟩

/-! ## 3. Creation -/

/-- Nothing has come in, and nothing is inside. -/
theorem conserves_start (b : Books) (hb : b.nextJob = 0) (source : SupervisorMetric)
    (sinks : List SupervisorMetric) (state : JobState) (type : QueryType) (hand : Option JobId) :
    MetricsState.Conserves ({} : MetricsState SupervisorMetric SupervisorHistogram) source sinks
      (b.inState state type hand) := by
  intro _
  unfold Books.inState
  rw [hb, Finset.range_zero, Finset.sum_empty, Nat.add_zero]
  exact (List.sum_eq_zero fun n hn => by
    obtain ⟨k, _, rfl⟩ := List.mem_map.1 hn
    rfl).symm

/-- A supervisor without jobs has nothing to account for. -/
theorem supervisorEmpty_booked (limits : SupervisorLimits) (W : Wait → Prop) (now : Timespec) :
    Booked limits W (fun _ => 0) (supervisorEmpty (cacheCreate limits.toCacheLimits) now).books
      none where
  cache := cacheCreate_sound _
  fresh := fun _ _ => rfl
  owned := fun _ => Nat.zero_le _
  conserved := fun _ type => conserves_start _ rfl _ _ _ type none
  fit := fun _ _ hj => by cases hj
  events := fun _ => rfl

theorem supervisorCreate_orderly {spawns : Nat → Spawn} (hv : timeutilValid now = true) :
    Orderly limits W (fun _ => 0) false
      (supervisorCreate limits (cacheCreate limits.toCacheLimits) now spawns) := by
  have hcreate : Course limits now false _ _ _ := supervisorCreate_course now
    (cacheCreate limits.toCacheLimits) spawns
  refine ⟨hcreate.placed (placed_supervisorEmpty _ now), ?_⟩
  -- no job waits for anything yet, so any time is allowed
  have hbooked := hcreate.booked (W := fun _ => True) ⟨hv, fun _ _ _ _ => trivial,
    fun _ _ _ _ _ _ _ => trivial⟩ (supervisorEmpty_booked limits _ now)
  refine { hbooked with fit := fun j job hj => ?_ }
  rw [show (supervisorCreate limits (cacheCreate limits.toCacheLimits) now spawns).books.jobs
    j = none from supervisorCreate_jobs ..] at hj
  cases hj

end MinecraftRelay
