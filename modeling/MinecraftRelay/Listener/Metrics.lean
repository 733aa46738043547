/-
  File:      Listener/Metrics.lean
  Subject:   THE LISTENER'S COUNTERS (src/listener_metrics.c: the records, not their output).

  A request for a route is started once, may be pending for a while and is settled once; each of
  these moves a counter of its mode.  A function of the source that answers `false` has changed
  nothing, so each is an `Option` here.

  * `RouteBooks` -- the counters of a mode against the requests of all connections, one of which is
    in hand: started = settled + unsettled, and the gauge counts the pending ones.
-/
import MinecraftRelay.Metrics

namespace MinecraftRelay

/-! ## 1. Names -/

/-- `listener_metrics_request_mode`; `LISTENER_METRICS_REQUEST_COUNT` is the absence of a mode. -/
inductive ListenerMetricsRequestMode where
  | short
  | worker
deriving Repr, DecidableEq

/-- `listener_metrics_outcome`. -/
inductive ListenerMetricsOutcome where
  | ready
  | contradictory
  | limit
  | memory
  | noRoute
  | serviceUnavailable
  | timeout
  | unavailable
  | abandoned
  | shutdown
  | internalError
deriving Repr, DecidableEq

/-- `listener_metrics_resolution`. -/
inductive ListenerMetricsResolution where
  | localResponse
  | bypass
  | immediate
  | waited
deriving Repr, DecidableEq

/-- `listener_metrics_selected_family`; `NONE` is the absence of a family. -/
inductive ListenerMetricsSelectedFamily where
  | ipv4
  | ipv6
deriving Repr, DecidableEq

/-- The counters and gauges of `listener_metrics_state`. -/
inductive ListenerCounter where
  | acceptCapacityRejected
  | acceptFdExhausted
  | accepted
  | connectionTrackFailure
  | connectionsCurrent
  | connectionsHighWater
  | outcome (mode : ListenerMetricsRequestMode) (outcome : ListenerMetricsOutcome)
  | pendingCurrent (mode : ListenerMetricsRequestMode)
  | pendingHighWater (mode : ListenerMetricsRequestMode)
  | releaseFailure (mode : ListenerMetricsRequestMode)
  | requestsStarted (mode : ListenerMetricsRequestMode)
  | resolution (mode : ListenerMetricsRequestMode) (resolution : ListenerMetricsResolution)
  | selectedFamily (mode : ListenerMetricsRequestMode) (family : ListenerMetricsSelectedFamily)
  | workerCapacityRefusal
  | workerForkFailure
  | workerSpawn
  | workersCurrent
  | workersHighWater
deriving Repr, DecidableEq

/-- `listener_metrics_state`; the histograms are those of the route durations. -/
abbrev ListenerMetricsState := MetricsState ListenerCounter ListenerMetricsRequestMode

/-- `listener_metrics_route_request`. -/
structure ListenerMetricsRouteRequest where
  durationEnabled : Bool := false
  mode : ListenerMetricsRequestMode := .short
  pending : Bool := false
  resolutionRecorded : Bool := false
  settled : Bool := false
  startedAt : Timespec := ⟨0, 0⟩
  started : Bool := false
deriving Repr, DecidableEq

/-! ## 2. Gauges -/

variable (metrics : ListenerMetricsState)

/-- `listener_metrics_decrement`.  The record of a gauge that would go below zero is added to the
    saturation counter itself. -/
def listenerMetricsDecrement (gauge : ListenerCounter) : ListenerMetricsState :=
  if metrics.counters gauge > 0 then metrics.gauge gauge (metrics.counters gauge - 1)
  else { metrics with saturationTotal := (metricsValueAdd metrics.saturationTotal 1).1 }

/-- `listener_metrics_connection_add`. -/
def listenerMetricsConnectionAdd : ListenerMetricsState :=
  let added := metrics.increment .connectionsCurrent
  added.highWater .connectionsHighWater (added.counters .connectionsCurrent)

/-- `listener_metrics_connection_remove`. -/
def listenerMetricsConnectionRemove : ListenerMetricsState :=
  listenerMetricsDecrement metrics .connectionsCurrent

/-- `listener_metrics_worker_add`. -/
def listenerMetricsWorkerAdd : ListenerMetricsState :=
  let added := (metrics.increment .workerSpawn).increment .workersCurrent
  added.highWater .workersHighWater (added.counters .workersCurrent)

/-- `listener_metrics_worker_remove`. -/
def listenerMetricsWorkerRemove : ListenerMetricsState :=
  listenerMetricsDecrement metrics .workersCurrent

/-! ## 3. Route requests -/

/-- What an update leaves; `none` is `false`. -/
abbrev RouteUpdate := Option (ListenerMetricsState × ListenerMetricsRouteRequest)

section Requests

variable (metrics : ListenerMetricsState) (request : ListenerMetricsRouteRequest)

/-- `listener_metrics_route_start`. -/
def listenerMetricsRouteStart (mode : ListenerMetricsRequestMode) (now : Timespec) : RouteUpdate :=
  if request.started then none
  else
    some (metrics.increment (.requestsStarted mode),
      { request with mode, started := true, startedAt := now })

/-- `listener_metrics_route_duration_enable`. -/
def listenerMetricsRouteDurationEnable : Option ListenerMetricsRouteRequest :=
  if ¬ request.started ∨ request.settled then none
  else some { request with durationEnabled := true }

/-- `listener_metrics_route_pending`. -/
def listenerMetricsRoutePending : RouteUpdate :=
  if ¬ request.started ∨ request.settled ∨ request.pending then none
  else
    let added := metrics.increment (.pendingCurrent request.mode)
    some (added.highWater (.pendingHighWater request.mode)
        (added.counters (.pendingCurrent request.mode)),
      { request with pending := true })

/-- `listener_metrics_route_release_failure_record`. -/
def listenerMetricsRouteReleaseFailureRecord : Option ListenerMetricsState :=
  if ¬ request.started then none
  else some (metrics.increment (.releaseFailure request.mode))

/-- `listener_metrics_route_resolution_record`. -/
def listenerMetricsRouteResolutionRecord (resolution : ListenerMetricsResolution) : RouteUpdate :=
  if ¬ request.started ∨ request.settled ∨ request.resolutionRecorded then none
  else
    some (metrics.increment (.resolution request.mode resolution),
      { request with resolutionRecorded := true })

/-- The gauge of `listener_metrics_route_settle`. -/
def settlePending : ListenerMetricsState :=
  if request.pending then listenerMetricsDecrement metrics (.pendingCurrent request.mode)
  else metrics

/-- The histogram of `listener_metrics_route_settle`.  A `NULL` time is as invalid as a negative
    one. -/
def settleDuration (now : Option Timespec) : ListenerMetricsState :=
  if request.durationEnabled then
    metrics.observeDuration request.mode request.startedAt (now.getD ⟨-1, 0⟩)
  else metrics

/-- The family counter of `listener_metrics_route_settle`. -/
def settleFamily (outcome : ListenerMetricsOutcome) :
    Option ListenerMetricsSelectedFamily → ListenerMetricsState
  | some family =>
    if outcome = .ready then metrics.increment (.selectedFamily request.mode family) else metrics
  | none => metrics

/-- `listener_metrics_route_settle`; `now` may be `NULL`. -/
def listenerMetricsRouteSettle (outcome : ListenerMetricsOutcome)
    (family : Option ListenerMetricsSelectedFamily) (now : Option Timespec) : RouteUpdate :=
  if ¬ request.started ∨ request.settled then none
  else
    let counted := metrics.increment (.outcome request.mode outcome)
    let released := settlePending counted request
    let timed := settleDuration released request now
    some (settleFamily timed request outcome family,
      { request with pending := false, settled := true })

end Requests

theorem metricsValueAdd_one_ne_zero (value : Nat) : (metricsValueAdd value 1).1 ≠ 0 := by
  have hmax : uint64Max = 18446744073709551615 := rfl
  unfold metricsValueAdd
  split <;> dsimp only <;> omega

theorem MetricsState.Leaves.decrement {p : ListenerCounter → Prop} {metrics : ListenerMetricsState}
    {gauge : ListenerCounter} (h : ¬ p gauge) :
    MetricsState.Leaves p metrics (listenerMetricsDecrement metrics gauge) := by
  unfold listenerMetricsDecrement
  split
  · refine ⟨fun k hk => Function.update_of_ne ?_ _ _, id⟩
    rintro rfl
    exact h hk
  · exact ⟨fun _ _ => rfl, fun hs => absurd hs (metricsValueAdd_one_ne_zero _)⟩

/-! ## 4. The books of the route requests -/

/-- All outcomes. -/
def listenerMetricsOutcomes : List ListenerMetricsOutcome :=
  [.ready, .contradictory, .limit, .memory, .noRoute, .serviceUnavailable, .timeout, .unavailable,
    .abandoned, .shutdown, .internalError]

theorem mem_listenerMetricsOutcomes (outcome : ListenerMetricsOutcome) :
    outcome ∈ listenerMetricsOutcomes := by
  cases outcome <;> decide

/-- The outcome counters of a mode. -/
def routeOutcomeCounters (mode : ListenerMetricsRequestMode) : List ListenerCounter :=
  listenerMetricsOutcomes.map (.outcome mode)

theorem routeOutcomeCounters_nodup (mode : ListenerMetricsRequestMode) :
    (routeOutcomeCounters mode).Nodup := by
  cases mode <;> decide

theorem mem_routeOutcomeCounters {counter : ListenerCounter} {mode : ListenerMetricsRequestMode} :
    counter ∈ routeOutcomeCounters mode ↔ ∃ outcome, counter = .outcome mode outcome := by
  unfold routeOutcomeCounters
  rw [List.mem_map]
  constructor
  · rintro ⟨outcome, _, rfl⟩
    exact ⟨outcome, rfl⟩
  · rintro ⟨outcome, rfl⟩
    exact ⟨outcome, mem_listenerMetricsOutcomes outcome, rfl⟩

namespace ListenerMetricsRouteRequest

/-- A request that has been started and not settled counts for its mode. -/
def unsettled (request : ListenerMetricsRouteRequest) (mode : ListenerMetricsRequestMode) : Nat :=
  if request.started = true ∧ request.settled = false ∧ request.mode = mode then 1 else 0

/-- A pending request counts for its mode. -/
def waiting (request : ListenerMetricsRouteRequest) (mode : ListenerMetricsRequestMode) : Nat :=
  if request.pending = true ∧ request.mode = mode then 1 else 0

/-- Pending requests are unsettled, settled ones were started. -/
structure Regular (request : ListenerMetricsRouteRequest) : Prop where
  pending : request.pending = true → request.started = true ∧ request.settled = false
  settled : request.settled = true → request.started = true

theorem Regular.waiting_le {request : ListenerMetricsRouteRequest} (h : request.Regular)
    (mode : ListenerMetricsRequestMode) : request.waiting mode ≤ request.unsettled mode := by
  unfold waiting unsettled
  split
  · rename_i hp
    exact Nat.le_of_eq (if_pos ⟨(h.pending hp.1).1, (h.pending hp.1).2, hp.2⟩).symm
  · exact Nat.zero_le _

end ListenerMetricsRouteRequest

/-- The route counters of a mode against its unsettled and its pending requests. -/
structure RouteAccount (metrics : ListenerMetricsState) (mode : ListenerMetricsRequestMode)
    (unsettled waiting : Nat) : Prop where
  conserved : metrics.Conserves (.requestsStarted mode) (routeOutcomeCounters mode) unsettled
  gauge : metrics.Unsaturated (.requestsStarted mode) →
    metrics.counters (.pendingCurrent mode) = waiting

namespace RouteAccount

variable {metrics metrics' : ListenerMetricsState} {mode : ListenerMetricsRequestMode}
  {unsettled waiting : Nat}

/-- The counters the account of a mode reads. -/
def Reads (mode : ListenerMetricsRequestMode) (counter : ListenerCounter) : Prop :=
  counter = .requestsStarted mode ∨ counter = .pendingCurrent mode ∨
    counter ∈ routeOutcomeCounters mode

/-- Nothing has been counted yet. -/
theorem blank (mode : ListenerMetricsRequestMode) : RouteAccount {} mode 0 0 := by
  refine ⟨fun _ => ?_, fun _ => rfl⟩
  rw [List.map_const', List.sum_replicate_nat, Nat.mul_zero]

/-- An update of other counters. -/
theorem of_leaves (h : RouteAccount metrics mode unsettled waiting)
    (hl : MetricsState.Leaves (Reads mode) metrics metrics') :
    RouteAccount metrics' mode unsettled waiting := by
  have hstarted := hl.counters _ (Or.inl rfl : Reads mode (.requestsStarted mode))
  refine ⟨?_, ?_⟩
  · refine h.conserved.of_eq ?_ hl.saturation
    intro k hk
    rcases List.mem_cons.1 hk with rfl | hk
    · exact hstarted
    · exact hl.counters k (Or.inr (Or.inr hk))
  · intro hu
    rw [hl.counters _ (Or.inr (Or.inl rfl) : Reads mode (.pendingCurrent mode))]
    refine h.gauge (hu.imp ?_ hl.saturation)
    rw [hstarted]
    exact id

theorem started_not_mem : ListenerCounter.requestsStarted mode ∉ routeOutcomeCounters mode := by
  rw [mem_routeOutcomeCounters]
  rintro ⟨outcome, h⟩
  cases h

theorem enter (h : RouteAccount metrics mode unsettled waiting) :
    RouteAccount (metrics.increment (.requestsStarted mode)) mode (unsettled + 1) waiting := by
  refine ⟨h.conserved.enter started_not_mem, ?_⟩
  intro hu
  exact h.gauge hu.of_increment

/-- An unsettled request becomes pending. -/
theorem pend (h : RouteAccount metrics mode unsettled waiting) (hroom : waiting < unsettled) :
    RouteAccount (metrics.increment (.pendingCurrent mode)) mode unsettled (waiting + 1) := by
  refine ⟨?_, ?_⟩
  · refine h.conserved.other nofun ?_
    rw [mem_routeOutcomeCounters]
    rintro ⟨outcome, he⟩
    cases he
  · intro hu
    have hbefore := hu.of_increment
    have hgauge := h.gauge hbefore
    have hstarted := h.conserved hbefore
    rw [hu.exact (by omega), hgauge]

/-- A pending request is no longer pending, though not settled yet. -/
theorem unpend (h : RouteAccount metrics mode unsettled (waiting + 1)) :
    RouteAccount (listenerMetricsDecrement metrics (.pendingCurrent mode)) mode unsettled
      waiting := by
  unfold listenerMetricsDecrement
  split
  · refine ⟨?_, ?_⟩
    · refine h.conserved.of_eq ?_ id
      intro k hk
      refine Function.update_of_ne ?_ _ _
      rintro rfl
      rcases List.mem_cons.1 hk with he | hk
      · cases he
      · obtain ⟨outcome, he⟩ := mem_routeOutcomeCounters.1 hk
        cases he
    · intro hu
      have hgauge := h.gauge (hu.imp (fun hlt => hlt) id)
      change Function.update _ _ _ _ = _
      rw [Function.update_self, hgauge]
      omega
  · -- the gauge is at zero only if the account is not exact
    have hsat := metricsValueAdd_one_ne_zero metrics.saturationTotal
    have hcases : ∀ {source : ListenerCounter},
        ({ metrics with saturationTotal := (metricsValueAdd metrics.saturationTotal 1).1 } :
          ListenerMetricsState).Unsaturated source → metrics.Unsaturated source := by
      intro source hu
      exact hu.imp id fun h0 => absurd h0 hsat
    refine ⟨fun hu => h.conserved (hcases hu), fun hu => ?_⟩
    have hgauge := h.gauge (hcases hu)
    omega

theorem leave (h : RouteAccount metrics mode (unsettled + 1) waiting)
    (outcome : ListenerMetricsOutcome) :
    RouteAccount (metrics.increment (.outcome mode outcome)) mode unsettled waiting := by
  refine ⟨h.conserved.leave started_not_mem (routeOutcomeCounters_nodup mode)
    (mem_routeOutcomeCounters.2 ⟨outcome, rfl⟩), ?_⟩
  intro hu
  exact h.gauge hu.of_increment

end RouteAccount

/-- The counters the books of the route requests read. -/
def ListenerCounter.isRoute : ListenerCounter → Bool
  | .outcome _ _ | .pendingCurrent _ | .requestsStarted _ => true
  | _ => false

theorem RouteAccount.Reads.isRoute {mode : ListenerMetricsRequestMode} {counter : ListenerCounter}
    (h : RouteAccount.Reads mode counter) : counter.isRoute = true := by
  simp only [RouteAccount.Reads, mem_routeOutcomeCounters] at h
  rcases h with rfl | rfl | ⟨outcome, rfl⟩ <;> rfl

theorem RouteAccount.Reads.outcome (mode : ListenerMetricsRequestMode)
    (outcome : ListenerMetricsOutcome) : RouteAccount.Reads mode (.outcome mode outcome) :=
  Or.inr (Or.inr (mem_routeOutcomeCounters.2 ⟨outcome, rfl⟩))

/-- The counters of one mode are none of another's. -/
theorem RouteAccount.Reads.mode_eq {mode mode' : ListenerMetricsRequestMode}
    {counter : ListenerCounter} (h : RouteAccount.Reads mode counter)
    (h' : RouteAccount.Reads mode' counter) : mode = mode' := by
  simp only [RouteAccount.Reads, mem_routeOutcomeCounters] at h h'
  rcases h with rfl | rfl | ⟨outcome, rfl⟩ <;> simpa using h'

/-- **The books of all requests**, one of which is in hand; `unsettled` and `waiting` count the
    others. -/
structure RouteBooks (metrics : ListenerMetricsState)
    (unsettled waiting : ListenerMetricsRequestMode → Nat)
    (request : ListenerMetricsRouteRequest) : Prop where
  account : ∀ mode, RouteAccount metrics mode (unsettled mode + request.unsettled mode)
    (waiting mode + request.waiting mode)
  within : ∀ mode, waiting mode ≤ unsettled mode
  regular : request.Regular

namespace RouteBooks

variable {metrics metrics' : ListenerMetricsState}
  {unsettled waiting : ListenerMetricsRequestMode → Nat}
  {request request' : ListenerMetricsRouteRequest}

section

variable (h : RouteBooks metrics unsettled waiting request)

include h

/-- Nothing the books read has changed. -/
theorem of_leaves (hl : ∀ mode, MetricsState.Leaves (RouteAccount.Reads mode) metrics metrics') :
    RouteBooks metrics' unsettled waiting request :=
  ⟨fun mode => (h.account mode).of_leaves (hl mode), h.within, h.regular⟩

theorem increment {counter : ListenerCounter} (hc : counter.isRoute = false) :
    RouteBooks (metrics.increment counter) unsettled waiting request :=
  h.of_leaves fun _ => .increment fun hr => Bool.noConfusion (hc.symm.trans hr.isRoute)

theorem highWater {counter : ListenerCounter} (hc : counter.isRoute = false) (current : Nat) :
    RouteBooks (metrics.highWater counter current) unsettled waiting request :=
  h.of_leaves fun _ => .highWater (fun hr => Bool.noConfusion (hc.symm.trans hr.isRoute)) current

/-- A request whose shares stay. -/
theorem of_shares
    (hstarted : request'.started = request.started) (hsettled : request'.settled = request.settled)
    (hpending : request'.pending = request.pending) (hmode : request'.mode = request.mode) :
    RouteBooks metrics unsettled waiting request' := by
  refine ⟨fun mode => ?_, h.within, ?_⟩
  · have hu : request'.unsettled mode = request.unsettled mode := by
      unfold ListenerMetricsRouteRequest.unsettled
      rw [hstarted, hsettled, hmode]
    have hw : request'.waiting mode = request.waiting mode := by
      unfold ListenerMetricsRouteRequest.waiting
      rw [hpending, hmode]
    rw [hu, hw]
    exact h.account mode
  · refine ⟨fun hp => ?_, fun hs => ?_⟩
    · rw [hstarted, hsettled]
      exact h.regular.pending (hpending ▸ hp)
    · rw [hstarted]
      exact h.regular.settled (hsettled ▸ hs)

/-- The accounts of the other modes do not see a counter of this one. -/
theorem other_mode {mode mode' : ListenerMetricsRequestMode} {counter : ListenerCounter}
    (hc : RouteAccount.Reads mode counter) (hne : mode' ≠ mode) :
    RouteAccount (metrics.increment counter) mode' (unsettled mode' + request.unsettled mode')
      (waiting mode' + request.waiting mode') :=
  (h.account mode').of_leaves (.increment fun hr => hne (hr.mode_eq hc))

end

end RouteBooks

/-! ## 5. The two gauges -/

/-- The gauges of the connections and of the workers. -/
def ListenerCounter.isGauge : ListenerCounter → Bool
  | .connectionsCurrent | .workersCurrent => true
  | _ => false

/-- An update that leaves both gauges alone. -/
abbrev GaugesKept (metrics metrics' : ListenerMetricsState) : Prop :=
  MetricsState.Leaves (fun k => k.isGauge = true) metrics metrics'

namespace GaugesKept

variable {metrics : ListenerMetricsState} {counter : ListenerCounter}

theorem increment (h : counter.isGauge = false) : GaugesKept metrics (metrics.increment counter) :=
  MetricsState.Leaves.increment (Bool.eq_false_iff.1 h)

theorem highWater (h : counter.isGauge = false) (current : Nat) :
    GaugesKept metrics (metrics.highWater counter current) := by
  refine MetricsState.Leaves.highWater ?_ current
  exact Bool.eq_false_iff.1 h

theorem decrement (h : counter.isGauge = false) :
    GaugesKept metrics (listenerMetricsDecrement metrics counter) :=
  MetricsState.Leaves.decrement (Bool.eq_false_iff.1 h)

end GaugesKept

/-- What an operation on a route request does to the counters. -/
structure RequestStep (metrics : ListenerMetricsState) (request : ListenerMetricsRouteRequest)
    (metrics' : ListenerMetricsState) (request' : ListenerMetricsRouteRequest) : Prop where
  books : ∀ {unsettled waiting}, RouteBooks metrics unsettled waiting request →
    RouteBooks metrics' unsettled waiting request'
  gauges : GaugesKept metrics metrics'

section Steps

variable {metrics metrics' : ListenerMetricsState} {request request' : ListenerMetricsRouteRequest}

theorem listenerMetricsRouteStart_step {mode : ListenerMetricsRequestMode} {now : Timespec}
    (hs : listenerMetricsRouteStart metrics request mode now = some (metrics', request')) :
    RequestStep metrics request metrics' request' ∧ request'.settled = request.settled := by
  unfold listenerMetricsRouteStart at hs
  split at hs
  · cases hs
  rename_i hnew
  cases hs
  refine ⟨⟨fun h => ?_, .increment rfl⟩, rfl⟩
  have hstarted : request.started = false := Bool.eq_false_iff.2 hnew
  have hsettled : request.settled = false :=
    Bool.eq_false_iff.2 fun he => hnew (h.regular.settled he)
  have hpending : request.pending = false :=
    Bool.eq_false_iff.2 fun he => hnew (h.regular.pending he).1
  refine ⟨fun mode' => ?_, h.within, ⟨fun hp => absurd hp (Bool.eq_false_iff.1 hpending),
    fun _ => rfl⟩⟩
  have haccount := h.account mode'
  simp only [ListenerMetricsRouteRequest.unsettled, ListenerMetricsRouteRequest.waiting, hstarted,
    hsettled, hpending] at haccount ⊢
  by_cases hm : mode' = mode
  · subst hm
    simpa using haccount.enter
  · simpa [Ne.symm hm] using haccount.of_leaves (.increment fun hr => hm (hr.mode_eq (Or.inl rfl)))

theorem listenerMetricsRoutePending_step
    (hs : listenerMetricsRoutePending metrics request = some (metrics', request')) :
    RequestStep metrics request metrics' request' ∧ request'.settled = request.settled := by
  unfold listenerMetricsRoutePending at hs
  split at hs
  · cases hs
  rename_i hnot
  simp only [not_or, Bool.not_eq_true, Bool.not_eq_false] at hnot
  obtain ⟨hstarted, hsettled, hpending⟩ := hnot
  cases hs
  refine ⟨⟨fun h => RouteBooks.highWater ?_ (by rfl) _,
    MetricsState.Leaves.trans (GaugesKept.increment rfl) (GaugesKept.highWater rfl _)⟩, rfl⟩
  refine ⟨fun mode => ?_, h.within, ⟨fun _ => ⟨hstarted, hsettled⟩,
    fun he => absurd he (Bool.eq_false_iff.1 hsettled)⟩⟩
  by_cases hm : mode = request.mode
  · subst hm
    have hwithin := h.within request.mode
    have haccount := h.account request.mode
    simp only [ListenerMetricsRouteRequest.unsettled, ListenerMetricsRouteRequest.waiting, hstarted,
      hsettled, hpending] at haccount ⊢
    exact haccount.pend (by simp; omega)
  · have hother := h.other_mode (Or.inr (Or.inl rfl)) hm
    simpa [ListenerMetricsRouteRequest.unsettled, ListenerMetricsRouteRequest.waiting, Ne.symm hm]
      using hother

theorem listenerMetricsRouteResolutionRecord_step {resolution : ListenerMetricsResolution}
    (hs : listenerMetricsRouteResolutionRecord metrics request resolution =
      some (metrics', request')) :
    RequestStep metrics request metrics' request' ∧ request'.settled = request.settled := by
  unfold listenerMetricsRouteResolutionRecord at hs
  split at hs
  · cases hs
  · cases hs
    exact ⟨⟨fun h => (h.increment rfl).of_shares rfl rfl rfl rfl, .increment rfl⟩, rfl⟩

theorem listenerMetricsRouteDurationEnable_step
    (hs : listenerMetricsRouteDurationEnable request = some request') :
    RequestStep metrics request metrics request' ∧ request'.settled = request.settled := by
  unfold listenerMetricsRouteDurationEnable at hs
  split at hs
  · cases hs
  · cases hs
    exact ⟨⟨fun h => h.of_shares rfl rfl rfl rfl, .refl _ _⟩, rfl⟩

theorem listenerMetricsRouteReleaseFailureRecord_step
    (hs : listenerMetricsRouteReleaseFailureRecord metrics request = some metrics') :
    RequestStep metrics request metrics' request := by
  unfold listenerMetricsRouteReleaseFailureRecord at hs
  split at hs
  · cases hs
  · cases hs
    exact ⟨fun h => h.increment rfl, .increment rfl⟩

/-- The last two updates of a settlement touch one counter at most. -/
theorem settleRest_leaves {p : ListenerCounter → Prop} (outcome : ListenerMetricsOutcome)
    (family : Option ListenerMetricsSelectedFamily) (now : Option Timespec)
    (hp : ∀ family, ¬ p (.selectedFamily request.mode family)) :
    MetricsState.Leaves p metrics
      (settleFamily (settleDuration metrics request now) request outcome family) := by
  have hduration : MetricsState.Leaves p metrics (settleDuration metrics request now) := by
    unfold settleDuration
    split
    · exact .observeDuration _ _ _
    · exact .refl _ _
  refine hduration.trans ?_
  unfold settleFamily
  split
  · split
    · exact .increment (hp _)
    · exact .refl _ _
  · exact .refl _ _

theorem listenerMetricsRouteSettle_step {outcome : ListenerMetricsOutcome}
    {family : Option ListenerMetricsSelectedFamily} {now : Option Timespec}
    (hs : listenerMetricsRouteSettle metrics request outcome family now =
      some (metrics', request')) :
    RequestStep metrics request metrics' request' ∧ request.settled = false ∧
      request'.settled = true := by
  unfold listenerMetricsRouteSettle at hs
  split at hs
  · cases hs
  rename_i hnot
  simp only [not_or, Bool.not_eq_true, Bool.not_eq_false] at hnot
  obtain ⟨hstarted, hsettled⟩ := hnot
  cases hs
  refine ⟨⟨fun h => RouteBooks.of_leaves ?_ fun mode => settleRest_leaves outcome family now
    fun _ hr => Bool.noConfusion hr.isRoute, ?_⟩, hsettled, rfl⟩
  · refine ⟨fun mode => ?_, h.within, ⟨fun hp => (nomatch hp), fun _ => hstarted⟩⟩
    unfold settlePending
    by_cases hm : mode = request.mode
    · subst hm
      have hleft := h.account request.mode
      simp only [ListenerMetricsRouteRequest.unsettled, ListenerMetricsRouteRequest.waiting,
        hstarted, hsettled, and_true, if_true] at hleft ⊢
      replace hleft := hleft.leave outcome
      split
      · rename_i hpending
        rw [if_pos hpending] at hleft
        simpa using hleft.unpend
      · rename_i hpending
        rw [if_neg hpending] at hleft
        simpa using hleft
    · have hother := h.other_mode (RouteAccount.Reads.outcome request.mode outcome) hm
      simp only [ListenerMetricsRouteRequest.unsettled, ListenerMetricsRouteRequest.waiting,
        Ne.symm hm, and_false, if_false] at hother ⊢
      split
      · exact hother.of_leaves (.decrement fun hr => hm (hr.mode_eq (Or.inr (Or.inl rfl))))
      · exact hother
  · have hpending : GaugesKept (metrics.increment (.outcome request.mode outcome))
        (settlePending (metrics.increment (.outcome request.mode outcome)) request) := by
      unfold settlePending
      split
      · exact .decrement rfl
      · exact .refl _ _
    exact (MetricsState.Leaves.trans (GaugesKept.increment rfl) hpending).trans
      (settleRest_leaves outcome family now fun _ => nofun)

end Steps

/-- What the two gauges show. -/
structure GaugesAt (metrics : ListenerMetricsState) (connections workers : Nat) : Prop where
  connections : metrics.counters .connectionsCurrent = connections
  workers : metrics.counters .workersCurrent = workers

namespace GaugesAt

variable {metrics metrics' : ListenerMetricsState} {connections workers : Nat}

theorem kept (h : GaugesAt metrics connections workers) (hk : GaugesKept metrics metrics') :
    GaugesAt metrics' connections workers :=
  ⟨(hk.counters _ rfl).trans h.connections, (hk.counters _ rfl).trans h.workers⟩

theorem connectionAdd (h : GaugesAt metrics connections workers) (hroom : connections < uint64Max) :
    GaugesAt (listenerMetricsConnectionAdd metrics) (connections + 1) workers := by
  obtain ⟨hc, hw⟩ := h
  refine ⟨?_, ?_⟩
  · unfold listenerMetricsConnectionAdd
    rw [MetricsState.highWater_counters_of_ne _ (by exact nofun)]
    rcases MetricsState.increment_cases metrics .connectionsCurrent with ⟨_, he, _⟩ | ⟨hle, _⟩
    · rw [he, hc]
    · omega
  · exact hw

theorem workerAdd (h : GaugesAt metrics connections workers) (hroom : workers < uint64Max) :
    GaugesAt (listenerMetricsWorkerAdd metrics) connections (workers + 1) := by
  have hspawn : GaugesKept metrics (metrics.increment .workerSpawn) := .increment rfl
  obtain ⟨hc, hw⟩ := h.kept hspawn
  unfold listenerMetricsWorkerAdd
  generalize metrics.increment .workerSpawn = spawned at hc hw ⊢
  refine ⟨?_, ?_⟩
  · exact hc
  · rw [MetricsState.highWater_counters_of_ne _ (by exact nofun)]
    rcases MetricsState.increment_cases spawned .workersCurrent with ⟨_, he, _⟩ | ⟨hle, _⟩
    · rw [he, hw]
    · omega

theorem connectionRemove (h : GaugesAt metrics (connections + 1) workers) :
    GaugesAt (listenerMetricsConnectionRemove metrics) connections workers := by
  obtain ⟨hc, hw⟩ := h
  unfold listenerMetricsConnectionRemove listenerMetricsDecrement
  rw [if_pos (by omega)]
  refine ⟨?_, ?_⟩
  · rw [MetricsState.gauge_counters_self]
    omega
  · exact hw

theorem workerRemove (h : GaugesAt metrics connections (workers + 1)) :
    GaugesAt (listenerMetricsWorkerRemove metrics) connections workers := by
  obtain ⟨hc, hw⟩ := h
  unfold listenerMetricsWorkerRemove listenerMetricsDecrement
  rw [if_pos (by omega)]
  refine ⟨?_, ?_⟩
  · exact hc
  · rw [MetricsState.gauge_counters_self]
    omega

end GaugesAt

namespace RouteBooks

variable {metrics : ListenerMetricsState} {unsettled waiting : ListenerMetricsRequestMode → Nat}
  {request : ListenerMetricsRouteRequest}

theorem decrement (h : RouteBooks metrics unsettled waiting request) {gauge : ListenerCounter}
    (hg : gauge.isRoute = false) :
    RouteBooks (listenerMetricsDecrement metrics gauge) unsettled waiting request :=
  h.of_leaves fun _ => .decrement fun hr => Bool.noConfusion (hg.symm.trans hr.isRoute)

theorem connectionAdd (h : RouteBooks metrics unsettled waiting request) :
    RouteBooks (listenerMetricsConnectionAdd metrics) unsettled waiting request :=
  (h.increment rfl).highWater rfl _

theorem workerAdd (h : RouteBooks metrics unsettled waiting request) :
    RouteBooks (listenerMetricsWorkerAdd metrics) unsettled waiting request :=
  ((h.increment rfl).increment rfl).highWater rfl _

end RouteBooks

end MinecraftRelay
