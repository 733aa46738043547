/-
  File:      Listener/Accounts.lean
  Subject:   WHAT ONE CONNECTION OWES (src/listener.c).

  The context keeps totals: how often each generation is referenced, how many requests of each mode
  are unsettled or pending, how many connections and workers there are.  A step of one connection
  changes its own share and the total by the same amount.  `Around` fixes what the others have, and
  `Balanced` says that every total is the others' and the connection's together.

  * `Stands` -- the balance of a connection whose closing mark and tidiness are known; every
    function but the start of a route and the `fork` keeps it;
  * `listenerConnectionEvent_done`, `listenerConnectionResume_done` -- what the loop calls ends
    balanced, with every started request settled or pending; `listenerConnectionDestroy_gone`.
-/
import MinecraftRelay.Library.Stateful
import MinecraftRelay.Listener.Connection

namespace MinecraftRelay

open Stateful

/-! ## 1. Shares -/

/-- The references of `p` among a connection's own and its waiter's. -/
def references (generation : Option Nat) (waiter : Option WaiterHandle) (p : Nat) : Nat :=
  (if generation = some p then 1 else 0) +
    (if waiter.map WaiterHandle.generation = some p then 1 else 0)

theorem references_generation (p : Nat) (waiter : Option WaiterHandle) (q : Nat) :
    references (some p) waiter q = references none waiter q + if q = p then 1 else 0 := by
  unfold references
  rw [if_neg (by exact nofun : ¬ none = some q), Nat.zero_add, Nat.add_comm,
    if_congr (Option.some_inj.trans eq_comm : some p = some q ↔ _) rfl rfl]

theorem references_waiter (generation : Option Nat) (waiter : WaiterHandle) (q : Nat) :
    references generation (some waiter) q =
      references generation none q + if q = waiter.generation then 1 else 0 := by
  unfold references
  rw [Option.map_some, Option.map_none, if_neg (by exact nofun : ¬ none = some q), Nat.add_zero,
    if_congr (Option.some_inj.trans eq_comm : some waiter.generation = some q ↔ _) rfl rfl]

/-- A request that was started is settled or pending: so it is between two events. -/
def ListenerMetricsRouteRequest.Tidy (request : ListenerMetricsRouteRequest) : Prop :=
  request.started = true → request.settled = true ∨ request.pending = true

namespace ListenerConnection

/-- The references of a generation a connection holds. -/
def held (connection : ListenerConnection) : Nat → Nat :=
  references connection.generation connection.waiter

/-- A connection that is not closing takes a place. -/
def opened (connection : ListenerConnection) : Nat := if connection.closing then 0 else 1

/-- How often the request of a connection has been settled. -/
def settled (connection : ListenerConnection) : Nat :=
  if connection.routeMetrics.settled then 1 else 0

/-- Two connections with the same shares. -/
structure Alike (c d : ListenerConnection) : Prop where
  id : d.id = c.id
  generation : d.generation = c.generation
  waiter : d.waiter = c.waiter
  routeMetrics : d.routeMetrics = c.routeMetrics
  closing : d.closing = c.closing

end ListenerConnection

/-- What the step of one connection does not change: who it is, the registry's pointers, the table
    of workers, what the others have, and the generations it may hold. -/
structure Around (γ : Type) where
  id : Nat
  active : Option Nat
  contents : Option γ
  retired : Option Nat
  clock : Timespec
  workers : List Nat
  held : Nat → Nat
  mine : Nat → Prop
  unsettled : ListenerMetricsRequestMode → Nat
  waiting : ListenerMetricsRequestMode → Nat
  opened : Nat
  total : Nat
  settled : Nat → Nat
  supervised : Supervision → Prop

/-- What is said of the record stays true when the supervisor is called at `now`, and is true of
    every record that is late. -/
structure Allows (C : Supervision → Prop) (now : Timespec) : Prop where
  call : ∀ {r}, C r → C (r.call now)
  late : ∀ {r : Supervision}, r.late = true → C r

namespace Loop

variable {γ : Type}

/-- The workers' table: the processes that were forked and not yet reaped, within its limit. -/
structure WorkerTable (workers children : List Nat) : Prop where
  distinct : workers.Nodup
  unreaped : ∀ p, p ∈ workers ↔ p ∈ children
  few : workers.length ≤ listenerWorkerLimit

/-- **Every total is the others' and the connection's together.** -/
structure Balanced (limit : Nat) (o : Around γ) (x : Focus γ) : Prop where
  id : x.connection.id = o.id
  active : x.context.generations.active = o.active
  contents : x.context.generations.contents x.context.generations.active = o.contents
  retired : x.context.generations.retired = o.retired
  clock : o.clock ≤ x.context.clock ∧ timeutilValid x.context.clock = true
  table : x.context.workers = o.workers
  accounted : x.context.generations.Accounted fun p => o.held p + x.connection.held p
  mine : ∀ p, 0 < x.connection.held p → o.mine p
  books : RouteBooks x.context.metrics o.unsettled o.waiting x.connection.routeMetrics
  gauges : GaugesAt x.context.metrics (o.total + 1) o.workers.length
  workers : WorkerTable o.workers x.context.children
  room : o.opened + x.connection.opened + o.workers.length ≤ limit
  once : ∀ id, x.context.settlements.count id =
    if id = o.id then x.connection.settled else o.settled id
  supervised : o.supervised x.context.supervision

/-! ## 2. Single steps -/

namespace Balanced

variable {limit : Nat} {o : Around γ} {x : Focus γ}

section

variable (h : Balanced limit o x)

include h

/-- Fields outside the shares, of the connection and of the context. -/
theorem alike {d : ListenerConnection} (hd : x.connection.Alike d)
    {clock : Timespec} (hclock : x.context.clock ≤ clock ∧ timeutilValid clock = true) :
    Balanced limit o { context := { x.context with clock }, connection := d } := by
  have hheld : d.held = x.connection.held := by
    unfold ListenerConnection.held
    rw [hd.generation, hd.waiter]
  have hopened : d.opened = x.connection.opened := by
    unfold ListenerConnection.opened
    rw [hd.closing]
  have hsettled : d.settled = x.connection.settled := by
    unfold ListenerConnection.settled
    rw [hd.routeMetrics]
  exact { h with
    id := hd.id.trans h.id
    clock := ⟨h.clock.1.trans hclock.1, hclock.2⟩
    accounted := by
      rw [hheld]
      exact h.accounted
    mine := by
      rw [hheld]
      exact h.mine
    books := by
      rw [hd.routeMetrics]
      exact h.books
    room := by
      rw [hopened]
      exact h.room
    once := by
      rw [hsettled]
      exact h.once }

/-- An operation on the route request that settles nothing. -/
theorem request {metrics : ListenerMetricsState} {request : ListenerMetricsRouteRequest}
    (hs : RequestStep x.context.metrics x.connection.routeMetrics metrics request)
    (hsettled : request.settled = x.connection.routeMetrics.settled) :
    Balanced limit o
      { context := { x.context with metrics }
        connection := { x.connection with routeMetrics := request } } :=
  { h with
    books := hs.books h.books
    gauges := h.gauges.kept hs.gauges
    once := by
      have he : ListenerConnection.settled { x.connection with routeMetrics := request } =
          x.connection.settled := by
        unfold ListenerConnection.settled
        rw [hsettled]
      intro id
      rw [he]
      exact h.once id }

/-- A settlement, which is recorded. -/
theorem settle {metrics : ListenerMetricsState} {request : ListenerMetricsRouteRequest}
    (hs : RequestStep x.context.metrics x.connection.routeMetrics metrics request)
    (hbefore : x.connection.routeMetrics.settled = false) (hafter : request.settled = true) :
    Balanced limit o
      { context := { x.context with
          metrics, settlements := x.connection.id :: x.context.settlements }
        connection := { x.connection with routeMetrics := request } } :=
  { h with
    books := hs.books h.books
    gauges := h.gauges.kept hs.gauges
    once := by
      intro id
      have hcount := h.once id
      have hzero : x.connection.settled = 0 := if_neg (Bool.eq_false_iff.1 hbefore)
      have hone : ListenerConnection.settled { x.connection with routeMetrics := request } = 1 :=
        if_pos hafter
      rw [hone]
      by_cases hid : id = o.id
      · rw [if_pos hid, hzero] at hcount
        rw [if_pos hid, h.id, hid, List.count_cons_self, ← hid, hcount]
      · rw [if_neg hid] at hcount
        rw [if_neg hid, List.count_cons_of_ne (by rw [h.id]; exact Ne.symm hid), hcount] }

/-- A counter outside the books and the gauges. -/
theorem count {counter : ListenerCounter}
    (hroute : counter.isRoute = false) (hgauge : counter.isGauge = false) :
    Balanced limit o
      { x with context := { x.context with metrics := x.context.metrics.increment counter } } :=
  { h with
    books := h.books.increment hroute
    gauges := h.gauges.kept (.increment hgauge) }

/-- A place that is given up. -/
theorem closing :
    Balanced limit o { x with connection := { x.connection with closing := true } } :=
  { h with
    room := by
      have hroom := h.room
      change o.opened + 0 + _ ≤ _
      omega }

/-- The registry and the connection's references change together. -/
theorem reference {generations : Generations γ}
    (generation : Option Nat) (waiter : Option WaiterHandle)
    (hactive : generations.active = x.context.generations.active)
    (hretired : generations.retired = x.context.generations.retired)
    (hpersists : x.context.generations.Persists generations)
    (haccount : generations.Accounted fun p => o.held p + references generation waiter p)
    (hmine : ∀ p, 0 < references generation waiter p → 0 < x.connection.held p) :
    Balanced limit o
      { context := { x.context with generations }
        connection := { x.connection with generation, waiter } } :=
  { h with
    active := hactive.trans h.active
    contents := (hpersists.active_contents h.accounted haccount hactive).trans h.contents
    retired := hretired.trans h.retired
    accounted := haccount
    mine := fun p hp => h.mine p (hmine p hp) }

theorem giveBack (generation : Option Nat) (waiter : Option WaiterHandle) {p : Nat}
    (hshare : ∀ q, x.connection.held q = references generation waiter q + if q = p then 1 else 0) :
    Balanced limit o
      { context := { x.context with
          generations := (routeGenerationRelease x.context.generations (some p)).2 }
        connection := { x.connection with generation, waiter } } := by
  have hp := routeGenerationRelease_pointers x.context.generations (some p)
  refine h.reference _ _ hp.1 hp.2.1 (.release _ _) (h.accounted.release fun q => ?_) fun q hq => ?_
  · rw [hshare q, Nat.add_assoc]
  · rw [hshare q]
    exact Nat.lt_of_lt_of_le hq (Nat.le_add_right _ _)

theorem waiterReleased : Balanced limit o (waiterReleased x) := by
  unfold Loop.waiterReleased
  cases hw : x.connection.waiter with
  | none => exact h
  | some waiter =>
    refine h.giveBack x.connection.generation none fun q => ?_
    rw [ListenerConnection.held, hw]
    exact references_waiter _ waiter q

theorem generationReleased : Balanced limit o (generationReleased x) := by
  unfold Loop.generationReleased
  cases hg : x.connection.generation with
  | none =>
    have hheld : x.connection.held = references none x.connection.waiter := by
      rw [ListenerConnection.held, hg]
    refine h.reference none x.connection.waiter rfl rfl (.refl _) ?_ ?_
    · have haccount := h.accounted
      rw [hheld] at haccount
      exact haccount
    · rw [hheld]
      exact fun _ hp => hp
  | some p =>
    refine h.giveBack none x.connection.waiter fun q => ?_
    rw [ListenerConnection.held, hg]
    exact references_generation p _ q

/-- A new waiter takes another reference of the connection's generation. -/
theorem waiterAttached {p : Nat} {deadline : Timespec}
    {generations : Generations γ} (hg : x.connection.generation = some p)
    (hw : x.connection.waiter = none)
    (hr : routeGenerationRetain x.context.generations (some p) = (true, generations)) :
    Balanced limit o
      { context := { x.context with generations }
        connection := { x.connection with waiter := some ⟨p, deadline⟩ } } := by
  have hp := routeGenerationRetain_pointers x.context.generations (some p)
  have hpersists := Generations.Persists.retain x.context.generations (some p)
  rw [hr] at hp hpersists
  have hheld : x.connection.held = references (some p) none := by
    rw [ListenerConnection.held, hg, hw]
  have hshare := references_waiter (some p) ⟨p, deadline⟩
  have htotal : ∀ q, o.held q + references (some p) (some ⟨p, deadline⟩) q =
      o.held q + x.connection.held q + if q = p then 1 else 0 := by
    intro q
    rw [hshare q, hheld, Nat.add_assoc]
  have haccount := h.accounted.retain htotal (by rw [hr])
  rw [hr] at haccount
  have hbalanced := h.reference (some p) (some ⟨p, deadline⟩) hp.1 hp.2.1 hpersists haccount
    fun q hq => ?_
  · rw [← hg] at hbalanced
    exact hbalanced
  · rw [hheld, references_generation]
    rw [hshare, references_generation] at hq
    dsimp only at hq
    omega

/-- The forked worker takes the connection's place. -/
theorem forked (hopen : x.connection.closing = false)
    (hspare : o.workers.length < listenerWorkerLimit) (fork : ForkAnswer) :
    ∃ workers, Balanced limit { o with workers } (workerForked fork x) := by
  unfold workerForked
  cases hp : fork.pid x.context.children with
  | none => exact ⟨o.workers, (h.count rfl rfl).closing⟩
  | some pid =>
    have hfresh : pid ∉ o.workers := fun hmem =>
      fork.fresh _ pid hp ((h.workers.unreaped pid).1 hmem)
    have hlength : (o.workers ++ [pid]).length = o.workers.length + 1 := List.length_append
    have hlimit : listenerWorkerLimit < uint64Max := by decide
    refine ⟨o.workers ++ [pid], ?_⟩
    exact { h with
      table := by
        rw [h.table]
      books := h.books.workerAdd
      gauges := by
        rw [hlength]
        exact h.gauges.workerAdd (by omega)
      workers :=
        { distinct := List.nodup_append.2 ⟨h.workers.distinct, List.nodup_singleton pid, by
            intro a ha b hb hab
            rw [List.mem_singleton.1 hb] at hab
            exact hfresh (hab ▸ ha)⟩
          unreaped := by
            intro q
            rw [List.mem_append, List.mem_singleton, List.mem_cons, h.workers.unreaped q, or_comm]
          few := by
            change (o.workers ++ [pid]).length ≤ _
            omega }
      room := by
        have hroom := h.room
        have hone : x.connection.opened = 1 := if_neg (Bool.eq_false_iff.1 hopen)
        change o.opened + 0 + (o.workers ++ [pid]).length ≤ _
        omega }

end

end Balanced

/-! ## 3. Programs that keep the balance -/

/-- The balance of a connection whose closing mark is `closing`; with `tidy` its request is so. -/
structure Stands (limit : Nat) (o : Around γ) (closing tidy : Bool) (x : Focus γ) : Prop where
  balanced : Balanced limit o x
  mark : x.connection.closing = closing
  tidy : tidy = true → x.connection.routeMetrics.Tidy

section Programs

variable {limit : Nat} {o : Around γ} {c t : Bool}

theorem Stands.loose {x : Focus γ} (h : Stands limit o c true x) : Stands limit o c t x :=
  ⟨h.balanced, h.mark, fun _ => h.tidy rfl⟩

theorem Stands.free {x : Focus γ} (h : Stands limit o c t x) : Stands limit o c false x :=
  ⟨h.balanced, h.mark, nofun⟩

/-- A program that ends tidy keeps the balance with either mark. -/
theorem keeps_of_tidies {α : Type} {m : StateM (Focus γ) α}
    (h : Leads (Stands limit o c false) m fun _ => Stands limit o c true) :
    Keeps (Stands limit o c t) m :=
  (h.weaken fun _ hx => hx.free).mono fun _ _ hx => hx.loose

/-- A change of fields outside the shares, and what follows it. -/
theorem modified_leads {α : Type} {f : ListenerConnection → ListenerConnection}
    {m : PUnit → StateM (Focus γ) α} {Q : α → Focus γ → Prop}
    (hm : Leads (Stands limit o c t) (m ⟨⟩) Q)
    (hf : ∀ d : ListenerConnection, d.Alike (f d) := by exact fun d => ⟨rfl, rfl, rfl, rfl, rfl⟩) :
    Leads (Stands limit o c t) (modifyConnection f >>= m) Q := by
  intro x hx
  refine hm _ ⟨hx.balanced.alike (hf _) ⟨le_rfl, hx.balanced.clock.2⟩,
    (hf _).closing.trans hx.mark, fun ht => ?_⟩
  rw [(hf _).routeMetrics]
  exact hx.tidy ht

theorem superviseAt_keeps {now : Timespec} (h : Allows o.supervised now) :
    Keeps (Stands limit o c t) (superviseAt now) :=
  leads_modify fun _ hx =>
    ⟨{ hx.balanced with supervised := h.call hx.balanced.supervised }, hx.mark, hx.tidy⟩

theorem clockGettime_keeps (clock : Option Nat) :
    Keeps (Stands limit o c t) (clockGettime clock) := by
  cases clock with
  | none => exact keeps_pure none
  | some advance =>
    refine Leads.bind (leads_modify fun x hx => ?_) fun _ => keeps_get fun _ => keeps_pure _
    exact ⟨hx.balanced.alike ⟨rfl, rfl, rfl, rfl, rfl⟩
      (Timespec.later_spec hx.balanced.clock.2 advance), hx.mark, hx.tidy⟩

variable (now : Timespec) (a : ConnectionAnswers)

theorem listenerConnectionTimerSet_keeps (timer : ListenerConnectionTimer) (expiration : Timespec)
    (timerSet : Bool) :
    Keeps (Stands limit o c t) (listenerConnectionTimerSet timer expiration timerSet) := by
  unfold listenerConnectionTimerSet
  split
  · exact modified_leads (keeps_pure true)
  · exact keeps_pure false

theorem timerArmGrace_keeps (clock : Option Nat) (timerSet : Bool) :
    Keeps (Stands limit o c t) (timerArmGrace clock timerSet) := by
  refine (clockGettime_keeps clock).bind fun now => ?_
  split
  · exact keeps_pure false
  split
  · exact keeps_pure false
  refine keeps_get fun x => ?_
  split
  · exact listenerConnectionTimerSet_keeps _ _ _
  · exact listenerConnectionTimerSet_keeps _ _ _

theorem timerArmAssembly_keeps (timerSet : Bool) :
    Keeps (Stands limit o c t) (timerArmAssembly timerSet) :=
  keeps_get fun _ => listenerConnectionTimerSet_keeps _ _ _

theorem listenerConnectionTimerArmShort_keeps (timer : ListenerConnectionTimer) (now : Timespec)
    (seconds : Nat) (timerSet : Bool) :
    Keeps (Stands limit o c t)
      (listenerConnectionTimerArmShort timer now seconds timerSet) := by
  unfold listenerConnectionTimerArmShort
  split
  · exact listenerConnectionTimerSet_keeps _ _ _
  · exact keeps_pure false

/-! ### Requests -/

theorem requestUpdate_keeps
    {update : ListenerMetricsState → ListenerMetricsRouteRequest → RouteUpdate}
    (h : ∀ {metrics request metrics' request'}, update metrics request = some (metrics', request') →
      (RequestStep metrics request metrics' request' ∧ request'.settled = request.settled) ∧
        (t = true → request.Tidy → request'.Tidy)) :
    Keeps (Stands limit o c t) (requestUpdate update) := by
  refine leads_modify fun x hx => ?_
  split
  · rename_i metrics request hu
    obtain ⟨⟨hstep, hsettled⟩, htidy⟩ := h hu
    exact ⟨hx.balanced.request hstep hsettled, hx.mark, fun ht => htidy ht (hx.tidy ht)⟩
  · exact hx

/-- A start, which leaves the request untidy. -/
theorem routeStart_keeps (mode : ListenerMetricsRequestMode) (now : Timespec) :
    Keeps (Stands limit o c false) (routeStart mode now) :=
  requestUpdate_keeps fun h => ⟨listenerMetricsRouteStart_step h, nofun⟩

theorem routeResolutionRecord_keeps (resolution : ListenerMetricsResolution) :
    Keeps (Stands limit o c t) (routeResolutionRecord resolution) := by
  refine requestUpdate_keeps fun h => ⟨listenerMetricsRouteResolutionRecord_step h, fun _ ht => ?_⟩
  unfold listenerMetricsRouteResolutionRecord at h
  split at h
  · cases h
  · cases h
    exact ht

theorem routeDurationEnable_keeps :
    Keeps (Stands limit o c t) (routeDurationEnable) := by
  refine requestUpdate_keeps fun h => ?_
  rw [Option.map_eq_some_iff] at h
  obtain ⟨request', hr, he⟩ := h
  cases he
  refine ⟨listenerMetricsRouteDurationEnable_step hr, fun _ ht => ?_⟩
  unfold listenerMetricsRouteDurationEnable at hr
  split at hr
  · cases hr
  · cases hr
    exact ht

theorem routeReleaseFailureRecord_keeps :
    Keeps (Stands limit o c t) (routeReleaseFailureRecord) := by
  refine requestUpdate_keeps fun h => ?_
  rw [Option.map_eq_some_iff] at h
  obtain ⟨metrics', hr, he⟩ := h
  cases he
  exact ⟨⟨listenerMetricsRouteReleaseFailureRecord_step hr, rfl⟩, fun _ => id⟩

theorem countEvent_keeps {counter : ListenerCounter} (hroute : counter.isRoute = false)
    (hgauge : counter.isGauge = false) :
    Keeps (Stands limit o c t) (countEvent counter) :=
  leads_modify fun _ hx => ⟨hx.balanced.count hroute hgauge, hx.mark, hx.tidy⟩

/-- A request that has been marked as pending, or cannot be, is tidy. -/
theorem routePending_tidies :
    Leads (Stands limit o c false) (routePending) fun _ => Stands limit o c true := by
  refine leads_modify fun x hx => ?_
  split
  · rename_i metrics request hu
    obtain ⟨hstep, hsettled⟩ := listenerMetricsRoutePending_step hu
    refine ⟨hx.balanced.request hstep hsettled, hx.mark, fun _ _ => Or.inr ?_⟩
    unfold listenerMetricsRoutePending at hu
    split at hu
    · cases hu
    · cases hu
      rfl
  · rename_i hu
    refine ⟨hx.balanced, hx.mark, fun _ hstarted => ?_⟩
    unfold listenerMetricsRoutePending at hu
    split at hu
    · rename_i hor
      rcases hor with hor | hor | hor
      · exact absurd hstarted hor
      · exact Or.inl hor
      · exact Or.inr hor
    · cases hu

section

variable (outcome : ListenerMetricsOutcome) (family : Option ListenerMetricsSelectedFamily)
  (now : Option Timespec)

/-- A request that has been settled, or cannot be, is tidy. -/
theorem routeSettle_tidies :
    Leads (Stands limit o c false) (routeSettle outcome family now)
      fun _ => Stands limit o c true := by
  refine leads_modify fun x hx => ?_
  split
  · rename_i metrics request hu
    obtain ⟨hstep, hbefore, hafter⟩ := listenerMetricsRouteSettle_step hu
    exact ⟨hx.balanced.settle hstep hbefore hafter, hx.mark, fun _ _ => Or.inl hafter⟩
  · rename_i hu
    refine ⟨hx.balanced, hx.mark, fun _ hstarted => ?_⟩
    unfold listenerMetricsRouteSettle at hu
    split at hu
    · rename_i hor
      rcases hor with hor | hor
      · exact absurd hstarted hor
      · exact Or.inl hor
    · cases hu

/-- The usual end of a route: settled, with the progress `p`. -/
theorem settled_tidies (p : ListenerConnectionProgress) :
    Leads (Stands limit o c false)
      (do routeSettle outcome family now; pure p) fun _ => Stands limit o c true :=
  (routeSettle_tidies outcome family now).bind fun _ => keeps_pure p

end

/-! ### Waiters and references -/

theorem waiterReleased_keeps :
    Keeps (Stands limit o c t) (modify waiterReleased : StateM (Focus γ) PUnit) := by
  refine leads_modify fun x hx => ⟨hx.balanced.waiterReleased, ?_, ?_⟩
  all_goals
    unfold waiterReleased
    split
  · exact hx.mark
  · exact hx.mark
  · exact hx.tidy
  · exact hx.tidy

theorem generationReleased_keeps :
    Keeps (Stands limit o c t) (modify generationReleased : StateM (Focus γ) PUnit) :=
  leads_modify fun _ hx => ⟨hx.balanced.generationReleased, hx.mark, hx.tidy⟩

theorem routeWaiterCreate_keeps : Keeps (Stands limit o c t) (routeWaiterCreate now a) := by
  refine leads_get fun x hx => ?_
  split
  · exact hx
  rename_i generation hg
  split
  · exact hx
  rename_i hor
  simp only [not_or, not_not] at hor
  split
  · exact hx
  unfold routeWaiterAttach
  split
  · rw [exec_get]
    split
    · rename_i generations hr
      exact ⟨hx.balanced.waiterAttached hg hor.2.1 hr, hx.mark, hx.tidy⟩
    · exact hx
  · exact hx

theorem routeWaiterDestroy_keeps {now : Option Timespec}
    (h : ∀ time ∈ now, Allows o.supervised time) (status : RouteWaiterDestroyStatus) :
    Keeps (Stands limit o c t) (routeWaiterDestroy now status) := by
  have hcall : Keeps (Stands limit o c t) (now.elim (pure ⟨⟩) superviseAt) := by
    cases now with
    | none => exact keeps_pure _
    | some time => exact superviseAt_keeps (h time rfl)
  refine keeps_get fun x => ?_
  split
  · exact keeps_pure _
  · exact hcall.bind fun _ => waiterReleased_keeps.bind fun _ => keeps_pure _

theorem waiterDestroyRecord_keeps (status : RouteWaiterDestroyStatus) :
    Keeps (Stands limit o c t) (waiterDestroyRecord status) := by
  unfold waiterDestroyRecord
  split
  · exact keeps_pure _
  · exact routeReleaseFailureRecord_keeps

section

variable {now : Timespec} (hnow : Allows o.supervised now) (a : ConnectionAnswers)

include hnow

theorem listenerConnectionRouteRelease_keeps :
    Keeps (Stands limit o c t) (listenerConnectionRouteRelease now a) := by
  refine keeps_get fun x => ?_
  split
  · exact keeps_pure _
  refine (routeWaiterDestroy_keeps (fun _ h => Option.some.inj h ▸ hnow) _).bind fun status => ?_
  refine (waiterDestroyRecord_keeps status).bind fun _ => ?_
  exact generationReleased_keeps.bind fun _ => keeps_pure _

/-! ### Routes -/

omit hnow in
theorem routeProgressSettle_tidies :
    Leads (Stands limit o c false) (routeProgressSettle now a)
      fun _ => Stands limit o c true := by
  unfold routeProgressSettle
  split
  · split
    · exact settled_tidies _ _ _ _
    · exact settled_tidies _ _ _ _
  all_goals exact settled_tidies _ _ _ _

theorem listenerConnectionRouteProgress_tidies :
    Leads (Stands limit o c false) (listenerConnectionRouteProgress now a)
      fun _ => Stands limit o c true := by
  refine (superviseAt_keeps hnow).bind fun _ => modified_leads ?_
  split
  · exact routePending_tidies.bind fun _ => keeps_pure _
  · refine leads_get fun x hx => ?_
    exact ((routeResolutionRecord_keeps _).bind fun _ => routeProgressSettle_tidies a) x hx

omit hnow in
theorem routeStartWait_keeps :
    Keeps (Stands limit o c t) (routeStartWait now a) := by
  have harm : Keeps (Stands limit o c t) (routeTimerArm a) := by
    refine keeps_get fun x => ?_
    split
    · exact keeps_pure false
    · exact listenerConnectionTimerSet_keeps _ _ _
  refine harm.bind fun armed => ?_
  split
  · exact keeps_pure _
  · refine (routeResolutionRecord_keeps _).bind fun _ => ?_
    exact keeps_of_tidies (settled_tidies _ _ _ _)

theorem routeStartWaiter_tidies :
    Leads (Stands limit o c false) (routeStartWaiter now a)
      fun _ => Stands limit o c true := by
  refine (routeWaiterCreate_keeps _ a).bind fun status => ?_
  split
  · exact settled_tidies _ _ _ _
  · exact settled_tidies _ _ _ _
  · refine modified_leads ?_
    exact settled_tidies _ _ _ _
  · refine modified_leads ?_
    exact settled_tidies _ _ _ _
  · refine routeDurationEnable_keeps.bind fun _ => ?_
    refine (listenerConnectionRouteProgress_tidies hnow a).bind fun progress => ?_
    split
    · exact routeStartWait_keeps a
    · exact keeps_pure progress

/-- A connection asks for its route once; whatever comes of it, its request is tidy again. -/
theorem listenerConnectionRouteStart_keeps :
    Keeps (Stands limit o c true) (listenerConnectionRouteStart now a) := by
  refine modified_leads ?_
  split
  · exact keeps_pure _
  rename_i mode _
  refine Leads.weaken ((routeStart_keeps mode now).bind fun _ => ?_) fun _ hx => hx.free
  split
  · refine (routeResolutionRecord_keeps _).bind fun _ => ?_
    exact settled_tidies _ _ _ _
  split
  · refine modified_leads ?_
    exact routeStartWaiter_tidies hnow a
  · exact settled_tidies _ _ _ _

end

/-! ### Short connections -/

variable (hnow : Allows o.supervised now)

theorem shortDriveRearm_keeps (rearm : Bool) (now : Timespec) (a : ConnectionAnswers) :
    Keeps (Stands limit o c t) (shortDriveRearm rearm now a) := by
  have hidle : Keeps (Stands limit o c t) (idleTimerRearm rearm now a) := by
    unfold idleTimerRearm
    split
    · exact listenerConnectionTimerArmShort_keeps _ _ _ _
    · exact keeps_pure true
  refine hidle.bind fun armed => ?_
  split
  · exact keeps_pure _
  · exact keeps_pure _

theorem listenerConnectionShortDrive_keeps (activity : Bool) (a : ConnectionAnswers) :
    Keeps (Stands limit o c t) (listenerConnectionShortDrive now activity a) := by
  refine keeps_get fun x => ?_
  split
  · exact keeps_pure _
  split
  all_goals
    first
    | exact shortDriveRearm_keeps _ now a
    | skip
  all_goals
    split
    · exact keeps_pure _
    · exact shortDriveRearm_keeps _ now a

/-- A short timer, and the drive if it could be set. -/
theorem armed_drive_keeps (timer : ListenerConnectionTimer) (now : Timespec) (seconds : Nat)
    (a : ConnectionAnswers) :
    Keeps (Stands limit o c t) (do
      if ← listenerConnectionTimerArmShort timer now seconds a.shortTimerSet then
        listenerConnectionShortDrive now false a
      else pure .abort) := by
  refine (listenerConnectionTimerArmShort_keeps _ _ _ _).bind fun armed => ?_
  split
  · exact listenerConnectionShortDrive_keeps now false a
  · exact keeps_pure _

include hnow in
theorem listenerConnectionRefusalStart_keeps :
    Keeps (Stands limit o c t) (listenerConnectionRefusalStart now a) := by
  unfold listenerConnectionRefusalStart
  split
  · exact keeps_pure _
  · exact keeps_pure _
  refine (listenerConnectionRouteRelease_keeps hnow a).bind fun released => ?_
  split
  · refine modified_leads ?_
    exact armed_drive_keeps _ now _ a
  · exact keeps_pure _

theorem upstreamClosed_alike (d : ListenerConnection) : d.Alike (upstreamClosed d) := by
  unfold upstreamClosed
  split
  · exact ⟨rfl, rfl, rfl, rfl, rfl⟩
  · exact ⟨rfl, rfl, rfl, rfl, rfl⟩

theorem shortRespond_keeps : Keeps (Stands limit o c t) (shortRespond now a) := by
  refine modified_leads ?_
  exact armed_drive_keeps _ now _ a

theorem listenerConnectionShortFailure_keeps :
    Keeps (Stands limit o c t) (listenerConnectionShortFailure now a) := by
  refine keeps_get fun x => ?_
  split
  · exact keeps_pure _
  refine modified_leads ?_ upstreamClosed_alike
  exact shortRespond_keeps now a

theorem listenerConnectionShortConnectComplete_keeps :
    Keeps (Stands limit o c t) (listenerConnectionShortConnectComplete now a) := by
  unfold listenerConnectionShortConnectComplete
  split
  · exact listenerConnectionShortFailure_keeps now a
  refine keeps_get fun x => ?_
  split
  · exact keeps_pure _
  refine modified_leads ?_
  refine (listenerConnectionTimerArmShort_keeps _ _ _ _).bind fun armed => ?_
  split
  · exact keeps_pure _
  · exact keeps_pure _

theorem shortEventReceive_keeps (reads : Bool) (now : Timespec) (a : ConnectionAnswers) :
    Keeps (Stands limit o c t) (shortEventReceive reads now a) := by
  unfold shortEventReceive
  split
  · split
    · exact keeps_pure _
    · exact listenerConnectionShortDrive_keeps now _ a
  · exact listenerConnectionShortDrive_keeps now false a

theorem shortEventUpstream_keeps (flags : EpollEvents) (now : Timespec) (a : ConnectionAnswers) :
    Keeps (Stands limit o c t) (shortEventUpstream flags now a) := by
  refine keeps_get fun x => ?_
  split
  · split
    · exact keeps_pure _
    · exact shortEventReceive_keeps _ now a
  · exact shortEventReceive_keeps false now a

theorem listenerConnectionShortEvent_keeps (kind : ListenerEventKind) (flags : EpollEvents)
    (sourceGeneration : Nat) (now : Timespec) (a : ConnectionAnswers) :
    Keeps (Stands limit o c t)
      (listenerConnectionShortEvent kind flags sourceGeneration now a) := by
  refine keeps_get fun x => ?_
  split
  · split
    · exact keeps_pure _
    · exact shortEventReceive_keeps _ now a
  · split
    · exact keeps_pure _
    split
    · refine (listenerConnectionShortConnectComplete_keeps now a).bind fun progress => ?_
      split
      · exact shortEventUpstream_keeps flags now a
      · exact keeps_pure _
    · exact shortEventUpstream_keeps flags now a
  · exact keeps_pure _

theorem shortStartConnect_keeps : Keeps (Stands limit o c t) (shortStartConnect now a) := by
  have harm : Keeps (Stands limit o c t) (connectTimerArm now a) := by
    unfold connectTimerArm
    split
    · exact listenerConnectionTimerArmShort_keeps _ _ _ _
    · exact listenerConnectionTimerArmShort_keeps _ _ _ _
  unfold shortStartConnect
  split
  · exact listenerConnectionShortFailure_keeps now a
  refine modified_leads ?_
  refine harm.bind fun armed => ?_
  split
  · exact listenerConnectionShortDrive_keeps now false a
  · exact keeps_pure _

include hnow in
theorem listenerConnectionShortStart_keeps :
    Keeps (Stands limit o c t) (listenerConnectionShortStart now a) := by
  refine keeps_get fun x => ?_
  split
  · refine (listenerConnectionRouteRelease_keeps hnow a).bind fun released => ?_
    split
    · split
      · exact keeps_pure _
      split
      · exact shortRespond_keeps now a
      · exact shortStartConnect_keeps now a
    · exact keeps_pure _
  · exact keeps_pure _

/-! ### Reception and timeouts -/

theorem listenerConnectionReceive_keeps (flags : EpollEvents) (answers : List ReceiveAnswer) :
    Keeps (Stands limit o c t) (listenerConnectionReceive flags answers) := by
  induction answers with
  | nil => exact keeps_pure _
  | cons answer rest ih =>
    cases answer with
    | incomplete timerSet =>
      refine (timerArmAssembly_keeps timerSet).bind fun armed => ?_
      split
      · exact ih
      · exact keeps_pure _
    | ambiguous clock timerSet =>
      refine (timerArmGrace_keeps clock timerSet).bind fun armed => ?_
      split
      · exact ih
      · exact keeps_pure _
    | _ => exact keeps_pure _

/-- Only a route timer that is due lets the supervisor be called. -/
theorem timeoutExpired_stands {x : Focus γ} (hx : Stands limit o c t x)
    (hnow : x.connection.timer = .route →
      timeutilCompare now x.connection.timerDeadline ≠ .lt → Allows o.supervised now) :
    Stands limit o c t (exec (timeoutExpired now a) x).2 := by
  unfold timeoutExpired
  rw [exec_get]
  split
  · exact hx
  rename_i hdue
  split
  · rename_i htimer
    exact keeps_of_tidies (listenerConnectionRouteProgress_tidies (hnow htimer hdue) a) x hx
  · exact listenerConnectionShortFailure_keeps now a x hx
  all_goals exact hx

theorem Stands.of_late {x : Focus γ} (hnow : Allows o.supervised now)
    (h : Stands limit { o with supervised := (·.late = true) } c t x) : Stands limit o c t x :=
  ⟨{ h.balanced with supervised := hnow.late h.balanced.supervised }, h.mark, h.tidy⟩

include hnow in
/-- A clock that is read again calls the supervisor at `now`, or the record is late. -/
theorem timeoutStale_keeps (currentNow : Timespec) :
    Keeps (Stands limit o c t) (do
      modify (lateMarked now currentNow)
      timeoutExpired currentNow a) := by
  intro x hx
  change Stands limit o c t (exec (timeoutExpired currentNow a) (lateMarked now currentNow x)).2
  unfold lateMarked
  split
  · refine Stands.of_late now hnow (timeoutExpired_stands currentNow a ⟨?_, hx.mark, hx.tidy⟩ ?_)
    · exact { hx.balanced with supervised := rfl }
    · exact fun _ _ => ⟨id, id⟩
  · rename_i hnot
    refine timeoutExpired_stands currentNow a hx fun htimer hdue => ?_
    have he : currentNow = now := by
      by_contra hne
      exact hnot ⟨htimer, hdue, hne⟩
    exact he ▸ hnow

include hnow in
theorem listenerConnectionTimeout_keeps (flags : EpollEvents) (timerGeneration : Nat) :
    Keeps (Stands limit o c t)
      (listenerConnectionTimeout flags timerGeneration now a) := by
  unfold listenerConnectionTimeout
  split
  · exact keeps_pure _
  split
  · exact keeps_pure _
  · refine keeps_get fun x => ?_
    split
    · refine (clockGettime_keeps _).bind fun clock => ?_
      split
      · exact keeps_pure _
      · exact timeoutStale_keeps now a hnow _
    · exact fun x hx => timeoutExpired_stands now a hx fun _ _ => hnow
  · exact keeps_pure _

/-! ## 4. What the loop calls -/

/-- The end of an event: balanced around a table of workers, with a tidy request. -/
def Done (limit : Nat) (o : Around γ) (x : Focus γ) : Prop :=
  ∃ workers, Balanced limit { o with workers } x ∧ x.connection.routeMetrics.Tidy

theorem Stands.done {x : Focus γ} (h : Stands limit o c true x) : Done limit o x :=
  ⟨o.workers, h.balanced, h.tidy rfl⟩

theorem Done.closing {x : Focus γ} (h : Done limit o x) :
    Done limit o { x with connection := { x.connection with closing := true } } := by
  obtain ⟨workers, hbalanced, htidy⟩ := h
  exact ⟨workers, hbalanced.closing, htidy⟩

include hnow in
/-- The worker is forked with the table not full: that was asked before the route was released. -/
theorem listenerConnectionDispatch_done :
    Leads (Stands limit o false true) (listenerConnectionDispatch now a)
      fun _ => Done limit o := by
  refine leads_get fun x hx => ?_
  split
  · have hrefuse : Keeps (Stands limit o false true) (do
        countEvent .workerCapacityRefusal
        listenerConnectionRefusalStart now a) :=
      (countEvent_keeps rfl rfl).bind fun _ => listenerConnectionRefusalStart_keeps now a hnow
    exact (hrefuse x hx).done
  rename_i hspare
  rw [hx.balanced.table] at hspare
  split
  · have hfork : Leads (Stands limit o false true)
        (do
          if ← listenerConnectionRouteRelease now a then
            modify (workerForked a.fork)
            pure ListenerConnectionProgress.pending
          else pure .fatal) fun _ => Done limit o := by
      refine (listenerConnectionRouteRelease_keeps hnow a).bind fun released => ?_
      split
      · refine Leads.bind (leads_modify fun y hy => ?_) fun _ => leads_pure fun _ hy => hy
        obtain ⟨workers, hbalanced⟩ := hy.balanced.forked hy.mark (by omega) a.fork
        refine ⟨workers, hbalanced, ?_⟩
        unfold workerForked
        split
        · exact hy.tidy rfl
        · exact hy.tidy rfl
      · exact leads_pure fun _ hy => hy.done
    exact hfork x hx
  · exact hx.done.closing

include hnow in
theorem eventServe_done (progress : ListenerConnectionProgress) :
    Leads (Stands limit o false true) (eventServe now a progress)
      fun _ => Done limit o := by
  unfold eventServe
  split
  · refine leads_get fun x hx => ?_
    split
    · exact (listenerConnectionShortStart_keeps now a hnow x hx).done
    · exact (listenerConnectionShortStart_keeps now a hnow x hx).done
    · exact listenerConnectionDispatch_done now a hnow x hx
    · exact listenerConnectionDispatch_done now a hnow x hx
    · exact hx.done
  · exact leads_pure fun _ hx => hx.done

theorem eventClose_done (progress : ListenerConnectionProgress) :
    Keeps (Done limit o) (eventClose progress) := by
  have hclose : Keeps (Done limit o) (do
      modifyConnection fun d => { d with closing := true }
      pure true) :=
    Leads.bind (leads_modify fun _ hx => hx.closing) fun _ => keeps_pure true
  cases progress with
  | fatal => exact keeps_pure false
  | abort => exact hclose
  | closed => exact hclose
  | pending => exact keeps_pure true
  | ready => exact keeps_pure true

include hnow in
theorem eventProgress_keeps (event : ReadyEvent) :
    Keeps (Stands limit o c t) (eventProgress event now a) := by
  refine keeps_get fun x => ?_
  split
  · exact listenerConnectionTimeout_keeps now a hnow _ _
  split
  · split
    · exact listenerConnectionReceive_keeps _ _
    · exact keeps_pure _
  · exact keeps_pure _
  · exact listenerConnectionShortEvent_keeps _ _ _ now a

include hnow in
/-- **An event of a connection that is not closing.** -/
theorem listenerConnectionEvent_done (event : ReadyEvent) :
    Leads (Stands limit o false true) (listenerConnectionEvent event now a)
      fun _ => Done limit o := by
  have hroute : ∀ progress, Keeps (Stands limit o false true)
      (eventRoute now a progress) := by
    intro progress
    refine keeps_get fun x => ?_
    split
    · exact listenerConnectionRouteStart_keeps hnow a
    · exact keeps_pure progress
  refine (eventProgress_keeps now a hnow event).bind fun progress => ?_
  refine (hroute progress).bind fun progress => ?_
  refine Leads.bind (keeps_get fun x => keeps_pure _) fun progress => ?_
  exact (eventServe_done now a hnow progress).bind fun progress => eventClose_done progress

include hnow in
/-- **Progress of a connection that waits for its route.** -/
theorem listenerConnectionResume_done :
    Leads (Stands limit o false true) (listenerConnectionResume now a)
      fun _ => Done limit o := by
  have hprogress : Keeps (Stands limit o false true)
      (listenerConnectionRouteProgress now a) :=
    keeps_of_tidies (listenerConnectionRouteProgress_tidies hnow a)
  refine hprogress.bind fun progress => ?_
  exact (eventServe_done now a hnow progress).bind fun progress => eventClose_done progress

/-- A request that is over: settled, if it was started at all. -/
def Over (x : Focus γ) : Prop :=
  x.connection.routeMetrics.started = true → x.connection.routeMetrics.settled = true

theorem routeSettle_over (outcome : ListenerMetricsOutcome)
    (family : Option ListenerMetricsSelectedFamily) (now : Option Timespec) :
    Leads (fun _ => True) (routeSettle (γ := γ) outcome family now) fun _ => Over := by
  refine leads_modify fun x _ => ?_
  split
  · rename_i metrics request hu
    exact fun _ => (listenerMetricsRouteSettle_step hu).2.2
  · rename_i hu
    unfold listenerMetricsRouteSettle at hu
    split at hu
    · rename_i hor
      intro hstarted
      exact hor.resolve_left fun hn => hn hstarted
    · cases hu

theorem destroyWaiter_connection (supervised : Bool) (now : Option Timespec)
    (status : RouteWaiterDestroyStatus) (x : Focus γ) :
    (exec (destroyWaiter supervised now status) x).2.connection =
      { x.connection with waiter := none } := by
  have hreleased : ∀ y : Focus γ, y.connection = x.connection →
      (waiterReleased y).connection = { x.connection with waiter := none } := by
    intro y hy
    unfold waiterReleased
    rw [← hy]
    cases hw : y.connection.waiter with
    | none =>
      change y.connection = { y.connection with waiter := none }
      rw [← hw]
    | some waiter => rfl
  unfold destroyWaiter
  split
  · unfold routeWaiterDestroy
    rw [exec_get]
    cases hw : x.connection.waiter with
    | none =>
      change x.connection = { x.connection with waiter := none }
      rw [← hw]
    | some waiter => cases now <;> exact hreleased _ rfl
  · exact hreleased x rfl

theorem waiterDestroyRecord_connection (status : RouteWaiterDestroyStatus) (x : Focus γ) :
    (exec (waiterDestroyRecord status) x).2.connection = x.connection := by
  unfold waiterDestroyRecord
  split
  · rfl
  · rw [routeReleaseFailureRecord, requestUpdate, exec_modify]
    cases listenerMetricsRouteReleaseFailureRecord x.context.metrics x.connection.routeMetrics with
    | none => rfl
    | some metrics => rfl

/-- What is left of a connection that is destroyed: no reference, and a request that is over. -/
structure Gone (limit : Nat) (o : Around γ) (x : Focus γ) : Prop where
  balanced : Balanced limit o x
  generation : x.connection.generation = none
  waiter : x.connection.waiter = none
  ended : Over x

theorem Gone.held {x : Focus γ} (h : Gone limit o x) (p : Nat) : x.connection.held p = 0 := by
  unfold ListenerConnection.held
  rw [h.generation, h.waiter]
  rfl

/-- **The destruction of a connection**, in any of its states. -/
theorem listenerConnectionDestroy_gone (outcome : ListenerMetricsOutcome) (supervised : Bool)
    {now : Option Timespec} (hnow : ∀ time ∈ now, Allows o.supervised time)
    (status : RouteWaiterDestroyStatus) :
    Leads (Balanced limit o) (listenerConnectionDestroy outcome supervised now status)
      fun _ => Gone limit o := by
  intro x hx
  let J : Focus γ → Prop := Stands limit o x.connection.closing false
  have hresolution : Keeps J (destroyResolution) := by
    refine keeps_get fun y => ?_
    split
    · exact routeResolutionRecord_keeps _
    · exact keeps_pure _
  have hsettle : Leads J (routeSettle outcome none now) fun _ y => J y ∧ Over y :=
    fun y hy => ⟨(routeSettle_tidies outcome none now y hy).free,
      routeSettle_over outcome none now y trivial⟩
  have hwaiter : Leads (fun y => J y ∧ Over y) (destroyWaiter supervised now status)
      fun _ y => J y ∧ Over y ∧ y.connection.waiter = none := by
    intro y hy
    have hkeep : Keeps J (destroyWaiter supervised now status) := by
      unfold destroyWaiter
      split
      · exact routeWaiterDestroy_keeps hnow status
      · exact waiterReleased_keeps.bind fun _ => keeps_pure _
    have hc := destroyWaiter_connection supervised now status y
    refine ⟨hkeep y hy.1, ?_, ?_⟩
    · unfold Over
      rw [hc]
      exact hy.2
    · rw [hc]
  have hrecord : ∀ status, Keeps (fun y => J y ∧ Over y ∧ y.connection.waiter = none)
      (waiterDestroyRecord status) := by
    intro status y hy
    have hc := waiterDestroyRecord_connection status y
    refine ⟨waiterDestroyRecord_keeps status y hy.1, ?_⟩
    unfold Over
    rw [hc]
    exact hy.2
  have hall : Leads J (listenerConnectionDestroy outcome supervised now status)
      fun _ => Gone limit o := by
    refine hresolution.bind fun _ => hsettle.bind fun _ => hwaiter.bind fun status => ?_
    refine (hrecord status).bind fun _ => Leads.bind (leads_modify fun y hy => ?_) fun _ =>
      keeps_pure _
    exact ⟨hy.1.balanced.generationReleased, rfl, hy.2.2, hy.2.1⟩
  exact hall x ⟨hx, rfl, nofun⟩

end Programs

end Loop

end MinecraftRelay
