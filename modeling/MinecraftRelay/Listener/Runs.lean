/-
  File:      Listener/Runs.lean
  Subject:   THE RUNS OF THE LISTENER'S LOOP.

  `AtHead` are the states in which the loop waits for events: the one after the start, and the one
  after each turn that does not leave the loop.

  * `Steady` -- what holds between any two parts of a turn: the books, the registry and the pointers
    of the context, the listening socket, the count of connections;
  * `Deferred` -- a reload that is put off waits for a connection, or has the timer armed;
  * `Head`, `listenerLoopTurn_end` -- what a turn starts from and restores;
  * `AtHead.head`, and from it: no publication is blocked, the capacity is kept, a reload that is
    put off is not forgotten, every request is settled once; the supervisor is called in order,
    unless a stale event finds a route timer due.
-/
import MinecraftRelay.Listener.Books

namespace MinecraftRelay

open Stateful Scripted

namespace Loop

variable {η : Type} {w : Surroundings} {s s' : ListenerLoop η} {time : Timespec}

/-! ## 1. Between the parts of a turn -/

/-- What holds between any two parts of a turn, with the supervisor not called after `time`. -/
structure SteadyUntil (w : Surroundings) (time : Timespec) (s : ListenerLoop η) : Prop where
  books : Books s
  contents : s.generations.contents s.generations.active = some s.current
  routes : routeTableBuild w.netAddrParse s.current.config.proxy = some s.current.routes
  bound : ∃ fd, s.listening.fd = some fd ∧
    s.listening.sockets = [⟨fd, s.listening.endpoint, s.ready⟩]
  free : .blocked ∉ s.publishes
  counted : s.connectionCount = s.connections.length
  limit : s.connectionLimit ≤ listenerConnectionLimitMaximum
  /-- The clock does not stand at zero. -/
  running : ⟨0, 0⟩ < s.clock
  down : s.shuttingDown = true → s.connections = []
  behind : time ≤ s.clock
  supervised : s.supervision.Until time

/-- The supervisor has not been called after `route_now`: so it is but after a reload. -/
abbrev Steady (w : Surroundings) (s : ListenerLoop η) : Prop := SteadyUntil w s.routeNow s

/-- What holds when the loop is left. -/
structure Exited (s : ListenerLoop η) : Prop where
  books : Books s
  free : .blocked ∉ s.publishes
  ordered : s.supervision.late = false → s.supervision.times.Pairwise (· ≥ ·)

theorem SteadyUntil.exited (h : SteadyUntil w time s) : Exited s :=
  ⟨h.books, h.free, h.supervised.ordered⟩

/-- What a reload starts from. -/
theorem SteadyUntil.coherent (h : SteadyUntil w time s) (hready : s.ready = true) :
    Coherent w (fun p => tally (·.held p) s.connections) s.toListenerServer where
  accounted := h.books.accounted
  contents := h.contents
  routes := h.routes
  single := by
    obtain ⟨fd, hfd, hsockets⟩ := h.bound
    rw [hready] at hsockets
    exact ⟨fd, hfd, hsockets⟩

/-- Where the variables of the loop are untouched, the other parts remain to be shown. -/
theorem Steady.untouched (h : Steady w s) (hu : Untouched s s') (hb : Books s')
    {now : Option Timespec} (hk : Kept now s s') (hnow : ∀ time ∈ now, s.routeNow = time)
    {count : Nat} (hcount : count = s'.connections.length)
    (hdown : s'.shuttingDown = true → s'.connections = []) :
    Steady w { s' with connectionCount := count } := by
  refine ⟨{ hb with }, ?_, ?_, ?_, ?_, hcount, hu.limit ▸ h.limit, h.running.trans_le hk.clock,
    hdown, ?_, ?_⟩
  · rw [hk.contents, hu.current]
    exact h.contents
  · rw [hu.current]
    exact h.routes
  · rw [hu.listening, hu.ready]
    exact h.bound
  · rw [hu.publishes]
    exact h.free
  · exact hu.now ▸ h.behind.trans hk.clock
  · change s'.supervision.Until s'.routeNow
    rw [hu.now]
    refine hk.supervised (·.Until s.routeNow) (fun time ht => ?_) h.supervised
    rw [hnow time ht]
    exact ⟨.call, fun hlate hnot => absurd hlate (Bool.eq_false_iff.1 hnot)⟩

/-- The steps of connections and workers, with the count that goes with them. -/
theorem Steady.moved (h : Steady w s) (hb : Books s') (hm : Moved (some s.routeNow) s s')
    {count : Nat} (hcount : count = s'.connections.length)
    (hdown : s'.shuttingDown = true → s'.connections = []) :
    Steady w { s' with connectionCount := count } :=
  h.untouched hm.untouched hb hm.toKept (fun _ ht => Option.some.inj ht) hcount hdown

theorem SteadyUntil.clock (h : SteadyUntil w time s) {clock : Timespec} (hle : s.clock ≤ clock)
    (hvalid : timeutilValid clock = true) : Steady w { s with clock, routeNow := clock } :=
  { h with
    books := { h.books with clock := hvalid }
    running := h.running.trans_le hle
    behind := le_rfl
    supervised := h.supervised.mono (h.behind.trans hle) }

theorem Steady.supervise (h : Steady w s) :
    Steady w { s with supervision := s.supervision.call s.routeNow } :=
  { h with books := { h.books with }, supervised := h.supervised.call }

/-- Variables the invariant does not read. -/
theorem SteadyUntil.flags (h : SteadyUntil w time s) (hosts reload : Bool)
    (timer : Option Timespec) (deadline : Timespec) :
    SteadyUntil w time { s with
      hostsReloadPending := hosts, reloadPending := reload, routeTimer := timer, deadline } :=
  { h with books := { h.books with } }

theorem after_routeClock {I : ListenerLoop η → Prop} {R : PUnit → ListenerLoop η → Prop}
    (advance : Option Nat) (hs : I s) (hvalid : timeutilValid s.clock = true)
    (h : ∀ clock, s.clock ≤ clock → timeutilValid clock = true →
      R ⟨⟩ { s with clock, routeNow := clock }) : After I (routeClock advance) R s := by
  cases advance with
  | none => exact hs
  | some advance =>
    obtain ⟨hle, hlater⟩ := Timespec.later_spec hvalid advance
    exact h _ hle hlater

/-- What the steps of connections and workers carry along. -/
def Carried (X : ListenerLoop η → Prop) : Prop := ∀ {now} s s', Moved now s s' → X s → X s'

theorem focusStep_steady {m : StateM (Focus (RouteContents η)) Bool} {X : ListenerLoop η → Prop}
    (hX : Carried X) (hm : Served s.routeNow m) (i : Nat) (h : Steady w s ∧ X s) :
    Steady w (focusStep i m s).2 ∧ X (focusStep i m s).2 := by
  obtain ⟨hbooks, hmoved, hlength, _⟩ := focusStep_books hm h.1.books i
  generalize (focusStep i m s).2 = t at hbooks hmoved hlength ⊢
  have hcount : t.connectionCount = s.connectionCount := by
    rw [hmoved.rest]
    rfl
  refine ⟨h.1.moved hbooks hmoved ?_ fun hd => ?_, hX s t hmoved h.2⟩
  · rw [hcount, h.1.counted, hlength]
  · rw [hmoved.untouched.shuttingDown] at hd
    rw [h.1.down hd] at hlength
    exact List.length_eq_zero_iff.1 hlength

theorem listenerWorkersReap_steady (answer : Nat → WaitAnswer) {X : ListenerLoop η → Prop}
    (hX : Carried X) (h : Steady w s ∧ X s) :
    Steady w (listenerWorkersReap answer s).2 ∧ X (listenerWorkersReap answer s).2 := by
  obtain ⟨hbooks, hmoved, hrest⟩ := listenerWorkersReap_books answer h.1.books
  refine ⟨h.1.moved hbooks (hmoved _) ?_ fun hd => ?_, hX s _ (hmoved none) h.2⟩
  · exact h.1.counted
  · exact h.1.down hd

/-- What collecting does: the retired generation is gone, or a connection refers to it. -/
theorem listenerGenerationCollect_steady (release : RouteResolutionReleaseStatus) (h : Steady w s) :
    After Exited (listenerGenerationCollect release)
      (fun _ t => Steady w t ∧
        (∃ generations supervision, t = { s with generations, supervision }) ∧
        (t.generations.retired = none ∨
          ∃ p, t.generations.retired = some p ∧ s.generations.retired = some p ∧
            ∃ c ∈ s.connections, 0 < c.held p)) s := by
  refine after_modify (after_get ?_)
  have hcases := registryCollect_cases s.generations s.routeNow release
  have hbooks := h.supervise.books.collect s.routeNow release
  have haccount := hbooks.accounted
  have hpersists := Generations.Persists.collect s.generations s.routeNow release
  have hactive := registryCollect_active s.generations s.routeNow release
  generalize registryCollect s.generations s.routeNow release = result
    at hcases hbooks haccount hpersists hactive ⊢
  obtain ⟨status, generations⟩ := result
  have hsteady : Steady w { s with generations, supervision := s.supervision.call s.routeNow } :=
    { h.supervise with
      books := hbooks
      contents := (hpersists.active_contents h.books.accounted haccount hactive).trans h.contents }
  refine after_set (after_require_pure hsteady.exited fun hok => ?_)
  refine ⟨hsteady, ⟨generations, _, rfl⟩, ?_⟩
  simp only [Bool.or_eq_true, decide_eq_true_eq] at hok
  rcases hcases with ⟨he, hne, hnone, hretained⟩ | ⟨r, hr, hone, he⟩
  · subst he
    rcases hok with (hok | hok) | hok
    · exact Or.inl (hnone hok)
    · right
      have hmany := hretained hok
      cases hp : s.generations.retired with
      | none =>
        rw [hp] at hmany
        exact absurd hmany (Nat.not_lt_zero _)
      | some p =>
        rw [hp, Generations.referenceCount_some, h.books.accounted.count p] at hmany
        have hown := h.books.accounted.own_le_one p
        have hpos : 0 < tally (·.held p) s.connections := by omega
        exact ⟨p, rfl, rfl, exists_of_tally_pos hpos⟩
    · exact absurd hok hne
  · left
    have hgenerations : generations = _ := (Prod.ext_iff.1 he).2
    rw [hgenerations]

/-! ## 2. The parts of a turn -/

/-- A turn that is free of the retired generation: the listener is ready, and no connection refers
    to that generation. -/
structure Unheld (s : ListenerLoop η) : Prop where
  ready : s.ready = true
  released : ∀ p, s.generations.retired = some p → ∀ c ∈ s.connections, c.held p = 0

/-- What only a reload changes. -/
def settings (s : ListenerServer η) :
    RouteContents η × Bytes × Option Bytes × Nat × List RegistryPublishStatus :=
  (s.current, s.logFilename, s.configCache, s.generationNextIdentity, s.publishes)

variable (a : TurnAnswers η) (r : ListenerRequests) {s₀ : ListenerLoop η}

/-- What is carried from the head `s₀` until the retired generation is collected. -/
structure Before (s₀ s : ListenerLoop η) : Prop where
  ready : Unheld s₀ → s.ready = true
  released : Unheld s₀ →
    ∀ p, s.generations.retired = some p → ∀ c ∈ s.connections, c.held p = 0
  settings : settings s.toListenerServer = settings s₀.toListenerServer
  hosts : s₀.hostsReloadPending = true → s.hostsReloadPending = true
  reload : s₀.reloadPending = true → s.reloadPending = true

theorem before_carried (s₀ : ListenerLoop η) : Carried (Before s₀) := by
  intro _ s s' hm h
  refine ⟨fun hf => hm.untouched.ready.trans (h.ready hf),
    fun hf p hp => hm.frees p (h.released hf p (hm.retired ▸ hp)), ?_,
    fun hp => hm.untouched.hosts.trans (h.hosts hp),
    fun hp => hm.untouched.reload.trans (h.reload hp)⟩
  rw [hm.rest]
  exact h.settings

/-- The invariant of the first half of a turn. -/
def Beginning (w : Surroundings) (s₀ s : ListenerLoop η) : Prop := Steady w s ∧ Before s₀ s

theorem turnMarks_steady (events : List ReadyEvent) (h : Beginning w s₀ s) :
    After Exited (turnMarks events) (fun _ t => Beginning w s₀ t) s := by
  refine after_forM events (fun event _ t ht => ?_) h
  exact focusStep_steady (before_carried s₀) (eventMark_served event _) _ ht

theorem turnResolver_steady (h : Beginning w s₀ s) :
    After Exited (turnResolver a r) (fun _ t => Beginning w s₀ t) s := by
  refine after_onlyIf (fun _ => after_bind ?_) fun _ => h
  refine after_routeClock _ h.1.exited h.1.books.clock fun clock hle hvalid => ?_
  have hclock : Beginning w s₀ { s with clock, routeNow := clock } :=
    ⟨h.1.clock hle hvalid, { h.2 with }⟩
  refine after_bind (After.mono (Q := fun _ t => Beginning w s₀ t) ?_ fun _ t ht => ?_)
  · refine after_onlyIf (fun _ => after_modify ?_) fun _ => hclock
    have hcalled := hclock.1.supervise
    exact after_require_pure hcalled.exited fun _ => ⟨hcalled, { hclock.2 with }⟩
  · refine after_onlyIf (fun _ => ?_) fun _ => ht
    exact after_require ht.1.exited fun _ => ⟨ht.1.flags _ _ _ _, { ht.2 with }⟩

theorem turnReap_steady (h : Beginning w s₀ s) :
    After Exited (turnReap a r) (fun _ t => Beginning w s₀ t) s := by
  refine after_onlyIf (fun _ => after_lift ?_) fun _ => h
  have hreaped := listenerWorkersReap_steady a.wait (before_carried s₀) h
  exact after_require_pure hreaped.1.exited fun _ => hreaped

/-- A stop: nothing is left of the connections. -/
theorem turnStop_steady (h : Beginning w s₀ s) :
    After Exited (turnStop a r) (fun _ t => Beginning w s₀ t) s := by
  refine after_get (after_onlyIf (fun _ => after_bind ?_) fun _ => h)
  refine after_routeClock _ h.1.exited h.1.books.clock fun clock hle hvalid => after_get ?_
  have hclock : Beginning w s₀ { s with clock, routeNow := clock } :=
    ⟨h.1.clock hle hvalid, { h.2 with }⟩
  generalize ({ s with clock, routeNow := clock } : ListenerLoop η) = u at hclock ⊢
  refine after_lift (after_modify ?_)
  obtain ⟨hbooks, hmoved, hrest⟩ := destroyAll_books .shutdown true (some u.routeNow) a.stopDestroy
    u.connections.length hclock.1.books
  rw [List.drop_length] at hrest
  have hbefore := before_carried s₀ _ _ hmoved hclock.2
  generalize destroyAll .shutdown true (some u.routeNow) a.stopDestroy u.connections.length
    u = result at hbooks hmoved hrest hbefore ⊢
  obtain ⟨ok, t⟩ := result
  have hsteady : Steady w { t with connectionCount := 0 } :=
    hclock.1.moved hbooks hmoved (by rw [hrest]; rfl) fun _ => hrest
  have htimer := hsteady.flags t.hostsReloadPending t.reloadPending none t.deadline
  refine after_require hsteady.exited fun _ => after_bind (after_require hsteady.exited fun _ => ?_)
  refine after_require htimer.exited fun _ => ?_
  have hdown : Steady w { t with connectionCount := 0, routeTimer := none, shuttingDown := true } :=
    { htimer with
      books := { htimer.books with }
      down := fun _ => hrest }
  exact ⟨hdown, { hbefore with }⟩

/-- **What a turn begins with.** -/
theorem turnBegin_steady (events : List ReadyEvent) (h : Beginning w s₀ s) :
    After Exited (turnBegin a r events) (fun _ t => Beginning w s₀ t) s := by
  refine after_modify ?_
  have hflags : Beginning w s₀ { s with
      hostsReloadPending := r.hostsChanged || s.hostsReloadPending } :=
    ⟨h.1.flags _ _ _ _, { h.2 with
      hosts := fun hp => Bool.or_eq_true_iff.2 (Or.inr (h.2.hosts hp)) }⟩
  refine after_bind ((turnMarks_steady events hflags).mono fun _ t ht => ?_)
  refine after_bind ((turnResolver_steady a r ht).mono fun _ t ht => ?_)
  refine after_bind ((turnReap_steady a r ht).mono fun _ t ht => ?_)
  exact turnStop_steady a r ht

/-! ## 3. The reloads -/

/-- The invariant of the parts before the reloads. -/
def TakingUp (w : Surroundings) (s₀ s : ListenerLoop η) : Prop :=
  Steady w s ∧ s.shuttingDown = false ∧ Before s₀ s

theorem takingUp_carried (s₀ : ListenerLoop η) :
    Carried fun s => s.shuttingDown = false ∧ Before s₀ s := fun {_} s s' hm h =>
  ⟨hm.untouched.shuttingDown.trans h.1, before_carried s₀ s s' hm h.2⟩

theorem turnResume_steady (h : TakingUp w s₀ s) :
    After Exited (turnResume a r) (fun _ t => TakingUp w s₀ t) s := by
  refine after_get (after_onlyIf (fun _ => ?_) fun _ => h)
  refine after_forM _ (fun i _ t ht => after_lift ?_) h
  have hstep := focusStep_steady (takingUp_carried s₀)
    (routeResume_served t.routeNow (a.resume ((t.connections[i]?).elim 0 ListenerConnection.id))) i
      ht
  exact after_require_pure hstep.1.exited fun _ => hstep

/-- What a reload of either kind leaves to the loop. -/
theorem SteadyUntil.renewed {ok : Bool} {server : ListenerServer η} (h : SteadyUntil w time s)
    (hdown : s.shuttingDown = false) (hready : s.ready = true)
    (hretired : s.generations.retired = none)
    (hr : Renewed w (fun p => tally (·.held p) s.connections) s.toListenerServer ok server) :
    Exited { s with toListenerServer := server } ∧
      (ok = true → SteadyUntil w server.clock { s with toListenerServer := server }) := by
  have hbooks := h.books.framed hr.framed hr.accounted
  have hsupervised := hr.framed.supervised h.books.clock (h.supervised.mono h.behind)
  refine ⟨⟨hbooks, hr.free hretired h.free, hsupervised.ordered⟩, fun hok => ?_⟩
  have hcoherent := hr.coherent hok
  refine ⟨hbooks, hcoherent.contents, hcoherent.routes, ?_, hr.free hretired h.free, h.counted,
    h.limit, h.running.trans_le (hr.framed.clock h.books.clock).1, fun hd => ?_, le_rfl,
    hsupervised⟩
  · obtain ⟨fd, hfd, hsockets⟩ := hcoherent.single
    refine ⟨fd, hfd, ?_⟩
    rw [hready]
    exact hsockets
  · rw [hdown] at hd
    cases hd

/-- What a part of the turn does that runs the reload `m` when it is due. -/
structure TakenUp (w : Surroundings) (m : StateM (ListenerServer η) Bool) (time : Timespec)
    (s : ListenerLoop η) (due done : Bool) (t : ListenerLoop η) : Prop where
  steady : SteadyUntil w (bif done then t.clock else time) t
  shuttingDown : t.shuttingDown = false
  due : done = due
  not : done = false → t = s
  ran : done = true → exec m s.toListenerServer = (true, t.toListenerServer)
  hosts : done = true → t.hostsReloadPending = false
  reload : done = true → t.reloadPending = false

theorem reloadDue_iff : reloadDue s = true ↔
    s.ready = true ∧ s.reloadPending = true ∧ s.generations.retired = none := by
  unfold reloadDue
  rw [Bool.and_eq_true, Bool.and_eq_true, Option.isNone_iff_eq_none, and_assoc]

theorem hostsReloadDue_iff : hostsReloadDue s = true ↔ s.ready = true ∧ s.reloadPending = false ∧
    s.hostsReloadPending = true ∧ s.generations.retired = none := by
  unfold hostsReloadDue
  rw [Bool.and_eq_true, Bool.and_eq_true, Bool.and_eq_true, Option.isNone_iff_eq_none, and_assoc,
    and_assoc, Bool.not_eq_true']

theorem turnReload_taken (h : SteadyUntil w time s) (hdown : s.shuttingDown = false) :
    After Exited (turnReload w a)
      (TakenUp w (listenerReload w a.reload) time s (reloadDue s)) s := by
  refine after_get (after_ite (fun hdue => ?_) fun hnot => ?_)
  · obtain ⟨hready, _, hretired⟩ := reloadDue_iff.1 hdue
    refine after_require h.exited fun _ => after_lift (after_modify ?_)
    have hreloaded := listenerReload_reloaded (h.coherent hready) a.reload
    unfold serverStep
    cases hrun : exec (listenerReload w a.reload) s.toListenerServer with | mk ok server =>
    rw [hrun] at hreloaded
    obtain ⟨hexited, hsteady⟩ := h.renewed hdown hready hretired hreloaded.toRenewed
    refine after_require { hexited with books := { hexited.books with } } fun hok => ?_
    exact ⟨(hsteady hok).flags false false _ _, hdown, hdue.symm, nofun, fun _ => hok ▸ hrun,
      fun _ => rfl, fun _ => rfl⟩
  · exact ⟨h, hdown, (Bool.eq_false_iff.2 hnot).symm, fun _ => rfl, nofun, nofun, nofun⟩

theorem turnHostsReload_taken (h : SteadyUntil w time s) (hdown : s.shuttingDown = false) :
    After Exited (turnHostsReload w a)
      (TakenUp w (listenerHostsReload w a.hostsReload) time s (hostsReloadDue s)) s := by
  refine after_get (after_ite (fun hdue => ?_) fun hnot => ?_)
  · obtain ⟨hready, hreload, _, hretired⟩ := hostsReloadDue_iff.1 hdue
    refine after_modify (after_lift ?_)
    have hflags := h.flags false s.reloadPending s.routeTimer s.deadline
    have hrestored := listenerHostsReload_restored (h.coherent hready) a.hostsReload
    unfold serverStep
    cases hrun : exec (listenerHostsReload w a.hostsReload) s.toListenerServer with
    | mk ok server =>
    rw [hrun] at hrestored
    obtain ⟨hexited, hsteady⟩ := hflags.renewed hdown hready hretired hrestored.toRenewed
    refine after_require hexited fun hok => ?_
    exact ⟨hsteady hok, hdown, hdue.symm, nofun, fun _ => hok ▸ hrun, fun _ => rfl,
      fun _ => hreload⟩
  · exact ⟨h, hdown, (Bool.eq_false_iff.2 hnot).symm, fun _ => rfl, nofun, nofun, nofun⟩

section

variable (w : Surroundings) (a : TurnAnswers η)

/-- Between `s` and `t` a reload has succeeded: it found what was set at `s` and nothing retired,
    and `t` has what it left.  It is that of the hosts only where no other is pending at `s`. -/
def Reran (s t : ListenerLoop η) : Prop :=
  ∃ u v : ListenerServer η, settings u = settings s.toListenerServer ∧
    u.generations.retired = none ∧ settings t.toListenerServer = settings v ∧
    (exec (listenerReload w a.reload) u = (true, v) ∨
      s.reloadPending = false ∧ exec (listenerHostsReload w a.hostsReload) u = (true, v))

/-- No reload is pending at `t`; one that was pending at `s` has been carried out. -/
def Resumed (s t : ListenerLoop η) : Prop :=
  t.hostsReloadPending = false ∧ t.reloadPending = false ∧
    (s.hostsReloadPending = true ∨ s.reloadPending = true → Reran w a s t)

/-- The invariant of the parts after the reloads. -/
def GoingOn (s₀ s : ListenerLoop η) : Prop :=
  Steady w s ∧ s.shuttingDown = false ∧ (Unheld s₀ → Resumed w a s₀ s)

end

/-- **The reloads**: where the retired generation is not held, none is pending afterwards. -/
theorem turnTakeUp_steady (h : TakingUp w s₀ s) :
    After Exited (turnTakeUp w a r) (fun processed t =>
      SteadyUntil w (bif processed then t.clock else t.routeNow) t ∧ t.shuttingDown = false ∧
        (Unheld s₀ → Resumed w a s₀ t)) s := by
  refine after_modify ?_
  have hflags : TakingUp w s₀ { s with reloadPending := r.reload || s.reloadPending } :=
    ⟨h.1.flags _ _ _ _, h.2.1,
      { h.2.2 with reload := fun hp => Bool.or_eq_true_iff.2 (Or.inr (h.2.2.reload hp)) }⟩
  refine after_bind ((turnResume_steady a r hflags).mono fun _ t ht => ?_)
  refine after_bind ((listenerGenerationCollect_steady a.collect ht.1).mono fun _ u hu => ?_)
  obtain ⟨hsteady, ⟨generations, supervision, rfl⟩, hretired⟩ := hu
  obtain ⟨_, hdown, hbefore⟩ := ht
  have hnone : Unheld s₀ → generations.retired = none := by
    refine fun hf => hretired.resolve_right ?_
    rintro ⟨p, _, hp, c, hc, hheld⟩
    have hzero := hbefore.released hf p hp c hc
    omega
  refine after_bind ((turnReload_taken a hsteady hdown).mono fun reloaded v hv => ?_)
  refine after_bind ((turnHostsReload_taken a hv.steady hv.shuttingDown).mono
    fun hostsReloaded x hx => ?_)
  have hsteady : SteadyUntil w (bif reloaded || hostsReloaded then x.clock else x.routeNow) x := by
    have hlast := hx.steady
    cases hostsReloaded with
    | true =>
      rw [Bool.or_true]
      exact hlast
    | false =>
      obtain rfl := hx.not rfl
      cases reloaded with
      | true => exact hlast
      | false =>
        obtain rfl := hv.not rfl
        exact hlast
  refine ⟨hsteady, hx.shuttingDown, fun hf => ?_⟩
  have hready := hbefore.ready hf
  cases reloaded with
  | true =>
    -- nothing is left for the second reload
    cases hostsReloaded with
    | true =>
      have hdue := hostsReloadDue_iff.1 hx.due.symm
      rw [hv.hosts rfl] at hdue
      exact absurd hdue.2.2.1 nofun
    | false =>
      obtain rfl := hx.not rfl
      exact ⟨hv.hosts rfl, hv.reload rfl, fun _ => ⟨{ t.toListenerServer with
        generations, supervision }, _, hbefore.settings, hnone hf, rfl,
        Or.inl (hv.ran rfl)⟩⟩
  | false =>
    obtain rfl := hv.not rfl
    have hreload : t.reloadPending = false := by
      refine Bool.eq_false_iff.2 fun hp => Bool.eq_false_iff.1 hv.due.symm ?_
      exact reloadDue_iff.2 ⟨hready, hp, hnone hf⟩
    have hreload₀ : s₀.reloadPending = false :=
      Bool.eq_false_iff.2 fun hp => Bool.eq_false_iff.1 hreload (hbefore.reload hp)
    cases hostsReloaded with
    | true =>
      exact ⟨hx.hosts rfl, hx.reload rfl, fun _ => ⟨{ t.toListenerServer with
        generations, supervision }, _, hbefore.settings, hnone hf, rfl,
        Or.inr ⟨hreload₀, hx.ran rfl⟩⟩⟩
    | false =>
      -- neither was due, though the listener is ready and nothing is retired
      obtain rfl := hx.not rfl
      have hhosts : t.hostsReloadPending = false := by
        refine Bool.eq_false_iff.2 fun hp => Bool.eq_false_iff.1 hx.due.symm ?_
        exact hostsReloadDue_iff.2 ⟨hready, hreload, hp, hnone hf⟩
      refine ⟨hhosts, hreload, fun hp => ?_⟩
      rcases hp with hp | hp
      · exact absurd (hbefore.hosts hp) (Bool.eq_false_iff.1 hhosts)
      · exact absurd hp (Bool.eq_false_iff.1 hreload₀)

/-! ## 4. The second half of a turn -/

theorem goingOn_carried (w : Surroundings) (s₀ : ListenerLoop η) :
    Carried fun s => s.shuttingDown = false ∧ (Unheld s₀ → Resumed w a s₀ s) := by
  intro _ s s' hm h
  rw [hm.rest]
  exact h

/-- The listening socket is registered when the listener becomes ready. -/
theorem listenerRouteRuntimeReady_steady (socketAdd : Bool) (h : Steady w s) :
    After Exited (listenerRouteRuntimeReady socketAdd)
      (fun _ t => Steady w t ∧ ∃ ready listening, t = { s with ready, listening }) s := by
  refine after_require h.exited fun _ => ⟨?_, true, _, rfl⟩
  obtain ⟨fd, hfd, hsockets⟩ := h.bound
  refine { h with books := { h.books with }, bound := ⟨fd, hfd, ?_⟩ }
  change s.listening.fd.elim s.listening.sockets
    (fun fd => socketRegister s.listening.sockets fd true) = _
  rw [hfd, hsockets]
  simp only [Option.elim, socketRegister, List.map_cons, List.map_nil, if_pos]

/-- A schedule changes the readiness and the timer. -/
theorem listenerRouteRuntimeSchedule_steady (schedule : ScheduleAnswers) (h : Steady w s) :
    After Exited (listenerRouteRuntimeSchedule schedule)
      (fun _ t => Steady w t ∧ ∃ supervision ready listening routeTimer,
        t = { s with supervision, ready, listening, routeTimer }) s := by
  have hcalled := h.supervise
  refine after_modify (after_require hcalled.exited fun _ => after_get (after_bind ?_))
  refine After.mono (Q := fun _ t => Steady w t ∧ ∃ ready listening, t = { s with
    supervision := s.supervision.call s.routeNow, ready, listening }) ?_ fun _ t ht => ?_
  · exact after_onlyIf (fun _ => listenerRouteRuntimeReady_steady schedule.socketAdd hcalled)
      fun _ => ⟨hcalled, _, _, rfl⟩
  · obtain ⟨hsteady, ready, listening, rfl⟩ := ht
    refine after_get (after_require hsteady.exited fun _ => ⟨hsteady.flags _ _ _ _, ?_⟩)
    exact ⟨_, _, _, _, rfl⟩

theorem turnServe_steady (events : List (ReadyEvent × Nat)) (pass : Bool) (h : GoingOn w a s₀ s) :
    After Exited (turnServe a events pass) (fun _ t => GoingOn w a s₀ t) s := by
  refine after_forM _ (fun event _ t ht => after_lift ?_) h
  have hstep := focusStep_steady (goingOn_carried a w s₀)
    (eventServeOpen_served event.1 t.routeNow (a.serve event.2))
    (connectionPlace t event.1.connection) ht
  exact after_require_pure hstep.1.exited fun _ => hstep

/-- No connection is closing. -/
def AllOpen (s : ListenerLoop η) : Prop := ∀ c ∈ s.connections, c.closing = false

/-- The closed connections are gone, and the count is right again. -/
theorem turnDestroy_steady (h : GoingOn w a s₀ s) :
    After Exited (turnDestroy a) (fun _ t => GoingOn w a s₀ t ∧ AllOpen t) s := by
  refine after_get (after_lift ?_)
  obtain ⟨hbooks, hmoved, hlength, hrest⟩ := destroyClosed_books s.routeNow a.destroy
    s.connections.length 0 h.1.books (Nat.zero_add _).ge
  have hcarried := goingOn_carried a w s₀ _ _ hmoved h.2
  generalize destroyClosed s.routeNow a.destroy s.connections.length 0 s = result
    at hbooks hmoved hlength hrest hcarried ⊢
  obtain ⟨ok, count, t⟩ := result
  dsimp only at hbooks hmoved hlength hrest hcarried ⊢
  have hcount : t.connectionCount = s.connectionCount := by
    rw [hmoved.rest]
    rfl
  have hcounted := h.1.counted
  have hsteady : ∀ {count : Nat}, count = t.connections.length →
      Steady w { t with connectionCount := count } := fun hlength =>
    h.1.moved hbooks hmoved hlength fun hd => Bool.noConfusion (hcarried.1.symm.trans hd)
  refine after_require { (hsteady rfl).exited with books := hbooks } fun _ =>
    ⟨⟨hsteady ?_, hcarried⟩, fun c hc => ?_⟩
  · omega
  · have hmem : c ∈ t.connections := hc
    rw [hrest, List.take_zero, List.nil_append, List.mem_filter, Bool.not_eq_true'] at hmem
    exact hmem.2

/-- A reload that is pending while the listener is ready is waiting for a connection that refers to
    the retired generation, or the timer has expired. -/
def Deferred (s : ListenerLoop η) : Prop :=
  s.ready = true → s.hostsReloadPending = true ∨ s.reloadPending = true →
    (∃ p, s.generations.retired = some p ∧ ∃ c ∈ s.connections, 0 < c.held p) ∨
    ∃ t, s.routeTimer = some t ∧ t ≤ s.clock

/-- **The timer is armed for a reload nothing stands in the way of.** -/
theorem turnLateArm_deferred (h : GoingOn w a s₀ s) (hopen : AllOpen s)
    (hretired : s.generations.retired = none ∨
      ∃ p, s.generations.retired = some p ∧ ∃ c ∈ s.connections, 0 < c.held p) :
    After Exited (turnLateArm a)
      (fun _ t => GoingOn w a s₀ t ∧ AllOpen t ∧ Deferred t) s := by
  refine after_get (after_onlyIf (fun _ => after_bind ?_) fun hnot => ?_)
  · refine after_routeClock _ h.1.exited h.1.books.clock fun clock hle hvalid => ?_
    have hclock := h.1.clock hle hvalid
    have hpositive : clock ≠ ⟨0, 0⟩ := (h.1.running.trans_le hle).ne'
    refine after_get (after_require hclock.exited fun _ => ?_)
    refine ⟨⟨hclock.flags _ _ _ _, h.2⟩, hopen, fun _ _ => Or.inr ⟨clock, ?_, le_rfl⟩⟩
    exact if_neg hpositive
  · refine ⟨h, hopen, fun hready hpending => Or.inl (hretired.resolve_left fun hnone => ?_)⟩
    have hboth : (s.hostsReloadPending || s.reloadPending) = true := by
      rw [Bool.or_eq_true]
      exact hpending
    rw [hready, hboth, hnone] at hnot
    cases hnot

/-- What a turn starts from and restores. -/
structure Head (w : Surroundings) (s : ListenerLoop η) : Prop where
  steady : Steady w s
  opened : AllOpen s
  deferred : s.shuttingDown = false → Deferred s

/-- What a turn ends with. -/
def TurnEnd (w : Surroundings) (a : TurnAnswers η) (s₀ s : ListenerLoop η) : Prop :=
  Head w s ∧ (s.shuttingDown = false → Unheld s₀ → Resumed w a s₀ s)

theorem turnAccept_end (h : GoingOn w a s₀ s) (hopen : AllOpen s) (hdeferred : Deferred s) :
    After Exited (turnAccept a r) (fun _ t => TurnEnd w a s₀ t) s := by
  have hkeep : TurnEnd w a s₀ s := ⟨⟨h.1, hopen, fun _ => hdeferred⟩, fun _ => h.2.2⟩
  refine after_get (after_onlyIf (fun _ => ?_) fun _ => hkeep)
  have hsteady : ∀ {t}, Books t → Joined s t → Steady w t := by
    intro t hbooks hjoined
    have hdown : t.shuttingDown = false := hjoined.untouched.shuttingDown.trans h.2.1
    exact h.1.untouched hjoined.untouched hbooks hjoined.toKept nofun
      (hjoined.counted h.1.counted) fun hd => Bool.noConfusion (hdown.symm.trans hd)
  refine (acceptAttempts_books h.1.books h.1.counted h.1.limit _).imp ?_ ?_
  · rintro t ⟨hbooks, hjoined⟩
    exact (hsteady hbooks hjoined).exited
  · rintro _ t ⟨hbooks, hjoined⟩
    have hu := hjoined.untouched
    refine ⟨⟨hsteady hbooks hjoined, fun c hc => (hjoined.opened c hc).elim (hopen c) id,
      fun _ => ?_⟩, fun _ hf => hjoined.rest ▸ h.2.2 hf⟩
    intro hready hpending
    rw [hu.hosts, hu.reload] at hpending
    rcases hdeferred (hu.ready ▸ hready) hpending with ⟨p, hp, c, hc, hheld⟩ | ⟨time, ht, hle⟩
    · exact Or.inl ⟨p, hjoined.retired.trans hp, c, hjoined.stay c hc, hheld⟩
    · exact Or.inr ⟨time, hu.timer.trans ht, hle.trans hjoined.clock⟩

/-- **The second half of a turn.** -/
theorem turnGoOn_end (events : List ReadyEvent) (reloadProcessed : Bool)
    (h : SteadyUntil w (bif reloadProcessed then s.clock else s.routeNow) s ∧
      s.shuttingDown = false ∧ (Unheld s₀ → Resumed w a s₀ s)) :
    After Exited (turnGoOn a r events reloadProcessed) (fun _ t => TurnEnd w a s₀ t) s := by
  refine after_bind (After.mono (Q := fun _ t => GoingOn w a s₀ t) ?_ fun _ t ht => ?_)
  · refine after_onlyIf (fun _ => after_bind ?_) fun hidle => ?_
    · refine after_routeClock _ h.1.exited h.1.books.clock fun clock hle hvalid => ?_
      refine (listenerRouteRuntimeSchedule_steady a.schedule (h.1.clock hle hvalid)).mono ?_
      rintro _ t ⟨hsteady, supervision, ready, listening, timer, rfl⟩
      exact ⟨hsteady, h.2⟩
    · cases reloadProcessed with
      | true =>
        rw [Bool.or_true] at hidle
        cases hidle
      | false => exact h
  refine after_bind ((turnServe_steady a events.zipIdx false ht).mono fun _ t ht => ?_)
  refine after_bind (after_routeClock _ ht.1.exited ht.1.books.clock fun clock hle hvalid => ?_)
  have hclock : GoingOn w a s₀ { t with clock, routeNow := clock } := ⟨ht.1.clock hle hvalid, ht.2⟩
  refine after_bind ((turnServe_steady a events.zipIdx true hclock).mono fun _ t ht => ?_)
  refine after_bind ((turnDestroy_steady a ht).mono fun _ t ht => ?_)
  obtain ⟨ht, hopen⟩ := ht
  refine after_bind ((listenerGenerationCollect_steady a.collectAgain ht.1).mono fun _ u hu => ?_)
  obtain ⟨hsteady, ⟨generations, supervision, rfl⟩, hretired⟩ := hu
  have hheld : generations.retired = none ∨
      ∃ p, generations.retired = some p ∧ ∃ c ∈ t.connections, 0 < c.held p :=
    hretired.imp_right fun ⟨p, hp, _, hc⟩ => ⟨p, hp, hc⟩
  have hgoing : GoingOn w a s₀ { t with generations, supervision } := ⟨hsteady, ht.2⟩
  refine after_bind ((turnLateArm_deferred a hgoing hopen hheld).mono fun _ u hu => ?_)
  exact turnAccept_end a r hu.1 hu.2.1 hu.2.2

/-- **A turn restores what it starts from**, or leaves the loop with the books kept.  If the
    listener is ready and nobody refers to the retired generation, a pending reload is carried
    out. -/
theorem listenerLoopTurn_end (h : Head w s) :
    After Exited (listenerLoopTurn w a) (fun _ t => TurnEnd w a s t) s := by
  unfold listenerLoopTurn
  cases a.requests with
  | none => exact h.steady.exited
  | some r =>
    have hbefore : Before s s := ⟨(·.ready), (·.released), rfl, id, id⟩
    refine after_get (after_bind
      ((turnBegin_steady a r _ ⟨h.steady, hbefore⟩).mono fun _ t ht => ?_))
    refine after_get (after_ite (fun hdown => ?_) fun hup => ?_)
    · refine after_require_pure ht.1.exited fun _ => ⟨⟨ht.1, ?_, ?_⟩, ?_⟩
      · intro c hc
        rw [ht.1.down hdown] at hc
        cases hc
      · intro hup
        rw [hup] at hdown
        cases hdown
      · intro hup
        rw [hup] at hdown
        cases hdown
    · have htaking : TakingUp w s t := ⟨ht.1, Bool.eq_false_iff.2 hup, ht.2⟩
      refine after_bind ((turnTakeUp_steady a r htaking).mono fun processed u hu => ?_)
      exact turnGoOn_end a r _ processed hu

/-! ## 5. The start -/

section Start

variable {config : Conf} {cache : Option Bytes} {log : Bytes} {endpoint : ListenerEndpoint}
  {routes : RouteTable} {clock : Timespec} (answers : StartAnswers η)

theorem loopBlank_books (hvalid : timeutilValid clock = true) :
    Books (loopBlank config cache log endpoint routes clock answers) := by
  have hnone : ∀ {P : ListenerConnection → Prop}, ∀ c ∈ ([] : List ListenerConnection), P c :=
    fun c hc => absurd hc List.not_mem_nil
  refine ⟨List.nodup_nil, hnone, .empty, .blank, hnone, hnone, ⟨rfl, rfl⟩,
    ⟨List.nodup_nil, fun _ => Iff.rfl, ?_⟩, ?_, fun _ => rfl, hnone, hvalid⟩
  · exact Nat.zero_le _
  · exact Nat.zero_le _

/-- What the start leaves to the first head. -/
structure Started (w : Surroundings) (time : Timespec) (s : ListenerLoop η) : Prop where
  steady : SteadyUntil w time s
  connections : s.connections = []
  hosts : s.hostsReloadPending = false
  reload : s.reloadPending = false

theorem Started.head (h : Started w s.routeNow s) : Head w s where
  steady := h.steady
  opened c hc := by
    rw [h.connections] at hc
    cases hc
  deferred _ _ hpending := by
    rw [h.hosts, h.reload] at hpending
    rcases hpending with hpending | hpending
    · cases hpending
    · cases hpending

/-- The loop before its first generation. -/
structure Blank (w : Surroundings) (s : ListenerLoop η) : Prop where
  books : Books s
  routes : routeTableBuild w.netAddrParse s.current.config.proxy = some s.current.routes
  bound : ∃ fd, s.listening.fd = some fd ∧
    s.listening.sockets = [⟨fd, s.listening.endpoint, s.ready⟩]
  retired : s.generations.retired = none
  publishes : s.publishes = []
  counted : s.connectionCount = 0
  limit : s.connectionLimit ≤ listenerConnectionLimitMaximum
  running : ⟨0, 0⟩ < s.clock
  supervised : s.supervision.Until s.clock
  connections : s.connections = []
  hosts : s.hostsReloadPending = false
  reload : s.reloadPending = false

/-- What the first generation leaves to the loop. -/
theorem Blank.published (h : Blank w s) {contents : RouteContents η} {server : ListenerServer η}
    {left : Option Nat}
    (hroutes : routeTableBuild w.netAddrParse contents.config.proxy = some contents.routes)
    (hp : Published (fun p => tally (·.held p) s.connections) s.toListenerServer s.listening
      contents (.ok, left) server) :
    Started w server.clock { s with toListenerServer := server } := by
  obtain ⟨hleft, hcurrent⟩ := hp.ok rfl
  subst hleft
  have haccount := hp.accounted
  have hnone : .blocked ∉ s.publishes := by
    rw [h.publishes]
    exact List.not_mem_nil
  refine ⟨⟨h.books.framed hp.framed haccount, hp.contents rfl, ?_, ?_, hp.free h.retired hnone, ?_,
    h.limit, h.running.trans_le (hp.framed.clock h.books.clock).1, fun _ => h.connections, le_rfl,
    hp.framed.supervised h.books.clock h.supervised⟩, h.connections, h.hosts, h.reload⟩
  · rw [hcurrent]
    exact hroutes
  · rw [hp.listening]
    exact h.bound
  · rw [h.counted, h.connections]
    rfl

theorem startGeneration_started (h : Blank w s) :
    After (fun _ => True) (startGeneration answers) (fun _ t => Started w t.clock t) s := by
  have hcreated : Prepared w _ s.toListenerServer s.listening s.current.config
      s.current.hosts _ _ :=
    listenerGenerationCreate_prepared h.routes answers.create s.toListenerServer
      (.refl h.books.accounted)
  refine after_get (after_lift ?_)
  unfold serverStep
  generalize exec (listenerGenerationCreate s.current answers.create) s.toListenerServer = result
    at hcreated ⊢
  obtain ⟨status, server⟩ := result
  cases status with
  | candidateError => exact trivial
  | timeError => exact trivial
  | ok p =>
    obtain ⟨hunmoved, routes, hroutes, hcontents⟩ := hcreated
    refine after_lift (after_require_pure trivial fun hok => ?_)
    have hpublished := listenerGenerationPublish_published answers.publish server
      ⟨hunmoved, hcontents⟩
    generalize exec (listenerGenerationPublish p answers.publish) server = result
      at hpublished hok ⊢
    obtain ⟨⟨status, left⟩, server'⟩ := result
    have hstatus : status = .ok := of_decide_eq_true hok
    subst hstatus
    exact h.published hroutes hpublished

theorem startRuntime_started (h : Started w s.clock s) :
    After (fun _ => True) (startRuntime answers) (fun _ t => Started w t.routeNow t) s := by
  refine after_bind (after_routeClock _ trivial h.steady.books.clock fun clock hle hvalid => ?_)
  have hclock := h.steady.clock hle hvalid
  refine after_get ?_
  split
  · exact trivial
  · rename_i deadline _
    have htimer := hclock.flags s.hostsReloadPending s.reloadPending
      ((some deadline).bind timerArmed) deadline
    refine after_modify (after_bind (after_require trivial fun _ => ?_))
    refine (listenerRouteRuntimeSchedule_steady answers.schedule htimer).imp (fun _ _ => trivial) ?_
    rintro _ t ⟨hsteady, supervision, ready, listening, timer, rfl⟩
    exact ⟨hsteady, h.connections, h.hosts, h.reload⟩

/-- **The loop starts at a head.** -/
theorem listenerLoopStart_head (hvalid : timeutilValid clock = true) (hrunning : ⟨0, 0⟩ < clock)
    (h : listenerLoopStart w config cache log clock answers = some s) : Head w s := by
  unfold listenerLoopStart at h
  split at h
  case h_2 => cases h
  rename_i endpoint routes _ hroutes
  have hblank : Blank w (loopBlank config cache log endpoint routes clock answers) :=
    ⟨loopBlank_books answers hvalid, hroutes, ⟨answers.fd, rfl, rfl⟩, rfl, rfl, rfl,
      listenerConnectionLimit_le answers.rlimit, hrunning, fun _ => List.pairwise_singleton .., rfl,
      rfl, rfl⟩
  have hstarted : After (fun _ => True) (do startGeneration answers; startRuntime answers)
      (fun _ t => Started w t.routeNow t)
      (loopBlank config cache log endpoint routes clock answers) :=
    after_bind ((startGeneration_started answers hblank).mono fun _ _ ht =>
      startRuntime_started answers ht)
  unfold After at hstarted
  split at h
  · rename_i hrun
    cases h
    rw [hrun] at hstarted
    exact hstarted.head
  · cases h

end Start

/-! ## 6. Runs -/

/-- The states in which the loop waits for events.  The clock is one of a system that is up. -/
inductive AtHead (w : Surroundings) : ListenerLoop η → Prop where
  | start {s : ListenerLoop η} (config : Conf) (cache : Option Bytes) (log : Bytes)
      (clock : Timespec) (answers : StartAnswers η) (valid : timeutilValid clock = true)
      (running : ⟨0, 0⟩ < clock)
      (started : listenerLoopStart w config cache log clock answers = some s) : AtHead w s
  | turn {s t : ListenerLoop η} (answers : TurnAnswers η) (head : AtHead w s)
      (turned : listenerLoopTurn w answers s = .ok ⟨⟩ t) : AtHead w t

/-- **What a turn restores holds at every head.** -/
theorem AtHead.head (h : AtHead w s) : Head w s := by
  induction h with
  | start config cache log clock answers valid running started =>
    exact listenerLoopStart_head answers valid running started
  | turn answers head turned ih =>
    have hend := listenerLoopTurn_end answers ih
    unfold After at hend
    rw [turned] at hend
    exact hend.1

/-- The next head, if the loop is not left. -/
def stayed : EStateM.Result Unit (ListenerLoop η) PUnit → Option (ListenerLoop η)
  | .ok _ t => some t
  | .error _ _ => none

theorem stayed_eq_some {r : EStateM.Result Unit (ListenerLoop η) PUnit} (h : stayed r = some s) :
    r = .ok ⟨⟩ s := by
  cases r with
  | ok _ t =>
    cases h
    rfl
  | error e t => cases h

/-- The states in which the loop is left. -/
def Left (w : Surroundings) (t : ListenerLoop η) : Prop :=
  ∃ s answers, AtHead w s ∧ listenerLoopTurn w answers s = .error () t

theorem Left.exited {t : ListenerLoop η} (h : Left w t) : Exited t := by
  obtain ⟨s, answers, head, hleft⟩ := h
  have hend := listenerLoopTurn_end answers head.head
  unfold After at hend
  rw [hleft] at hend
  exact hend

/-! ## 7. Any interleaving -/

/-- A step of the listener, as far as connections, workers and generations are concerned. -/
inductive ListenerMove (η : Type) where
  | accept (create : CreateAnswers)
  | event (event : ReadyEvent) (now : Timespec) (answers : ConnectionAnswers)
  | cancel (event : ReadyEvent)
  | resume (connection : Nat) (now : Timespec) (answers : ConnectionAnswers)
  | destroy (connection : Nat) (outcome : ListenerMetricsOutcome) (supervised : Bool)
      (now : Option Timespec) (status : RouteWaiterDestroyStatus)
  | shutdown (now : Timespec) (status : Nat → RouteWaiterDestroyStatus)
  | reap (answer : Nat → WaitAnswer)
  | collect (now : Timespec) (release : RouteResolutionReleaseStatus)
  | reload (answers : ReloadAnswers η)
  | hostsReload (answers : HostsReloadAnswers η)

/-- A reload, which is taken up when the listener is ready and nothing is retired.  A failure leaves
    the loop. -/
def reloadMove (s : ListenerLoop η) (m : StateM (ListenerServer η) Bool) :
    Option (ListenerLoop η) :=
  if s.ready && s.generations.retired.isNone then
    let r := serverStep m s
    if r.1 then some r.2 else none
  else some s

/-- What a step does.  A client is taken where there is a place. -/
def listenerMove (w : Surroundings) (s : ListenerLoop η) :
    ListenerMove η → Option (ListenerLoop η)
  | .accept create =>
    if s.connections.length + s.workers.length < s.connectionLimit then
      some (reached (acceptTrack create s))
    else some s
  | .event event now answers =>
    some (focusStep (connectionPlace s event.connection) (eventServeOpen event now answers) s).2
  | .cancel event => some (focusStep (connectionPlace s event.connection) (eventMark event) s).2
  | .resume connection now answers =>
    some (focusStep (connectionPlace s connection) (routeResume now answers) s).2
  | .destroy connection outcome supervised now status =>
    some (destroyStep outcome supervised now (fun _ => status) (connectionPlace s connection) s).2
  | .shutdown now status =>
    some (destroyAll .shutdown true (some now) status s.connections.length s).2
  | .reap answer => some (listenerWorkersReap answer s).2
  | .collect now release =>
    some { s with generations := (registryCollect s.generations now release).2 }
  | .reload answers => reloadMove s (listenerReload w answers)
  | .hostsReload answers => reloadMove s (listenerHostsReload w answers)

/-- What the steps keep in any order. -/
structure Movable (w : Surroundings) (s : ListenerLoop η) : Prop where
  books : Books s
  limit : s.connectionLimit ≤ listenerConnectionLimitMaximum
  coherent : s.ready = true →
    Coherent w (fun p => tally (·.held p) s.connections) s.toListenerServer

theorem Steady.movable (h : Steady w s) : Movable w s := ⟨h.books, h.limit, h.coherent⟩

theorem Movable.untouched (h : Movable w s) (hu : Untouched s s') (hb : Books s')
    (hcontents : s'.generations.contents s'.generations.active =
      s.generations.contents s.generations.active) : Movable w s' := by
  refine ⟨hb, hu.limit ▸ h.limit, fun hready => ?_⟩
  have hcoherent := h.coherent (hu.ready ▸ hready)
  refine ⟨hb.accounted, ?_, ?_, ?_⟩
  · rw [hcontents, hu.current]
    exact hcoherent.contents
  · rw [hu.current]
    exact hcoherent.routes
  · rw [hu.listening]
    exact hcoherent.single

theorem Movable.moved {now : Option Timespec} (h : Movable w s) (hb : Books s')
    (hm : Moved now s s') : Movable w s' :=
  h.untouched hm.untouched hb hm.contents

/-- A reload keeps it, unless it leaves the loop. -/
theorem reloadMove_movable {m : StateM (ListenerServer η) Bool} {t : ListenerLoop η}
    (h : Movable w s)
    (hm : s.ready = true → Renewed w (fun p => tally (·.held p) s.connections) s.toListenerServer
      (exec m s.toListenerServer).1 (exec m s.toListenerServer).2)
    (ht : reloadMove s m = some t) : Movable w t := by
  unfold reloadMove serverStep at ht
  split at ht
  · rename_i hdue
    rw [Bool.and_eq_true] at hdue
    have hrenewed := hm hdue.1
    dsimp only at ht
    split at ht
    · rename_i hok
      cases ht
      exact ⟨h.books.framed hrenewed.framed hrenewed.accounted, h.limit,
        fun _ => hrenewed.coherent hok⟩
    · cases ht
  · cases ht
    exact h

/-- **Every step keeps the books**, and what a reload starts from. -/
theorem listenerMove_movable {move : ListenerMove η} {t : ListenerLoop η} (h : Movable w s)
    (ht : listenerMove w s move = some t) : Movable w t := by
  cases move with
  | accept create =>
    simp only [listenerMove] at ht
    split at ht
    · rename_i hroom
      cases ht
      refine (acceptTrack_books create h.books hroom h.limit).elim
        (P := fun _ t => Movable w t) ?_ ?_
      · rintro t rfl
        exact h
      · rintro _ t ⟨hbooks, hjoined⟩
        exact h.untouched hjoined.untouched hbooks hjoined.contents
    · cases ht
      exact h
  | event event now answers =>
    cases ht
    have hstep := focusStep_books (eventServeOpen_served event now answers) h.books
      (connectionPlace s event.connection)
    exact h.moved hstep.1 hstep.2.1
  | cancel event =>
    cases ht
    have hstep := focusStep_books (eventMark_served event s.routeNow) h.books
      (connectionPlace s event.connection)
    exact h.moved hstep.1 hstep.2.1
  | resume connection now answers =>
    cases ht
    have hstep := focusStep_books (routeResume_served now answers) h.books
      (connectionPlace s connection)
    exact h.moved hstep.1 hstep.2.1
  | destroy connection outcome supervised now status =>
    cases ht
    have hstep := destroyStep_books outcome supervised now (fun _ => status) h.books
      (connectionPlace s connection)
    exact h.moved hstep.1 hstep.2.1
  | shutdown now status =>
    cases ht
    have hstep := destroyAll_books .shutdown true (some now) status s.connections.length h.books
    exact h.moved hstep.1 hstep.2.1
  | reap answer =>
    cases ht
    have hstep := listenerWorkersReap_books answer h.books
    exact h.moved hstep.1 (hstep.2.1 none)
  | collect now release =>
    cases ht
    have hbooks := h.books.collect now release
    refine h.untouched ⟨rfl, rfl, rfl, rfl, rfl, rfl, rfl, rfl, rfl, rfl⟩ hbooks ?_
    exact (Generations.Persists.collect s.generations now release).active_contents h.books.accounted
      hbooks.accounted (registryCollect_active _ now release)
  | reload answers =>
    exact reloadMove_movable h
      (fun hready => (listenerReload_reloaded (h.coherent hready) answers).toRenewed) ht
  | hostsReload answers =>
    exact reloadMove_movable h
      (fun hready => (listenerHostsReload_restored (h.coherent hready) answers).toRenewed) ht

theorem listenerMoves_movable {moves : List (ListenerMove η)} {t : ListenerLoop η}
    (h : Movable w s) (ht : moves.foldlM (listenerMove w) s = some t) : Movable w t := by
  induction moves generalizing s with
  | nil =>
    cases ht
    exact h
  | cons move moves ih =>
    obtain ⟨u, hu, ht⟩ := Option.bind_eq_some_iff.1 ht
    exact ih (listenerMove_movable h hu) ht

/-- The end of the loop keeps the books and leaves no connection. -/
theorem listenerCleanup_books (clock : Option Nat) (h : Books s) :
    Books (listenerCleanup clock s) ∧ (listenerCleanup clock s).connections = [] := by
  have hclock : Books (clock.elim s fun advance => { s with clock := s.clock.later advance }) := by
    cases clock with
    | none => exact h
    | some advance => exact { h with clock := (Timespec.later_spec h.clock advance).2 }
  unfold listenerCleanup
  generalize (clock.elim s fun advance => { s with clock := s.clock.later advance }) = u at hclock ⊢
  obtain ⟨hbooks, _, hrest⟩ := destroyAll_books .internalError false (clock.map fun _ => u.clock)
    (fun _ => .ok) u.connections.length hclock
  exact ⟨hbooks, hrest.trans List.drop_length⟩

/-- The start with one destination and a file that is read well. -/
def smallStart : StartAnswers Unit where
  fd := 3
  hosts := ()
  create := true
  publish := ⟨some 1, .ok, .ok⟩
  rlimit := .failed
  clock := some 1
  deadlineTimerSet := true
  schedule := ⟨.complete, true, true, true⟩

/-- A client whose first packet is complete and takes the given route.  Where it has to wait, the
    resolver is not done; a worker is forked if there is none yet. -/
def smallConnection (route : ListenerConnectionRoute) : ConnectionAnswers where
  receives := [.complete true]
  timerRead := .expired
  timeoutClock := some 1
  identified := true
  route
  proxyRead := true
  waiterArguments := true
  waiterAllocated := true
  waiterProgress := .pending
  snapshotTake := true
  selectedFamily := none
  routeTimerSet := true
  routeInterests := true
  waiterDestroy := .ok
  snapshotTexts := true
  shortAction := .respond
  shortBuffer := true
  connect := .failure
  connectComplete := .failure
  shortTimerSet := true
  receive := .ended
  transfer := .going true
  idleTimerSet := true
  shortInterests := true
  refusal := .unidentified
  fork :=
    { pid children := if children = [] then some 7 else none
      fresh children p h := by
        split at h
        · subst children
          exact List.not_mem_nil
        · cases h }

/-- A turn with the given events of connections, in which three clients are accepted and the hosts
    have changed. -/
def smallTurn (polled : List PolledEvent) : TurnAnswers Unit where
  requests := some
    { acceptReady := true, childReady := false, hostsChanged := true, polled, reload := false,
      resolverReady := false, routeTimerReady := false, stop := false }
  routeClock := some 1
  resolverEvents := true
  timerDrain := true
  wait _ := .running
  stopClock := some 1
  stopDestroy _ := .ok
  stopTimerSet := true
  resolverShutdown := true
  shutdownComplete := false
  resume _ := smallConnection .shortWait
  collect := .ok
  notifyReloading := true
  reload := smallAnswers
  hostsReload := ⟨some (), true, ⟨true, true, some 1, true, true⟩, ⟨some 1, .ok, .ok⟩⟩
  scheduleClock := some 1
  schedule := ⟨.complete, true, true, true⟩
  serve i := smallConnection ([.shortLocal, .workerBypass, .shortWait].getD i .invalid)
  timeoutClock := some 1
  destroy _ := .ok
  collectAgain := .ok
  resumeClock := some 1
  resumeTimerSet := true
  accepts := List.replicate 3 (.accepted ⟨true, some 1, true, true, true, true⟩)

/-- The run with the given events in each turn. -/
def smallRun (turns : List (List PolledEvent)) : Option (ListenerLoop Unit) := do
  let s ← listenerLoopStart smallSurroundings smallConf none (ascii "/") ⟨1, 0⟩ smallStart
  turns.foldlM (fun s polled => stayed (listenerLoopTurn smallSurroundings (smallTurn polled) s)) s

theorem smallRun_atHead {turns : List (List PolledEvent)} {s : ListenerLoop Unit}
    (h : smallRun turns = some s) : AtHead smallSurroundings s := by
  unfold smallRun at h
  obtain ⟨s₀, hstart, hturns⟩ := Option.bind_eq_some_iff.1 h
  have hhead : AtHead smallSurroundings s₀ :=
    .start smallConf none (ascii "/") ⟨1, 0⟩ smallStart rfl (by decide) hstart
  clear h hstart
  induction turns generalizing s₀ with
  | nil =>
    cases hturns
    exact hhead
  | cons polled turns ih =>
    obtain ⟨s₁, hturn, hturns⟩ := Option.bind_eq_some_iff.1 hturns
    exact ih s₁ hturns (.turn (smallTurn polled) hhead (stayed_eq_some hturn))

/-- Three clients come.  The first is answered by the listener itself, the second goes to a worker,
    the third waits for its route and keeps the generation that the second turn retires. -/
def smallTurns : List (List PolledEvent) :=
  [[], [⟨0, .client, { epollin := true }⟩, ⟨1, .client, { epollin := true }⟩,
    ⟨2, .client, { epollin := true }⟩], []]

/-- What the small run is about: the connections and the workers, the requests that have started
    and those that wait, and whether a reload waits for the retired generation. -/
def smallValues (s : ListenerLoop Unit) : Nat × Nat × Nat × Nat × Bool × Bool :=
  (s.connectionCount, s.workers.length, s.metrics.counters (.requestsStarted .short),
    s.connections.countP (·.routeMetrics.pending), s.hostsReloadPending, s.generations.retired.any
      fun p => s.connections.any fun c => decide (0 < c.held p))

theorem smallRun_values :
    (smallRun smallTurns).map smallValues = some (8, 1, 2, 1, true, true) := by
  decide +kernel

/-! ## 8. What holds in every run -/

/-- The registry under any calls, and the registry of the loop. -/
structure RegistryGuarantee (γ η : Type) : Prop where
  sound : ∀ calls : List (RegistryCall γ), RegistrySound (registryRun calls)
  free : ∀ (w : Surroundings) (s : ListenerLoop η), AtHead w s ∨ Left w s → .blocked ∉ s.publishes

/-- **The generation registry**, and that the loop never meets a publication that is blocked. -/
theorem generationRegistry_guarantee (γ η : Type) : RegistryGuarantee γ η where
  sound calls := (registryRun_accounted calls).sound
  free _ _ h := h.elim (fun hs => hs.head.steady.free) fun hs => hs.exited.free

/-- The places for connections and workers. -/
structure Capacity (s : ListenerLoop η) : Prop where
  listed : s.connectionCount = s.connections.length
  connections : s.metrics.counters .connectionsCurrent = s.connectionCount
  few : s.workers.length ≤ listenerWorkerLimit
  distinct : s.workers.Nodup
  /-- The table holds the worker processes nobody has waited for. -/
  unreaped : ∀ p, p ∈ s.workers ↔ p ∈ s.children
  workers : s.metrics.counters .workersCurrent = s.workers.length
  bounded : s.connectionCount + s.workers.length ≤ s.connectionLimit

/-- **The capacity is kept at every head.** -/
theorem loopHead_capacity (h : AtHead w s) : Capacity s := by
  have hhead := h.head
  have hbooks := hhead.steady.books
  have hcounted := hhead.steady.counted
  refine ⟨hcounted, hbooks.gauges.connections.trans hcounted.symm, hbooks.workers.few,
    hbooks.workers.distinct, hbooks.workers.unreaped, hbooks.gauges.workers, ?_⟩
  -- nobody is closing, so every connection takes a place
  have hall : tally ListenerConnection.opened s.connections = s.connections.length := by
    have hone : tally ListenerConnection.opened s.connections =
        tally (fun _ => 1) s.connections := by
      unfold tally
      congr 1
      refine List.map_congr_left fun c hc => ?_
      rw [ListenerConnection.opened, hhead.opened c hc]
      rfl
    rw [hone]
    unfold tally
    rw [List.map_const', List.sum_replicate_nat, Nat.mul_one]
  have hroom := hbooks.room
  omega

theorem loopHead_capacity_small :
    ∃ s : ListenerLoop Unit, AtHead smallSurroundings s ∧ s.connectionCount = 8 ∧
      s.workers.length = 1 ∧ Capacity s := by
  obtain ⟨s, hs, hvalues⟩ := Option.map_eq_some_iff.1 smallRun_values
  simp only [smallValues, Prod.mk.injEq] at hvalues
  exact ⟨s, smallRun_atHead hs, hvalues.1, hvalues.2.1, loopHead_capacity (smallRun_atHead hs)⟩

/-- What becomes of a reload that is put off. -/
structure ReloadKept (w : Surroundings) (s : ListenerLoop η) : Prop where
  deferred : s.ready = true → s.shuttingDown = false →
    s.hostsReloadPending = true ∨ s.reloadPending = true →
      (∃ p, s.generations.retired = some p ∧ ∃ c ∈ s.connections, 0 < c.held p) ∨
      ∃ t, s.routeTimer = some t ∧ t ≤ s.clock
  /-- Once no connection refers to the retired generation, the next turn takes it up: nothing is
      pending any more, and the reload has been carried out. -/
  takenUp : ∀ answers t, listenerLoopTurn w answers s = .ok ⟨⟩ t → s.ready = true →
    t.shuttingDown = false →
    (∀ p, s.generations.retired = some p → ∀ c ∈ s.connections, c.held p = 0) →
      t.hostsReloadPending = false ∧ t.reloadPending = false ∧
      (s.hostsReloadPending = true ∨ s.reloadPending = true → Reran w answers s t)

/-- **A reload that is put off is not forgotten.** -/
theorem loopHead_reloadKept (h : AtHead w s) : ReloadKept w s where
  deferred hready hdown := h.head.deferred hdown hready
  takenUp answers t ht hready hdown hreleased := by
    have hend := listenerLoopTurn_end answers h.head
    unfold After at hend
    rw [ht] at hend
    exact hend.2 hdown ⟨hready, hreleased⟩

/-- The client that waits goes away in a fourth turn; in a fifth the reload is carried out. -/
theorem smallRun_resumes :
    ((smallRun (smallTurns ++ [[⟨2, .client, { epollhup := true }⟩]])).bind fun s =>
      (stayed (listenerLoopTurn smallSurroundings (smallTurn []) s)).map fun t =>
        (s.hostsReloadPending, s.generations.retired, s.ready, t.shuttingDown,
          s.generationNextIdentity, t.generationNextIdentity)) =
      some (true, none, true, false, 4, 5) := by
  decide +kernel

theorem loopHead_reloadKept_small :
    (∃ s : ListenerLoop Unit, AtHead smallSurroundings s ∧ s.hostsReloadPending = true ∧
      (∃ p, s.generations.retired = some p ∧ ∃ c ∈ s.connections, 0 < c.held p) ∧
      ReloadKept smallSurroundings s) ∧
    ∃ s t : ListenerLoop Unit, AtHead smallSurroundings s ∧ s.hostsReloadPending = true ∧
      listenerLoopTurn smallSurroundings (smallTurn []) s = .ok ⟨⟩ t ∧
      Reran smallSurroundings (smallTurn []) s t ∧
      s.generationNextIdentity < t.generationNextIdentity := by
  constructor
  · obtain ⟨s, hs, hvalues⟩ := Option.map_eq_some_iff.1 smallRun_values
    simp only [smallValues, Prod.mk.injEq, Option.any_eq_true, List.any_eq_true, decide_eq_true_eq]
      at hvalues
    obtain ⟨-, -, -, -, hpending, hheld⟩ := hvalues
    exact ⟨s, smallRun_atHead hs, hpending, hheld, loopHead_reloadKept (smallRun_atHead hs)⟩
  · obtain ⟨s, hs, ht⟩ := Option.bind_eq_some_iff.1 smallRun_resumes
    obtain ⟨t, ht, hvalues⟩ := Option.map_eq_some_iff.1 ht
    simp only [Prod.mk.injEq] at hvalues
    obtain ⟨hpending, hretired, hready, hdown, hs', ht'⟩ := hvalues
    have hkept := loopHead_reloadKept (smallRun_atHead hs)
    obtain ⟨-, -, hreran⟩ := hkept.takenUp (smallTurn []) t (stayed_eq_some ht) hready hdown
      fun p hp => absurd (hretired.symm.trans hp) nofun
    refine ⟨s, t, smallRun_atHead hs, hpending, stayed_eq_some ht, hreran (Or.inl hpending), ?_⟩
    rw [hs', ht']
    exact Nat.lt_succ_self 4

/-- The requests of the connections, in every order of steps and at the end. -/
structure RequestsSettled (w : Surroundings) (s : ListenerLoop η) : Prop where
  interleaved : ∀ (moves : List (ListenerMove η)) (t),
    moves.foldlM (listenerMove w) s = some t → RouteIdentity t
  left : ∀ answers t, listenerLoopTurn w answers s = .error () t →
    RouteIdentity t ∧ ∀ clock, RouteIdentity (listenerCleanup clock t) ∧
      (listenerCleanup clock t).connections = []

/-- **Every request is settled or pending, and is settled once.** -/
theorem loopHead_requestsSettled (h : AtHead w s) : RequestsSettled w s where
  interleaved moves t ht := (listenerMoves_movable h.head.steady.movable ht).books.identity
  left answers t ht := by
    have hleft : Left w t := ⟨s, answers, h, ht⟩
    refine ⟨hleft.exited.books.identity, fun clock => ?_⟩
    obtain ⟨hbooks, hnone⟩ := listenerCleanup_books clock hleft.exited.books
    exact ⟨hbooks.identity, hnone⟩

theorem loopHead_requestsSettled_small :
    ∃ s : ListenerLoop Unit, AtHead smallSurroundings s ∧
      s.metrics.counters (.requestsStarted .short) = 2 ∧
      s.connections.countP (·.routeMetrics.pending) = 1 ∧ RequestsSettled smallSurroundings s := by
  obtain ⟨s, hs, hvalues⟩ := Option.map_eq_some_iff.1 smallRun_values
  simp only [smallValues, Prod.mk.injEq] at hvalues
  obtain ⟨-, -, hstarted, hpending, -⟩ := hvalues
  exact ⟨s, smallRun_atHead hs, hstarted, hpending, loopHead_requestsSettled (smallRun_atHead hs)⟩

/-- No call is given an older time than one before it: so `resolver_supervisor_time_update` asks. -/
def InOrder (r : Supervision) : Prop :=
  r.times.Pairwise fun now last => timeutilCompare now last ≠ .lt

/-- **The supervisor is called in order**, unless a stale event finds a route timer due at a clock
    read after `route_now`. -/
theorem loop_supervisedInOrder (h : AtHead w s ∨ Left w s) (hlate : s.supervision.late = false) :
    InOrder s.supervision := by
  have hordered : s.supervision.times.Pairwise (· ≥ ·) := by
    rcases h with h | h
    · exact h.head.steady.supervised.ordered hlate
    · exact h.exited.ordered hlate
  refine hordered.imp fun hle hlt => ?_
  rw [timeutilCompare_eq_lt] at hlt
  exact absurd hle (not_le.2 hlt)

/-- A timer that is rearmed before its event is handled. -/
def staleEvents : List PolledEvent :=
  [⟨3, .client, { epollin := true }⟩, ⟨3, .timeout, { epollin := true }⟩]

theorem smallRun_stale :
    (smallRun (smallTurns ++ [staleEvents])).map (fun s =>
      (s.supervision.late, s.supervision.times.length)) = some (false, 17) := by
  decide +kernel

theorem loop_supervisedInOrder_stale :
    ∃ s : ListenerLoop Unit, AtHead smallSurroundings s ∧ s.supervision.times.length = 17 ∧
      s.supervision.late = false ∧ InOrder s.supervision := by
  obtain ⟨s, hs, hvalues⟩ := Option.map_eq_some_iff.1 smallRun_stale
  obtain ⟨hlate, hlength⟩ := Prod.ext_iff.1 hvalues
  exact ⟨s, smallRun_atHead hs, hlength, hlate,
    loop_supervisedInOrder (Or.inl (smallRun_atHead hs)) hlate⟩

/-- A turn eleven seconds later: a packet and the stale timer of one connection, then the route
    timer of another.  The clock goes on by eleven seconds again before the stale timer is looked
    at; the supervisor then refuses the time that is given to it for the second connection. -/
def lateTurn : TurnAnswers Unit :=
  { smallTurn (staleEvents ++ [⟨2, .timeout, { epollin := true }⟩]) with
    scheduleClock := some 11000000000
    serve i := { smallConnection .shortWait with
      timeoutClock := some 11000000000
      waiterProgress := [.pending, .timeout, .time].getD i .pending } }

theorem lateTurn_times :
    (smallRun smallTurns).map (fun s =>
      match listenerLoopTurn smallSurroundings lateTurn s with
      | .error _ t => t.supervision.times.take 3
      | .ok _ _ => []) = some [⟨12, 22⟩, ⟨12, 22⟩, ⟨23, 22⟩] := by
  decide +kernel

theorem loop_supervised_late :
    ∃ s : ListenerLoop Unit, Left smallSurroundings s ∧ ¬ InOrder s.supervision := by
  obtain ⟨s, hs, htimes⟩ := Option.map_eq_some_iff.1 lateTurn_times
  split at htimes
  · rename_i t hrun
    refine ⟨t, ⟨s, lateTurn, smallRun_atHead hs, hrun⟩, fun hordered => ?_⟩
    have hfirst := hordered.sublist (List.take_sublist 3 _)
    rw [htimes] at hfirst
    exact absurd hfirst (by decide)
  · cases htimes

end Loop

end MinecraftRelay
