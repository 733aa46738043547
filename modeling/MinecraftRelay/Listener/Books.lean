/-
  File:      Listener/Books.lean
  Subject:   THE BOOKS OF ALL CONNECTIONS, kept by every step of the listener's loop.

  `Books` sums the shares of Listener/Accounts.lean over the list of connections and compares them
  with the totals of the context.  A step of one connection sees the others as `around`; that it
  balances there is that the books are kept here.

  * `Books` -- references, route requests, gauges, workers, places and settlements;
  * `focusStep_books`, `destroyClosed_books`, `listenerWorkersReap_books`, `acceptAttempts_books`,
    ... -- the steps that keep them;
  * `RouteIdentity`, `Books.identity` -- started requests are settled or pending, and settled once.
-/
import MinecraftRelay.Library.Ledger
import MinecraftRelay.Listener.Accounts
import MinecraftRelay.Listener.Loop

namespace MinecraftRelay

open Stateful Scripted

namespace Loop

variable {η : Type}

variable {l : List ListenerConnection}

/-! ## 1. The books -/

/-- A share, summed over connections. -/
def tally (share : ListenerConnection → Nat) (l : List ListenerConnection) : Nat :=
  (l.map share).sum

/-- **The totals are what the connections have together.** -/
structure Books (s : ListenerLoop η) : Prop where
  distinct : ((s.connections ++ s.destroyed).map ListenerConnection.id).Nodup
  numbered : ∀ c ∈ s.connections ++ s.destroyed, c.id < s.nextConnection
  accounted : s.generations.Accounted fun p => tally (·.held p) s.connections
  account : ∀ mode, RouteAccount s.metrics mode
    (tally (·.routeMetrics.unsettled mode) s.connections)
    (tally (·.routeMetrics.waiting mode) s.connections)
  regular : ∀ c ∈ s.connections, c.routeMetrics.Regular
  tidy : ∀ c ∈ s.connections, c.routeMetrics.Tidy
  gauges : GaugesAt s.metrics s.connections.length s.workers.length
  workers : WorkerTable s.workers s.children
  room : tally ListenerConnection.opened s.connections + s.workers.length ≤ s.connectionLimit
  once : ∀ id, s.settlements.count id =
    tally (fun c => if c.id = id then c.settled else 0) (s.connections ++ s.destroyed)
  ended : ∀ c ∈ s.destroyed, c.routeMetrics.started = true → c.routeMetrics.settled = true
  clock : timeutilValid s.clock = true

/-! ## 2. One connection among the others -/

section Focus

variable {C : Supervision → Prop} {s : ListenerLoop η} {i : Nat} {c : ListenerConnection}

/-- What the connection at place `i` does not change. -/
def around (C : Supervision → Prop) (s : ListenerLoop η) (i : Nat) (c : ListenerConnection) :
    Around (RouteContents η) where
  id := c.id
  active := s.generations.active
  contents := s.generations.contents s.generations.active
  retired := s.generations.retired
  clock := s.clock
  workers := s.workers
  held p := tally (·.held p) (s.connections.eraseIdx i)
  mine p := 0 < c.held p
  unsettled mode := tally (·.routeMetrics.unsettled mode) (s.connections.eraseIdx i)
  waiting mode := tally (·.routeMetrics.waiting mode) (s.connections.eraseIdx i)
  opened := tally ListenerConnection.opened (s.connections.eraseIdx i)
  total := (s.connections.eraseIdx i).length
  settled id := tally (fun c => if c.id = id then c.settled else 0)
    (s.connections.eraseIdx i ++ s.destroyed)
  supervised := C

theorem tally_erase (share : ListenerConnection → Nat)
    (h : l[i]? = some c) : tally share (l.eraseIdx i) + share c = tally share l :=
  Ledger.sum_map_eraseIdx share h

theorem tally_append (share : ListenerConnection → Nat) (l l' : List ListenerConnection) :
    tally share (l ++ l') = tally share l + tally share l' := by
  unfold tally
  rw [List.map_append, List.sum_append]

theorem tally_le {share share' : ListenerConnection → Nat}
    (h : ∀ d ∈ l, share d ≤ share' d) : tally share l ≤ tally share' l :=
  List.sum_le_sum h

theorem tally_eq_zero {share : ListenerConnection → Nat}
    (h : ∀ d ∈ l, share d = 0) : tally share l = 0 := by
  refine List.sum_eq_zero fun n hn => ?_
  obtain ⟨d, hd, rfl⟩ := List.mem_map.1 hn
  exact h d hd

theorem exists_of_tally_pos {share : ListenerConnection → Nat}
    (h : 0 < tally share l) : ∃ d ∈ l, 0 < share d := by
  by_contra hnot
  refine Nat.lt_irrefl 0 (h.trans_eq (tally_eq_zero fun d hd => ?_))
  by_contra hne
  exact hnot ⟨d, hd, Nat.pos_of_ne_zero hne⟩

/-- The connection and the others are all of them. -/
theorem erase_perm (h : l[i]? = some c) :
    (c :: l.eraseIdx i).Perm l := by
  obtain ⟨hlt, rfl⟩ := List.getElem?_eq_some_iff.1 h
  exact List.getElem_cons_eraseIdx_perm hlt

theorem length_erase (h : l[i]? = some c) :
    (l.eraseIdx i).length + 1 = l.length := (erase_perm h).length_eq

section

variable (h : Books s) (hc : s.connections[i]? = some c)

include h hc

/-- Nobody else has the address of the connection. -/
theorem Books.alone : ∀ d ∈ s.connections.eraseIdx i ++ s.destroyed, d.id ≠ c.id := by
  intro d hd he
  have hperm := ((erase_perm hc).append_right s.destroyed).map ListenerConnection.id
  have hnodup := hperm.nodup_iff.2 h.distinct
  rw [List.cons_append, List.map_cons, List.nodup_cons] at hnodup
  exact hnodup.1 (he ▸ List.mem_map_of_mem hd)

/-- The settlements of `id`: those of the connection, or those of the others. -/
theorem Books.settled_split (id n : Nat) :
    (if id = c.id then n else (around C s i c).settled id) =
      tally (fun d => if d.id = id then d.settled else 0)
        (s.connections.eraseIdx i ++ s.destroyed) + if c.id = id then n else 0 := by
  show _ = (around C s i c).settled id + _
  by_cases hid : id = c.id
  · have hzero : (around C s i c).settled id = 0 :=
      tally_eq_zero fun d hd => if_neg (hid ▸ h.alone hc d hd)
    rw [if_pos hid, if_pos hid.symm, hzero, Nat.zero_add]
  · rw [if_neg hid, if_neg fun he => hid he.symm, Nat.add_zero]

theorem Books.balanced (hC : C s.supervision) :
    Balanced s.connectionLimit (around C s i c) ⟨s.toListenerContext, c⟩ := by
  have hmem := List.mem_of_getElem? hc
  have hothers : ∀ d ∈ s.connections.eraseIdx i, d ∈ s.connections := fun d hd =>
    List.mem_of_mem_eraseIdx hd
  refine ⟨rfl, rfl, rfl, rfl, ⟨le_rfl, h.clock⟩, rfl, ?_, fun _ hp => hp, ⟨fun mode => ?_,
    fun mode => ?_, h.regular c hmem⟩, ?_, h.workers, ?_, fun id => ?_, hC⟩
  · have haccount := h.accounted
    simp only [← tally_erase (fun c => c.held _) hc] at haccount
    exact haccount
  · have haccount := h.account mode
    rw [← tally_erase (·.routeMetrics.unsettled mode) hc,
      ← tally_erase (·.routeMetrics.waiting mode) hc] at haccount
    exact haccount
  · exact tally_le fun d hd => (h.regular d (hothers d hd)).waiting_le mode
  · have hgauges := h.gauges
    rw [← length_erase hc] at hgauges
    exact hgauges
  · have hroom := h.room
    rw [← tally_erase ListenerConnection.opened hc] at hroom
    exact hroom
  · change s.settlements.count id = if id = c.id then c.settled else (around C s i c).settled id
    rw [h.settled_split hc, h.once id, tally_append, tally_append, ← tally_erase _ hc]
    omega

end

/-- The loop after a step of the connection at place `i`. -/
def stepped (s : ListenerLoop η) (i : Nat) (x : Focus (RouteContents η)) : ListenerLoop η :=
  { withContext s x.context with connections := s.connections.set i x.connection }

theorem Books.stepped (h : Books s) (hc : s.connections[i]? = some c)
    {x : Focus (RouteContents η)} (hx : Done s.connectionLimit (around C s i c) x) :
    Books (stepped s i x) := by
  obtain ⟨workers, hbalanced, htidy⟩ := hx
  obtain ⟨hlt, hat⟩ := List.getElem?_eq_some_iff.1 hc
  have hplace : (s.connections.set i x.connection)[i]? = some x.connection :=
    List.getElem?_set_self hlt
  have herase : (s.connections.set i x.connection).eraseIdx i = s.connections.eraseIdx i :=
    List.eraseIdx_set_eq
  have htally : ∀ share, tally share (s.connections.set i x.connection) =
      tally share (s.connections.eraseIdx i) + share x.connection := by
    intro share
    rw [← tally_erase share hplace, herase]
  have hmem : ∀ d ∈ s.connections.set i x.connection, d = x.connection ∨ d ∈ s.connections :=
    fun d hd => (List.mem_or_eq_of_mem_set hd).symm
  have hids : (s.connections.set i x.connection).map ListenerConnection.id =
      s.connections.map ListenerConnection.id := by
    have hlt' : i < (s.connections.map ListenerConnection.id).length := by
      rw [List.length_map]
      exact hlt
    have hid : x.connection.id = (s.connections.map ListenerConnection.id)[i] := by
      rw [List.getElem_map, hat]
      exact hbalanced.id
    rw [List.map_set, hid, List.set_getElem_self]
  refine ⟨?_, ?_, ?_, fun mode => ?_, ?_, ?_, ?_, ?_, ?_, ?_, h.ended, hbalanced.clock.2⟩
  · change ((s.connections.set i x.connection ++ s.destroyed).map _).Nodup
    rw [List.map_append, hids, ← List.map_append]
    exact h.distinct
  · intro d hd
    have hold : d.id ∈ (s.connections ++ s.destroyed).map ListenerConnection.id := by
      rw [List.map_append, ← hids, ← List.map_append]
      exact List.mem_map_of_mem hd
    obtain ⟨e, he, hid⟩ := List.mem_map.1 hold
    rw [← hid]
    exact h.numbered e he
  · have haccount := hbalanced.accounted
    change x.context.generations.Accounted fun p => tally _ (s.connections.set i x.connection)
    simp only [htally]
    exact haccount
  · have haccount := hbalanced.books.account mode
    change RouteAccount x.context.metrics mode (tally _ (s.connections.set i x.connection))
      (tally _ (s.connections.set i x.connection))
    rw [htally, htally]
    exact haccount
  · intro d hd
    rcases hmem d hd with rfl | hd
    · exact hbalanced.books.regular
    · exact h.regular d hd
  · intro d hd
    rcases hmem d hd with rfl | hd
    · exact htidy
    · exact h.tidy d hd
  · change GaugesAt x.context.metrics (s.connections.set i x.connection).length
      x.context.workers.length
    rw [List.length_set, ← length_erase hc, hbalanced.table]
    exact hbalanced.gauges
  · change WorkerTable x.context.workers x.context.children
    rw [hbalanced.table]
    exact hbalanced.workers
  · change tally _ (s.connections.set i x.connection) + x.context.workers.length ≤ _
    rw [htally, hbalanced.table]
    exact hbalanced.room
  · intro id
    change x.context.settlements.count id =
      tally _ (s.connections.set i x.connection ++ s.destroyed)
    have honce := (hbalanced.once id).trans (h.settled_split (C := C) hc id _)
    rw [tally_append] at honce
    rw [honce, tally_append, htally, show x.connection.id = c.id from hbalanced.id]
    omega

end Focus

/-! ## 3. Steps and ends of connections -/

/-- The variables of the loop that connections have nothing to do with. -/
structure Untouched (s s' : ListenerLoop η) : Prop where
  current : s'.current = s.current
  listening : s'.listening = s.listening
  publishes : s'.publishes = s.publishes
  limit : s'.connectionLimit = s.connectionLimit
  hosts : s'.hostsReloadPending = s.hostsReloadPending
  reload : s'.reloadPending = s.reloadPending
  shuttingDown : s'.shuttingDown = s.shuttingDown
  ready : s'.ready = s.ready
  timer : s'.routeTimer = s.routeTimer
  now : s'.routeNow = s.routeNow

/-- What connections do to the context, with the supervisor called at `now`. -/
structure Kept (now : Option Timespec) (s s' : ListenerLoop η) : Prop where
  active : s'.generations.active = s.generations.active
  retired : s'.generations.retired = s.generations.retired
  contents : s'.generations.contents s'.generations.active =
    s.generations.contents s.generations.active
  clock : s.clock ≤ s'.clock
  supervised : ∀ C, (∀ time ∈ now, Allows C time) → C s.supervision → C s'.supervision

variable {now : Option Timespec} {s s' s'' : ListenerLoop η}

theorem Kept.refl (s : ListenerLoop η) : Kept now s s := ⟨rfl, rfl, rfl, le_rfl, fun _ _ h => h⟩

theorem Kept.trans (h : Kept now s s') (h' : Kept now s' s'') : Kept now s s'' where
  active := h'.active.trans h.active
  retired := h'.retired.trans h.retired
  contents := h'.contents.trans h.contents
  clock := h.clock.trans h'.clock
  supervised C hC hs := h'.supervised C hC (h.supervised C hC hs)

/-- What the steps of connections leave alone, and what they do to references. -/
structure Moved (now : Option Timespec) (s s' : ListenerLoop η) : Prop extends Kept now s s' where
  rest : s' = { withContext s s'.toListenerContext with
    connections := s'.connections, destroyed := s'.destroyed }
  /-- A generation no connection refers to is referred to by none afterwards. -/
  frees : ∀ p, (∀ c ∈ s.connections, c.held p = 0) → ∀ c ∈ s'.connections, c.held p = 0

theorem Moved.refl (s : ListenerLoop η) : Moved now s s := ⟨.refl s, rfl, fun _ h => h⟩

theorem Moved.trans (h : Moved now s s') (h' : Moved now s' s'') : Moved now s s'' where
  toKept := h.toKept.trans h'.toKept
  rest := by
    rw [h'.rest, h.rest]
    rfl
  frees p hp := h'.frees p (h.frees p hp)

theorem Moved.untouched (h : Moved now s s') : Untouched s s' := by
  rw [h.rest]
  exact ⟨rfl, rfl, rfl, rfl, rfl, rfl, rfl, rfl, rfl, rfl⟩

section Steps

variable {i : Nat} {c : ListenerConnection}

/-- A program for one connection that calls the supervisor at `now`, and ends balanced wherever it
    is started balanced. -/
def Served (now : Timespec) (m : StateM (Focus (RouteContents η)) Bool) : Prop :=
  ∀ limit o, Allows o.supervised now →
    Leads (fun x => Balanced limit o x ∧ x.connection.routeMetrics.Tidy) m fun _ => Done limit o

theorem eventMark_served (event : ReadyEvent) (now : Timespec) :
    Served now (eventMark (η := η) event) := by
  intro limit o _
  refine leads_get fun x hx => ?_
  split
  · exact ⟨o.workers, hx.1.closing, hx.2⟩
  · exact ⟨o.workers, hx.1, hx.2⟩

theorem eventServeOpen_served (event : ReadyEvent) (now : Timespec) (a : ConnectionAnswers) :
    Served now (eventServeOpen (η := η) event now a) := by
  intro limit o hnow
  refine leads_get fun x hx => ?_
  split
  · exact ⟨o.workers, hx.1, hx.2⟩
  · rename_i hopen
    exact listenerConnectionEvent_done now a hnow event x
      ⟨hx.1, Bool.eq_false_iff.2 hopen, fun _ => hx.2⟩

theorem routeResume_served (now : Timespec) (a : ConnectionAnswers) :
    Served now (routeResume (η := η) now a) := by
  intro limit o hnow
  refine leads_get fun x hx => ?_
  split
  · rename_i hopen
    exact listenerConnectionResume_done now a hnow x ⟨hx.1, hopen.1, fun _ => hx.2⟩
  · exact ⟨o.workers, hx.1, hx.2⟩

/-- **A step of one connection keeps the books.** -/
theorem focusStep_books {now : Timespec} {m : StateM (Focus (RouteContents η)) Bool}
    (hm : Served now m) (h : Books s) (i : Nat) :
    Books (focusStep i m s).2 ∧ Moved (some now) s (focusStep i m s).2 ∧
      (focusStep i m s).2.connections.length = s.connections.length ∧
      (focusStep i m s).2.destroyed = s.destroyed := by
  unfold focusStep
  cases hc : s.connections[i]? with
  | none => exact ⟨h, .refl s, rfl, rfl⟩
  | some c =>
    have hdone := fun C hnow hC => hm s.connectionLimit (around C s i c) hnow
      ⟨s.toListenerContext, c⟩ ⟨h.balanced hc hC, h.tidy c (List.mem_of_getElem? hc)⟩
    dsimp only
    generalize (exec m ⟨s.toListenerContext, c⟩).2 = x at hdone ⊢
    have hany := hdone (fun _ => True) ⟨id, fun _ => trivial⟩ trivial
    refine ⟨h.stepped hc hany, ?_, List.length_set, rfl⟩
    obtain ⟨workers, hbalanced, _⟩ := hany
    refine ⟨⟨hbalanced.active, hbalanced.retired, hbalanced.contents, hbalanced.clock.1,
      fun C hnow hC => ?_⟩, rfl, ?_⟩
    · obtain ⟨_, hb, _⟩ := hdone C (hnow now rfl) hC
      exact hb.supervised
    intro p hp d hd
    rcases List.mem_or_eq_of_mem_set hd with hd | rfl
    · exact hp d hd
    · have hzero := hp c (List.mem_of_getElem? hc)
      by_contra hne
      have hmine : 0 < c.held p := hbalanced.mine p (Nat.pos_of_ne_zero hne)
      omega

/-- The shares of a request that is over. -/
theorem over_shares {request : ListenerMetricsRouteRequest} (hr : request.Regular)
    (ho : request.started = true → request.settled = true) (mode : ListenerMetricsRequestMode) :
    request.unsettled mode = 0 ∧ request.waiting mode = 0 := by
  have hunsettled : request.unsettled mode = 0 := by
    refine if_neg fun he => ?_
    have hsettled := ho he.1
    rw [he.2.1] at hsettled
    cases hsettled
  have hwaiting := hr.waiting_le mode
  exact ⟨hunsettled, by omega⟩

section

variable (outcome : ListenerMetricsOutcome) (supervised : Bool) (now : Option Timespec)
  (status : Nat → RouteWaiterDestroyStatus)

/-- **The end of one connection keeps the books.** -/
theorem destroyStep_books (h : Books s) (i : Nat) :
    Books (destroyStep outcome supervised now status i s).2 ∧
      Moved now s (destroyStep outcome supervised now status i s).2 ∧
      (destroyStep outcome supervised now status i s).2.connections = s.connections.eraseIdx i := by
  unfold destroyStep
  cases hc : s.connections[i]? with
  | none =>
    refine ⟨h, .refl s, (List.eraseIdx_of_length_le ?_).symm⟩
    exact List.getElem?_eq_none_iff.1 hc
  | some c =>
    have hall := fun C (hnow : ∀ time ∈ now, Allows C time) hC =>
      listenerConnectionDestroy_gone (o := around C s i c) outcome supervised hnow (status c.id)
        ⟨s.toListenerContext, c⟩ (h.balanced hc hC)
    dsimp only
    generalize (exec (listenerConnectionDestroy outcome supervised now (status c.id))
      ⟨s.toListenerContext, c⟩).2 = x at hall ⊢
    have hgone := hall (fun _ => True) (fun _ _ => ⟨id, fun _ => trivial⟩) trivial
    have hbalanced := hgone.balanced
    have hothers : ∀ d ∈ s.connections.eraseIdx i, d ∈ s.connections := fun d hd =>
      List.mem_of_mem_eraseIdx hd
    have hperm : (s.connections.eraseIdx i ++ x.connection :: s.destroyed).Perm
        (x.connection :: (s.connections.eraseIdx i ++ s.destroyed)) := List.perm_middle
    refine ⟨⟨?_, ?_, ?_, fun mode => ?_, fun d hd => h.regular d (hothers d hd),
      fun d hd => h.tidy d (hothers d hd), ?_, ?_, ?_, fun id => ?_, ?_,
      hbalanced.clock.2⟩, ⟨⟨hbalanced.active, hbalanced.retired, hbalanced.contents,
      hbalanced.clock.1, fun C hnow hC => (hall C hnow hC).balanced.supervised⟩, rfl,
      fun p hp d hd => hp d (hothers d hd)⟩, rfl⟩
    · rw [(hperm.map _).nodup_iff, List.map_cons, hbalanced.id]
      have hold := ((erase_perm hc).append_right s.destroyed).map ListenerConnection.id
      exact hold.nodup_iff.2 h.distinct
    · intro d hd
      rcases List.mem_cons.1 (hperm.mem_iff.1 hd) with rfl | hd
      · rw [hbalanced.id]
        exact h.numbered c (List.mem_append_left _ (List.mem_of_getElem? hc))
      · refine h.numbered d ?_
        rcases List.mem_append.1 hd with hd | hd
        · exact List.mem_append_left _ (hothers d hd)
        · exact List.mem_append_right _ hd
    · have haccount := hbalanced.accounted
      simp only [hgone.held, Nat.add_zero] at haccount
      exact haccount
    · have hbooks : RouteBooks (listenerMetricsConnectionRemove x.context.metrics) _ _ _ :=
        hbalanced.books.decrement rfl
      obtain ⟨hunsettled, hwaiting⟩ := over_shares hbalanced.books.regular hgone.ended mode
      have haccount := hbooks.account mode
      rw [hunsettled, hwaiting] at haccount
      exact haccount
    · rw [hbalanced.table]
      exact hbalanced.gauges.connectionRemove
    · rw [hbalanced.table]
      exact hbalanced.workers
    · have hroom := hbalanced.room
      change tally _ (s.connections.eraseIdx i) + x.context.workers.length ≤ s.connectionLimit
      rw [hbalanced.table]
      change tally _ (s.connections.eraseIdx i) + _ + _ ≤ _ at hroom
      omega
    · change x.context.settlements.count id =
        tally _ (s.connections.eraseIdx i ++ x.connection :: s.destroyed)
      rw [(hbalanced.once id).trans (h.settled_split hc id _),
        ← show x.connection.id = c.id from hbalanced.id]
      unfold tally
      rw [(hperm.map _).sum_eq, List.map_cons, List.sum_cons, Nat.add_comm]
    · intro d hd
      rcases List.mem_cons.1 hd with rfl | hd
      · exact hgone.ended
      · exact h.ended d hd

/-- All connections end, one after the other. -/
theorem destroyAll_books (n : Nat) (h : Books s) :
    Books (destroyAll outcome supervised now status n s).2 ∧
      Moved now s (destroyAll outcome supervised now status n s).2 ∧
      (destroyAll outcome supervised now status n s).2.connections = s.connections.drop n := by
  induction n generalizing s with
  | zero => exact ⟨h, .refl s, rfl⟩
  | succ n ih =>
    obtain ⟨hbooks, hmoved, hrest⟩ := destroyStep_books outcome supervised now status h 0
    obtain ⟨hbooks', hmoved', hrest'⟩ := ih hbooks
    refine ⟨hbooks', hmoved.trans hmoved', hrest'.trans ?_⟩
    rw [hrest, List.eraseIdx_zero, List.drop_tail]

end

/-- **The closed connections end**, the others stay as they are. -/
theorem destroyClosed_books (now : Timespec) (status : Nat → RouteWaiterDestroyStatus)
    (fuel i : Nat) (h : Books s) (hfuel : s.connections.length ≤ i + fuel) :
    Books (destroyClosed now status fuel i s).2.2 ∧
      Moved (some now) s (destroyClosed now status fuel i s).2.2 ∧
      (destroyClosed now status fuel i s).2.1 +
        (destroyClosed now status fuel i s).2.2.connections.length = s.connections.length ∧
      (destroyClosed now status fuel i s).2.2.connections =
        s.connections.take i ++ (s.connections.drop i).filter (!·.closing) := by
  induction fuel generalizing s i with
  | zero =>
    have hle : s.connections.length ≤ i := hfuel
    refine ⟨h, .refl s, Nat.zero_add _, ?_⟩
    rw [List.take_of_length_le hle, List.drop_of_length_le hle, List.filter_nil, List.append_nil]
    rfl
  | succ fuel ih =>
    unfold destroyClosed
    cases hc : s.connections[i]? with
    | none =>
      have hle := List.getElem?_eq_none_iff.1 hc
      refine ⟨h, .refl s, Nat.zero_add _, ?_⟩
      rw [List.take_of_length_le hle, List.drop_of_length_le hle, List.filter_nil, List.append_nil]
    | some c =>
      obtain ⟨hlt, hget⟩ := List.getElem?_eq_some_iff.1 hc
      have hdrop : s.connections.drop i = c :: s.connections.drop (i + 1) := by
        rw [List.drop_eq_getElem_cons hlt, hget]
      dsimp only
      split
      · rename_i hclosing
        obtain ⟨hbooks, hmoved, hrest⟩ :=
          destroyStep_books .abandoned true (some now) status h i
        have hlength := length_erase hc
        rw [← hrest] at hlength
        obtain ⟨hbooks', hmoved', hcount, hopen⟩ := ih i hbooks (by omega)
        refine ⟨hbooks', hmoved.trans hmoved', by dsimp only; omega, hopen.trans ?_⟩
        have htake : (s.connections.take i).length = i :=
          List.length_take_of_le (Nat.le_of_lt hlt)
        rw [hrest, List.eraseIdx_eq_take_drop_succ, List.take_left' htake, List.drop_left' htake,
          hdrop, List.filter_cons_of_neg (by rw [hclosing]; exact nofun)]
      · rename_i hopen
        obtain ⟨hbooks', hmoved', hcount, hrest⟩ := ih (i + 1) h (by omega)
        refine ⟨hbooks', hmoved', hcount, hrest.trans ?_⟩
        rw [List.take_add_one, hc, hdrop, List.filter_cons_of_pos (by simpa using hopen),
          Option.toList_some, List.append_assoc, List.singleton_append]

end Steps

/-! ## 4. Workers, new connections, generations -/

section Others

variable {s : ListenerLoop η}

/-- The account with the request of a connection that has none. -/
theorem Books.routeBooks (h : Books s) :
    RouteBooks s.metrics (fun mode => tally (·.routeMetrics.unsettled mode) s.connections)
      (fun mode => tally (·.routeMetrics.waiting mode) s.connections) {} where
  account := h.account
  within mode := tally_le fun c hc => (h.regular c hc).waiting_le mode
  regular := ⟨nofun, nofun⟩

/-- A counter outside the books and the gauges. -/
theorem Books.count (h : Books s) {counter : ListenerCounter} (hroute : counter.isRoute = false)
    (hgauge : counter.isGauge = false) :
    Books { s with metrics := s.metrics.increment counter } :=
  { h with
    account := (h.routeBooks.increment hroute).account
    gauges := h.gauges.kept (.increment hgauge) }

theorem swapRemove_perm {l : List Nat} {i p : Nat} (h : l[i]? = some p) :
    (p :: swapRemove l i).Perm l := by
  obtain ⟨hlt, rfl⟩ := List.getElem?_eq_some_iff.1 h
  rcases List.eq_nil_or_concat' l with rfl | ⟨front, last, rfl⟩
  · exact absurd hlt (Nat.not_lt_zero i)
  have hlast : (front ++ [last]).getLastD 0 = last := List.getLastD_concat ..
  unfold swapRemove
  rw [hlast]
  rcases Nat.lt_or_ge i front.length with hfront | hend
  · rw [List.set_append_left _ _ hfront, List.dropLast_concat, List.getElem_append_left hfront]
    -- the last one comes first, then the others
    have hset := List.set_perm_cons_eraseIdx hfront last
    have hget := List.getElem_cons_eraseIdx_perm hfront
    calc
      List.Perm (front[i] :: front.set i last) (front[i] :: last :: front.eraseIdx i) := hset.cons _
      List.Perm _ (last :: front[i] :: front.eraseIdx i) := .swap ..
      List.Perm _ (last :: front) := hget.cons _
      List.Perm _ (front ++ [last]) := (List.perm_append_singleton last front).symm
  · have hi : i = front.length := by
      rw [List.length_append, List.length_singleton] at hlt
      omega
    subst hi
    rw [List.set_append_right _ _ le_rfl, Nat.sub_self, List.set_cons_zero, List.dropLast_concat,
      List.getElem_concat_length rfl]
    exact (List.perm_append_singleton last front).symm

/-- A worker that is removed from the table. -/
theorem Books.workerGone {context : ListenerContext (RouteContents η)} {index pid : Nat}
    (h : Books (withContext s context)) (hp : context.workers[index]? = some pid) :
    Books (withContext s (workerGone context index pid)) := by
  have hperm := swapRemove_perm hp
  have hlength := hperm.length_eq
  rw [List.length_cons] at hlength
  have hnodup := hperm.nodup_iff.2 h.workers.distinct
  rw [List.nodup_cons] at hnodup
  have hmem : ∀ p, p ∈ swapRemove context.workers index ↔ p ∈ context.workers ∧ p ≠ pid := by
    intro p
    rw [← hperm.mem_iff, List.mem_cons]
    constructor
    · intro hin
      refine ⟨Or.inr hin, ?_⟩
      rintro rfl
      exact hnodup.1 hin
    · rintro ⟨rfl | hin, hne⟩
      · exact absurd rfl hne
      · exact hin
  have hbooks : RouteBooks (listenerMetricsWorkerRemove context.metrics) _ _ _ :=
    h.routeBooks.decrement rfl
  have hgauges : GaugesAt context.metrics s.connections.length
      ((swapRemove context.workers index).length + 1) := by
    rw [hlength]
    exact h.gauges
  exact { h with
    account := hbooks.account
    gauges := hgauges.workerRemove
    workers :=
      { distinct := hnodup.2
        unreaped := by
          intro p
          change p ∈ swapRemove context.workers index ↔ p ∈ context.children.filter (· ≠ pid)
          rw [hmem, List.mem_filter, decide_eq_true_iff]
          exact and_congr_left fun _ => h.workers.unreaped p
        few := by
          have hfew := h.workers.few
          change (swapRemove context.workers index).length ≤ _
          change context.workers.length ≤ _ at hfew
          omega }
    room := by
      have hroom := h.room
      change tally _ s.connections + (swapRemove context.workers index).length ≤ s.connectionLimit
      change tally _ s.connections + context.workers.length ≤ s.connectionLimit at hroom
      omega }

theorem workersReap_books (answer : Nat → WaitAnswer) (fuel index : Nat)
    {context : ListenerContext (RouteContents η)} (h : Books (withContext s context)) :
    Books (withContext s (workersReap answer fuel index context).2) ∧
      (workersReap answer fuel index context).2.generations = context.generations ∧
      (workersReap answer fuel index context).2.clock = context.clock ∧
      (workersReap answer fuel index context).2.supervision = context.supervision := by
  induction fuel generalizing index context with
  | zero => exact ⟨h, rfl, rfl, rfl⟩
  | succ fuel ih =>
    unfold workersReap
    cases hp : context.workers[index]? with
    | none => exact ⟨h, rfl, rfl, rfl⟩
    | some pid =>
      have hgone := ih index (h.workerGone hp)
      dsimp only
      split
      · exact hgone
      · split
        · exact hgone
        · exact ⟨h, rfl, rfl, rfl⟩
        · exact ih (index + 1) h

/-- **Reaping the workers keeps the books.** -/
theorem listenerWorkersReap_books (answer : Nat → WaitAnswer) (h : Books s) :
    Books (listenerWorkersReap answer s).2 ∧ (∀ now, Moved now s (listenerWorkersReap answer s).2) ∧
      (listenerWorkersReap answer s).2.connections = s.connections := by
  have hbooks : Books (withContext s s.toListenerContext) := h
  obtain ⟨hbooks, hgenerations, hclock, hsupervision⟩ :=
    workersReap_books answer s.workers.length 0 hbooks
  unfold listenerWorkersReap
  dsimp only
  generalize (workersReap answer s.workers.length 0 s.toListenerContext).2 = context
    at hbooks hgenerations hclock hsupervision ⊢
  refine ⟨hbooks, fun _ => ⟨⟨?_, ?_, ?_, ?_, fun C _ hC => ?_⟩, rfl, fun _ hp => hp⟩, rfl⟩
  · exact congrArg Generations.active hgenerations
  · exact congrArg Generations.retired hgenerations
  · change context.generations.contents context.generations.active = _
    rw [hgenerations]
  · change s.clock ≤ context.clock
    rw [hclock]
  · change C context.supervision
    rw [hsupervision]
    exact hC

theorem Books.collect (h : Books s) (now : Timespec) (release : RouteResolutionReleaseStatus) :
    Books { s with generations := (registryCollect s.generations now release).2 } :=
  { h with accounted := h.accounted.collect now release }

/-- Another server, which differs in nothing the books read but its generations. -/
theorem Books.framed {server : ListenerServer η} (h : Books s)
    (hf : Framed s.toListenerServer server)
    (haccount : server.generations.Accounted fun p => tally (·.held p) s.connections) :
    Books { s with toListenerServer := server } where
  distinct := h.distinct
  numbered := h.numbered
  accounted := haccount
  account := by
    rw [hf.metrics]
    exact h.account
  regular := h.regular
  tidy := h.tidy
  gauges := by
    rw [hf.metrics, hf.workers]
    exact h.gauges
  workers := by
    rw [hf.workers, hf.children]
    exact h.workers
  room := by
    rw [hf.workers]
    exact h.room
  once := by
    rw [hf.settlements]
    exact h.once
  ended := h.ended
  clock := (hf.clock h.clock).2

/-- A connection that has just been created. -/
structure Begun (id generation : Nat) (connection : ListenerConnection) : Prop where
  id : connection.id = id
  closing : connection.closing = false
  generation : connection.generation = some generation
  routeMetrics : connection.routeMetrics = {}
  waiter : connection.waiter = none

/-- How `listener_connection_create` ends: the reference is given back, or is the connection's. -/
theorem listenerConnectionCreate_cases (id generation : Nat)
    (context : ListenerContext (RouteContents η)) (a : CreateAnswers)
    (hvalid : timeutilValid context.clock = true) :
    ∃ clock, context.clock ≤ clock ∧ timeutilValid clock = true ∧
      (listenerConnectionCreate id generation context a =
        (none, { context with
          clock
          generations := (routeGenerationRelease context.generations (some generation)).2 }) ∨
      ∃ connection, Begun id generation connection ∧
        listenerConnectionCreate id generation context a =
          (some connection, { context with clock })) := by
  unfold listenerConnectionCreate
  split
  · exact ⟨context.clock, le_rfl, hvalid, Or.inl rfl⟩
  cases a.clock with
  | none => exact ⟨context.clock, le_rfl, hvalid, Or.inl rfl⟩
  | some advance =>
    obtain ⟨hle, hlater⟩ := Timespec.later_spec hvalid advance
    refine ⟨context.clock.later advance, hle, hlater, ?_⟩
    dsimp only
    split
    · split
      · exact Or.inr ⟨_, ⟨rfl, rfl, rfl, rfl, rfl⟩, rfl⟩
      · exact Or.inl rfl
    · exact Or.inl rfl

/-- What accepting leaves alone, and that it only adds open connections. -/
structure Joined (s s' : ListenerLoop η) : Prop extends Kept none s s' where
  rest : s' = { withContext s s'.toListenerContext with
    connections := s'.connections
    nextConnection := s'.nextConnection
    connectionCount := s'.connectionCount }
  stay : ∀ c ∈ s.connections, c ∈ s'.connections
  opened : ∀ c ∈ s'.connections, c ∈ s.connections ∨ c.closing = false
  counted : s.connectionCount = s.connections.length →
    s'.connectionCount = s'.connections.length

theorem Joined.refl (s : ListenerLoop η) : Joined s s :=
  ⟨.refl s, rfl, fun _ h => h, fun _ h => Or.inl h, id⟩

theorem Joined.trans (h : Joined s s') (h' : Joined s' s'') : Joined s s'' where
  toKept := h.toKept.trans h'.toKept
  rest := by
    rw [h'.rest, h.rest]
    rfl
  stay c hc := h'.stay c (h.stay c hc)
  opened c hc := (h'.opened c hc).elim (h.opened c) Or.inr
  counted hc := h'.counted (h.counted hc)

theorem Joined.untouched (h : Joined s s') : Untouched s s' := by
  rw [h.rest]
  exact ⟨rfl, rfl, rfl, rfl, rfl, rfl, rfl, rfl, rfl, rfl⟩

/-- The loop with a new connection. -/
def joined (s : ListenerLoop η) (context : ListenerContext (RouteContents η))
    (connection : ListenerConnection) : ListenerLoop η :=
  { withContext s { context with metrics := listenerMetricsConnectionAdd context.metrics } with
    connections := connection :: s.connections
    nextConnection := s.nextConnection + 1
    connectionCount := s.connectionCount + 1 }

/-- **A new connection is entered in the books.** -/
theorem Books.joined {context : ListenerContext (RouteContents η)} {p : Nat}
    {c : ListenerConnection} (h : Books (withContext s context))
    (hc : Begun s.nextConnection p c) {generations : Generations (RouteContents η)}
    (haccount : generations.Accounted fun q =>
      tally (·.held q) s.connections + if q = p then 1 else 0)
    (hroom : s.connections.length + context.workers.length < s.connectionLimit)
    (hlimit : s.connectionLimit ≤ listenerConnectionLimitMaximum) :
    Books (Loop.joined s { context with generations } c) := by
  have hmax : listenerConnectionLimitMaximum < uint64Max := by decide
  have hopened : tally ListenerConnection.opened s.connections ≤ s.connections.length := by
    have hle : tally ListenerConnection.opened s.connections ≤
        tally (fun _ => 1) s.connections := by
      refine tally_le fun d _ => ?_
      unfold ListenerConnection.opened
      split <;> omega
    unfold tally at hle ⊢
    rw [List.map_const', List.sum_replicate_nat, Nat.mul_one] at hle
    exact hle
  have hshare : ∀ q, c.held q = if q = p then 1 else 0 := by
    intro q
    rw [ListenerConnection.held, hc.generation, hc.waiter, references_generation]
    exact Nat.zero_add _
  have hnew : ∀ d ∈ s.connections ++ s.destroyed, d.id < s.nextConnection := h.numbered
  have hbooks := h.routeBooks.connectionAdd
  refine ⟨?_, ?_, ?_, fun mode => ?_, ?_, ?_, ?_, h.workers, ?_, ?_, h.ended,
    h.clock⟩
  · refine List.nodup_cons.2 ⟨fun hmem => ?_, h.distinct⟩
    obtain ⟨d, hd, he⟩ := List.mem_map.1 hmem
    have hlt := hnew d hd
    rw [hc.id] at he
    omega
  · intro d hd
    rcases List.mem_cons.1 hd with rfl | hd
    · rw [hc.id]
      exact Nat.lt_succ_self _
    · exact Nat.lt_succ_of_lt (hnew d hd)
  · change generations.Accounted fun q => c.held q + tally (·.held q) s.connections
    simp only [hshare, Nat.add_comm (if _ then 1 else 0)]
    exact haccount
  · have hzero : c.routeMetrics.unsettled mode = 0 ∧ c.routeMetrics.waiting mode = 0 := by
      rw [hc.routeMetrics]
      exact ⟨rfl, rfl⟩
    change RouteAccount _ mode (c.routeMetrics.unsettled mode + _) (c.routeMetrics.waiting mode + _)
    rw [hzero.1, hzero.2, Nat.zero_add, Nat.zero_add]
    exact hbooks.account mode
  · intro d hd
    rcases List.mem_cons.1 hd with rfl | hd
    · rw [hc.routeMetrics]
      exact ⟨by decide, by decide⟩
    · exact h.regular d hd
  · intro d hd
    rcases List.mem_cons.1 hd with rfl | hd
    · rw [hc.routeMetrics]
      exact fun hm => by cases hm
    · exact h.tidy d hd
  · exact h.gauges.connectionAdd (by change s.connections.length < _; omega)
  · change c.opened + tally _ s.connections + context.workers.length ≤ s.connectionLimit
    rw [ListenerConnection.opened, hc.closing, if_neg (by decide)]
    omega
  · intro id
    have hzero : (if c.id = id then c.settled else 0) = 0 := by
      rw [ListenerConnection.settled, hc.routeMetrics]
      exact ite_self 0
    change context.settlements.count id = (if c.id = id then c.settled else 0) +
      tally _ (s.connections ++ s.destroyed)
    rw [hzero, Nat.zero_add]
    exact h.once id

theorem registryActiveRetain_some {γ : Type} {gs gs' : Generations γ} {p : Nat}
    (h : registryActiveRetain gs = (some p, gs')) :
    gs.active = some p ∧ routeGenerationRetain gs (some p) = (true, gs') := by
  unfold registryActiveRetain at h
  split at h
  · rename_i hr
    cases ha : gs.active with
    | none =>
      rw [ha] at h
      cases h
    | some q =>
      rw [ha] at h hr
      cases h
      exact ⟨rfl, hr⟩
  · cases h

/-- **A client that is taken keeps the books.** -/
theorem acceptTrack_books (a : CreateAnswers) (h : Books s)
    (hroom : s.connections.length + s.workers.length < s.connectionLimit)
    (hlimit : s.connectionLimit ≤ listenerConnectionLimitMaximum) :
    After (fun t => t = s) (acceptTrack a) (fun _ t => Books t ∧ Joined s t) s := by
  refine after_get ?_
  cases hretain : registryActiveRetain s.generations with
  | mk generation generations =>
  cases generation with
  | none => exact after_cut rfl
  | some p =>
    obtain ⟨hactive, hr⟩ := registryActiveRetain_some hretain
    have hpointers := routeGenerationRetain_pointers s.generations (some p)
    have hpersists := Generations.Persists.retain s.generations (some p)
    have hshare : ∀ q, (tally (·.held q) s.connections + if q = p then 1 else 0) =
        tally (·.held q) s.connections + if q = p then 1 else 0 := fun _ => rfl
    have haccount := h.accounted.retain hshare (by rw [hr])
    rw [hr] at hpointers hpersists haccount
    dsimp only at hpointers hpersists haccount ⊢
    obtain ⟨clock, hle, hvalid, hcreate⟩ := listenerConnectionCreate_cases s.nextConnection p
      { s.toListenerContext with generations } a h.clock
    rcases hcreate with hcreate | ⟨c, hc, hcreate⟩
    · rw [hcreate]
      have hreleased := haccount.release fun _ => rfl
      have hpointers' := routeGenerationRelease_pointers generations (some p)
      have hpersists' := hpersists.trans (.release generations (some p))
      have hactive' := hpointers'.1.trans hpointers.1
      have hbooks : Books (withContext s { s.toListenerContext with
          clock, generations := (routeGenerationRelease generations (some p)).2 }) :=
        { h with accounted := hreleased, clock := hvalid }
      have hroute : ListenerCounter.connectionTrackFailure.isRoute = false := rfl
      refine ⟨hbooks.count hroute rfl, ⟨⟨hactive', hpointers'.2.1.trans hpointers.2.1,
        hpersists'.active_contents h.accounted hreleased hactive', hle, fun _ _ hC => hC⟩, rfl,
        fun _ hd => hd, fun _ hd => Or.inl hd, id⟩⟩
    · rw [hcreate]
      have hbooks : Books (withContext s { s.toListenerContext with clock }) :=
        { h with clock := hvalid }
      refine ⟨hbooks.joined hc haccount hroom hlimit, ⟨⟨hpointers.1, hpointers.2.1,
        hpersists.active_contents h.accounted haccount hpointers.1, hle, fun _ _ hC => hC⟩, rfl,
        fun _ hd => List.mem_cons_of_mem _ hd, fun d hd => ?_, fun hcount => ?_⟩⟩
      · rcases List.mem_cons.1 hd with rfl | hd
        · exact Or.inr hc.closing
        · exact Or.inl hd
      · exact congrArg Nat.succ hcount

theorem count_books {counter : ListenerCounter} (hroute : counter.isRoute = false)
    (hgauge : counter.isGauge = false) (h : Books s) :
    After (fun t => Books t ∧ Joined s t) (count counter) (fun _ t => Books t ∧ Joined s t) s :=
  ⟨h.count hroute hgauge, ⟨{ Kept.refl s with }, rfl, fun _ hd => hd, fun _ hd => Or.inl hd, id⟩⟩

/-- What is kept from `t` on is kept from `s` on. -/
theorem Joined.after {α : Type} {t : ListenerLoop η} {m : Prog (ListenerLoop η) α}
    (hj : Joined s t)
    (h : After (fun u => Books u ∧ Joined t u) m (fun _ u => Books u ∧ Joined t u) t) :
    After (fun u => Books u ∧ Joined s u) m (fun _ u => Books u ∧ Joined s u) t := by
  refine h.imp ?_ ?_
  · rintro u ⟨hbooks, hjoined⟩
    exact ⟨hbooks, hj.trans hjoined⟩
  · rintro _ u ⟨hbooks, hjoined⟩
    exact ⟨hbooks, hj.trans hjoined⟩

section

variable (h : Books s) (hcount : s.connectionCount = s.connections.length)
  (hlimit : s.connectionLimit ≤ listenerConnectionLimitMaximum)

include h hcount hlimit

theorem acceptClient_books (a : CreateAnswers) :
    After (fun t => Books t ∧ Joined s t) (acceptClient a) (fun _ t => Books t ∧ Joined s t) s := by
  refine after_bind ((count_books rfl rfl h).mono fun _ t ht => after_get ?_)
  obtain ⟨hbooks, hjoined⟩ := ht
  have hcount' := hjoined.counted hcount
  have hlimit' := hjoined.untouched.limit
  refine after_ite (fun hroom => ?_) fun _ => ?_
  · simp only [hasRoom, Bool.and_eq_true, decide_eq_true_eq] at hroom
    have hspare : t.connections.length + t.workers.length < t.connectionLimit := by omega
    refine (acceptTrack_books a hbooks hspare (hlimit' ▸ hlimit)).imp ?_ ?_
    · rintro u rfl
      exact ⟨hbooks, hjoined⟩
    · rintro _ u ⟨hbooks', hjoined'⟩
      exact ⟨hbooks', hjoined.trans hjoined'⟩
  · exact after_bind (hjoined.after (count_books rfl rfl hbooks))

/-- **Accepting keeps the books.** -/
theorem acceptAttempts_books (l : List AcceptAnswer) :
    After (fun t => Books t ∧ Joined s t) (acceptAttempts l)
      (fun _ t => Books t ∧ Joined s t) s := by
  have hstay : Books s ∧ Joined s s := ⟨h, .refl s⟩
  induction l generalizing s with
  | nil => exact hstay
  | cons answer l ih =>
    cases answer with
    | interrupted => exact ih h hcount hlimit hstay
    | retryable => exact ih h hcount hlimit hstay
    | wouldBlock => exact hstay
    | fdExhausted => exact count_books rfl rfl h
    | failed => exact hstay
    | accepted create =>
      refine after_bind ((acceptClient_books h hcount hlimit create).mono fun go t ht => ?_)
      obtain ⟨hbooks, hjoined⟩ := ht
      have hlimit' := hjoined.untouched.limit
      cases go with
      | false => exact ⟨hbooks, hjoined⟩
      | true =>
        exact hjoined.after
          (ih hbooks (hjoined.counted hcount) (hlimit' ▸ hlimit) ⟨hbooks, .refl t⟩)

end

end Others

/-! ## 5. The identity of the route metrics -/

section Identity

variable {s : ListenerLoop η}

/-- **Every request that was started is settled or pending**, and is settled once before its
    connection is gone. -/
structure RouteIdentity (s : ListenerLoop η) : Prop where
  identity : ∀ mode, s.metrics.Unsaturated (.requestsStarted mode) →
    s.metrics.counters (.requestsStarted mode) =
      ((routeOutcomeCounters mode).map s.metrics.counters).sum +
        s.metrics.counters (.pendingCurrent mode)
  atMostOnce : ∀ c ∈ s.connections, s.settlements.count c.id ≤ 1
  once : ∀ c ∈ s.destroyed, c.routeMetrics.started = true → s.settlements.count c.id = 1

/-- Between events the unsettled requests are the pending ones. -/
theorem tidy_waiting {request : ListenerMetricsRouteRequest}
    (h : request.Tidy) (hr : request.Regular) (mode : ListenerMetricsRequestMode) :
    request.waiting mode = request.unsettled mode := by
  refine Nat.le_antisymm (hr.waiting_le mode) ?_
  unfold ListenerMetricsRouteRequest.unsettled
  split
  · rename_i hu
    obtain ⟨hstarted, hopen, hmode⟩ := hu
    rcases h hstarted with hsettled | hpending
    · rw [hopen] at hsettled
      cases hsettled
    · exact Nat.le_of_eq (if_pos ⟨hpending, hmode⟩).symm
  · exact Nat.zero_le _

/-- A connection is settled as often as its settlement is recorded. -/
theorem Books.count_settled (h : Books s) {c : ListenerConnection}
    (hc : c ∈ s.connections ++ s.destroyed) : s.settlements.count c.id = c.settled := by
  obtain ⟨i, hi⟩ := List.mem_iff_getElem?.1 hc
  have hnodup := h.distinct
  rw [← ((erase_perm hi).map ListenerConnection.id).nodup_iff, List.map_cons,
    List.nodup_cons] at hnodup
  have hothers : tally (fun d => if d.id = c.id then d.settled else 0)
      ((s.connections ++ s.destroyed).eraseIdx i) = 0 := by
    refine tally_eq_zero fun d hd => if_neg fun he => hnodup.1 ?_
    rw [← he]
    exact List.mem_map_of_mem hd
  rw [h.once, ← tally_erase _ hi, hothers, Nat.zero_add]
  exact if_pos rfl

theorem Books.identity (h : Books s) : RouteIdentity s where
  identity mode hu := by
    have hwaiting : tally (·.routeMetrics.waiting mode) s.connections =
        tally (·.routeMetrics.unsettled mode) s.connections := by
      unfold tally
      congr 1
      exact List.map_congr_left fun c hc => tidy_waiting (h.tidy c hc) (h.regular c hc) mode
    rw [(h.account mode).conserved hu, (h.account mode).gauge hu, hwaiting]
  atMostOnce c hc := by
    rw [h.count_settled (List.mem_append_left _ hc), ListenerConnection.settled]
    split <;> omega
  once c hc hstarted := by
    rw [h.count_settled (List.mem_append_right _ hc)]
    exact if_pos (h.ended c hc hstarted)

end Identity

end Loop

end MinecraftRelay
