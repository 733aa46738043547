/-
  File:      Listener/Reload.lean
  Subject:   RELOADING THE CONFIGURATION (src/listener.c: listener_reload, listener_hosts_reload and
             what they call).

  A reload reads the file, prepares a generation from it, moves the listening socket and publishes
  the generation; each of these may fail.  Only after the publication are the log path and the cache
  of the file changed.  A second attempt keeps the configuration and renews the hosts table.

  * `listenerSocketReplace` -- the socket, with the rollback;
  * `Coherent` -- what is in use belongs together, and one socket is registered;
  * `listenerReload_reloaded` -- after a reload that did not fail it does again, and all of it is
    new or all of it is old.

  A table of hosts is any type here: it is loaded, copied and handed on.  The metrics that are
  written on the way are left out.
-/
import Mathlib.Algebra.Order.BigOperators.Group.List
import MinecraftRelay.Config.Read
import MinecraftRelay.Library.Stateful
import MinecraftRelay.Listener.Connection
import MinecraftRelay.Route.Registry
import MinecraftRelay.Route.Table

namespace MinecraftRelay

open Stateful

variable {config : Conf} {routes : RouteTable} {cache : Bytes} {p : Nat}

/-! ## 1. The listening socket -/

/-- `listener_endpoint`. -/
structure ListenerEndpoint where
  address : NetAddr
  port : Nat
deriving Repr, DecidableEq

/-- `listener_endpoint_is_wildcard`. -/
def listenerEndpointIsWildcard (target : ListenerEndpoint) : Bool :=
  target.address.data.all (· = 0)

/-- `listener_endpoint_may_conflict`. -/
def listenerEndpointMayConflict (left right : ListenerEndpoint) : Bool :=
  if left.port ≠ right.port then false
  else if left.address.family ≠ right.address.family then true
  else listenerEndpointIsWildcard left || listenerEndpointIsWildcard right

/-- A listening socket of the process; `registered` is its entry in the epoll set. -/
structure ListenSocket where
  fd : Nat
  endpoint : ListenerEndpoint
  registered : Bool
deriving Repr, DecidableEq

/-- `listener_socket`, and the listening sockets the process has. -/
structure Listening where
  endpoint : ListenerEndpoint
  fd : Option Nat
  sockets : List ListenSocket
deriving Repr, DecidableEq

/-- `net_socket` with `NETSOCK_BIND`: a descriptor that is not in use, or a failure. -/
inductive BindAnswer where
  | bound (pick : List Nat → Nat) (fresh : ∀ fds, pick fds ∉ fds)
  | ebind
  | failed

/-- `listener_socket_open_status`; a failed bind says whether it was the bind itself. -/
inductive ListenerSocketOpenStatus where
  | ok
  | bindError (ebind : Bool)
  | eventsError
deriving Repr, DecidableEq

/-- `listener_socket_replace_status`. -/
inductive ListenerSocketReplaceStatus where
  | ok
  | activeError
  | candidateError
  | rollbackError
deriving Repr, DecidableEq

variable (sockets : List ListenSocket)

/-- The entry of a descriptor in the epoll set is made or removed. -/
def socketRegister (fd : Nat) (registered : Bool) : List ListenSocket :=
  sockets.map fun socket => if socket.fd = fd then { socket with registered } else socket

/-- `close`, which also removes the entry. -/
def socketClose (fd : Nat) : List ListenSocket :=
  sockets.filter fun socket => socket.fd ≠ fd

/-- The answers to `listener_socket_open`. -/
structure OpenAnswers where
  bind : BindAnswer
  add : Bool

/-- `listener_socket_open`: the status, the descriptor, and the sockets. -/
def listenerSocketOpen (endpoint : ListenerEndpoint) (a : OpenAnswers) :
    ListenerSocketOpenStatus × Option Nat × List ListenSocket :=
  match a.bind with
  | .ebind => (.bindError true, none, sockets)
  | .failed => (.bindError false, none, sockets)
  | .bound pick _ =>
    let fd := pick (sockets.map ListenSocket.fd)
    let opened := sockets ++ [⟨fd, endpoint, false⟩]
    if a.add then (.ok, some fd, socketRegister opened fd true)
    else (.eventsError, none, socketClose opened fd)

/-- The answers to `listener_socket_replace`. -/
structure ReplaceAnswers where
  candidate : OpenAnswers
  remove : Bool
  again : OpenAnswers
  rollback : OpenAnswers

/-- The active socket is taken out of the epoll set and closed. -/
def socketDetach : Option Nat → List ListenSocket
  | none => sockets
  | some fd => socketClose (socketRegister sockets fd false) fd

/-- The end of `listener_socket_replace_conflicting`: the active endpoint is bound again. -/
def socketRollback (endpoint : ListenerEndpoint) (a : OpenAnswers) :
    ListenerSocketReplaceStatus × Listening :=
  match listenerSocketOpen sockets endpoint a with
  | (.ok, restored, sockets) => (.candidateError, ⟨endpoint, restored, sockets⟩)
  | (_, _, sockets) => (.rollbackError, ⟨endpoint, none, sockets⟩)

/-- `listener_socket_replace_conflicting`.  A descriptor that is not open cannot be removed. -/
def listenerSocketReplaceConflicting (target : Listening) (endpoint : ListenerEndpoint)
    (a : ReplaceAnswers) : ListenerSocketReplaceStatus × Listening :=
  if a.remove = false ∨ target.fd = none then (.activeError, target)
  else
    match listenerSocketOpen (socketDetach target.sockets target.fd) endpoint a.again with
    | (.ok, candidate, sockets) => (.ok, ⟨endpoint, candidate, sockets⟩)
    | (_, _, sockets) => socketRollback sockets target.endpoint a.rollback

/-- `listener_socket_replace`. -/
def listenerSocketReplace (target : Listening) (endpoint : ListenerEndpoint) (a : ReplaceAnswers) :
    ListenerSocketReplaceStatus × Listening :=
  match listenerSocketOpen target.sockets endpoint a.candidate with
  | (.bindError ebind, _, sockets) =>
    if listenerEndpointMayConflict target.endpoint endpoint && ebind then
      listenerSocketReplaceConflicting { target with sockets } endpoint a
    else (.candidateError, { target with sockets })
  | (.eventsError, _, sockets) => (.candidateError, { target with sockets })
  | (.ok, candidate, sockets) =>
    if a.remove = false ∨ target.fd = none then
      (.activeError, { target with sockets := socketDetach sockets candidate })
    else (.ok, ⟨endpoint, candidate, socketDetach sockets target.fd⟩)

/-- Exactly one socket: it is registered, and bound to the endpoint. -/
def Listening.Single (l : Listening) : Prop :=
  ∃ fd, l.fd = some fd ∧ l.sockets = [⟨fd, l.endpoint, true⟩]

/-- A socket is opened beside those there are, or nothing has changed. -/
theorem listenerSocketOpen_cases (endpoint : ListenerEndpoint) (a : OpenAnswers) :
    (∃ fd, fd ∉ sockets.map ListenSocket.fd ∧
      listenerSocketOpen sockets endpoint a =
        (.ok, some fd, sockets ++ [⟨fd, endpoint, true⟩])) ∨
    ∃ status, status ≠ .ok ∧ listenerSocketOpen sockets endpoint a = (status, none, sockets) := by
  unfold listenerSocketOpen
  split
  · exact Or.inr ⟨.bindError true, nofun, rfl⟩
  · exact Or.inr ⟨.bindError false, nofun, rfl⟩
  rename_i pick fresh _
  have hfresh := fresh (sockets.map ListenSocket.fd)
  generalize pick (sockets.map ListenSocket.fd) = fd at hfresh ⊢
  have hother : ∀ socket ∈ sockets, socket.fd ≠ fd := by
    intro socket hs he
    exact hfresh (he ▸ List.mem_map_of_mem hs)
  dsimp only
  split
  · refine Or.inl ⟨fd, hfresh, ?_⟩
    have hmap : sockets.map (fun socket => if socket.fd = fd then
        { socket with registered := true } else socket) = sockets := by
      refine (List.map_congr_left fun socket hs => ?_).trans (List.map_id _)
      exact if_neg (hother socket hs)
    unfold socketRegister
    rw [List.map_append, hmap]
    simp
  · refine Or.inr ⟨.eventsError, nofun, ?_⟩
    unfold socketClose
    rw [List.filter_append, List.filter_eq_self.2 (by simpa using hother)]
    simp

/-- The socket that was registered is closed; what was opened beside it stays. -/
theorem socketClose_register (fd : Nat) (endpoint : ListenerEndpoint) (others : List ListenSocket)
    (h : ∀ socket ∈ others, socket.fd ≠ fd) :
    socketClose (socketRegister (⟨fd, endpoint, true⟩ :: others) fd false) fd = others := by
  have hmap : socketRegister others fd false = others := by
    refine (List.map_congr_left fun socket hs => ?_).trans (List.map_id _)
    exact if_neg (h socket hs)
  change List.filter _ ((if fd = fd then _ else _) :: socketRegister others fd false) = others
  rw [if_pos rfl, hmap, List.filter_cons_of_neg (by simp)]
  exact List.filter_eq_self.2 (by simpa using h)

/-- How a replacement may end: with the new endpoint or with the old one. -/
structure Replaced (result : ListenerSocketReplaceStatus × Listening)
    (endpoint active : ListenerEndpoint) : Prop where
  ok : result.1 = .ok → result.2.Single ∧ result.2.endpoint = endpoint
  candidate : result.1 = .candidateError → result.2.Single ∧ result.2.endpoint = active

theorem socketRollback_replaced (endpoint active : ListenerEndpoint) (a : OpenAnswers) :
    Replaced (socketRollback [] active a) endpoint active := by
  unfold socketRollback
  rcases listenerSocketOpen_cases [] active a with ⟨opened, _, ho⟩ | ⟨status, hstatus, ho⟩
  · rw [ho]
    exact ⟨nofun, fun _ => ⟨⟨opened, rfl, rfl⟩, rfl⟩⟩
  · rw [ho]
    cases status with
    | ok => exact absurd rfl hstatus
    | bindError _ => exact ⟨nofun, nofun⟩
    | eventsError => exact ⟨nofun, nofun⟩

section

variable {target : Listening} (h : target.Single) (endpoint : ListenerEndpoint) (a : ReplaceAnswers)

include h

/-- The active socket is closed before the candidate is bound, and restored if that fails. -/
theorem listenerSocketReplaceConflicting_replaced :
    Replaced (listenerSocketReplaceConflicting target endpoint a) endpoint target.endpoint := by
  obtain ⟨fd, hfd, hsockets⟩ := h
  have hclosed : socketDetach target.sockets target.fd = [] := by
    rw [hsockets, hfd]
    exact socketClose_register fd _ [] nofun
  unfold listenerSocketReplaceConflicting
  split
  · exact ⟨nofun, nofun⟩
  rw [hclosed]
  rcases listenerSocketOpen_cases [] endpoint a.again with
    ⟨opened, _, hagain⟩ | ⟨status, hstatus, hagain⟩
  · rw [hagain]
    exact ⟨fun _ => ⟨⟨opened, rfl, rfl⟩, rfl⟩, nofun⟩
  · rw [hagain]
    cases status with
    | ok => exact absurd rfl hstatus
    | bindError _ => exact socketRollback_replaced endpoint target.endpoint a.rollback
    | eventsError => exact socketRollback_replaced endpoint target.endpoint a.rollback

/-- **The listening socket is replaced, or it is what it was**, unless the error is reported as one
    of the active socket. -/
theorem listenerSocketReplace_replaced :
    Replaced (listenerSocketReplace target endpoint a) endpoint target.endpoint := by
  obtain ⟨fd, hfd, hsockets⟩ := h
  have hsame : target.Single := ⟨fd, hfd, hsockets⟩
  unfold listenerSocketReplace
  rcases listenerSocketOpen_cases target.sockets endpoint a.candidate with
    ⟨opened, hfresh, ho⟩ | ⟨status, hstatus, ho⟩
  · rw [ho]
    dsimp only
    split
    · exact ⟨nofun, nofun⟩
    · refine ⟨fun _ => ⟨⟨opened, rfl, ?_⟩, rfl⟩, nofun⟩
      have hne : opened ≠ fd := by
        rw [hsockets] at hfresh
        simpa using hfresh
      rw [hsockets, hfd]
      exact socketClose_register fd _ _ (by simpa using hne)
  · rw [ho]
    cases status with
    | ok => exact absurd rfl hstatus
    | eventsError => exact ⟨nofun, fun _ => ⟨hsame, rfl⟩⟩
    | bindError ebind =>
      dsimp only
      split
      · exact listenerSocketReplaceConflicting_replaced hsame endpoint a
      · exact ⟨nofun, fun _ => ⟨hsame, rfl⟩⟩

end

/-! ## 2. What is in use -/

/-- What a generation is made of.  The bindings and the resolution of its destinations belong to
    other modules. -/
structure RouteContents (η : Type) where
  config : Conf
  hosts : η
  routes : RouteTable

/-- `listener_context` and the listener's socket, as far as a reload is concerned.  `current` is
    what the pointers `config`, `hosts` and `routes` lead to; `publishes` records the answers of the
    registry, the last one first. -/
structure ListenerServer (η : Type) extends ListenerContext (RouteContents η) where
  current : RouteContents η
  logFilename : Bytes
  configCache : Option Bytes
  generationNextIdentity : Nat
  listening : Listening
  publishes : List RegistryPublishStatus

/-- What the program is started with: the parsers of the libraries, and the working directory. -/
structure Surroundings where
  netAddrParse : Bytes → Option NetAddr
  jsonParse : Bytes → Option Json
  workingDirectory : Bytes

section Reload

variable {η : Type} (w : Surroundings)

/-- `listener_endpoint_prepare`; `none` is a bad address or a bad port. -/
def listenerEndpointPrepare (config : Conf) : Option ListenerEndpoint :=
  match w.netAddrParse config.listenAddress with
  | none => none
  | some address => if config.listenPort = 0 then none else some ⟨address, config.listenPort⟩

/-- `clock_gettime`. -/
def serverClock : Option Nat → StateM (ListenerServer η) (Option Timespec)
  | none => pure none
  | some advance => do
    modify fun s => { s with clock := s.clock.later advance }
    let s ← get
    pure (some s.clock)

/-- `listener_route_prepare_status`; an `OK` comes with the generation. -/
inductive ListenerRoutePrepareStatus where
  | ok (generation : Nat)
  | candidateError
  | timeError
deriving Repr, DecidableEq

/-- The answers to `listener_generation_prepare`. -/
structure PrepareAnswers where
  table : Bool
  bindings : Bool
  clock : Option Nat
  resolution : Bool
  allocated : Bool

/-- `listener_generation_create`. -/
def listenerGenerationCreate (contents : RouteContents η) (allocated : Bool) :
    StateM (ListenerServer η) ListenerRoutePrepareStatus := do
  let s ← get
  match routeGenerationCreate s.generations s.generationNextIdentity contents allocated with
  | (.ok, some generation, generations) =>
    set { s with generations }
    pure (.ok generation)
  | _ => pure .candidateError

/-- `listener_generation_prepare`. -/
def listenerGenerationPrepare (config : Conf) (hosts : η) (a : PrepareAnswers) :
    StateM (ListenerServer η) ListenerRoutePrepareStatus :=
  match routeTableBuild w.netAddrParse config.proxy with
  | none => pure .candidateError
  | some routes =>
    if a.table && a.bindings then do
      match ← serverClock a.clock with
      | none => pure .timeError
      | some _ =>
        if a.resolution then listenerGenerationCreate ⟨config, hosts, routes⟩ a.allocated
        else pure .candidateError
    else pure .candidateError

/-- The answers to `listener_generation_publish`. -/
structure PublishAnswers where
  clock : Option Nat
  before : RouteResolutionReleaseStatus
  after : RouteResolutionReleaseStatus

/-- `generation_next_identity` after a publication. -/
def identityNext (identity : Nat) : Nat := if identity = uint64Max then 0 else identity + 1

/-- The pointers of the context follow the active generation. -/
def contextFollow (s : ListenerServer η) : Option (ListenerServer η) :=
  (s.generations.contents s.generations.active).map fun current =>
    { s with current, generationNextIdentity := identityNext s.generationNextIdentity }

/-- `listener_generation_publish`: the status, and what is left in the candidate's pointer. -/
def listenerGenerationPublish (candidate : Nat) (a : PublishAnswers) :
    StateM (ListenerServer η) (RegistryPublishStatus × Option Nat) := do
  match ← serverClock a.clock with
  | none => pure (.time, some candidate)
  | some now =>
    modify fun s => { s with supervision := s.supervision.call now }
    let s ← get
    match registryPublish s.generations (some candidate) now a.before a.after with
    | (status, some left, generations) =>
      set { s with generations, publishes := status :: s.publishes }
      pure (status, some left)
    | (status, none, generations) =>
      match contextFollow { s with generations, publishes := status :: s.publishes } with
      | some s =>
        set s
        pure (status, none)
      | none =>
        set { s with generations, publishes := status :: s.publishes }
        pure (.badArgument, none)

/-- `route_generation_release` of a pointer of the function. -/
def generationDrop (generation : Option Nat) : StateM (ListenerServer η) PUnit :=
  modify fun s => { s with generations := (routeGenerationRelease s.generations generation).2 }

/-! ## 3. The reload -/

/-- The variables of `listener_reload` after the configuration was read. -/
structure ReloadLocal (η : Type) where
  failed : Bool := false
  published : Bool := false
  hosts : Option η
  generation : Option Nat := none

/-- The answers to `listener_reload`. -/
structure ReloadAnswers (η : Type) where
  /-- `listener_hosts_prepare`. -/
  hosts : Option η
  file : Except FreadallError Bytes
  parseAllocated : Bool
  /-- `log_file_validate`. -/
  logValid : Bool
  icon : Except FreadallError Bytes
  iconAllocated : Bool
  hostsCloned : Bool
  prepare : PrepareAnswers
  replace : ReplaceAnswers
  publish : PublishAnswers
  /-- The second attempt. -/
  hostsPreserved : Bool
  configCloned : Bool
  hostsClonedAgain : Bool
  iconAgain : Except FreadallError Bytes
  iconAllocatedAgain : Bool
  prepareAgain : PrepareAnswers
  publishAgain : PublishAnswers

section

variable (config : Conf) (cache : Bytes)

/-- The publication of a changed configuration. -/
def reloadPublish (generation : Nat) (a : ReloadAnswers η) :
    StateM (ListenerServer η) (ReloadLocal η) := do
  match ← listenerGenerationPublish generation a.publish with
  | (.ok, left) =>
    modify fun s => { s with
      logFilename := resolvePath config.logFilename w.workingDirectory
      configCache := some cache }
    pure { published := true, hosts := none, generation := left }
  | (_, left) => pure { failed := true, hosts := none, generation := left }

/-- The endpoint of a changed configuration, and its publication. -/
def reloadActivate (endpoint : ListenerEndpoint) (generation : Nat) (a : ReloadAnswers η) :
    StateM (ListenerServer η) (ReloadLocal η) := do
  let s ← get
  if s.listening.endpoint = endpoint then reloadPublish w config cache generation a
  else
    match listenerSocketReplace s.listening endpoint a.replace with
    | (.ok, listening) =>
      set { s with listening }
      reloadPublish w config cache generation a
    | (.candidateError, listening) =>
      set { s with listening }
      pure { hosts := none, generation := some generation }
    | (_, listening) =>
      set { s with listening }
      pure { failed := true, hosts := none, generation := some generation }

/-- A changed configuration, once its icon is loaded. -/
def reloadPrepare (endpoint : ListenerEndpoint) (hosts : η) (a : ReloadAnswers η) :
    StateM (ListenerServer η) (ReloadLocal η) := do
  match ← listenerGenerationPrepare w config hosts a.prepare with
  | .ok generation => reloadActivate w config cache endpoint generation a
  | .candidateError => pure { hosts := some hosts }
  | .timeError => pure { failed := true, hosts := some hosts }

/-- The case `CONF_READ_CHANGED`. -/
def reloadChanged (a : ReloadAnswers η) :
    StateM (ListenerServer η) (ReloadLocal η) := do
  let s ← get
  match listenerEndpointPrepare w config with
  | none => pure { hosts := a.hosts }
  | some endpoint =>
    if a.logValid then
      match configIconLoad config a.icon a.iconAllocated with
      | (false, _) => pure { hosts := a.hosts }
      | (true, config) =>
        match a.hosts, a.hostsCloned with
        | some hosts, _ => reloadPrepare w config cache endpoint hosts a
        | none, true => reloadPrepare w config cache endpoint s.current.hosts a
        | none, false => pure { hosts := none }
    else pure { hosts := a.hosts }

end

/-- The candidate that was not published goes, after its table of hosts is copied. -/
def reloadDrop (l : ReloadLocal η) (a : ReloadAnswers η) :
    StateM (ListenerServer η) (ReloadLocal η) := do
  let s ← get
  generationDrop l.generation
  if l.generation ≠ none ∧ l.failed = false ∧ a.hosts.isSome ∧ l.hosts.isNone ∧
      a.hostsPreserved then
    pure { l with
      generation := none
      hosts := (s.generations.contents l.generation).map RouteContents.hosts }
  else pure { l with generation := none }

/-- A generation is prepared and published: whether that has not failed. -/
def generationReplace (config : Conf) (hosts : η) (prepare : PrepareAnswers)
    (publish : PublishAnswers) : StateM (ListenerServer η) Bool := do
  match ← listenerGenerationPrepare w config hosts prepare with
  | .timeError => pure false
  | .candidateError => pure true
  | .ok generation =>
    match ← listenerGenerationPublish generation publish with
    | (status, left) =>
      generationDrop left
      pure (status = .ok)

/-- The second attempt, with the configuration there is. -/
def reloadAgain (unchanged : Bool) (l : ReloadLocal η) (a : ReloadAnswers η) :
    StateM (ListenerServer η) Bool := do
  let s ← get
  match configClone s.current.config a.configCloned with
  | none => pure true
  | some config =>
    let config := if unchanged then (configIconLoad config a.iconAgain a.iconAllocatedAgain).2
      else config
    match l.hosts, a.hostsClonedAgain with
    | some hosts, _ => generationReplace w config hosts a.prepareAgain a.publishAgain
    | none, true => generationReplace w config s.current.hosts a.prepareAgain a.publishAgain
    | none, false => pure true

/-- The end of `listener_reload`. -/
def reloadFinish (unchanged : Bool) (a : ReloadAnswers η) (l : ReloadLocal η) :
    StateM (ListenerServer η) Bool := do
  let l ← reloadDrop l a
  if l.failed then pure false
  else if l.published = false ∧ ((a.hosts.isSome ∧ l.hosts.isSome) ∨ unchanged) then
    reloadAgain w unchanged l a
  else pure true

/-- `listener_reload`: whether it returns 0. -/
def listenerReload (a : ReloadAnswers η) : StateM (ListenerServer η) Bool := do
  let s ← get
  match configRead w.jsonParse s.configCache a.file a.parseAllocated with
  | .changed config cache => do
    let l ← reloadChanged w config cache a
    reloadFinish w false a l
  | .unchanged => reloadFinish w true a { hosts := a.hosts }
  | .error _ => reloadFinish w false a { hosts := a.hosts }

/-- The answers to `listener_hosts_reload`. -/
structure HostsReloadAnswers (η : Type) where
  hosts : Option η
  configCloned : Bool
  prepare : PrepareAnswers
  publish : PublishAnswers

/-- `listener_hosts_reload`: whether it returns 0. -/
def listenerHostsReload (a : HostsReloadAnswers η) : StateM (ListenerServer η) Bool := do
  let s ← get
  match a.hosts, configClone s.current.config a.configCloned with
  | none, _ | some _, none => pure true
  | some hosts, some config => generationReplace w config hosts a.prepare a.publish

end Reload

/-! ## 4. Steps of a reload -/

section Steps

variable {η : Type} {w : Surroundings} {held : Nat → Nat} {s₀ : ListenerServer η}

/-- The reference in a pointer of the function. -/
def pointerShare (g : Option Nat) (q : Nat) : Nat := if g = some q then 1 else 0

theorem pointerShare_none (held : Nat → Nat) : (fun q => held q + pointerShare none q) = held := by
  funext q
  rw [pointerShare, if_neg (by exact nofun), Nat.add_zero]

theorem pointerShare_some (p q : Nat) : pointerShare (some p) q = if q = p then 1 else 0 :=
  if_congr (Option.some_inj.trans eq_comm) rfl rfl

/-- What a reload does not touch, and the clock, which goes on. -/
structure Framed (s₀ s : ListenerServer η) : Prop where
  metrics : s.metrics = s₀.metrics
  workers : s.workers = s₀.workers
  children : s.children = s₀.children
  settlements : s.settlements = s₀.settlements
  clock : timeutilValid s₀.clock = true → s₀.clock ≤ s.clock ∧ timeutilValid s.clock = true
  supervised : timeutilValid s₀.clock = true → s₀.supervision.Until s₀.clock →
    s.supervision.Until s.clock

/-- Nothing has been published since `s₀`.  The references are those of `held` and of a candidate
    `g` of the function; the listening socket is `l`. -/
structure Unmoved (held : Nat → Nat) (s₀ : ListenerServer η) (l : Listening) (g : Option Nat)
    (s : ListenerServer η) : Prop where
  framed : Framed s₀ s
  accounted : s.generations.Accounted fun q => held q + pointerShare g q
  active : s.generations.active = s₀.generations.active
  retired : s.generations.retired = s₀.generations.retired
  contents : s.generations.contents s.generations.active =
    s₀.generations.contents s₀.generations.active
  current : s.current = s₀.current
  logFilename : s.logFilename = s₀.logFilename
  configCache : s.configCache = s₀.configCache
  listening : s.listening = l
  publishes : s.publishes = s₀.publishes

variable {l : Listening} {g : Option Nat}

/-- The state it starts from. -/
theorem Unmoved.refl {s : ListenerServer η} (h : s.generations.Accounted held) :
    Unmoved held s s.listening none s where
  framed := ⟨rfl, rfl, rfl, rfl, fun hvalid => ⟨le_rfl, hvalid⟩, fun _ h => h⟩
  accounted := by
    exact h
  active := rfl
  retired := rfl
  contents := rfl
  current := rfl
  logFilename := rfl
  configCache := rfl
  listening := rfl
  publishes := rfl

theorem serverClock_unmoved (clock : Option Nat) :
    Keeps (Unmoved held s₀ l g) (serverClock clock) := by
  cases clock with
  | none => exact keeps_pure none
  | some advance =>
    refine Leads.bind (leads_modify fun s hs => ?_) fun _ => keeps_get fun _ => keeps_pure _
    refine { hs with framed := { hs.framed with
      clock := fun hvalid => ?_, supervised := fun hvalid hsupervised => ?_ } }
    all_goals
      have hlater := Timespec.later_spec (hs.framed.clock hvalid).2 advance
    · exact ⟨(hs.framed.clock hvalid).1.trans hlater.1, hlater.2⟩
    · exact (hs.framed.supervised hvalid hsupervised).mono hlater.1

/-- What `listener_generation_prepare` may answer. -/
def Prepared (w : Surroundings) (held : Nat → Nat) (s₀ : ListenerServer η) (l : Listening)
    (config : Conf) (hosts : η) (status : ListenerRoutePrepareStatus) (s : ListenerServer η) :
    Prop :=
  match status with
  | .ok generation => Unmoved held s₀ l (some generation) s ∧
      ∃ routes, routeTableBuild w.netAddrParse config.proxy = some routes ∧
        s.generations.contents (some generation) = some ⟨config, hosts, routes⟩
  | .candidateError | .timeError => Unmoved held s₀ l none s

theorem listenerGenerationCreate_prepared {hosts : η}
    (hroutes : routeTableBuild w.netAddrParse config.proxy = some routes) (allocated : Bool) :
    Leads (Unmoved held s₀ l none)
      (listenerGenerationCreate ⟨config, hosts, routes⟩ allocated)
      fun status => Prepared w held s₀ l config hosts status := by
  refine leads_get fun s hs => ?_
  split
  · rename_i p generations hc
    have haccount : generations.Accounted fun q => held q + pointerShare (some p) q := by
      have hbefore := hs.accounted
      rw [pointerShare_none] at hbefore
      exact hbefore.created hc fun q => by rw [pointerShare_some]
    have hpersists := Generations.Persists.create s.generations s.generationNextIdentity
      (⟨config, hosts, routes⟩ : RouteContents η) allocated
    rw [hc] at hpersists
    have hkept : generations.active = s.generations.active ∧
        generations.retired = s.generations.retired ∧
        generations.contents (some p) = some ⟨config, hosts, routes⟩ := by
      unfold routeGenerationCreate at hc
      split at hc
      · cases hc
      split at hc
      · cases hc
      · cases hc
        refine ⟨rfl, rfl, ?_⟩
        unfold Generations.contents Generations.at?
        simp only [Option.bind, Function.update_self, Option.map_some]
    refine ⟨{ hs with
      framed := { hs.framed with }
      accounted := haccount
      active := hkept.1.trans hs.active
      retired := hkept.2.1.trans hs.retired
      contents := (hpersists.active_contents hs.accounted haccount hkept.1).trans hs.contents },
      routes, hroutes, hkept.2.2⟩
  · exact hs

theorem listenerGenerationPrepare_prepared (config : Conf) (hosts : η) (a : PrepareAnswers) :
    Leads (Unmoved held s₀ l none) (listenerGenerationPrepare w config hosts a)
      fun status => Prepared w held s₀ l config hosts status := by
  unfold listenerGenerationPrepare
  split
  · exact leads_pure fun _ hs => hs
  rename_i routes hroutes
  split
  · refine (serverClock_unmoved a.clock).bind fun now => ?_
    split
    · exact leads_pure fun _ hs => hs
    split
    · exact listenerGenerationCreate_prepared hroutes a.allocated
    · exact leads_pure fun _ hs => hs
  · exact leads_pure fun _ hs => hs

/-- What `listener_generation_publish` leaves behind. -/
structure Published (held : Nat → Nat) (s₀ : ListenerServer η) (l : Listening)
    (c : RouteContents η) (r : RegistryPublishStatus × Option Nat) (s : ListenerServer η) :
    Prop where
  framed : Framed s₀ s
  accounted : s.generations.Accounted fun q => held q + pointerShare r.2 q
  ok : r.1 = .ok → r.2 = none ∧ s.current = c
  contents : r.1 = .ok → s.generations.contents s.generations.active = some s.current
  logFilename : s.logFilename = s₀.logFilename
  configCache : s.configCache = s₀.configCache
  listening : s.listening = l
  free : s₀.generations.retired = none → .blocked ∉ s₀.publishes → .blocked ∉ s.publishes

/-- A candidate with the contents `c` waits to be published. -/
def Created (held : Nat → Nat) (s₀ : ListenerServer η) (l : Listening) (p : Nat)
    (c : RouteContents η) (s : ListenerServer η) : Prop :=
  Unmoved held s₀ l (some p) s ∧ s.generations.contents (some p) = some c

theorem listenerGenerationPublish_published {c : RouteContents η} (a : PublishAnswers) :
    Leads (Created held s₀ l p c) (listenerGenerationPublish p a)
      fun r => Published held s₀ l c r := by
  have hclock : Leads (Created held s₀ l p c) (serverClock (η := η) a.clock) fun now s =>
      Created held s₀ l p c s ∧ ∀ time ∈ now, time = s.clock := by
    intro s hs
    refine ⟨⟨serverClock_unmoved a.clock s hs.1, ?_⟩, ?_⟩
    all_goals cases a.clock
    · exact hs.2
    · exact hs.2
    · exact nofun
    · exact fun _ h => (Option.some.inj h).symm
  refine hclock.bind fun now => ?_
  cases now with
  | none =>
    refine leads_pure fun s hs => ?_
    obtain ⟨⟨hs, _⟩, _⟩ := hs
    exact ⟨hs.framed, hs.accounted, nofun, nofun, hs.logFilename, hs.configCache,
      hs.listening, fun _ hb => hs.publishes ▸ hb⟩
  | some now =>
    refine Leads.bind (leads_modify (K := Created held s₀ l p c) fun s hs => ?_)
      fun _ => leads_get fun s hs => ?_
    · refine ⟨{ hs.1.1 with framed := { hs.1.1.framed with supervised := fun hvalid h => ?_ } },
        hs.1.2⟩
      rw [hs.2 now rfl]
      exact (hs.1.1.framed.supervised hvalid h).call
    obtain ⟨hs, hcontents⟩ := hs
    have hbounded : p < s.generations.fresh := by
      obtain ⟨g, hg, _⟩ := hs.accounted.live (p := p) (by rw [pointerShare, if_pos rfl]; omega)
      exact hs.accounted.bounded p (by rw [hg]; exact nofun)
    have hcases := registryPublish_cases s.generations now (some p) a.before a.after
    have haccount := hs.accounted.publish (fun q => by rw [pointerShare_some]) now a.before a.after
    have hpersists := Generations.Persists.publish s.generations (some p) now a.before a.after
    have hfree := fun h : s.generations.retired = none =>
      registryPublish_free h (some p) now a.before a.after
    generalize registryPublish s.generations (some p) now a.before a.after = r
      at hcases haccount hpersists hfree ⊢
    obtain ⟨status, left, generations⟩ := r
    have hblocked : s₀.generations.retired = none → .blocked ∉ s₀.publishes →
        .blocked ∉ status :: s.publishes := by
      intro hretired hb hmem
      rcases List.mem_cons.1 hmem with he | hmem
      · exact hfree (hs.retired.trans hretired) he.symm
      · rw [hs.publishes] at hmem
        exact hb hmem
    have hframed : Framed s₀ { s with generations, publishes := status :: s.publishes } :=
      { hs.framed with }
    cases left with
    | some left =>
      have hleft : some left = some p ∧ status ≠ .ok := by
        rcases hcases with ⟨he | he, hne, _⟩ | ⟨_, _, _, he⟩
        · exact ⟨(Prod.ext_iff.1 he).1, hne⟩
        · exact ⟨(Prod.ext_iff.1 he).1, hne⟩
        · exact nomatch (Prod.ext_iff.1 he).1
      rw [hleft.1]
      exact ⟨hframed, haccount, fun hok => absurd hok hleft.2, fun hok => absurd hok hleft.2,
        hs.logFilename, hs.configCache, hs.listening, hblocked⟩
    | none =>
      have hactive : generations.active = some p := by
        rcases hcases with ⟨he | he, _⟩ | ⟨_, _, _, he⟩
        · exact nomatch (Prod.ext_iff.1 he).1
        · exact nomatch (Prod.ext_iff.1 he).1
        · have hgenerations : generations = _ := (Prod.ext_iff.1 he).2
          rw [hgenerations]
          exact registryCollect_active _ now a.after
      have hnow : generations.contents generations.active = some c := by
        obtain ⟨g, hg⟩ := haccount.active_live hactive
        rw [hactive, hpersists.contents hbounded (by rw [hg]; exact nofun)]
        exact hcontents
      have hfollow : contextFollow { s with generations, publishes := status :: s.publishes } =
          some { s with
            generations, publishes := status :: s.publishes, current := c
            generationNextIdentity := identityNext s.generationNextIdentity } := by
        unfold contextFollow
        rw [hnow]
        rfl
      dsimp only
      rw [hfollow]
      refine ⟨{ hs.framed with }, ?_, fun _ => ⟨rfl, rfl⟩,
        fun _ => hnow, hs.logFilename, hs.configCache, hs.listening, hblocked⟩
      exact haccount

theorem generationDrop_accounted (g : Option Nat) :
    Leads (fun s => s.generations.Accounted fun q => held q + pointerShare g q)
      (generationDrop (η := η) g) fun _ s => s.generations.Accounted held := by
  refine leads_modify fun s hs => ?_
  cases g with
  | none =>
    exact hs
  | some p => exact hs.release fun q => by rw [pointerShare_some]

end Steps

/-! ## 5. All or nothing -/

section Whole

variable {η : Type} {w : Surroundings} {held : Nat → Nat}

/-- What is in use belongs together: the active generation is what the context shows, its routes
    are those of its configuration, and one socket is registered. -/
structure Coherent (w : Surroundings) (held : Nat → Nat) (s : ListenerServer η) : Prop where
  accounted : s.generations.Accounted held
  contents : s.generations.contents s.generations.active = some s.current
  routes : routeTableBuild w.netAddrParse s.current.config.proxy = some s.current.routes
  single : s.listening.Single

/-- A configuration that was read, with its icon. -/
structure ReadConfig (w : Surroundings) (a : ReloadAnswers η) (config : Conf) (cache : Bytes)
    (endpoint : ListenerEndpoint) : Prop where
  file : a.file = .ok cache
  parsed : ∃ json parsed, w.jsonParse cache = some json ∧
    configParse json a.parseAllocated = .ok parsed ∧
      configIconLoad parsed a.icon a.iconAllocated = (true, config)
  endpoint : listenerEndpointPrepare w config = some endpoint

/-- **All of it is new**: the configuration, the routes, the endpoint, the log path and the cache
    come from the file that was read. -/
structure AllNew (w : Surroundings) (a : ReloadAnswers η) (s : ListenerServer η) : Prop where
  candidate : ∃ cache, ReadConfig w a s.current.config cache s.listening.endpoint ∧
    s.configCache = some cache
  routes : routeTableBuild w.netAddrParse s.current.config.proxy = some s.current.routes
  logFilename : s.logFilename = resolvePath s.current.config.logFilename w.workingDirectory

/-- The file is the one the cache was taken from. -/
def FileUnchanged (a : ReloadAnswers η) (s : ListenerServer η) : Prop :=
  ∃ raw, raw ≠ [] ∧ a.file = .ok raw ∧ s.configCache = some raw

/-- **All of it is old**, but for the hosts, and for the icon of an unchanged file. -/
structure AllOld (unchanged : Prop) (s₀ s : ListenerServer η) : Prop where
  config : s₀.current.config.SameUpToIcon s.current.config
  icon : ¬ unchanged → s.current.config = s₀.current.config
  routes : s.current.routes = s₀.current.routes
  endpoint : s.listening.endpoint = s₀.listening.endpoint
  logFilename : s.logFilename = s₀.logFilename
  configCache : s.configCache = s₀.configCache

/-- What the loop relies on after a reload: the references are those of before, and with a result
    of 0 everything belongs together.  A reload that no retired generation stands in the way of is
    not blocked. -/
structure Renewed (w : Surroundings) (held : Nat → Nat) (s₀ : ListenerServer η) (ok : Bool)
    (s : ListenerServer η) : Prop where
  framed : Framed s₀ s
  accounted : s.generations.Accounted held
  coherent : ok = true → Coherent w held s
  free : s₀.generations.retired = none → .blocked ∉ s₀.publishes → .blocked ∉ s.publishes

/-- How a reload may end. -/
structure Reloaded (w : Surroundings) (held : Nat → Nat) (s₀ : ListenerServer η)
    (a : ReloadAnswers η) (ok : Bool) (s : ListenerServer η) : Prop extends
    Renewed w held s₀ ok s where
  whole : ok = true → AllNew w a s ∨ AllOld (FileUnchanged a s₀) s₀ s

/-- How a reload ends that keeps the configuration. -/
structure Restored (w : Surroundings) (held : Nat → Nat) (unchanged : Prop)
    (s₀ : ListenerServer η) (ok : Bool) (s : ListenerServer η) : Prop extends
    Renewed w held s₀ ok s where
  whole : ok = true → AllOld unchanged s₀ s

/-- How the first attempt may end. -/
structure Attempted (w : Surroundings) (held : Nat → Nat) (s₀ : ListenerServer η)
    (a : ReloadAnswers η) (r : ReloadLocal η) (s : ListenerServer η) : Prop where
  framed : Framed s₀ s
  accounted : s.generations.Accounted fun q => held q + pointerShare r.generation q
  new : r.failed = false → r.published = true →
    r.generation = none ∧ Coherent w held s ∧ AllNew w a s
  old : r.failed = false → r.published = false →
    ∃ l, Unmoved held s₀ l r.generation s ∧ l.Single ∧ l.endpoint = s₀.listening.endpoint
  free : s₀.generations.retired = none → .blocked ∉ s₀.publishes → .blocked ∉ s.publishes

variable {s₀ : ListenerServer η} {l : Listening} {a : ReloadAnswers η}

/-- Nothing was published and nothing failed. -/
theorem Unmoved.attempted {r : ReloadLocal η} {s : ListenerServer η}
    (h : Unmoved held s₀ l r.generation s) (hl : l.Single)
    (he : l.endpoint = s₀.listening.endpoint) (hp : r.published = false) :
    Attempted w held s₀ a r s where
  framed := h.framed
  accounted := h.accounted
  new _ hpublished := absurd hpublished (Bool.eq_false_iff.1 hp)
  old _ _ := ⟨l, h, hl, he⟩
  free _ hb := h.publishes ▸ hb

/-- The attempt failed before anything was published. -/
theorem Unmoved.failed {r : ReloadLocal η} {s : ListenerServer η}
    (h : Unmoved held s₀ l r.generation s) (hf : r.failed = true) : Attempted w held s₀ a r s where
  framed := h.framed
  accounted := h.accounted
  new hok := absurd hf (Bool.eq_false_iff.1 hok)
  old hok := absurd hf (Bool.eq_false_iff.1 hok)
  free _ hb := h.publishes ▸ hb

theorem reloadPublish_attempted {hosts : η}
    (hl : l.Single) (hc : ReadConfig w a config cache l.endpoint)
    (hroutes : routeTableBuild w.netAddrParse config.proxy = some routes) :
    Leads (Created held s₀ l p ⟨config, hosts, routes⟩) (reloadPublish w config cache p a)
      fun r => Attempted w held s₀ a r := by
  refine (listenerGenerationPublish_published a.publish).bind fun r => ?_
  obtain ⟨status, left⟩ := r
  by_cases hstatus : status = .ok
  · subst hstatus
    refine Leads.bind (leads_modify fun s hs => ?_) fun _ => leads_pure fun s hs => hs
    obtain ⟨hleft, hcurrent⟩ := hs.ok rfl
    subst hleft
    have haccount := hs.accounted
    refine ⟨{ hs.framed with }, hs.accounted,
      fun _ _ => ⟨rfl, ⟨haccount, hs.contents rfl, ?_, ?_⟩, ⟨⟨cache, ?_, rfl⟩, ?_, ?_⟩⟩, nofun,
      hs.free⟩
    · rw [hcurrent]
      exact hroutes
    · rw [hs.listening]
      exact hl
    · rw [hcurrent, hs.listening]
      exact hc
    · rw [hcurrent]
      exact hroutes
    · rw [hcurrent]
  · have hfailed : Leads (Published held s₀ l ⟨config, hosts, routes⟩ (status, left))
        (pure { failed := true, hosts := none, generation := left })
        fun r => Attempted w held s₀ a r := by
      refine leads_pure fun s hs => ?_
      exact ⟨hs.framed, hs.accounted, nofun, nofun, hs.free⟩
    cases status with
    | ok => exact absurd rfl hstatus
    | blocked => exact hfailed
    | badArgument => exact hfailed
    | io => exact hfailed
    | time => exact hfailed

theorem reloadActivate_attempted {endpoint : ListenerEndpoint}
    {hosts : η} (hl : l.Single) (hsame : l = s₀.listening)
    (hc : ReadConfig w a config cache endpoint)
    (hroutes : routeTableBuild w.netAddrParse config.proxy = some routes) :
    Leads (Created held s₀ l p ⟨config, hosts, routes⟩)
      (reloadActivate w config cache endpoint p a) fun r => Attempted w held s₀ a r := by
  refine leads_get fun s hs => ?_
  -- the program goes on from the state with the new listening socket
  have hmoved : ∀ listening, Created held s₀ listening p _ { s with listening } := fun listening =>
    ⟨{ hs.1 with
      framed := { hs.1.framed with }
      listening := rfl }, hs.2⟩
  split
  · rename_i he
    rw [hs.1.listening] at he
    subst he
    exact reloadPublish_attempted hl hc hroutes s hs
  · have hreplaced := listenerSocketReplace_replaced hl endpoint a.replace
    rw [hs.1.listening]
    generalize listenerSocketReplace l endpoint a.replace = r at hreplaced ⊢
    obtain ⟨status, listening⟩ := r
    cases status with
    | ok =>
      obtain ⟨hsingle, he⟩ := hreplaced.ok rfl
      subst he
      exact reloadPublish_attempted hsingle hc hroutes _ (hmoved listening)
    | candidateError =>
      obtain ⟨hsingle, he⟩ := hreplaced.candidate rfl
      exact (hmoved listening).1.attempted hsingle (he.trans (by rw [hsame])) rfl
    | activeError => exact (hmoved listening).1.failed rfl
    | rollbackError => exact (hmoved listening).1.failed rfl

theorem reloadPrepare_attempted {endpoint : ListenerEndpoint}
    (hosts : η) (hl : l.Single) (hsame : l = s₀.listening)
    (hc : ReadConfig w a config cache endpoint) :
    Leads (Unmoved held s₀ l none) (reloadPrepare w config cache endpoint hosts a)
      fun r => Attempted w held s₀ a r := by
  refine (listenerGenerationPrepare_prepared config hosts a.prepare).bind fun status => ?_
  cases status with
  | ok p =>
    intro s hs
    obtain ⟨hunmoved, routes, hroutes, hcontents⟩ := hs
    exact reloadActivate_attempted hl hsame hc hroutes s ⟨hunmoved, hcontents⟩
  | candidateError =>
    refine leads_pure fun s hs => ?_
    exact Unmoved.attempted (r := { hosts := some hosts }) hs hl (by rw [hsame]) rfl
  | timeError =>
    refine leads_pure fun s hs => ?_
    exact Unmoved.failed (r := { failed := true, hosts := some hosts }) hs rfl

/-- The endpoint does not depend on the icon. -/
theorem listenerEndpointPrepare_icon {c d : Conf} (h : c.SameUpToIcon d) :
    listenerEndpointPrepare w d = listenerEndpointPrepare w c := by
  rw [h]
  rfl

theorem reloadChanged_attempted {json : Json} (hl : l.Single)
    (hsame : l = s₀.listening) (hfile : a.file = .ok cache) (hjson : w.jsonParse cache = some json)
    (hparse : configParse json a.parseAllocated = .ok config) :
    Leads (Unmoved held s₀ l none) (reloadChanged w config cache a)
      fun r => Attempted w held s₀ a r := by
  refine leads_get fun s hs => ?_
  have hkeep : ∀ hosts : Option η, Attempted w held s₀ a { hosts } s := fun hosts =>
    Unmoved.attempted (r := { hosts }) hs hl (by rw [hsame]) rfl
  split
  · exact hkeep _
  rename_i endpoint hendpoint
  split
  · have hicon := configIconLoad_sameUpToIcon config a.icon a.iconAllocated
    cases hload : configIconLoad config a.icon a.iconAllocated with
    | mk ready loaded =>
      rw [hload] at hicon
      cases ready with
      | false => exact hkeep _
      | true =>
        have hc : ReadConfig w a loaded cache endpoint :=
          ⟨hfile, ⟨json, config, hjson, hparse, hload⟩,
            (listenerEndpointPrepare_icon hicon).trans hendpoint⟩
        dsimp only
        split
        · exact reloadPrepare_attempted _ hl hsame hc s hs
        · exact reloadPrepare_attempted _ hl hsame hc s hs
        · exact hkeep _
  · exact hkeep _

variable {unchanged : Prop}

/-- A reload that publishes nothing leaves all of it old. -/
theorem Unmoved.restored {s : ListenerServer η} (h : Unmoved held s₀ l none s) (hl : l.Single)
    (he : l.endpoint = s₀.listening.endpoint) (h₀ : Coherent w held s₀) (ok : Bool) :
    Restored w held unchanged s₀ ok s where
  framed := h.framed
  accounted := by
    have haccount := h.accounted
    rwa [pointerShare_none] at haccount
  coherent _ := by
    have haccount := h.accounted
    refine ⟨haccount, ?_, ?_, ?_⟩
    · rw [h.contents, h.current]
      exact h₀.contents
    · rw [h.current]
      exact h₀.routes
    · rw [h.listening]
      exact hl
  whole _ := by
    refine ⟨?_, fun _ => by rw [h.current], by rw [h.current], ?_, h.logFilename, h.configCache⟩
    · rw [h.current]
      exact .refl _
    · rw [h.listening]
      exact he
  free _ hb := h.publishes ▸ hb

/-- A generation with the configuration there is, and other hosts or another icon. -/
theorem generationReplace_restored (hosts : η) (prepare : PrepareAnswers)
    (publish : PublishAnswers) (hl : l.Single) (he : l.endpoint = s₀.listening.endpoint)
    (h₀ : Coherent w held s₀) (hicon : s₀.current.config.SameUpToIcon config)
    (hsame : ¬ unchanged → config = s₀.current.config) :
    Leads (Unmoved held s₀ l none) (generationReplace w config hosts prepare publish)
      fun ok => Restored w held unchanged s₀ ok := by
  refine (listenerGenerationPrepare_prepared config hosts prepare).bind fun status => ?_
  cases status with
  | candidateError => exact leads_pure fun s hs => hs.restored hl he h₀ _
  | timeError => exact leads_pure fun s hs => hs.restored hl he h₀ _
  | ok p =>
    intro s hs
    obtain ⟨hunmoved, routes, hroutes, hcontents⟩ := hs
    have holdRoutes : routes = s₀.current.routes := by
      rw [hicon.proxy, h₀.routes] at hroutes
      exact (Option.some.inj hroutes).symm
    refine ((listenerGenerationPublish_published publish).bind fun r => ?_) s
      ⟨hunmoved, hcontents⟩
    obtain ⟨status, left⟩ := r
    refine Leads.bind (Q := fun _ => Restored w held unchanged s₀ (decide (status = .ok))) ?_
        fun _ =>
      leads_pure fun s hs => hs
    intro s hs
    have haccount := generationDrop_accounted left s hs.accounted
    have hok : decide (status = .ok) = true → left = none ∧ s.current = ⟨config, hosts, routes⟩ :=
      fun hd => hs.ok (of_decide_eq_true hd)
    refine ⟨⟨{ hs.framed with }, haccount, fun hd => ?_,
      hs.free⟩, fun hd => ?_⟩
    · obtain ⟨hleft, hcurrent⟩ := hok hd
      refine ⟨haccount, ?_, ?_, ?_⟩
      · rw [hleft]
        exact hs.contents (of_decide_eq_true hd)
      · change routeTableBuild _ s.current.config.proxy = some s.current.routes
        rw [hcurrent]
        exact hroutes
      · change s.listening.Single
        rw [hs.listening]
        exact hl
    · obtain ⟨_, hcurrent⟩ := hok hd
      refine ⟨?_, ?_, ?_, ?_, hs.logFilename, hs.configCache⟩
      · change s₀.current.config.SameUpToIcon s.current.config
        rw [hcurrent]
        exact hicon
      · intro hchanged
        change s.current.config = _
        rw [hcurrent]
        exact hsame hchanged
      · change s.current.routes = _
        rw [hcurrent]
        exact holdRoutes
      · change s.listening.endpoint = _
        rw [hs.listening]
        exact he

theorem reloadAgain_restored {flag : Bool} (r : ReloadLocal η) (hl : l.Single)
    (he : l.endpoint = s₀.listening.endpoint) (h₀ : Coherent w held s₀)
    (hfile : flag = true → unchanged) :
    Leads (Unmoved held s₀ l none) (reloadAgain w flag r a)
      fun ok => Restored w held unchanged s₀ ok := by
  refine leads_get fun s hs => ?_
  cases hclone : configClone s.current.config a.configCloned with
  | none => exact hs.restored hl he h₀ true
  | some config =>
    have hconfig : config = s₀.current.config :=
      (configClone_eq_some hclone).trans (by rw [hs.current])
    subst hconfig
    dsimp only
    have hicon : s₀.current.config.SameUpToIcon
        (if flag then
          (configIconLoad s₀.current.config a.iconAgain a.iconAllocatedAgain).2
        else s₀.current.config) := by
      split
      · exact configIconLoad_sameUpToIcon _ _ _
      · exact .refl _
    have hkept : ¬ unchanged →
        (if flag then
          (configIconLoad s₀.current.config a.iconAgain a.iconAllocatedAgain).2
        else s₀.current.config) = s₀.current.config := fun hnot => if_neg fun hu => hnot (hfile hu)
    split
    · exact generationReplace_restored _ _ _ hl he h₀ hicon hkept s hs
    · exact generationReplace_restored _ _ _ hl he h₀ hicon hkept s hs
    · exact hs.restored hl he h₀ true

theorem Restored.reloaded {ok : Bool} {s : ListenerServer η}
    (h : Restored w held (FileUnchanged a s₀) s₀ ok s) : Reloaded w held s₀ a ok s :=
  ⟨h.toRenewed, fun hok => Or.inr (h.whole hok)⟩

/-- The candidate that was not published goes. -/
theorem Unmoved.dropped {g : Option Nat} {s : ListenerServer η} (h : Unmoved held s₀ l g s) :
    Unmoved held s₀ l none
      { s with generations := (routeGenerationRelease s.generations g).2 } := by
  have haccount := generationDrop_accounted g s h.accounted
  have hp := routeGenerationRelease_pointers s.generations g
  have hpersists := Generations.Persists.release s.generations g
  exact { h with
    framed := { h.framed with }
    accounted := by
      exact haccount
    active := hp.1.trans h.active
    retired := hp.2.1.trans h.retired
    contents := (hpersists.active_contents h.accounted haccount hp.1).trans h.contents }

theorem reloadDrop_attempted (r : ReloadLocal η) :
    Leads (Attempted w held s₀ a r) (reloadDrop r a)
      fun r s => Attempted w held s₀ a r s ∧ r.generation = none := by
  refine leads_get fun s hs => ?_
  have hdropped : ∀ hosts, Attempted w held s₀ a { r with hosts, generation := none }
      { s with generations := (routeGenerationRelease s.generations r.generation).2 } := by
    intro hosts
    have haccount := generationDrop_accounted r.generation s hs.accounted
    refine ⟨{ hs.framed with }, ?_, fun hok hp => ?_,
      fun hok hp => ?_, hs.free⟩
    · exact haccount
    · obtain ⟨hnone, hcoherent, hnew⟩ := hs.new hok hp
      rw [hnone]
      exact ⟨rfl, hcoherent, hnew⟩
    · obtain ⟨l, hunmoved, hl, he⟩ := hs.old hok hp
      exact ⟨l, hunmoved.dropped, hl, he⟩
  split
  · exact ⟨hdropped _, rfl⟩
  · exact ⟨hdropped _, rfl⟩

theorem reloadFinish_reloaded {flag : Bool} (r : ReloadLocal η) (h₀ : Coherent w held s₀)
    (hfile : flag = true → FileUnchanged a s₀) :
    Leads (Attempted w held s₀ a r) (reloadFinish w flag a r)
      fun ok => Reloaded w held s₀ a ok := by
  refine (reloadDrop_attempted r).bind fun r => ?_
  rintro s ⟨hs, hnone⟩
  have haccount := hs.accounted
  rw [hnone, pointerShare_none] at haccount
  split
  · exact ⟨⟨hs.framed, haccount, nofun, hs.free⟩, nofun⟩
  rename_i hok
  have hok : r.failed = false := Bool.eq_false_iff.2 hok
  cases hp : r.published with
  | true =>
    obtain ⟨_, hcoherent, hnew⟩ := hs.new hok hp
    exact ⟨⟨hs.framed, haccount, fun _ => hcoherent, hs.free⟩, fun _ => Or.inl hnew⟩
  | false =>
    obtain ⟨l, hunmoved, hl, he⟩ := hs.old hok hp
    rw [hnone] at hunmoved
    split
    · exact (reloadAgain_restored r hl he h₀ hfile s hunmoved).reloaded
    · exact (hunmoved.restored hl he h₀ true).reloaded

/-- **A reload that does not fail leaves all of it new or all of it old.** -/
theorem listenerReload_reloaded (h : Coherent w held s₀) (a : ReloadAnswers η) :
    Reloaded w held s₀ a (exec (listenerReload w a) s₀).1 (exec (listenerReload w a) s₀).2 := by
  have hunmoved : Unmoved held s₀ s₀.listening none s₀ := .refl h.accounted
  have hstart : ∀ hosts, Attempted w held s₀ a { hosts } s₀ := fun hosts =>
    Unmoved.attempted (r := { hosts }) hunmoved h.single rfl rfl
  unfold listenerReload
  rw [exec_get]
  cases hread : configRead w.jsonParse s₀.configCache a.file a.parseAllocated with
  | changed config cache =>
    obtain ⟨hfile, _, json, hjson, hparse⟩ := configRead_changed hread
    have hattempt : Leads (Unmoved held s₀ s₀.listening none) (do
        let r ← reloadChanged w config cache a
        reloadFinish w false a r) fun ok => Reloaded w held s₀ a ok :=
      (reloadChanged_attempted h.single rfl hfile hjson hparse).bind fun r =>
        reloadFinish_reloaded r h nofun
    exact hattempt s₀ hunmoved
  | unchanged =>
    exact reloadFinish_reloaded _ h (fun _ => configRead_unchanged hread) s₀ (hstart _)
  | error e =>
    refine reloadFinish_reloaded _ h ?_ s₀ (hstart _)
    exact nofun

/-- **A reload of the hosts keeps everything else.** -/
theorem listenerHostsReload_restored (h : Coherent w held s₀) (a : HostsReloadAnswers η) :
    Restored w held False s₀ (exec (listenerHostsReload w a) s₀).1
      (exec (listenerHostsReload w a) s₀).2 := by
  unfold listenerHostsReload
  rw [exec_get]
  have hunmoved : Unmoved held s₀ s₀.listening none s₀ := .refl h.accounted
  have hkeep : Restored w held False s₀ true s₀ := hunmoved.restored h.single rfl h true
  split
  · exact hkeep
  · exact hkeep
  · rename_i hosts config _ hclone
    have hconfig : config = s₀.current.config := configClone_eq_some hclone
    subst hconfig
    exact generationReplace_restored hosts _ _ h.single rfl h (.refl _) (fun _ => rfl) s₀ hunmoved

/-- **A reload that returns 0 is whole**: everything is new or everything is old, the active
    generation is the one in use, and one socket is registered. -/
theorem listenerReload_whole (h : Coherent w held s₀) (a : ReloadAnswers η)
    (hok : (exec (listenerReload w a) s₀).1 = true) :
    (AllNew w a (exec (listenerReload w a) s₀).2 ∨
      AllOld (FileUnchanged a s₀) s₀ (exec (listenerReload w a) s₀).2) ∧
    (exec (listenerReload w a) s₀).2.generations.contents
        (exec (listenerReload w a) s₀).2.generations.active =
      some (exec (listenerReload w a) s₀).2.current ∧
    (exec (listenerReload w a) s₀).2.listening.Single := by
  have hreloaded := listenerReload_reloaded h a
  have hcoherent := hreloaded.coherent hok
  exact ⟨hreloaded.whole hok, hcoherent.contents, hcoherent.single⟩

end Whole

/-! ## 6. A reload from a small file -/

/-- One destination, and the default address to listen at. -/
def smallJson : Json := .object [(ascii "proxy", .array (singleProxy (ascii "a")))]

/-- `::`. -/
def smallAddress : NetAddr := ⟨.inet6, List.replicate 16 0, rfl⟩

/-- `::` is the only text in use that is an address, and every file is the small one. -/
def smallSurroundings : Surroundings where
  netAddrParse text := if text = ascii "::" then some smallAddress else none
  jsonParse _ := some smallJson
  workingDirectory := ascii "/"

/-- The configuration before, with another port. -/
def smallConf : Conf where
  logFilename := ascii "/var/log/mcrelay/access.log"
  logLevel := 2
  listenAddress := ascii "::"
  listenPort := 25566
  metricsInterval := 0
  iconPath := none
  iconB64 := none
  iconCache := none
  proxy := singleProxy (ascii "a")

/-- What the active generation holds. -/
def smallContents : RouteContents Unit :=
  ⟨smallConf, (), (routeTableBuild smallSurroundings.netAddrParse smallConf.proxy).getD ⟨[], []⟩⟩

/-- The registry with the first generation. -/
def smallGenerations : Generations (RouteContents Unit) :=
  (registryPublish (routeGenerationCreate Generations.create 1 smallContents true).2.2
    (some 0) ⟨1, 0⟩ .ok .ok).2.2

/-- The server before the reload. -/
def smallServer : ListenerServer Unit where
  generations := smallGenerations
  metrics := {}
  workers := []
  children := []
  clock := ⟨1, 0⟩
  settlements := []
  supervision := {}
  current := smallContents
  logFilename := ascii "/var/log/mcrelay/access.log"
  configCache := none
  generationNextIdentity := 2
  listening := ⟨⟨smallAddress, 25566⟩, some 3, [⟨3, ⟨smallAddress, 25566⟩, true⟩]⟩
  publishes := []

/-- A file that can be read, a port that can be bound. -/
def smallAnswers : ReloadAnswers Unit where
  hosts := some ()
  file := .ok [0]
  parseAllocated := true
  logValid := true
  icon := .error .erfail
  iconAllocated := true
  hostsCloned := true
  prepare := ⟨true, true, some 1, true, true⟩
  replace :=
    { candidate := ⟨.bound (fun fds => fds.sum + 1) fun _ hmem =>
        Nat.not_succ_le_self _ (List.le_sum_of_mem hmem), true⟩
      remove := true, again := ⟨.failed, true⟩, rollback := ⟨.failed, true⟩ }
  publish := ⟨some 1, .ok, .ok⟩
  hostsPreserved := true
  configCloned := true
  hostsClonedAgain := true
  iconAgain := .error .erfail
  iconAllocatedAgain := true
  prepareAgain := ⟨true, true, some 1, true, true⟩
  publishAgain := ⟨some 1, .ok, .ok⟩

theorem smallServer_coherent : Coherent smallSurroundings (fun _ => 0) smallServer where
  accounted := by
    have hcreated := Generations.Accounted.empty.created
      (rfl : routeGenerationCreate Generations.create 1 smallContents true = _) fun _ => rfl
    exact hcreated.publish (c := 0) (fun _ => rfl) ⟨1, 0⟩ .ok .ok
  contents := rfl
  routes := rfl
  single := ⟨3, rfl, rfl⟩

theorem listenerReload_whole_small :
    (exec (listenerReload smallSurroundings smallAnswers) smallServer).1 = true ∧
      (exec (listenerReload smallSurroundings smallAnswers) smallServer).2.listening.endpoint =
        ⟨smallAddress, 25565⟩ ∧
      (exec (listenerReload smallSurroundings smallAnswers) smallServer).2.listening.Single :=
  ⟨rfl, rfl, (listenerReload_whole smallServer_coherent smallAnswers rfl).2.2⟩

end MinecraftRelay
