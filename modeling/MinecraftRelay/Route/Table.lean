/-
  File:      Route/Table.lean
  Subject:   THE ROUTE TABLE (src/route/table.c).

  The table is made once from the accepted proxy list: a route for each virtual host, and a
  destination for each item, shared between items that name the same one.  A handshake is looked up
  by the virtual host it names, without one dot at its end and without regard to case.

  * `RouteBuilt` -- a route that was made from an item;
  * `routeTableBuild_owned` -- every virtual host of the list has its route, in the list's order;
  * `routeTableFind_iff` -- which virtual hosts find the route of their own item.

  A failed allocation is left out, as in the parser.  `inet_pton` is a parameter.
-/
import MinecraftRelay.Config

namespace MinecraftRelay

/-! ## 1. Destinations -/

/-- `route_destination`.  A destination that is `numeric` has an address and no name.  The end of a
    hash chain (`SIZE_MAX`) is `none`. -/
structure RouteDestination where
  hashNext : Option Nat
  numeric : Option NetAddr
  port : UInt16
  queryName : Option Bytes
  srv : Bool
deriving Repr, DecidableEq

/-- `route_bool_read`. -/
def routeBoolRead : Option Json → Bool
  | some (.bool value) => value
  | some (.number value) => Json.valueint value ≠ 0
  | _ => false

/-- `route_destination_equal`. -/
def routeDestinationEqual (left right : RouteDestination) : Bool :=
  if left.numeric.isSome ≠ right.numeric.isSome ∨ left.port ≠ right.port ∨ left.srv ≠ right.srv then
    false
  else if left.numeric = none then left.queryName = right.queryName
  else left.numeric = right.numeric

/-- `ROUTE_TABLE_FNV_OFFSET`. -/
def routeTableFnvOffset : UInt64 := 14695981039346656037

/-- `ROUTE_TABLE_FNV_PRIME`. -/
def routeTableFnvPrime : UInt64 := 1099511628211

/-- `route_hash_byte`. -/
def routeHashByte (hash : UInt64) (value : UInt8) : UInt64 :=
  (hash ^^^ value.toUInt64) * routeTableFnvPrime

/-- `route_hash_destination`. -/
def routeHashDestination (destination : RouteDestination) : UInt64 :=
  let head : Bytes := [if destination.numeric.isSome then 1 else 0,
    if destination.srv then 1 else 0, (destination.port >>> 8).toUInt8, destination.port.toUInt8]
  let hash := head.foldl routeHashByte routeTableFnvOffset
  match destination.numeric with
  | none => (destination.queryName.getD []).foldl routeHashByte hash
  | some address =>
    address.data.foldl routeHashByte (routeHashByte hash (if address.family = .inet then 4 else 6))

/-- `ROUTE_TABLE_SRV_PREFIX`. -/
def routeTableSrvPrefix : Bytes := ascii "_minecraft._tcp."

/-- `route_name_create`. -/
def routeNameCreate (source : Bytes) (srv : Bool) : Bytes :=
  let kept :=
    if source.length > 1 ∧ source.getLast? = some dot ∧ source.dropLast.getLast? ≠ some dot then
      source.dropLast
    else source
  if srv then
    if source = [dot] ∨ kept.length = 0 then routeTableSrvPrefix.dropLast
    else routeTableSrvPrefix ++ kept.map asciiLower
  else kept.map asciiLower

/-! ## 2. The table -/

/-- `route_entry`, and `route_view`, which has the same fields. -/
structure RouteEntry where
  configuredAddress : Bytes
  destinationIndex : Nat
  pheader : Bool
  rewrite : Bool
  vhost : Bytes
deriving Repr, DecidableEq

/-- `route_table`. -/
structure RouteTable where
  destinations : List RouteDestination
  routes : List RouteEntry
deriving Repr, DecidableEq

/-- The test of `route_proxy_count` on one item. -/
def routeProxyValid (item : Json) : Bool :=
  (match item.get (ascii "address") with
    | some address => address.isString
    | none => false) &&
  (match item.get (ascii "vhost") with
    | some vhosts => vhosts.isArray
    | none => false) &&
  (match item.get (ascii "port") with
    | none => true
    | some (.number value) => 0 ≤ Json.valueint value && Json.valueint value ≤ 65535
    | some _ => false)

/-- The destination capacity of `route_proxy_count`; `none` if an item is invalid. -/
def routeProxyCount (proxy : List Json) : Option Nat :=
  if proxy.all routeProxyValid then
    some (proxy.countP fun item => (vhostStrings item).length ≠ 0)
  else none

/-- The address of an item. -/
def proxyAddress (item : Json) : Bytes :=
  ((item.get (ascii "address")).bind Json.valuestring).getD []

section Build

variable (netAddrParse : Bytes → Option NetAddr)

/-- `route_proxy_destination_prepare`. -/
def routeProxyDestinationPrepare (item : Json) : RouteDestination :=
  match item.get (ascii "port") with
  | some (.number value) =>
    let numeric := netAddrParse (proxyAddress item)
    { hashNext := none
      numeric
      port := UInt16.ofInt (Json.valueint value)
      queryName := if numeric.isSome then none else some (routeNameCreate (proxyAddress item) false)
      srv := false }
  | _ =>
    { hashNext := none
      numeric := none
      port := 0
      queryName := some (routeNameCreate (proxyAddress item) true)
      srv := true }

/-- The walk along a hash chain, which leads to ever smaller indices. -/
def destinationFind (destinations : List RouteDestination) (candidate : RouteDestination) :
    Nat → Option Nat → Option Nat
  | 0, _ => none
  | _ + 1, none => none
  | fuel + 1, some index =>
    match destinations[index]? with
    | none => none
    | some destination =>
      if routeDestinationEqual destination candidate then some index
      else destinationFind destinations candidate fuel destination.hashNext

/-- The table while it is built. -/
structure RouteBuild where
  table : RouteTable
  buckets : Nat → Option Nat

/-- `route_table_destination_add`: the build and the index. -/
def routeTableDestinationAdd (build : RouteBuild) (bucketCount : Nat)
    (candidate : RouteDestination) : RouteBuild × Nat :=
  let destinations := build.table.destinations
  let bucket := (routeHashDestination candidate).toNat % bucketCount
  match destinationFind destinations candidate destinations.length (build.buckets bucket) with
  | some index => (build, index)
  | none =>
    ({ table := { build.table with
        destinations := destinations ++ [{ candidate with hashNext := build.buckets bucket }] }
       buckets := fun b => if b = bucket then some destinations.length else build.buckets b },
      destinations.length)

/-- The route of one virtual host. -/
def routeEntry (item : Json) (destinationIndex : Nat) (vhost : Bytes) : RouteEntry where
  configuredAddress := proxyAddress item
  destinationIndex := destinationIndex
  pheader := routeBoolRead (item.get (ascii "pheader"))
  rewrite := routeBoolRead (item.get (ascii "rewrite"))
  vhost := vhost

/-- One item of the list. -/
def routeItemAdd (bucketCount : Nat) (build : RouteBuild) (item : Json) : RouteBuild :=
  if (vhostStrings item).length = 0 then build
  else
    let added := routeTableDestinationAdd build bucketCount
      (routeProxyDestinationPrepare netAddrParse item)
    { added.1 with
      table := { added.1.table with
        routes := added.1.table.routes ++ (vhostStrings item).map (routeEntry item added.2) } }

/-- `route_table_build`; `none` is `ROUTE_TABLE_BUILD_INVALID`. -/
def routeTableBuild (proxy : List Json) : Option RouteTable :=
  (routeProxyCount proxy).map fun bucketCount =>
    (proxy.foldl (routeItemAdd netAddrParse bucketCount) ⟨⟨[], []⟩, fun _ => none⟩).table

end Build

/-- `route_vhost_matches`. -/
def routeVhostMatches (configured received : Bytes) : Bool :=
  let received := if received.getLast? = some dot then received.dropLast else received
  configured.length = received.length && strcaseEq configured received

/-- `route_table_find`: the first route that matches. -/
def routeTableFind (table : RouteTable) (vhost : Bytes) : Option RouteEntry :=
  table.routes.find? (routeVhostMatches ·.vhost vhost)

/-! ## 3. Every virtual host has its route -/

section Routes

variable {netAddrParse : Bytes → Option NetAddr}

/-- A route that was made from an item: all its fields are the item's. -/
structure RouteBuilt (netAddrParse : Bytes → Option NetAddr) (table : RouteTable) (item : Json)
    (route : RouteEntry) : Prop where
  vhost : route.vhost ∈ vhostStrings item
  configuredAddress : item.get (ascii "address") = some (.string route.configuredAddress)
  pheader : route.pheader = routeBoolRead (item.get (ascii "pheader"))
  rewrite : route.rewrite = routeBoolRead (item.get (ascii "rewrite"))
  destination : ∃ destination, table.destinations[route.destinationIndex]? = some destination ∧
    routeDestinationEqual destination (routeProxyDestinationPrepare netAddrParse item) = true

theorem routeDestinationEqual_self (destination : RouteDestination) (next : Option Nat) :
    routeDestinationEqual { destination with hashNext := next } destination = true := by
  simp [routeDestinationEqual]

theorem destinationFind_equal {destinations : List RouteDestination} {candidate : RouteDestination}
    {fuel index : Nat} {start : Option Nat}
    (h : destinationFind destinations candidate fuel start = some index) :
    ∃ destination, destinations[index]? = some destination ∧
      routeDestinationEqual destination candidate = true := by
  induction fuel generalizing start with
  | zero => cases h
  | succ fuel ih =>
    cases start with
    | none => cases h
    | some first =>
      unfold destinationFind at h
      split at h
      · cases h
      rename_i destination hfirst
      split at h
      · rename_i hequal
        cases h
        exact ⟨destination, hfirst, hequal⟩
      · exact ih h

/-- The index leads to an equal destination, and no destination moves. -/
theorem routeTableDestinationAdd_spec (build : RouteBuild) (bucketCount : Nat)
    (candidate : RouteDestination) :
    let added := routeTableDestinationAdd build bucketCount candidate
    added.1.table.routes = build.table.routes ∧
      build.table.destinations <+: added.1.table.destinations ∧
      ∃ destination, added.1.table.destinations[added.2]? = some destination ∧
        routeDestinationEqual destination candidate = true := by
  unfold routeTableDestinationAdd
  dsimp only
  split
  · rename_i index hfind
    exact ⟨rfl, List.prefix_rfl, destinationFind_equal hfind⟩
  · refine ⟨rfl, List.prefix_append _ _, _, List.getElem?_concat_length, ?_⟩
    exact routeDestinationEqual_self candidate _

/-- The virtual hosts of a list, each with its item. -/
def routeOwners (items : List Json) : List (Json × Bytes) :=
  items.flatMap fun item => (vhostStrings item).map (item, ·)

/-- The routes are those of the virtual hosts, one for each and in their order. -/
def Owned (netAddrParse : Bytes → Option NetAddr) (items : List Json) (table : RouteTable) : Prop :=
  List.Forall₂ (fun owner route => route.vhost = owner.2 ∧
    RouteBuilt netAddrParse table owner.1 route) (routeOwners items) table.routes

/-- The routes of the items added so far. -/
structure Routed (netAddrParse : Bytes → Option NetAddr) (items : List Json) (table : RouteTable) :
    Prop where
  vhosts : table.routes.map RouteEntry.vhost = items.flatMap vhostStrings
  built : ∀ item ∈ items, ∀ vhost ∈ vhostStrings item,
    ∃ route ∈ table.routes, route.vhost = vhost ∧ RouteBuilt netAddrParse table item route

theorem Owned.routed {items : List Json} {table : RouteTable}
    (h : Owned netAddrParse items table) : Routed netAddrParse items table := by
  constructor
  · have hvhosts : (routeOwners items).map Prod.snd = table.routes.map RouteEntry.vhost :=
      List.forall₂_eq_eq_eq ▸ List.forall₂_map_left_iff.2
        (List.forall₂_map_right_iff.2 (h.imp fun _ _ hroute => hroute.1.symm))
    rw [← hvhosts, routeOwners, List.map_flatMap]
    simp [Function.comp_def]
  · intro item hitem vhost hvhost
    have howner : (item, vhost) ∈ routeOwners items :=
      List.mem_flatMap.2 ⟨item, hitem, List.mem_map_of_mem hvhost⟩
    obtain ⟨i, hlt, hi⟩ := List.mem_iff_getElem.1 howner
    have hroute := h.get hlt (h.length_eq ▸ hlt)
    simp only [List.get_eq_getElem, hi] at hroute
    exact ⟨_, List.getElem_mem _, hroute⟩

theorem RouteBuilt.extend {table table' : RouteTable} {item : Json} {route : RouteEntry}
    (h : RouteBuilt netAddrParse table item route)
    (hdestinations : table.destinations <+: table'.destinations) :
    RouteBuilt netAddrParse table' item route := by
  obtain ⟨destination, hat, hequal⟩ := h.destination
  refine ⟨h.vhost, h.configuredAddress, h.pheader, h.rewrite, destination, ?_, hequal⟩
  obtain ⟨more, hmore⟩ := hdestinations
  have hlt := (List.getElem?_eq_some_iff.1 hat).1
  rw [← hmore, List.getElem?_append_left hlt, hat]

theorem proxyAddress_valid {item : Json} (h : routeProxyValid item = true) :
    item.get (ascii "address") = some (.string (proxyAddress item)) := by
  have haddress := (Bool.and_eq_true_iff.1 (Bool.and_eq_true_iff.1 h).1).1
  unfold proxyAddress
  cases hget : item.get (ascii "address") with
  | none =>
    rw [hget] at haddress
    cases haddress
  | some address =>
    rw [hget] at haddress
    cases address <;> first | rfl | cases haddress

/-- One item adds its routes at the end. -/
theorem routeItemAdd_owned {items : List Json} {build : RouteBuild} {bucketCount : Nat}
    {item : Json} (h : Owned netAddrParse items build.table)
    (hvalid : routeProxyValid item = true) :
    Owned netAddrParse (items ++ [item])
      (routeItemAdd netAddrParse bucketCount build item).table := by
  have hmore : routeOwners (items ++ [item]) =
      routeOwners items ++ (vhostStrings item).map (item, ·) := by
    simp [routeOwners]
  unfold Owned
  rw [hmore]
  unfold routeItemAdd
  split
  · rename_i hnone
    rw [List.length_eq_zero_iff.1 hnone, List.map_nil, List.append_nil]
    exact h
  · obtain ⟨hroutes, hdestinations, hindex⟩ := routeTableDestinationAdd_spec build bucketCount
      (routeProxyDestinationPrepare netAddrParse item)
    generalize routeTableDestinationAdd build bucketCount
      (routeProxyDestinationPrepare netAddrParse item) = added at hroutes hdestinations hindex
    refine List.rel_append ?_ ?_
    · rw [hroutes]
      exact h.imp fun _ _ hroute => ⟨hroute.1, hroute.2.extend hdestinations⟩
    · refine List.forall₂_map_left_iff.2 (List.forall₂_map_right_iff.2 (List.forall₂_same.2 ?_))
      intro vhost hvhost
      exact ⟨rfl, hvhost, proxyAddress_valid hvalid, rfl, rfl, hindex⟩

theorem routeItemAdd_foldl {items more : List Json} {build : RouteBuild} {bucketCount : Nat}
    (h : Owned netAddrParse items build.table) (hvalid : ∀ item ∈ more, routeProxyValid item) :
    Owned netAddrParse (items ++ more)
      (more.foldl (routeItemAdd netAddrParse bucketCount) build).table := by
  induction more generalizing items build with
  | nil =>
    rw [List.append_nil]
    exact h
  | cons item more ih =>
    rw [← List.singleton_append, ← List.append_assoc]
    exact ih (routeItemAdd_owned h (hvalid item List.mem_cons_self))
      fun other hother => hvalid other (List.mem_cons_of_mem _ hother)

/-- Every virtual host of the list has its route, in the list's order. -/
theorem routeTableBuild_owned {items : List Json} {table : RouteTable}
    (h : routeTableBuild netAddrParse items = some table) : Owned netAddrParse items table := by
  unfold routeTableBuild routeProxyCount at h
  split at h
  · rename_i hvalid
    cases h
    have hempty : Owned netAddrParse [] (RouteBuild.table ⟨⟨[], []⟩, fun _ => none⟩) := .nil
    exact routeItemAdd_foldl hempty (List.all_eq_true.1 hvalid)
  · cases h

end Routes

/-! ## 4. Which virtual hosts are found -/

/-- What a received name is compared as. -/
def receivedName (received : Bytes) : Bytes :=
  if received.getLast? = some dot then received.dropLast else received

theorem routeVhostMatches_iff {configured received : Bytes} :
    routeVhostMatches configured received = true ↔
      configured.map asciiLower = (receivedName received).map asciiLower := by
  unfold routeVhostMatches
  rw [Bool.and_eq_true, strcaseEq_iff, decide_eq_true_iff]
  refine ⟨And.right, fun h => ⟨?_, h⟩⟩
  have hlength := congrArg List.length h
  rwa [List.length_map, List.length_map] at hlength

theorem routeTableFind_some {table : RouteTable} {vhost : Bytes} {view : RouteEntry}
    (h : routeTableFind table vhost = some view) :
    view ∈ table.routes ∧ view.vhost.map asciiLower = (receivedName vhost).map asciiLower := by
  have hmatch : routeVhostMatches view.vhost vhost = true :=
    List.find?_some (p := fun route : RouteEntry => routeVhostMatches route.vhost vhost) h
  exact ⟨List.mem_of_find?_eq_some h, routeVhostMatches_iff.1 hmatch⟩

/-- Names that are equal up to case are the same entry of a list that the parser accepted. -/
theorem route_unique {routes : List RouteEntry} {left right : RouteEntry}
    (h : ((routes.map RouteEntry.vhost).map (List.map asciiLower)).Nodup) (hleft : left ∈ routes)
    (hright : right ∈ routes) (he : left.vhost.map asciiLower = right.vhost.map asciiLower) :
    left = right := by
  rw [List.map_map] at h
  exact List.inj_on_of_nodup_map h hleft hright he

/-- A virtual host finds the route of its own item if and only if it does not end with a dot, or its
    item lists it without that dot as well: `route_vhost_matches` takes the dot from the name that
    was received, and the parser keeps it in the one that was configured. -/
theorem routeTableFind_iff (netAddrParse : Bytes → Option NetAddr) {src items : List Json}
    {table : RouteTable} {item : Json} {vhost : Bytes} (hparse : configProxyParse src = .ok items)
    (hbuild : routeTableBuild netAddrParse items = some table) (hitem : item ∈ items)
    (hvhost : vhost ∈ vhostStrings item) :
    (∃ view, routeTableFind table vhost = some view ∧ RouteBuilt netAddrParse table item view) ↔
      vhost.getLast? ≠ some dot ∨
        ∃ plain ∈ vhostStrings item, strcaseEq plain vhost.dropLast = true := by
  have hrouted := (routeTableBuild_owned hbuild).routed
  -- the comparison of the parser is finer than that of the search only in the dot
  have hdistinct := configProxyParse_distinct hparse
  rw [← hrouted.vhosts] at hdistinct
  constructor
  · rintro ⟨view, hfind, hview⟩
    have hmatch := (routeTableFind_some hfind).2
    unfold receivedName at hmatch
    split at hmatch
    · exact .inr ⟨view.vhost, hview.vhost, strcaseEq_iff.2 hmatch⟩
    · rename_i hdot
      exact .inl hdot
  · intro h
    -- the item lists the name as it is compared
    have hplain : ∃ plain ∈ vhostStrings item,
        plain.map asciiLower = (receivedName vhost).map asciiLower := by
      unfold receivedName
      split
      · rename_i hdot
        obtain ⟨plain, hm, he⟩ := h.resolve_left (not_not.2 hdot)
        exact ⟨plain, hm, strcaseEq_iff.1 he⟩
      · exact ⟨vhost, hvhost, rfl⟩
    obtain ⟨plain, hm, he⟩ := hplain
    obtain ⟨route, hroute, hname, hbuilt⟩ := hrouted.built item hitem plain hm
    rw [← hname] at he
    cases hfind : routeTableFind table vhost with
    | none => exact absurd (routeVhostMatches_iff.2 he) (List.find?_eq_none.1 hfind route hroute)
    | some view =>
      obtain ⟨hmem, hview⟩ := routeTableFind_some hfind
      have hsame : view = route := route_unique hdistinct hmem hroute (hview.trans he.symm)
      exact ⟨view, rfl, hsame ▸ hbuilt⟩

/-- The proxy list with one item. -/
def singleProxy (vhost : Bytes) : List Json :=
  [.object [(ascii "vhost", .array [.string vhost]), (ascii "address", .string (ascii "b"))]]

theorem singleProxy_parse {vhost : Bytes} :
    configProxyParse (singleProxy vhost) = .ok (singleProxy vhost) := rfl

theorem routeTableFind_iff_plain :
    ∃ table, routeTableBuild (fun _ => none) (singleProxy (ascii "a")) = some table ∧
      ∃ item ∈ singleProxy (ascii "a"), ∃ view,
        routeTableFind table (ascii "a") = some view ∧ RouteBuilt (fun _ => none) table item view :=
  ⟨_, rfl, _, List.mem_singleton_self _,
    (routeTableFind_iff (fun _ => none) singleProxy_parse rfl (List.mem_singleton_self _)
      (List.mem_singleton_self _)).2 (.inl (by decide))⟩

/-- The accepted virtual host `a.` has a route, and no route is found for it. -/
theorem routeTableFind_dotted_none :
    configProxyParse (singleProxy (ascii "a.")) = .ok (singleProxy (ascii "a.")) ∧
      ∃ table, routeTableBuild (fun _ => none) (singleProxy (ascii "a.")) = some table ∧
        table.routes.map RouteEntry.vhost = [ascii "a."] ∧
        routeTableFind table (ascii "a.") = none := by
  refine ⟨singleProxy_parse, _, rfl, rfl, rfl⟩

end MinecraftRelay
