/-
  File:      Route/Sharing.lean
  Subject:   SHARED DESTINATIONS OF THE ROUTE TABLE (src/route/table.c).

  `route_table_destination_add` looks for an equal destination along one hash chain only.  It finds
  every one all the same: equal destinations have equal hashes, and the chain of a bucket leads
  through every destination of the bucket, however many others collide with it.

  * `SameDestination` -- what `route_destination_equal` decides;
  * `HashChain`, `Shared` -- the chains while the table is built;
  * `routeTableBuild_shared` -- routes have one destination exactly if their items name the same.
-/
import MinecraftRelay.Route.Table

namespace MinecraftRelay

/-! ## 1. The same destination -/

/-- Two destinations of the same kind and port, and with the same numeric address or, without one,
    the same query name. -/
structure SameDestination (left right : RouteDestination) : Prop where
  srv : left.srv = right.srv
  port : left.port = right.port
  numeric : left.numeric = right.numeric
  queryName : left.numeric = none → left.queryName = right.queryName

theorem routeDestinationEqual_iff {left right : RouteDestination} :
    routeDestinationEqual left right = true ↔ SameDestination left right := by
  unfold routeDestinationEqual
  constructor
  · intro h
    split at h
    · cases h
    rename_i hhead
    simp only [not_or, not_not] at hhead
    obtain ⟨hnumeric, hport, hsrv⟩ := hhead
    split at h
    · rename_i hnone
      rw [hnone] at hnumeric
      have hright : right.numeric = none := by simpa using hnumeric.symm
      exact ⟨hsrv, hport, hnone.trans hright.symm, fun _ => of_decide_eq_true h⟩
    · rename_i hsome
      exact ⟨hsrv, hport, of_decide_eq_true h, fun hnone => absurd hnone hsome⟩
  · intro h
    rw [if_neg (by simp [h.srv, h.port, h.numeric])]
    split
    · rename_i hnone
      exact decide_eq_true (h.queryName hnone)
    · exact decide_eq_true h.numeric

namespace SameDestination

variable {left middle right : RouteDestination}

theorem symm (h : SameDestination left right) : SameDestination right left :=
  ⟨h.srv.symm, h.port.symm, h.numeric.symm, fun hnone => (h.queryName (h.numeric.trans hnone)).symm⟩

theorem trans (h : SameDestination left middle) (h' : SameDestination middle right) :
    SameDestination left right :=
  ⟨h.srv.trans h'.srv, h.port.trans h'.port, h.numeric.trans h'.numeric, fun hnone =>
    (h.queryName hnone).trans (h'.queryName (h.numeric ▸ hnone))⟩

/-- The hash reads nothing that the comparison ignores. -/
theorem hash (h : SameDestination left right) :
    routeHashDestination left = routeHashDestination right := by
  unfold routeHashDestination
  rw [h.srv, h.port, h.numeric]
  cases hnumeric : right.numeric with
  | some address => rfl
  | none => simp only [h.queryName (h.numeric.trans hnumeric)]

end SameDestination

/-! ## 2. Hash chains -/

/-- The indices that a chain leads through. -/
inductive HashChain (destinations : List RouteDestination) : Option Nat → List Nat → Prop
  | last : HashChain destinations none []
  | next {index : Nat} {destination : RouteDestination} {chain : List Nat}
    (hat : destinations[index]? = some destination)
    (hrest : HashChain destinations destination.hashNext chain) :
    HashChain destinations (some index) (index :: chain)

theorem HashChain.append {destinations more : List RouteDestination} {start : Option Nat}
    {chain : List Nat} (h : HashChain destinations start chain) :
    HashChain (destinations ++ more) start chain := by
  induction h with
  | last => exact .last
  | next hat hrest ih =>
    have hlt := (List.getElem?_eq_some_iff.1 hat).1
    exact .next ((List.getElem?_append_left hlt).trans hat) ih

/-- A walk that finds nothing has seen the whole chain. -/
theorem HashChain.find_none {destinations : List RouteDestination} {start : Option Nat}
    {chain : List Nat} (h : HashChain destinations start chain) {candidate : RouteDestination}
    {fuel : Nat} (hfuel : chain.length ≤ fuel)
    (hfind : destinationFind destinations candidate fuel start = none) {index : Nat}
    (hindex : index ∈ chain) {destination : RouteDestination}
    (hat : destinations[index]? = some destination) : ¬ SameDestination destination candidate := by
  induction h generalizing fuel with
  | last => cases hindex
  | @next first other chain hfirst hrest ih =>
    obtain ⟨fuel, rfl⟩ := Nat.exists_eq_succ_of_ne_zero (by grind : fuel ≠ 0)
    unfold destinationFind at hfind
    simp only [hfirst] at hfind
    split at hfind
    · cases hfind
    · rename_i hother
      rcases List.mem_cons.1 hindex with rfl | hindex
      · cases hfirst.symm.trans hat
        exact fun hsame => hother (routeDestinationEqual_iff.2 hsame)
      · exact ih (Nat.le_of_succ_le_succ hfuel) hfind hindex

theorem getElem?_added {destinations : List RouteDestination} {added destination : RouteDestination}
    {index : Nat} (h : (destinations ++ [added])[index]? = some destination) :
    destinations[index]? = some destination ∨
      index = destinations.length ∧ destination = added := by
  grind

/-- The bucket of a destination. -/
def destinationBucket (bucketCount : Nat) (destination : RouteDestination) : Nat :=
  (routeHashDestination destination).toNat % bucketCount

/-- **The chains are complete**: no destination stands twice, and the chain of a bucket leads
    through all destinations of the bucket. -/
structure Shared (bucketCount : Nat) (build : RouteBuild) : Prop where
  distinct : build.table.destinations.Pairwise fun left right => ¬ SameDestination left right
  chained : ∀ bucket, ∃ chain, HashChain build.table.destinations (build.buckets bucket) chain ∧
    chain.length ≤ build.table.destinations.length ∧
    ∀ index destination, build.table.destinations[index]? = some destination →
      destinationBucket bucketCount destination = bucket → index ∈ chain

namespace Shared

variable {bucketCount : Nat} {build : RouteBuild}

/-- A destination that is not found along its chain is not in the table. -/
theorem absent (h : Shared bucketCount build) {candidate destination : RouteDestination}
    (hfind : destinationFind build.table.destinations candidate build.table.destinations.length
      (build.buckets (destinationBucket bucketCount candidate)) = none)
    (hmem : destination ∈ build.table.destinations) : ¬ SameDestination destination candidate := by
  intro hsame
  obtain ⟨chain, hchain, hlength, hall⟩ := h.chained (destinationBucket bucketCount candidate)
  obtain ⟨index, hat⟩ := List.mem_iff_getElem?.1 hmem
  have hbucket : destinationBucket bucketCount destination =
      destinationBucket bucketCount candidate := by
    unfold destinationBucket
    rw [hsame.hash]
  exact hchain.find_none hlength hfind (hall index destination hat hbucket) hat hsame

theorem destinationAdd (h : Shared bucketCount build) (candidate : RouteDestination) :
    Shared bucketCount (routeTableDestinationAdd build bucketCount candidate).1 := by
  unfold routeTableDestinationAdd
  dsimp only
  split
  · exact h
  rename_i hfind
  constructor
  · refine List.pairwise_append.2 ⟨h.distinct, List.pairwise_singleton _ _, ?_⟩
    intro destination hmem added hadded hsame
    cases List.mem_singleton.1 hadded
    exact h.absent hfind hmem ⟨hsame.srv, hsame.port, hsame.numeric, hsame.queryName⟩
  · intro bucket
    obtain ⟨chain, hchain, hlength, hall⟩ := h.chained bucket
    dsimp only
    rw [List.length_append, List.length_singleton]
    split
    · -- the new destination stands at the head of its own chain
      rename_i hbucket
      subst hbucket
      refine ⟨_ :: chain, .next List.getElem?_concat_length hchain.append, ?_, ?_⟩
      · exact Nat.succ_le_succ hlength
      · intro index destination hat hown
        rcases getElem?_added hat with hold | ⟨rfl, rfl⟩
        · exact List.mem_cons_of_mem _ (hall index destination hold hown)
        · exact List.mem_cons_self
    · rename_i hother
      refine ⟨chain, hchain.append, Nat.le_succ_of_le hlength, ?_⟩
      intro index destination hat hown
      rcases getElem?_added hat with hold | ⟨rfl, rfl⟩
      · exact hall index destination hold hown
      · exact absurd hown.symm hother

theorem items (h : Shared bucketCount build) (netAddrParse : Bytes → Option NetAddr)
    (items : List Json) :
    Shared bucketCount (items.foldl (routeItemAdd netAddrParse bucketCount) build) := by
  induction items generalizing build with
  | nil => exact h
  | cons item items ih =>
    refine ih ?_
    unfold routeItemAdd
    split
    · exact h
    · have hadded := h.destinationAdd (routeProxyDestinationPrepare netAddrParse item)
      exact ⟨hadded.distinct, hadded.chained⟩

end Shared

theorem routeTableBuild_distinct {netAddrParse : Bytes → Option NetAddr} {items : List Json}
    {table : RouteTable} (h : routeTableBuild netAddrParse items = some table) :
    table.destinations.Pairwise fun left right => ¬ SameDestination left right := by
  obtain ⟨bucketCount, -, rfl⟩ := Option.map_eq_some_iff.1 h
  have hempty : Shared bucketCount ⟨⟨[], []⟩, fun _ => none⟩ :=
    ⟨.nil, fun _ => ⟨[], .last, Nat.le_refl _, nofun⟩⟩
  exact (hempty.items netAddrParse items).distinct

/-! ## 3. Routes and their destinations -/

/-- **Sharing of destinations**: the routes are those of the virtual hosts, each with the address
    and the flags of its own item; two of them have the same destination exactly if their items
    prepare the same; and no destination stands twice. -/
structure DestinationsShared (netAddrParse : Bytes → Option NetAddr) (items : List Json)
    (table : RouteTable) : Prop where
  owned : Owned netAddrParse items table
  index_eq_iff : ∀ (i j : Nat) (owner owner' : Json × Bytes) (route route' : RouteEntry),
    (routeOwners items)[i]? = some owner → table.routes[i]? = some route →
    (routeOwners items)[j]? = some owner' → table.routes[j]? = some route' →
    (route.destinationIndex = route'.destinationIndex ↔
      SameDestination (routeProxyDestinationPrepare netAddrParse owner.1)
        (routeProxyDestinationPrepare netAddrParse owner'.1))
  distinct : table.destinations.Pairwise fun left right => ¬ SameDestination left right

theorem Owned.at {netAddrParse : Bytes → Option NetAddr} {items : List Json} {table : RouteTable}
    (h : Owned netAddrParse items table) {i : Nat} {owner : Json × Bytes} {route : RouteEntry}
    (howner : (routeOwners items)[i]? = some owner) (hroute : table.routes[i]? = some route) :
    RouteBuilt netAddrParse table owner.1 route := by
  obtain ⟨hlt, rfl⟩ := List.getElem?_eq_some_iff.1 howner
  obtain ⟨hlt', rfl⟩ := List.getElem?_eq_some_iff.1 hroute
  exact (h.get hlt hlt').2

/-- Two indices of the same destination are one index. -/
theorem index_unique {destinations : List RouteDestination}
    (h : destinations.Pairwise fun left right => ¬ SameDestination left right) {i j : Nat}
    {left right : RouteDestination} (hi : destinations[i]? = some left)
    (hj : destinations[j]? = some right) (hsame : SameDestination left right) : i = j := by
  obtain ⟨hlt, rfl⟩ := List.getElem?_eq_some_iff.1 hi
  obtain ⟨hlt', rfl⟩ := List.getElem?_eq_some_iff.1 hj
  rcases Nat.lt_trichotomy i j with hij | rfl | hji
  · exact absurd hsame (List.pairwise_iff_getElem.1 h i j hlt hlt' hij)
  · rfl
  · exact absurd hsame.symm (List.pairwise_iff_getElem.1 h j i hlt' hlt hji)

theorem routeTableBuild_shared {netAddrParse : Bytes → Option NetAddr} {items : List Json}
    {table : RouteTable} (h : routeTableBuild netAddrParse items = some table) :
    DestinationsShared netAddrParse items table := by
  have howned := routeTableBuild_owned h
  have hdistinct := routeTableBuild_distinct h
  refine ⟨howned, ?_, hdistinct⟩
  intro i j owner owner' route route' howner hroute howner' hroute'
  obtain ⟨destination, hat, hequal⟩ := (howned.at howner hroute).destination
  obtain ⟨destination', hat', hequal'⟩ := (howned.at howner' hroute').destination
  have hprepared := routeDestinationEqual_iff.1 hequal
  have hprepared' := routeDestinationEqual_iff.1 hequal'
  constructor
  · intro hindex
    rw [hindex] at hat
    cases hat.symm.trans hat'
    exact hprepared.symm.trans hprepared'
  · intro hsame
    exact index_unique hdistinct hat hat' ((hprepared.trans hsame).trans hprepared'.symm)

/-- Two items with the address `b`, which is no numeric one, share its destination. -/
theorem routeTableBuild_shared_pair :
    ∃ table, routeTableBuild (fun _ => none)
        (singleProxy (ascii "a") ++ singleProxy (ascii "c")) = some table ∧
      table.destinations.length = 1 ∧ table.routes.map RouteEntry.destinationIndex = [0, 0] ∧
      DestinationsShared (fun _ => none) (singleProxy (ascii "a") ++ singleProxy (ascii "c"))
        table :=
  ⟨_, rfl, by decide, by decide, routeTableBuild_shared rfl⟩

end MinecraftRelay
