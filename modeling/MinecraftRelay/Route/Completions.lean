/-
  File:      Route/Completions.lean
  Subject:   COMPLETIONS AS WAITERS TAKE THEM (src/route/waiter.c).

  The listener hands every completion to every waiter and stops on a BAD_ARGUMENT.

  * `clientRun_observed` -- no completion of any run is a bad argument.
-/
import MinecraftRelay.Resolver.Assembly.Grammar
import MinecraftRelay.Resolver.Supervisor.Conservation

namespace MinecraftRelay

/-! ## 1. The observer -/

/-- `route_endpoint_overlay_status`. -/
inductive RouteEndpointOverlayStatus where
  | none | positive | unavailable
deriving Repr, DecidableEq

/-- `route_endpoint_overlay`, whose entry is that of its slot. -/
structure RouteEndpointOverlay where
  addresses : List AddressRecord := []
  srvRecords : List SrvRecord := []
  status : RouteEndpointOverlayStatus := .none
deriving Repr, DecidableEq

/-- `route_waiter_entry`. -/
structure RouteWaiterEntry where
  completionPending : Bool := false
  entry : Option EntryId := none
  interest : Bool := false
  overlay : RouteEndpointOverlay := {}
deriving Repr, DecidableEq

/-- What `route_waiter_completion_observe` reads and writes of a waiter. -/
structure RouteWaiter where
  deadline : Timespec
  entries : List RouteWaiterEntry
deriving Repr, DecidableEq

/-- `route_waiter_completion_status`. -/
inductive RouteWaiterCompletionStatus where
  | ok | ignored | badArgument | memory
deriving Repr, DecidableEq

/-- `route_waiter_entry_overlay_records_copy`, for an overlay with the copy. -/
def overlayRecordsCopy (recordCount recordLimit : Nat) (allocated : Bool)
    (overlay : RouteEndpointOverlay) : RouteEndpointOverlay × RouteWaiterCompletionStatus :=
  if recordCount = 0 ∨ recordCount > recordLimit then ({ status := .unavailable }, .badArgument)
  else if allocated then (overlay, .ok)
  else ({ status := .unavailable }, .memory)

section

variable (completion : Completion) (c : Cache) (waiter : RouteWaiter) (deadline : Timespec)
  (allocated : Bool)

/-- The overlay that `route_waiter_completion_observe` gives a slot it has cleared. The tag of the
    payload is the query type. -/
def completionOverlay : RouteEndpointOverlay × RouteWaiterCompletionStatus :=
  let late := timeutilCompare completion.response.completedAt deadline = .gt
  if late ∨ completion.publication ≠ .transient ∨ completion.response.status ≠ .ok then
    ({ status := if completion.publication = .stored ∧ ¬ late then .none else .unavailable }, .ok)
  else
    match completion.response.payload with
    | .address result => overlayRecordsCopy result.records.length addressRecordLimit allocated
        { addresses := result.records, status := .positive }
    | .srv result => overlayRecordsCopy result.records.length srvRecordLimit allocated
        { srvRecords := result.records, status := .positive }

/-- `route_waiter_completion_observe`. -/
def routeWaiterCompletionObserve : RouteWaiter × RouteWaiterCompletionStatus :=
  if ¬ timeutilValid completion.response.completedAt ∨
      (c.entries completion.entry).map (·.queryType) ≠ some completion.response.queryType ∨
      completion.response.status = .temporaryError then (waiter, .badArgument)
  else
    -- `route_waiter_entry_find`
    match waiter.entries.findIdx? (·.entry = some completion.entry) with
    | none => (waiter, .ignored)
    | some i =>
      let (overlay, status) := completionOverlay completion waiter.deadline allocated
      ({ waiter with entries := waiter.entries.set i { entry := some completion.entry, overlay } },
        status)

/-! ## 2. What it makes of a completion -/

/-- The overlay of a slot has the answer that the cache did not keep, if it came in time. -/
def Overlaid (overlay : RouteEndpointOverlay) : Prop :=
  timeutilCompare completion.response.completedAt deadline ≠ .gt →
    completion.publication = .transient → completion.response.status = .ok →
    overlay.status = .positive ∧
      match completion.response.payload with
      | .address result => overlay.addresses = result.records
      | .srv result => overlay.srvRecords = result.records

/-- A waiter for another entry is left alone. One for this entry has its slot free of interest, with
    the answer in it unless there was no memory. -/
def Observed : Prop :=
  (∀ slot ∈ waiter.entries, slot.entry ≠ some completion.entry) ∧
      routeWaiterCompletionObserve completion c waiter allocated = (waiter, .ignored) ∨
    ∃ i overlay status, waiter.entries[i]?.bind (·.entry) = some completion.entry ∧
      routeWaiterCompletionObserve completion c waiter allocated =
        ({ waiter with
            entries := waiter.entries.set i { entry := some completion.entry, overlay } },
          status) ∧
      (status = .ok ∧ Overlaid completion waiter.deadline overlay ∨
        status = .memory ∧ allocated = false)

end

theorem completionOverlay_overlaid {type : Option QueryType} {completion : Completion}
    (h : Deliverable type completion.publication completion.response) (deadline : Timespec)
    (allocated : Bool) :
    let r := completionOverlay completion deadline allocated
    r.2 = .ok ∧ Overlaid completion deadline r.1 ∨ r.2 = .memory ∧ allocated = false := by
  unfold completionOverlay
  by_cases hkept : timeutilCompare completion.response.completedAt deadline = .gt ∨
      completion.publication ≠ .transient ∨ completion.response.status ≠ .ok
  · refine Or.inl ⟨by rw [if_pos hkept], fun hlate htransient hok => ?_⟩
    simp [hlate, htransient, hok] at hkept
  · simp only [hkept, if_false]
    have hrecords := h.records (by grind) (by grind)
    unfold Overlaid overlayRecordsCopy
    cases hp : completion.response.payload <;> cases allocated <;> grind

theorem Deliverable.observed {c : Cache} {completion : Completion}
    (h : Deliverable ((c.entries completion.entry).map (·.queryType)) completion.publication
      completion.response) (waiter : RouteWaiter) (allocated : Bool) :
    Observed completion c waiter allocated := by
  unfold Observed routeWaiterCompletionObserve
  rw [if_neg (by simp [h.time, h.type, h.status])]
  split
  · rename_i hnone
    exact Or.inl ⟨by simpa using hnone, rfl⟩
  · rename_i i hi
    refine Or.inr ⟨i, _, _, ?_, rfl, completionOverlay_overlaid h _ _⟩
    obtain ⟨hlt, hslot, -⟩ := List.findIdx?_eq_some_iff_getElem.mp hi
    simpa [hlt] using hslot

/-- **No completion of any run is a bad argument of a waiter.** -/
theorem clientRun_observed (limits : SupervisorLimits) (now : Timespec) (spawns : Nat → Spawn)
    (hnow : timeutilValid now = true) (calls : List Call) (completion : Completion)
    (htake : (completionTake limits (clientRun limits now spawns calls).supervisor).2 =
      some completion) (waiter : RouteWaiter) (allocated : Bool) :
    Observed completion
      (completionTake limits (clientRun limits now spawns calls).supervisor).1.cache waiter
      allocated := by
  have h : Orderly limits _ _ false (clientRun limits now spawns calls).supervisor :=
    clientRun_orderly (fun _ => arms_valid) hnow calls
  have hd := completionTake_deliverable h htake
  rcases completionTake_cases h with heq | ⟨_, _, _, _, _, _, _, _, _, _, heq⟩
  · rw [heq] at htake
    cases htake
  · rw [heq]
    exact hd.observed waiter allocated

/-- A helper answers a request with an address that may not be kept. -/
def transientRun (limits : SupervisorLimits) : Client :=
  let reply : HelperEnv :=
    { input := true, inputReceives := (singlePackets 0).map (.packet · true true) }
  clientRun limits ⟨0, 0⟩ (fun _ => .started 7)
    [.cacheAcquire [97] 1 true, .schedule 1 .interactive ⟨1, 0⟩ {},
      .events ⟨2, 0⟩ { waitedAt := ⟨2, 0⟩, helper := fun _ => reply }]

/-- A waiter for that entry takes the address. -/
theorem clientRun_observed_transient :
    let taken := completionTake {} (transientRun {}).supervisor
    let waiter : RouteWaiter := ⟨⟨5, 0⟩, [{ entry := some 1, interest := true }]⟩
    ∃ completion, taken.2 = some completion ∧ completion.publication = .transient ∧
      Observed completion taken.1.cache waiter true ∧
      (routeWaiterCompletionObserve completion taken.1.cache waiter true).1.entries.map
        (·.overlay) = [{ addresses := [singleRecord 0], status := .positive }] := by
  intro taken waiter
  have htaken : taken.2.any (fun completion => completion.publication = .transient ∧
      (routeWaiterCompletionObserve completion taken.1.cache waiter true).1.entries.map
        (·.overlay) = [{ addresses := [singleRecord 0], status := .positive }]) = true := by
    decide +kernel
  obtain ⟨completion, htake, hcompletion⟩ := (Option.any_eq_true _ _).mp htaken
  obtain ⟨htransient, hoverlay⟩ := of_decide_eq_true hcompletion
  exact ⟨completion, htake, htransient,
    clientRun_observed {} ⟨0, 0⟩ _ rfl _ completion htake waiter true, hoverlay⟩

end MinecraftRelay
