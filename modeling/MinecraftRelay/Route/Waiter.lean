/-
  File:      Route/Waiter.lean
  Subject:   ROUTE WAITERS AS THE LISTENER SEES THEM (src/route/waiter.h).

  A waiter holds a reference of its generation from its creation to its destruction and gives up at
  its deadline.  Which status it reports is decided by the resolver behind it.
-/
import MinecraftRelay.Timeutil

namespace MinecraftRelay

/-- `route_waiter_create_status`. -/
inductive RouteWaiterCreateStatus where
  | ok
  | badArgument
  | limit
  | memory
  | time
deriving Repr, DecidableEq

/-- `route_waiter_destroy_status`. -/
inductive RouteWaiterDestroyStatus where
  | ok
  | badArgument
  | io
  | time
deriving Repr, DecidableEq

/-- `route_waiter_status`. -/
inductive RouteWaiterStatus where
  | pending
  | ready
  | badArgument
  | contradictory
  | io
  | limit
  | memory
  | noRoute
  | serviceUnavailable
  | time
  | timeout
  | unavailable
deriving Repr, DecidableEq

/-- `LISTENER_ROUTE_WAIT_TIMEOUT_SEC`. -/
def listenerRouteWaitTimeoutSec : Nat := 10

/-- The waiter of a connection: the generation it holds, and its deadline. -/
structure WaiterHandle where
  generation : Nat
  deadline : Timespec
deriving Repr, DecidableEq

end MinecraftRelay
