/-
  File:      Timing.lean
  Subject:   THE TIME ARITHMETIC IS EXACT, wherever it is done: timeutil.c, the expiry of a cache
             entry, the idle time of the relay and the durations of the metrics.

  Each function carries between seconds and nanoseconds by hand.  In nanoseconds (`nanoseconds`) it
  is one sum or difference, and it fails only where that does not fit.
-/
import MinecraftRelay.Network
import MinecraftRelay.Resolver.Cache.Freshness

namespace MinecraftRelay

/-- A time as one number. -/
def Timespec.nanoseconds (t : Timespec) : Int := t.sec * 1000000000 + t.nsec

/-- The checked sum `result` is the exact one, and missing only if that does not fit `time_t`. -/
structure ExactSum (sum : Int) (result : Option Timespec) : Prop where
  exact : ∀ t, result = some t → timeutilValid t = true ∧ t.nanoseconds = sum
  fails : result = none ↔ timeMax < sum / 1000000000

theorem timeutilAddMilliseconds_exact {source : Timespec} (h : timeutilValid source = true)
    (milliseconds : Nat) : ExactSum (source.nanoseconds + milliseconds * 1000000)
      (timeutilAddMilliseconds source milliseconds) where
  exact t ht := (timeutilAddMilliseconds_spec ht).2
  fails := by
    have hv := timeutilValid_iff.1 h
    have hmax : timeMax = 9223372036854775807 := rfl
    have hword : uint64Max = 18446744073709551615 := rfl
    simp only [timeutilAddMilliseconds, h, not_true, if_false, Timespec.nanoseconds]
    split
    · simp only [true_iff]
      omega
    · simp only [ite_eq_left_iff, reduceCtorEq, imp_false, not_not]
      omega

theorem timeutilAddSeconds_exact {source : Timespec} (h : timeutilValid source = true)
    (seconds : Nat) : ExactSum (source.nanoseconds + seconds * 1000000000)
      (timeutilAddSeconds source seconds) where
  exact t ht := by
    obtain ⟨-, hvalid, hsec, hnsec⟩ := timeutilAddSeconds_spec ht
    refine ⟨hvalid, ?_⟩
    simp only [Timespec.nanoseconds, hsec, hnsec]
    omega
  fails := by
    have hv := timeutilValid_iff.1 h
    have hmax : timeMax = 9223372036854775807 := rfl
    have hword : uint64Max = 18446744073709551615 := rfl
    simp only [timeutilAddSeconds, h, not_true, false_or, Timespec.nanoseconds]
    split
    · simp only [true_iff]
      omega
    · simp only [ite_eq_left_iff, reduceCtorEq, imp_false, not_not]
      omega

/-- The idle time that remains, in one formula. -/
theorem netRelayIdleRemainingMs_eq {lastActivity now : Timespec}
    (hl : timeutilValid lastActivity = true) (hn : timeutilValid now = true)
    (hle : lastActivity ≤ now) : netRelayIdleRemainingMs lastActivity now = min intMax
      ((max 0 (lastActivity.nanoseconds + netRelayIdleTimeoutSec * 1000000000 - now.nanoseconds) +
        999999) / 1000000) := by
  rw [timeutilValid_iff] at hl hn
  rw [Timespec.le_def] at hle
  have hcap : intMax = 2147483647 := rfl
  have htimeout : netRelayIdleTimeoutSec = 300 := rfl
  have hdiv : intMax.tdiv 1000 = 2147483 := by decide
  have htdiv {x : Int} (hx : 0 ≤ x) : x.tdiv 1000000 = x / 1000000 := Int.tdiv_eq_ediv_of_nonneg hx
  simp only [netRelayIdleRemainingMs, Timespec.nanoseconds, hdiv]
  -- with and without a borrow from the seconds
  split
  · have := htdiv (x := 1000000000 - (now.nsec + 1000000000 - lastActivity.nsec) + 999999)
      (by omega)
    grind
  · have := htdiv (x := 1000000000 - (now.nsec - lastActivity.nsec) + 999999) (by omega)
    grind

/-- What `metrics_timespec_subtract` finds is the exact difference; it fails if there is none that
    fits. -/
theorem metricsTimespecSubtract_exact {start finish : Timespec} (hs : timeutilValid start = true)
    (hf : timeutilValid finish = true) :
    (∀ n, metricsTimespecSubtract start finish = some n →
        (n : Int) = finish.nanoseconds - start.nanoseconds) ∧
      (metricsTimespecSubtract start finish = none ↔ finish.nanoseconds < start.nanoseconds ∨
        uint64Max < finish.nanoseconds - start.nanoseconds) := by
  have hs' := timeutilValid_iff.1 hs
  have hf' := timeutilValid_iff.1 hf
  have hmax : uint64Max = 18446744073709551615 := rfl
  simp only [metricsTimespecSubtract, hs, hf, not_true, false_or, timeutilCompare_eq_lt,
    Timespec.lt_def, Timespec.nanoseconds, decide_eq_true_eq]
  split
  · simp only [reduceCtorEq, false_implies, implies_true, true_and, true_iff]
    omega
  · split
    all_goals
      split
      · simp only [reduceCtorEq, false_implies, implies_true, true_and, true_iff]
        omega
      · simp only [Option.some.injEq, forall_eq', reduceCtorEq, false_iff]
        omega

/-- What the time arithmetic promises. -/
structure TimeExact : Prop where
  milliseconds : ∀ source, timeutilValid source = true → ∀ amount : Nat,
    ExactSum (source.nanoseconds + amount * 1000000) (timeutilAddMilliseconds source amount)
  seconds : ∀ source, timeutilValid source = true → ∀ amount : Nat,
    ExactSum (source.nanoseconds + amount * 1000000000) (timeutilAddSeconds source amount)
  expiry : ∀ completedAt, timeutilValid completedAt = true → ∀ ttl : UInt32,
    ExactSum (completedAt.nanoseconds + ttl.toNat * 1000000000) (expiryCalculate completedAt ttl)
  /-- The idle time that remains, rounded up to milliseconds. -/
  idle : ∀ lastActivity now, timeutilValid lastActivity = true → timeutilValid now = true →
    lastActivity ≤ now → netRelayIdleRemainingMs lastActivity now = min intMax
      ((max 0 (lastActivity.nanoseconds + netRelayIdleTimeoutSec * 1000000000 - now.nanoseconds) +
        999999) / 1000000)
  idle_zero : ∀ lastActivity now, timeutilValid lastActivity = true → timeutilValid now = true →
    lastActivity ≤ now → (netRelayIdleRemainingMs lastActivity now = 0 ↔
      netRelayIdleTimeoutSec * 1000000000 ≤ now.nanoseconds - lastActivity.nanoseconds)
  difference : ∀ start finish, timeutilValid start = true → timeutilValid finish = true →
    (∀ n, metricsTimespecSubtract start finish = some n →
        (n : Int) = finish.nanoseconds - start.nanoseconds) ∧
      (metricsTimespecSubtract start finish = none ↔ finish.nanoseconds < start.nanoseconds ∨
        uint64Max < finish.nanoseconds - start.nanoseconds)

/-- **The time arithmetic is exact.** -/
theorem time_exact : TimeExact where
  milliseconds _ h := timeutilAddMilliseconds_exact h
  seconds _ h := timeutilAddSeconds_exact h
  expiry completedAt h ttl := by
    rw [expiryCalculate_eq_add]
    exact timeutilAddSeconds_exact h ttl.toNat
  idle _ _ hl hn hle := netRelayIdleRemainingMs_eq hl hn hle
  idle_zero lastActivity now hl hn hle := by
    have hcap : intMax = 2147483647 := rfl
    rw [netRelayIdleRemainingMs_eq hl hn hle]
    omega
  difference _ _ hs hf := metricsTimespecSubtract_exact hs hf

end MinecraftRelay
