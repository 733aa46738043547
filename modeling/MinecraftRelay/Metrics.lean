/-
  File:      Metrics.lean
  Subject:   SATURATING COUNTERS AND HISTOGRAMS (src/metrics.c).

  Every component keeps its counters in a record of `uint64_t`s beside one counter of the
  additions that saturated.  Here such a record is one `MetricsState` over the type that names
  its counters and the type that names its histograms; an update goes through
  `metricsCounterAdd` or `metricsHistogramObserve` and nothing else in the program reads one.
-/
import MinecraftRelay.Timeutil
import Mathlib.Logic.Function.Basic

namespace MinecraftRelay

open Function (update update_of_ne update_self)

/-! ## 1. Values -/

/-- `metrics_value_add`: the new value, and whether it is exact. -/
def metricsValueAdd (value amount : Nat) : Nat × Bool :=
  if uint64Max - value < amount then (uint64Max, false) else (value + amount, true)

/-- `metrics_saturation_record`. -/
def metricsSaturationRecord (saturationTotal : Nat) : Nat :=
  if saturationTotal < uint64Max then saturationTotal + 1 else saturationTotal

/-- `metrics_counter_add`: the counter, whether the sum is exact, and the saturation counter. -/
def metricsCounterAdd (counter amount saturationTotal : Nat) : Nat × Bool × Nat :=
  match metricsValueAdd counter amount with
  | (value, true) => (value, true, saturationTotal)
  | (value, false) => (value, false, metricsSaturationRecord saturationTotal)

/-- `metrics_high_water_update`. -/
def metricsHighWaterUpdate (highWater current : Nat) : Nat :=
  if current > highWater then current else highWater

/-! ## 2. Histograms -/

/-- `metrics_histogram`. -/
structure MetricsHistogram where
  buckets : List Nat := List.replicate 14 0
  count : Nat := 0
  sampleErrors : Nat := 0
  sum : Nat := 0
deriving Repr, DecidableEq

/-- `metrics_duration_bounds`, in nanoseconds. -/
def metricsDurationBounds : List Nat :=
  [1, 5, 10, 25, 50, 100, 250, 500, 1000, 2000, 5000, 10000, 30000].map (· * 1000000)

/-- `metrics_size_bounds`. -/
def metricsSizeBounds : List Nat := [0, 64, 256, 1024, 4096, 16384, 65536, 262144, 1048576]

/-- `metrics_ttl_bounds`. -/
def metricsTtlBounds : List Nat :=
  [0, 1, 5, 30, 60, 300, 1800, 3600, 21600, 86400, 604800, 2592000]

/-- The bucket loop of `metrics_histogram_observe`: the first bound the sample does not exceed. -/
def metricsBucket (bounds : List Nat) (sample : Nat) : Nat :=
  (bounds.takeWhile fun bound => decide (sample > bound)).length

/-- `metrics_histogram_observe`. -/
def metricsHistogramObserve (histogram : MetricsHistogram) (bounds : List Nat)
    (bucketSample sumSample saturationTotal : Nat) : MetricsHistogram × Nat :=
  let bucket := metricsBucket bounds bucketSample
  let slot := metricsValueAdd (histogram.buckets.getD bucket 0) 1
  let count := metricsValueAdd histogram.count 1
  let sum := metricsValueAdd histogram.sum sumSample
  let exact := sum.2 && (count.2 && slot.2)
  ({ histogram with
      buckets := histogram.buckets.set bucket slot.1
      count := count.1
      sum := sum.1 },
    if exact then saturationTotal else metricsSaturationRecord saturationTotal)

/-- `metrics_timespec_subtract`, in nanoseconds. -/
def metricsTimespecSubtract (start finish : Timespec) : Option Nat :=
  if ¬ timeutilValid start ∨ ¬ timeutilValid finish ∨ timeutilCompare finish start = .lt then none
  else
    let seconds := finish.sec.toNat - start.sec.toNat
    let borrow := decide (finish.nsec < start.nsec)
    let seconds := if borrow then seconds - 1 else seconds
    let remainder :=
      if borrow then 1000000000 + finish.nsec.toNat - start.nsec.toNat
      else finish.nsec.toNat - start.nsec.toNat
    if seconds > (uint64Max - remainder) / 1000000000 then none
    else some (seconds * 1000000000 + remainder)

/-- `metrics_duration_histogram_observe`: bucketed in nanoseconds, summed in microseconds. -/
def metricsDurationHistogramObserve (histogram : MetricsHistogram) (start finish : Timespec)
    (saturationTotal : Nat) : MetricsHistogram × Nat :=
  match metricsTimespecSubtract start finish with
  | none =>
    let errors := metricsValueAdd histogram.sampleErrors 1
    ({ histogram with sampleErrors := errors.1 },
      if errors.2 then saturationTotal else metricsSaturationRecord saturationTotal)
  | some nanoseconds =>
    metricsHistogramObserve histogram metricsDurationBounds nanoseconds (nanoseconds / 1000)
      saturationTotal

/-! ## 3. A component's metrics -/

/-- `metrics_payload_kind`. -/
inductive MetricsPayloadKind where
  | positive | nxdomain | nodata
deriving Repr, DecidableEq

/-- `metrics_query_type`. -/
inductive MetricsQueryType where
  | a | aaaa | srv | other
deriving Repr, DecidableEq

/-- A component's record of counters (named by `κ`) and histograms (named by `η`). -/
structure MetricsState (κ η : Type) where
  counters : κ → Nat := fun _ => 0
  histograms : η → MetricsHistogram := fun _ => {}
  saturationTotal : Nat := 0

namespace MetricsState

variable {κ η : Type} [DecidableEq κ] [DecidableEq η]

variable (metrics : MetricsState κ η)

/-- Add to one counter of the record. -/
def add (counter : κ) (amount : Nat) : MetricsState κ η :=
  let r := metricsCounterAdd (metrics.counters counter) amount metrics.saturationTotal
  { metrics with counters := update metrics.counters counter r.1, saturationTotal := r.2.2 }

/-- The components' `..._metrics_increment`. -/
def increment (counter : κ) : MetricsState κ η :=
  metrics.add counter 1

/-- Set a gauge of the record. -/
def gauge (counter : κ) (value : Nat) : MetricsState κ η :=
  { metrics with counters := update metrics.counters counter value }

/-- Raise a high-water mark of the record. -/
def highWater (counter : κ) (current : Nat) : MetricsState κ η :=
  { metrics with
      counters := update metrics.counters counter
        (metricsHighWaterUpdate (metrics.counters counter) current) }

/-- `metrics_duration_histogram_observe` on one histogram of the record. -/
def observeDuration (histogram : η) (start finish : Timespec) : MetricsState κ η :=
  let r := metricsDurationHistogramObserve (metrics.histograms histogram) start finish
    metrics.saturationTotal
  { metrics with
      histograms := update metrics.histograms histogram r.1, saturationTotal := r.2 }

/-- `metrics_ttl_histogram_observe` on one histogram of the record. -/
def observeTtl (histogram : η) (seconds : Nat) : MetricsState κ η :=
  let r := metricsHistogramObserve (metrics.histograms histogram) metricsTtlBounds seconds seconds
    metrics.saturationTotal
  { metrics with
      histograms := update metrics.histograms histogram r.1, saturationTotal := r.2 }

/-- `metrics_size_histogram_observe` on one histogram of the record. -/
def observeSize (histogram : η) (bytes : Nat) : MetricsState κ η :=
  let r := metricsHistogramObserve (metrics.histograms histogram) metricsSizeBounds bytes bytes
    metrics.saturationTotal
  { metrics with
      histograms := update metrics.histograms histogram r.1, saturationTotal := r.2 }

end MetricsState

/-! ## 4. What an update leaves alone -/

namespace MetricsState

section Counters

variable {κ η : Type} [DecidableEq κ] (metrics : MetricsState κ η)

theorem increment_counters_of_ne {counter other : κ} (h : other ≠ counter) :
    (metrics.increment counter).counters other = metrics.counters other :=
  update_of_ne h _ _

theorem gauge_counters_self (counter : κ) (value : Nat) :
    (metrics.gauge counter value).counters counter = value :=
  update_self _ _ _

theorem highWater_counters_of_ne {counter other : κ} (h : other ≠ counter) (current : Nat) :
    (metrics.highWater counter current).counters other = metrics.counters other :=
  update_of_ne h _ _

end Counters

section Histograms

variable {κ η : Type} [DecidableEq η] (metrics : MetricsState κ η)

theorem metricsSaturationRecord_ne_zero (saturationTotal : Nat) :
    metricsSaturationRecord saturationTotal ≠ 0 := by
  have hmax : uint64Max = 18446744073709551615 := rfl
  unfold metricsSaturationRecord
  split <;> omega

/-- A sample clears no record of a clipped addition. -/
theorem metricsHistogramObserve_saturation {histogram : MetricsHistogram} {bounds : List Nat}
    {bucketSample sumSample saturationTotal : Nat}
    (h : (metricsHistogramObserve histogram bounds bucketSample sumSample saturationTotal).2 = 0) :
    saturationTotal = 0 := by
  unfold metricsHistogramObserve at h
  dsimp only at h
  split at h
  · exact h
  · exact absurd h (metricsSaturationRecord_ne_zero _)

variable {metrics}

theorem observeSize_saturation {histogram : η} {bytes : Nat}
    (h : (metrics.observeSize histogram bytes).saturationTotal = 0) : metrics.saturationTotal = 0 :=
  metricsHistogramObserve_saturation h

theorem observeDuration_saturation {histogram : η} {start finish : Timespec}
    (h : (metrics.observeDuration histogram start finish).saturationTotal = 0) :
    metrics.saturationTotal = 0 := by
  unfold observeDuration metricsDurationHistogramObserve at h
  dsimp only at h
  split at h
  · dsimp only at h
    split at h
    · exact h
    · exact absurd h (metricsSaturationRecord_ne_zero _)
  · exact metricsHistogramObserve_saturation h

end Histograms

/-- The counters in `p` are as they were, and no record of a clipped addition is cleared. -/
structure Leaves {κ η : Type} (p : κ → Prop) (metrics metrics' : MetricsState κ η) : Prop where
  counters : ∀ k, p k → metrics'.counters k = metrics.counters k
  saturation : metrics'.saturationTotal = 0 → metrics.saturationTotal = 0

namespace Leaves

variable {κ η : Type} {p : κ → Prop} {metrics : MetricsState κ η}

theorem refl (p : κ → Prop) (metrics : MetricsState κ η) : Leaves p metrics metrics :=
  ⟨fun _ _ => rfl, id⟩

theorem trans {metrics' metrics'' : MetricsState κ η} (h : Leaves p metrics metrics')
    (h' : Leaves p metrics' metrics'') : Leaves p metrics metrics'' :=
  ⟨fun k hk => (h'.counters k hk).trans (h.counters k hk),
    fun hs => h.saturation (h'.saturation hs)⟩

theorem highWater [DecidableEq κ] {counter : κ} (h : ¬ p counter) (current : Nat) :
    Leaves p metrics (metrics.highWater counter current) := by
  refine ⟨fun k hk => highWater_counters_of_ne metrics ?_ current, id⟩
  rintro rfl
  exact h hk

theorem observeDuration [DecidableEq η] (histogram : η) (start finish : Timespec) :
    Leaves p metrics (metrics.observeDuration histogram start finish) :=
  ⟨fun _ _ => rfl, observeDuration_saturation⟩

end Leaves

end MetricsState

/-! ## 5. Conservation

What comes in is counted by one counter, what goes out by several, and what is still inside is the
difference.  The counters saturate, so that holds as long as the incoming one is exact. -/

namespace MetricsState

variable {κ η : Type} {metrics : MetricsState κ η}

/-- The counter has never been clipped: it is below its maximum, or no counter of the record ever
    was. -/
def Unsaturated (metrics : MetricsState κ η) (counter : κ) : Prop :=
  metrics.counters counter < uint64Max ∨ metrics.saturationTotal = 0

/-- `source` counts what came in, `sinks` what went out again, and `live` is still inside. -/
def Conserves (metrics : MetricsState κ η) (source : κ) (sinks : List κ) (live : Nat) : Prop :=
  metrics.Unsaturated source → metrics.counters source = (sinks.map metrics.counters).sum + live

/-- An update that leaves the counters alone, and clears no record of a clipped addition. -/
theorem Conserves.of_eq {metrics' : MetricsState κ η} {source : κ} {sinks : List κ}
    {live : Nat} (h : metrics.Conserves source sinks live)
    (hc : ∀ k ∈ source :: sinks, metrics'.counters k = metrics.counters k)
    (hs : metrics'.saturationTotal = 0 → metrics.saturationTotal = 0) :
    metrics'.Conserves source sinks live := by
  intro hu
  have hsinks : sinks.map metrics'.counters = sinks.map metrics.counters :=
    List.map_congr_left fun k hk => hc k (List.mem_cons_of_mem _ hk)
  rw [hc source List.mem_cons_self, hsinks]
  refine h (hu.imp ?_ hs)
  rw [hc source List.mem_cons_self]
  exact id

variable [DecidableEq κ]

/-- An addition is exact, or it was recorded as clipped. -/
theorem increment_cases (metrics : MetricsState κ η) (counter : κ) :
    (metrics.counters counter < uint64Max ∧
      (metrics.increment counter).counters counter = metrics.counters counter + 1 ∧
      (metrics.increment counter).saturationTotal = metrics.saturationTotal) ∨
    (uint64Max ≤ metrics.counters counter ∧
      (metrics.increment counter).counters counter = uint64Max ∧
      (metrics.increment counter).saturationTotal ≠ 0) := by
  unfold increment add metricsCounterAdd metricsValueAdd
  by_cases h : uint64Max - metrics.counters counter < 1
  · rw [if_pos h]
    exact Or.inr ⟨by omega, update_self _ _ _, metricsSaturationRecord_ne_zero _⟩
  · rw [if_neg h]
    exact Or.inl ⟨by omega, update_self _ _ _, rfl⟩

theorem Leaves.increment {p : κ → Prop} {counter : κ} (h : ¬ p counter) :
    Leaves p metrics (metrics.increment counter) := by
  constructor
  · intro k hk
    refine increment_counters_of_ne metrics ?_
    rintro rfl
    exact h hk
  · intro hs
    rcases increment_cases metrics counter with ⟨_, _, heq⟩ | ⟨_, _, hne⟩
    · rw [← heq]
      exact hs
    · exact absurd hs hne

theorem Unsaturated.of_increment {counter source : κ}
    (h : (metrics.increment counter).Unsaturated source) : metrics.Unsaturated source := by
  rcases increment_cases metrics counter with ⟨hlt, heq, hsaturation⟩ | ⟨hle, heq, hsaturation⟩
  · rcases h with h | h
    · by_cases hs : source = counter
      · subst hs
        exact Or.inl hlt
      · rw [increment_counters_of_ne metrics hs] at h
        exact Or.inl h
    · exact Or.inr (hsaturation ▸ h)
  · rcases h with h | h
    · by_cases hs : source = counter
      · subst hs
        omega
      · rw [increment_counters_of_ne metrics hs] at h
        exact Or.inl h
    · exact absurd h hsaturation

/-- A counter that does not exceed an exact one is exact itself. -/
theorem Unsaturated.exact {counter source : κ} (h : (metrics.increment counter).Unsaturated source)
    (hle : metrics.counters counter ≤ metrics.counters source) :
    (metrics.increment counter).counters counter = metrics.counters counter + 1 := by
  rcases increment_cases metrics counter with ⟨_, heq, _⟩ | ⟨hmax, heq, hsaturation⟩
  · exact heq
  · rcases h with h | h
    · by_cases hs : source = counter
      · subst hs
        omega
      · rw [increment_counters_of_ne metrics hs] at h
        omega
    · exact absurd h hsaturation

theorem sum_map_increment_of_not_mem {counter : κ} {sinks : List κ} (h : counter ∉ sinks) :
    (sinks.map (metrics.increment counter).counters).sum = (sinks.map metrics.counters).sum := by
  congr 1
  refine List.map_congr_left fun k hk => increment_counters_of_ne metrics ?_
  intro he
  exact h (he ▸ hk)

namespace Conserves

variable {source : κ} {sinks : List κ} {live : Nat}

theorem enter (h : metrics.Conserves source sinks live) (hs : source ∉ sinks) :
    (metrics.increment source).Conserves source sinks (live + 1) := by
  intro hu
  rw [hu.exact (Nat.le_refl _), h hu.of_increment, sum_map_increment_of_not_mem hs]
  omega

theorem leave (h : metrics.Conserves source sinks (live + 1)) (hs : source ∉ sinks)
    (hnodup : sinks.Nodup) {counter : κ} (hc : counter ∈ sinks) :
    (metrics.increment counter).Conserves source sinks live := by
  intro hu
  have hbefore := h hu.of_increment
  have hne : source ≠ counter := fun e => hs (e ▸ hc)
  obtain ⟨before, after, rfl⟩ := List.append_of_mem hc
  rw [List.nodup_append] at hnodup
  have hnotBefore : counter ∉ before := fun hm =>
    hnodup.2.2 counter hm counter List.mem_cons_self rfl
  have hnotAfter : counter ∉ after := (List.nodup_cons.1 hnodup.2.1).1
  rw [List.map_append, List.sum_append, List.map_cons, List.sum_cons] at hbefore
  have hexact := hu.exact (by omega)
  rw [increment_counters_of_ne metrics hne, List.map_append, List.sum_append, List.map_cons,
    List.sum_cons, hexact, sum_map_increment_of_not_mem hnotBefore,
    sum_map_increment_of_not_mem hnotAfter]
  omega

theorem other (h : metrics.Conserves source sinks live) {counter : κ} (hs : source ≠ counter)
    (hc : counter ∉ sinks) : (metrics.increment counter).Conserves source sinks live := by
  intro hu
  rw [increment_counters_of_ne metrics hs, sum_map_increment_of_not_mem hc]
  exact h hu.of_increment

end Conserves

end MetricsState

end MinecraftRelay
