/-
  File:      Metrics/Histogram.lean
  Subject:   HISTOGRAMS AS TALLIES (src/metrics.c): snapshots, and what they show after any
             sequence of observations.

  A stored value is its true total cut at `uint64Max`, whenever its parts were cut; so `tallied`
  says what a histogram holds, saturated or not.

  * `metricsHistogramTake_tallied` -- one observation;
  * `MetricsHistogramKind.run_tallied` -- any sequence of them;
  * `snapshot_cumulative` -- a cumulative bucket counts the samples up to its bound.
-/
import MinecraftRelay.Metrics
import Mathlib.Data.List.GetD
import Mathlib.Data.List.Induction

namespace MinecraftRelay

/-! ## 1. Snapshots -/

/-- `metrics_histogram_snapshot`. -/
structure MetricsHistogramSnapshot where
  cumulative : List Nat
  count : Nat
  sampleErrors : Nat
  sum : Nat
deriving Repr, DecidableEq

/-- The loop of `metrics_histogram_get`. -/
def metricsCumulative (cumulative : Nat) : List Nat → List Nat
  | [] => []
  | bucket :: buckets =>
    let cumulative := if uint64Max - cumulative < bucket then uint64Max else cumulative + bucket
    cumulative :: metricsCumulative cumulative buckets

/-- `metrics_histogram_get`; the buckets behind the last one are zero. -/
def metricsHistogramGet (histogram : MetricsHistogram) (bucketCount : Nat) :
    MetricsHistogramSnapshot where
  cumulative := metricsCumulative 0 (histogram.buckets.take (bucketCount - 1)) ++
    histogram.count :: List.replicate (14 - bucketCount) 0
  count := histogram.count
  sampleErrors := histogram.sampleErrors
  sum := histogram.sum

/-- The histograms of the program, by what they measure. -/
inductive MetricsHistogramKind where
  | duration | size | ttl
deriving Repr, DecidableEq

namespace MetricsHistogramKind

def bounds : MetricsHistogramKind → List Nat
  | .duration => metricsDurationBounds
  | .size => metricsSizeBounds
  | .ttl => metricsTtlBounds

/-- `METRICS_DURATION_BUCKET_COUNT`, `METRICS_SIZE_BUCKET_COUNT`, `METRICS_TTL_BUCKET_COUNT`. -/
def bucketCount : MetricsHistogramKind → Nat
  | .duration => 14
  | .size => 10
  | .ttl => 13

/-- Two times, a number of bytes, a number of seconds. -/
abbrev Sample : MetricsHistogramKind → Type
  | .duration => Timespec × Timespec
  | .size => UInt64
  | .ttl => UInt64

/-- `metrics_duration_histogram_observe`, `metrics_size_histogram_observe` and
    `metrics_ttl_histogram_observe`, on a histogram and the saturation counter beside it. -/
def observe (state : MetricsHistogram × Nat) :
    (kind : MetricsHistogramKind) → kind.Sample → MetricsHistogram × Nat
  | .duration, (start, finish) => metricsDurationHistogramObserve state.1 start finish state.2
  | .size, bytes =>
    metricsHistogramObserve state.1 metricsSizeBounds bytes.toNat bytes.toNat state.2
  | .ttl, seconds =>
    metricsHistogramObserve state.1 metricsTtlBounds seconds.toNat seconds.toNat state.2

/-- What an observation gives to the buckets and to the sum, if it can be measured. -/
def measured : (kind : MetricsHistogramKind) → kind.Sample → Option (Nat × Nat)
  | .duration, (start, finish) =>
    (metricsTimespecSubtract start finish).map fun nanoseconds => (nanoseconds, nanoseconds / 1000)
  | .size, bytes => some (bytes.toNat, bytes.toNat)
  | .ttl, seconds => some (seconds.toNat, seconds.toNat)

variable (kind : MetricsHistogramKind) (samples : List kind.Sample)

/-- A new histogram and its saturation counter, after the observations. -/
def run : MetricsHistogram × Nat := samples.foldl (fun state => kind.observe state) ({}, 0)

/-- The samples that reached the buckets. -/
def recorded : List (Nat × Nat) := samples.filterMap kind.measured

/-- The number of those that could not be measured. -/
def unmeasured : Nat := samples.countP fun sample => (kind.measured sample).isNone

def snapshot : MetricsHistogramSnapshot := metricsHistogramGet (kind.run samples).1 kind.bucketCount

end MetricsHistogramKind

/-! ## 2. One observation -/

/-- A total as it is stored. -/
def clip (total : Nat) : Nat := min total uint64Max

theorem metricsValueAdd_clip (total amount : Nat) :
    metricsValueAdd (clip total) amount =
      (clip (total + amount), !decide (uint64Max < clip total + amount)) := by
  unfold metricsValueAdd clip
  split <;> simp <;> omega

/-- What a histogram holds after the samples `samples` and `errors` that were none. -/
def tallied (bounds : List Nat) (samples : List (Nat × Nat)) (errors : Nat) : MetricsHistogram where
  buckets := (List.range 14).map fun b =>
    clip (samples.countP fun sample => metricsBucket bounds sample.1 = b)
  count := clip samples.length
  sampleErrors := clip errors
  sum := clip (samples.map (·.2)).sum

/-- One observation, as it was measured. -/
def metricsHistogramTake (state : MetricsHistogram × Nat) (bounds : List Nat) :
    Option (Nat × Nat) → MetricsHistogram × Nat
  | some (bucketSample, sumSample) =>
    metricsHistogramObserve state.1 bounds bucketSample sumSample state.2
  | none =>
    let errors := metricsValueAdd state.1.sampleErrors 1
    ({ state.1 with sampleErrors := errors.1 },
      if errors.2 then state.2 else metricsSaturationRecord state.2)

theorem MetricsHistogramKind.observe_eq (kind : MetricsHistogramKind)
    (state : MetricsHistogram × Nat) (sample : kind.Sample) :
    kind.observe state sample = metricsHistogramTake state kind.bounds (kind.measured sample) := by
  cases kind with
  | duration =>
    unfold observe measured metricsDurationHistogramObserve
    dsimp only
    cases metricsTimespecSubtract sample.1 sample.2 <;> rfl
  | size => rfl
  | ttl => rfl

/-- Some value the observation adds to does not fit any more. -/
def MetricsHistogram.overflows (histogram : MetricsHistogram) (bounds : List Nat) :
    Option (Nat × Nat) → Bool
  | some (bucketSample, sumSample) =>
    decide (uint64Max < histogram.buckets.getD (metricsBucket bounds bucketSample) 0 + 1) ||
      decide (uint64Max < histogram.count + 1) || decide (uint64Max < histogram.sum + sumSample)
  | none => decide (uint64Max < histogram.sampleErrors + 1)

variable (bounds : List Nat) (samples : List (Nat × Nat)) (errors : Nat)

/-- A bucket, or what is read behind the last one. -/
theorem tallied_bucket (b : Nat) :
    ∃ n, (tallied bounds samples errors).buckets.getD b 0 = clip n ∧
      (b < 14 → n = samples.countP fun sample => metricsBucket bounds sample.1 = b) := by
  by_cases hb : b < 14
  · exact ⟨_, by simp [tallied, hb], fun _ => rfl⟩
  · exact ⟨0, by simp [tallied, clip, hb], fun h => absurd h hb⟩

/-- **One observation adds to the totals.** -/
theorem metricsHistogramTake_tallied (total : Nat) (measured : Option (Nat × Nat)) :
    (metricsHistogramTake (tallied bounds samples errors, total) bounds measured).1 =
      tallied bounds (samples ++ measured.toList) (errors + if measured.isNone then 1 else 0) := by
  cases measured with
  | none => simp [metricsHistogramTake, tallied, metricsValueAdd_clip]
  | some sample =>
    obtain ⟨n, hbucket, hn⟩ := tallied_bucket bounds samples errors (metricsBucket bounds sample.1)
    simp only [metricsHistogramTake, metricsHistogramObserve, hbucket, metricsValueAdd_clip]
    simp only [tallied, metricsValueAdd_clip, List.countP_append, List.map_append, List.sum_append,
      List.length_append]
    congr 1
    · refine List.ext_getElem (by simp) fun b hb _ => ?_
      simp only [List.length_set, List.length_map, List.length_range] at hb
      by_cases he : metricsBucket bounds sample.1 = b
      · simp [he, hn (he ▸ hb)]
      · simp [List.getElem_set_ne he, he]

/-- It is recorded as saturated when some value does not fit. -/
theorem metricsHistogramTake_saturation (total : Nat) (measured : Option (Nat × Nat)) :
    (metricsHistogramTake (tallied bounds samples errors, total) bounds measured).2 =
      if (tallied bounds samples errors).overflows bounds
        measured then metricsSaturationRecord total
      else total := by
  cases measured with
  | none =>
    simp only [metricsHistogramTake, MetricsHistogram.overflows, tallied, metricsValueAdd_clip]
    by_cases h : uint64Max < clip errors + 1 <;> simp [h]
  | some sample =>
    obtain ⟨n, hbucket, _⟩ := tallied_bucket bounds samples errors (metricsBucket bounds sample.1)
    simp only [metricsHistogramTake, metricsHistogramObserve, MetricsHistogram.overflows, hbucket]
    simp only [tallied, metricsValueAdd_clip]
    by_cases hslot : uint64Max < clip n + 1
    · simp [hslot]
    by_cases hcount : uint64Max < clip samples.length + 1
    · simp [hcount]
    · by_cases hsum : uint64Max < clip (samples.map (·.2)).sum + sample.2 <;>
        simp [hslot, hcount, hsum]

/-! ## 3. Any sequence of observations -/

namespace MetricsHistogramKind

variable (kind : MetricsHistogramKind) (samples : List kind.Sample)

theorem run_concat (sample : kind.Sample) :
    kind.run (samples ++ [sample]) =
      metricsHistogramTake (kind.run samples) kind.bounds (kind.measured sample) := by
  rw [← observe_eq]
  simp [run]

theorem run_tallied :
    (kind.run samples).1 = tallied kind.bounds (kind.recorded samples)
    (kind.unmeasured samples) := by
  induction samples using List.reverseRecOn with
  | nil => rfl
  | append_singleton samples sample ih =>
    have htake := metricsHistogramTake_tallied kind.bounds (kind.recorded samples)
      (kind.unmeasured samples) (kind.run samples).2 (kind.measured sample)
    rw [← ih] at htake
    rw [run_concat, htake]
    congr 1
    · unfold recorded
      cases h : kind.measured sample <;> simp [h]
    · simp [unmeasured, List.countP_append]

theorem run_saturation (sample : kind.Sample) (total : Nat) :
    (kind.observe ((kind.run samples).1, total) sample).2 =
      if (kind.run samples).1.overflows kind.bounds (kind.measured sample) then
        metricsSaturationRecord total
      else total := by
  rw [observe_eq, run_tallied]
  exact metricsHistogramTake_saturation ..

/-- As long as nothing was recorded as saturated, the totals fit. -/
theorem run_fits (h : (kind.run samples).2 = 0) :
    (kind.recorded samples).length ≤ uint64Max ∧
      ((kind.recorded samples).map (·.2)).sum ≤ uint64Max ∧
      kind.unmeasured samples ≤ uint64Max := by
  induction samples using List.reverseRecOn with
  | nil => simp [recorded, unmeasured]
  | append_singleton samples sample ih =>
    have hstep := kind.run_saturation samples sample (kind.run samples).2
    rw [observe_eq, ← run_concat, h] at hstep
    split at hstep
    · exact absurd hstep.symm (MetricsState.metricsSaturationRecord_ne_zero _)
    · rename_i hover
      obtain ⟨hlength, hsum, herrors⟩ := ih hstep.symm
      clear h hstep ih
      rw [run_tallied] at hover
      unfold recorded unmeasured at *
      cases hm : kind.measured sample with
      | none => simp_all [MetricsHistogram.overflows, tallied, clip]
      | some pair => simp_all [MetricsHistogram.overflows, tallied, clip]

end MetricsHistogramKind

/-! ## 4. What a snapshot shows -/

/-- The first bound a sample does not exceed is the first of those it does not exceed. -/
theorem metricsBucket_le_iff {bounds : List Nat} (h : bounds.Pairwise (· < ·)) {k bound : Nat}
    (hk : bounds[k]? = some bound) (sample : Nat) :
    metricsBucket bounds sample ≤ k ↔ sample ≤ bound := by
  induction bounds generalizing k with
  | nil => simp at hk
  | cons first bounds ih =>
    obtain ⟨hfirst, hrest⟩ := List.pairwise_cons.1 h
    unfold metricsBucket at ih ⊢
    cases k with
    | zero =>
      obtain rfl : first = bound := by simpa using hk
      by_cases hs : sample > first <;> simp [hs]
      omega
    | succ k =>
      have hlt := hfirst bound (List.mem_of_getElem? (by simpa using hk))
      by_cases hs : sample > first
      · simpa [hs] using ih hrest (by simpa using hk)
      · simp [hs]
        omega

theorem metricsBucket_le_length (bounds : List Nat) (sample : Nat) :
    metricsBucket bounds sample ≤ bounds.length :=
  (List.takeWhile_sublist _).length_le

theorem metricsCumulative_getD (l : List Nat) (total i : Nat) (hi : i < l.length) :
    (metricsCumulative (clip total) (l.map clip)).getD i 0 =
      clip (total + (l.take (i + 1)).sum) := by
  induction l generalizing total i with
  | nil => cases hi
  | cons n l ih =>
    have hadd : (if uint64Max - clip total < clip n then uint64Max else clip total + clip n) =
        clip (total + n) := by
      unfold clip
      split <;> omega
    simp only [List.map_cons, metricsCumulative, hadd]
    cases i with
    | zero => simp
    | succ i =>
      rw [List.getD_cons_succ, ih (total + n) i (by simpa using hi)]
      simp [Nat.add_assoc]

@[simp] theorem metricsCumulative_length (l : List Nat) (total : Nat) :
    (metricsCumulative total l).length = l.length := by
  induction l generalizing total with
  | nil => rfl
  | cons n l ih => simp [metricsCumulative, ih]

/-- The buckets up to `k` hold the samples of a bucket up to `k`. -/
theorem sum_countP_range (samples : List (Nat × Nat)) (key : Nat × Nat → Nat) (k : Nat) :
    ((List.range k).map fun b => samples.countP fun sample => key sample = b).sum =
      samples.countP fun sample => key sample < k := by
  induction k with
  | zero => simp
  | succ k ih =>
    have hsplit : (samples.countP fun sample => key sample < k + 1) =
        (samples.countP fun sample => key sample < k) +
          samples.countP fun sample => key sample = k := by
      clear ih
      induction samples with
      | nil => rfl
      | cons sample samples ih =>
        simp only [List.countP_cons, ih, decide_eq_true_eq]
        split <;> split <;> split <;> omega
    rw [List.range_succ, List.map_append, List.sum_append, ih, hsplit, List.map_singleton,
      List.sum_singleton]

namespace MetricsHistogramKind

variable (kind : MetricsHistogramKind) (samples : List kind.Sample)

theorem bucketCount_eq : kind.bucketCount = kind.bounds.length + 1 := by
  cases kind <;> rfl

theorem bounds_increasing : kind.bounds.Pairwise (· < ·) := by
  cases kind <;> decide

/-- **A cumulative bucket holds the samples of the buckets up to it, as far as they fit.** -/
theorem snapshot_cumulative {k : Nat} (hk : k < kind.bucketCount) :
    (kind.snapshot samples).cumulative.getD k 0 =
      clip ((kind.recorded samples).countP fun sample =>
        metricsBucket kind.bounds sample.1 ≤ k) := by
  have hcount : kind.bucketCount ≤ 14 := by cases kind <;> decide
  have hbuckets : (kind.run samples).1.buckets.take (kind.bucketCount - 1) =
      ((List.range (kind.bucketCount - 1)).map fun b => (kind.recorded samples).countP fun sample =>
        metricsBucket kind.bounds sample.1 = b).map clip := by
    rw [run_tallied]
    simp [tallied, ← List.map_take, List.take_range,
      Nat.min_eq_left (by omega : kind.bucketCount - 1 ≤ 14)]
  simp only [snapshot, metricsHistogramGet, hbuckets]
  by_cases hlast : k < kind.bucketCount - 1
  · have hget := metricsCumulative_getD ((List.range (kind.bucketCount - 1)).map fun b =>
      (kind.recorded samples).countP fun sample => metricsBucket kind.bounds sample.1 = b) 0 k
      (by simpa using hlast)
    rw [List.getD_append _ _ _ _ (by simpa using hlast)]
    refine Eq.trans hget ?_
    rw [← List.map_take, List.take_range, Nat.min_eq_left hlast, sum_countP_range]
    simp only [Nat.lt_add_one_iff, Nat.zero_add]
  · obtain rfl : k = kind.bucketCount - 1 := by omega
    have hall : ((kind.recorded samples).countP fun sample =>
        metricsBucket kind.bounds sample.1 ≤ kind.bucketCount - 1) =
          (kind.recorded samples).length := by
      rw [bucketCount_eq]
      simp [metricsBucket_le_length]
    rw [List.getD_append_right _ _ _ _ (by simp), hall, run_tallied]
    simp [tallied]

theorem snapshot_last : (kind.snapshot samples).cumulative.getD (kind.bucketCount - 1) 0 =
    (kind.snapshot samples).count := by
  have hlt : kind.bucketCount - 1 < kind.bucketCount := by cases kind <;> decide
  rw [snapshot_cumulative kind samples hlt, bucketCount_eq]
  simp [snapshot, metricsHistogramGet, run_tallied, tallied, metricsBucket_le_length]

/-- What a histogram of one kind shows after any sequence of observations. -/
structure Consistent : Prop where
  /-- The cumulative buckets never decrease, and the last one is the count. -/
  increasing : ∀ samples i j, i ≤ j → j < kind.bucketCount →
    (kind.snapshot samples).cumulative.getD i 0 ≤ (kind.snapshot samples).cumulative.getD j 0
  last : ∀ samples, (kind.snapshot samples).cumulative.getD (kind.bucketCount - 1) 0 =
    (kind.snapshot samples).count
  /-- As long as nothing saturated, everything is exact. -/
  exact : ∀ samples, (kind.run samples).2 = 0 →
    (∀ k bound, kind.bounds[k]? = some bound → (kind.snapshot samples).cumulative.getD k 0 =
      (kind.recorded samples).countP fun sample => sample.1 ≤ bound) ∧
    (kind.snapshot samples).count = (kind.recorded samples).length ∧
    (kind.snapshot samples).sum = ((kind.recorded samples).map (·.2)).sum ∧
    (kind.snapshot samples).sampleErrors = kind.unmeasured samples
  /-- The next observation counts as saturated when a stored value would overflow, whatever the
      counter, which others share, stands at. -/
  saturation : ∀ samples sample total, total < uint64Max →
    (kind.observe ((kind.run samples).1, total) sample).2 =
      if (kind.run samples).1.overflows kind.bounds (kind.measured sample) then total + 1 else total
  /-- No value wraps: each is its total, or the largest value once that does not fit. -/
  stored : ∀ samples, (kind.run samples).1 =
    tallied kind.bounds (kind.recorded samples) (kind.unmeasured samples)
  shown : ∀ samples k, k < kind.bucketCount → (kind.snapshot samples).cumulative.getD k 0 =
    clip ((kind.recorded samples).countP fun sample => metricsBucket kind.bounds sample.1 ≤ k)

end MetricsHistogramKind

/-- **Histograms are consistent.** -/
theorem histogram_consistent (kind : MetricsHistogramKind) : kind.Consistent where
  increasing := by
    intro samples i j hij hj
    rw [kind.snapshot_cumulative samples (by omega), kind.snapshot_cumulative samples hj]
    have hle := List.countP_mono_left (l := kind.recorded samples)
      (p := fun sample => metricsBucket kind.bounds sample.1 ≤ i)
      (q := fun sample => metricsBucket kind.bounds sample.1 ≤ j) (by simp; omega)
    unfold clip
    omega
  last := kind.snapshot_last
  exact := by
    intro samples h
    obtain ⟨hlength, hsum, herrors⟩ := kind.run_fits samples h
    refine ⟨fun k bound hk => ?_, ?_, ?_, ?_⟩
    · have hlt : k < kind.bounds.length := (List.getElem?_eq_some_iff.1 hk).1
      have hle := List.countP_le_length (l := kind.recorded samples) (p := fun s => s.1 ≤ bound)
      rw [kind.snapshot_cumulative samples (by rw [kind.bucketCount_eq]; omega)]
      simp only [metricsBucket_le_iff kind.bounds_increasing hk]
      exact Nat.min_eq_left (hle.trans hlength)
    · simp [MetricsHistogramKind.snapshot, metricsHistogramGet, kind.run_tallied, tallied, clip,
        hlength]
    · simp [MetricsHistogramKind.snapshot, metricsHistogramGet, kind.run_tallied, tallied,
        clip, hsum]
    · simp [MetricsHistogramKind.snapshot, metricsHistogramGet, kind.run_tallied, tallied, clip,
        herrors]
  saturation := by
    intro samples sample total htotal
    rw [kind.run_saturation, metricsSaturationRecord, if_pos htotal]
  stored := kind.run_tallied
  shown := fun samples _ hk => kind.snapshot_cumulative samples hk

end MinecraftRelay
