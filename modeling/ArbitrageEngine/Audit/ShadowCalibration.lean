/-
# ArbitrageEngine.Audit.ShadowCalibration -- the percentile of the adverse moves

A shadow run counts the evaluations of each route and files its adverse moves in a histogram.  The
histogram is scraped before and after a window; the first bound that holds 95 percent of what was
filed in between is the percentile of the window, and the reserve of the route.
-/
import ArbitrageEngine.Lib.FloatOrder
import ArbitrageEngine.Lib.Histogram
import ArbitrageEngine.Positions.DecimalStr

namespace ArbitrageEngine.ShadowCalibration

open Lib

/-- A number, or plus infinity. -/
abbrev Level : Type := WithTop ℚ

/-- The nearest floating-point number. -/
def float64 (x : ℚ) : ℚ := Rounding.significant 2 53 x

/-! ## The observer -/

/-- `max(0.0, reference_spread - net_spread)`: what is not a number is not above zero. -/
def adverseMove : FloatValue → Level
  | .number difference => ((max 0 difference : ℚ) : Level)
  | .infinity false => ⊤
  | .infinity true | .nan => 0

/-- The bounds of the histogram `calibration_adverse_move`. -/
def calibrationBuckets : List ℚ :=
  [0, float64 0.0001, float64 0.00025, float64 0.0005, float64 0.001, float64 0.0025,
    float64 0.005, float64 0.01, float64 0.02, float64 0.05, float64 0.1]

/-- The bounds with the infinite one. -/
def levels : List Level := (calibrationBuckets.map fun bound : ℚ => (bound : Level)) ++ [⊤]

/-- A line of a scrape, as `parse_prometheus` returns it. -/
structure Sample where
  name : String
  labels : Dict String String
  value : ℚ

/-- `math.inf if raw_bound == "+Inf" else float(raw_bound)`, of the texts of numbers. -/
def boundOf (rawBound : String) : Option Level :=
  if rawBound = "+Inf" then some ⊤
  else (Spelled.ofStr rawBound.toList).map fun d => ((float64 d.value : ℚ) : Level)

namespace Sample

/-- A sample of the counter `calibration_valid_evaluations` of a route. -/
def IsCounter (sample : Sample) (route : String) : Prop :=
  sample.name = "arbitrage_calibration_valid_evaluations_total" ∧
    sample.labels.get? "route" = some route

/-- A sample of a bucket of the histogram of a route. -/
def IsBucket (sample : Sample) (route : String) (bound : Level) : Prop :=
  sample.name = "arbitrage_calibration_adverse_move_pct_bucket" ∧
    sample.labels.get? "route" = some route ∧
    ∃ rawBound, sample.labels.get? "le" = some rawBound ∧ boundOf rawBound = some bound

end Sample

/-- The metrics client: its counter and its histogram, and what is read when they are scraped. -/
structure MetricsClient where
  State : Type
  new : State
  /-- `calibration_valid_evaluations.labels(route=route).inc()`. -/
  inc : State → String → State
  /-- `calibration_adverse_move.labels(route=route).observe(adverse_move)`. -/
  observe : State → String → Level → State
  scrape : State → List Sample
  /-- How often the counter of a route was incremented. -/
  count : State → String → ℕ
  /-- What the histogram of a route has observed. -/
  observed : State → String → List Level
  count_new : ∀ route, count new route = 0
  observed_new : ∀ route, observed new route = []
  count_inc : ∀ s route other,
    count (inc s route) other = count s other + if route = other then 1 else 0
  observed_inc : ∀ s route other, observed (inc s route) other = observed s other
  count_observe : ∀ s route move other, count (observe s route move) other = count s other
  observed_observe : ∀ s route move other,
    observed (observe s route move) other =
      if route = other then observed s other ++ [move] else observed s other
  counter_value : ∀ s, ∀ sample ∈ scrape s, ∀ route, sample.IsCounter route →
    sample.value = count s route
  counter_listed : ∀ s route, 0 < count s route → ∃ sample ∈ scrape s, sample.IsCounter route
  bucket_labelled : ∀ s, ∀ sample ∈ scrape s,
    sample.name = "arbitrage_calibration_adverse_move_pct_bucket" →
      ∃ route bound, sample.IsBucket route bound
  bucket_value : ∀ s, ∀ sample ∈ scrape s, ∀ route bound, sample.IsBucket route bound →
    bound ∈ levels ∧ sample.value = atMost (observed s route) bound
  bucket_listed : ∀ s route, observed s route ≠ [] → ∀ bound ∈ levels,
    ∃ sample ∈ scrape s, sample.IsBucket route bound

/-- A call of `record_route_calibration`. -/
structure Recording where
  route : String
  adverseMove : Option Level

namespace MetricsClient

variable (client : MetricsClient)

/-- `record_route_calibration`. -/
def recordRouteCalibration (s : client.State) (recording : Recording) : client.State :=
  let counted := client.inc s recording.route
  match recording.adverseMove with
  | none => counted
  | some move => client.observe counted recording.route move

/-- The process after some recordings. -/
def after (log : List Recording) : client.State :=
  log.foldl client.recordRouteCalibration client.new

end MetricsClient

/-- The valid evaluations of a route. -/
def evaluations (log : List Recording) (route : String) : ℕ :=
  log.countP fun recording => recording.route = route

/-- The adverse moves of a route. -/
def observations (log : List Recording) (route : String) : List Level :=
  log.filterMap fun recording => if recording.route = route then recording.adverseMove else none

/-! ## The calibration -/

/-- `_route_counters`. -/
def routeCounters (metrics : List Sample) : Dict String ℚ :=
  metrics.foldl (fun counters sample =>
    match sample.labels.get? "route" with
    | some route =>
        if sample.name = "arbitrage_calibration_valid_evaluations_total" then
          counters.set route sample.value
        else counters
    | none => counters) .empty

/-- One line in the loop of `_route_buckets`; a bound that is no number raises. -/
def bucketStep (buckets : Dict String (Dict Level ℚ)) (sample : Sample) :
    Option (Dict String (Dict Level ℚ)) :=
  if sample.name ≠ "arbitrage_calibration_adverse_move_pct_bucket" then some buckets
  else
    match sample.labels.get? "route" with
    | none => some buckets
    | some route =>
        match sample.labels.get? "le" with
        | none => some buckets
        | some rawBound =>
            (boundOf rawBound).map fun bound =>
              buckets.set route (((buckets.get? route).getD .empty).set bound sample.value)

/-- `_route_buckets`. -/
def routeBuckets (metrics : List Sample) : Option (Dict String (Dict Level ℚ)) :=
  metrics.foldlM bucketStep .empty

/-- `_SAMPLE_BUCKETS[1]`. -/
def smallestBucket : ℚ := float64 0.0001

/-- The result of a route. -/
structure RouteResult where
  validEvaluationCount : ℤ
  adverseMoveObservationCount : ℤ
  adverseMoveP95Pct : Option ℚ
  blockers : List String

def RouteResult.passed (result : RouteResult) : Bool := result.blockers.isEmpty

/-- `cumulative_deltas[bound] >= target`, for a bound that is not infinite. -/
def reaches (deltas : Dict Level ℚ) (observationCount : ℚ) (bound : Level) : Bool :=
  bound ≠ ⊤ && observationCount * 0.95 ≤ (deltas.get? bound).getD 0

/-- The percentile, from what was counted in the window. -/
def percentile (deltas : Dict Level ℚ) : Option ℚ :=
  let observationCount := (deltas.get? ⊤).getD 0
  if 0 < observationCount then
    (firstBound deltas.keys (reaches deltas observationCount)).map fun bound =>
      max smallestBucket (bound.untopD 0)
  else none

/-- The result of a route, from its counters and buckets. -/
def routeResult (startCount endCount : ℚ) (startBuckets endBuckets : Dict Level ℚ)
    (minimumEvaluations : ℤ) : RouteResult :=
  let validCount := endCount - startCount
  let deltas := endBuckets.since startBuckets
  let observationCount := (deltas.get? ⊤).getD 0
  let p95 := percentile deltas
  { validEvaluationCount := ⌊max 0 validCount⌋
    adverseMoveObservationCount := ⌊max 0 observationCount⌋
    adverseMoveP95Pct := p95
    blockers :=
      (if validCount < minimumEvaluations then
        ["valid_evaluations_below_" ++ toString minimumEvaluations] else []) ++
      (if observationCount ≤ 0 then ["no_latency_horizon_observations"] else []) ++
      (if p95 = none then ["p95_exceeds_calibration_histogram"] else []) ++
      (if validCount < 0 ∨ observationCount < 0 then
        ["runtime_metrics_reset_during_window"] else []) }

/-- The results of some routes. -/
structure CalibrationResult where
  passed : Bool
  routes : Dict String RouteResult

/-- `calibration_result`. -/
def calibrationResult (routes : List String) (startMetrics endMetrics : List Sample)
    (minimumEvaluations : ℤ) : Option CalibrationResult := do
  let startCounts := routeCounters startMetrics
  let endCounts := routeCounters endMetrics
  let startBuckets ← routeBuckets startMetrics
  let endBuckets ← routeBuckets endMetrics
  some (routes.foldl (fun result route =>
    let details := routeResult ((startCounts.get? route).getD 0) ((endCounts.get? route).getD 0)
      ((startBuckets.get? route).getD .empty) ((endBuckets.get? route).getD .empty)
      minimumEvaluations
    { passed := result.passed && details.passed, routes := result.routes.set route details })
    ⟨true, .empty⟩)

/-! ## What the client has counted -/

namespace MetricsClient

variable {client : MetricsClient}

theorem counted_recordRouteCalibration (s : client.State) (recording : Recording)
    (route : String) :
    client.count (client.recordRouteCalibration s recording) route =
        client.count s route + (if recording.route = route then 1 else 0) ∧
      client.observed (client.recordRouteCalibration s recording) route =
        client.observed s route ++
          (if recording.route = route then recording.adverseMove else none).toList := by
  unfold recordRouteCalibration
  dsimp only
  cases recording.adverseMove with
  | none =>
      rw [ite_self]
      exact ⟨client.count_inc _ _ _, (client.observed_inc _ _ _).trans (List.append_nil _).symm⟩
  | some move =>
      refine ⟨(client.count_observe _ _ _ _).trans (client.count_inc _ _ _), ?_⟩
      dsimp only
      rw [client.observed_observe, client.observed_inc]
      split
      · rfl
      · exact (List.append_nil _).symm

/-- The counter and the histogram of a route hold what was recorded for it. -/
theorem counted_after (log : List Recording) (route : String) :
    client.count (client.after log) route = evaluations log route ∧
      client.observed (client.after log) route = observations log route := by
  induction log using List.reverseRecOn with
  | nil => exact ⟨client.count_new route, client.observed_new route⟩
  | append_singleton log recording ih =>
      obtain ⟨hcount, hobserved⟩ := ih
      have hstep : client.after (log ++ [recording]) =
          client.recordRouteCalibration (client.after log) recording := by
        unfold after
        rw [List.foldl_append]
        rfl
      obtain ⟨hcount', hobserved'⟩ :=
        counted_recordRouteCalibration (client.after log) recording route
      rw [hstep, hcount', hobserved', hcount, hobserved]
      unfold evaluations observations
      refine ⟨?_, ?_⟩
      · rw [List.countP_append, List.countP_singleton]
        simp only [decide_eq_true_eq]
      · rw [List.filterMap_append]
        congr 1

end MetricsClient

/-! ## What a scrape is read as -/

section Scrapes

variable {client : MetricsClient}

/-- The counter of a route is read as it is. -/
theorem routeCounters_scrape (s : client.State) (route : String) :
    ((routeCounters (client.scrape s)).get? route).getD 0 = client.count s route := by
  unfold routeCounters
  refine getD_look_foldl (fun counters : Dict String ℚ => counters.get?) Sample.IsCounter
    Sample.value ?_ ?_ rfl ?_ ?_
  · rintro counters sample route ⟨hname, hroute⟩
    rw [hroute]
    dsimp only
    rw [if_pos hname, Dict.get?_set_self]
  · intro counters sample route hother
    split
    · next other hroute =>
        split
        · next hname =>
            have hne : route ≠ other := by
              rintro rfl
              exact hother ⟨hname, hroute⟩
            rw [Dict.get?_set_of_ne _ hne]
        · rfl
    · rfl
  · exact fun sample hmem hcounter => client.counter_value s sample hmem route hcounter
  · intro hcount
    refine client.counter_listed s route (Nat.pos_of_ne_zero ?_)
    exact fun hzero => hcount (by rw [hzero, Nat.cast_zero])

/-- A count in the buckets of a route. -/
def bucketAt (buckets : Dict String (Dict Level ℚ)) (key : String × Level) : Option ℚ :=
  ((buckets.get? key.1).getD .empty).get? key.2

/-- The buckets with a line filed, or as they are where its bound is no number. -/
def fileBucket (buckets : Dict String (Dict Level ℚ)) (sample : Sample) :
    Dict String (Dict Level ℚ) :=
  (bucketStep buckets sample).getD buckets

/-- A line of a bucket is filed where it belongs. -/
theorem bucketStep_of_bucket (buckets : Dict String (Dict Level ℚ)) {sample : Sample}
    {route : String} {bound : Level} (h : sample.IsBucket route bound) :
    bucketStep buckets sample =
      some (buckets.set route (((buckets.get? route).getD .empty).set bound sample.value)) := by
  obtain ⟨hname, hroute, rawBound, hle, hbound⟩ := h
  unfold bucketStep
  rw [if_neg (not_not.mpr hname), hroute]
  dsimp only
  rw [hle]
  dsimp only
  rw [hbound]
  rfl

theorem bucketAt_set (buckets : Dict String (Dict Level ℚ)) (route : String) (bound : Level)
    (count : ℚ) (key : String × Level) :
    bucketAt (buckets.set route (((buckets.get? route).getD .empty).set bound count)) key =
      if key = (route, bound) then some count else bucketAt buckets key := by
  obtain ⟨route', bound'⟩ := key
  unfold bucketAt
  dsimp only
  by_cases hroute : route' = route
  · rw [hroute, Dict.get?_set_self, Option.getD_some, Dict.get?_set]
    simp only [Prod.mk.injEq, true_and]
  · have hkey : (route', bound') ≠ (route, bound) := fun h => hroute (Prod.mk.inj h).1
    rw [Dict.get?_set_of_ne _ hroute, if_neg hkey]

/-- A line has one bucket at most. -/
theorem Sample.IsBucket.unique {sample : Sample} {route route' : String} {bound bound' : Level}
    (h : sample.IsBucket route bound) (h' : sample.IsBucket route' bound') :
    (route, bound) = (route', bound') := by
  obtain ⟨-, hroute, rawBound, hle, hbound⟩ := h
  obtain ⟨-, hroute', rawBound', hle', hbound'⟩ := h'
  rw [hroute] at hroute'
  rw [hle] at hle'
  cases hroute'
  cases hle'
  rw [hbound] at hbound'
  cases hbound'
  rfl

/-- What is no line of a bucket is passed over. -/
theorem fileBucket_of_not_bucket (buckets : Dict String (Dict Level ℚ)) {sample : Sample}
    (h : ∀ route bound, ¬ sample.IsBucket route bound) : fileBucket buckets sample = buckets := by
  unfold fileBucket bucketStep
  split
  · rfl
  · next hname =>
      split
      · rfl
      · next route hroute =>
          split
          · rfl
          · next rawBound hle =>
              cases hbound : boundOf rawBound with
              | none => rfl
              | some bound =>
                  exact absurd ⟨not_not.mp hname, hroute, rawBound, hle, hbound⟩ (h route bound)

theorem bucketAt_fileBucket (buckets : Dict String (Dict Level ℚ)) (sample : Sample)
    (key : String × Level) :
    (sample.IsBucket key.1 key.2 →
        bucketAt (fileBucket buckets sample) key = some sample.value) ∧
      (¬ sample.IsBucket key.1 key.2 →
        bucketAt (fileBucket buckets sample) key = bucketAt buckets key) := by
  by_cases hsome : ∃ route bound, sample.IsBucket route bound
  · obtain ⟨route, bound, hbucket⟩ := hsome
    unfold fileBucket
    rw [bucketStep_of_bucket buckets hbucket, Option.getD_some, bucketAt_set]
    constructor
    · exact fun hkey => if_pos (hkey.unique hbucket)
    · intro hother
      apply if_neg
      rintro rfl
      exact hother hbucket
  · simp only [not_exists] at hsome
    rw [fileBucket_of_not_bucket buckets hsome]
    exact ⟨fun hkey => absurd hkey (hsome _ _), fun _ => rfl⟩

/-- Where every bound is a number, the loop goes through. -/
theorem routeBuckets_eq {metrics : List Sample} (h : ∀ sample ∈ metrics,
    sample.name = "arbitrage_calibration_adverse_move_pct_bucket" →
      ∃ route bound, sample.IsBucket route bound) :
    routeBuckets metrics = some (metrics.foldl fileBucket .empty) := by
  unfold routeBuckets
  generalize (Dict.empty : Dict String (Dict Level ℚ)) = buckets
  induction metrics generalizing buckets with
  | nil => rfl
  | cons sample rest ih =>
      have hstep : bucketStep buckets sample = some (fileBucket buckets sample) := by
        by_cases hname : sample.name = "arbitrage_calibration_adverse_move_pct_bucket"
        · obtain ⟨route, bound, hbucket⟩ := h sample List.mem_cons_self hname
          unfold fileBucket
          rw [bucketStep_of_bucket buckets hbucket]
          rfl
        · unfold fileBucket bucketStep
          rw [if_pos hname]
          rfl
      rw [List.foldlM_cons, hstep]
      exact ih (fun s hs => h s (List.mem_cons_of_mem _ hs)) _

/-- The buckets of a route are read as they are, and there are no others. -/
theorem routeBuckets_scrape (s : client.State) :
    ∃ buckets, routeBuckets (client.scrape s) = some buckets ∧ ∀ route,
      (∀ bound ∈ levels,
        (bucketAt buckets (route, bound)).getD 0 = atMost (client.observed s route) bound) ∧
      (client.observed s route ≠ [] → ∀ bound,
        bucketAt buckets (route, bound) ≠ none ↔ bound ∈ levels) := by
  refine ⟨_, routeBuckets_eq (client.bucket_labelled s), ?_⟩
  intro route
  have hgives (buckets : Dict String (Dict Level ℚ)) (sample : Sample) (key : String × Level)
      (h : sample.IsBucket key.1 key.2) :
      bucketAt (fileBucket buckets sample) key = some sample.value :=
    (bucketAt_fileBucket buckets sample key).1 h
  have hother (buckets : Dict String (Dict Level ℚ)) (sample : Sample) (key : String × Level)
      (h : ¬ sample.IsBucket key.1 key.2) :
      bucketAt (fileBucket buckets sample) key = bucketAt buckets key :=
    (bucketAt_fileBucket buckets sample key).2 h
  refine ⟨?_, ?_⟩
  · intro bound hbound
    refine getD_look_foldl bucketAt (fun sample key => sample.IsBucket key.1 key.2) Sample.value
      hgives hother rfl ?_ ?_
    · exact fun sample hmem hbucket => (client.bucket_value s sample hmem route bound hbucket).2
    · intro hcount
      refine client.bucket_listed s route ?_ bound hbound
      intro hnone
      rw [hnone] at hcount
      exact hcount rfl
  · intro hobserved bound
    have hempty : bucketAt .empty (route, bound) = none := rfl
    rcases look_foldl bucketAt (fun sample key => sample.IsBucket key.1 key.2) Sample.value hgives
      hother hempty (client.scrape s) with ⟨sample, hmem, hbucket, hlook⟩ | ⟨hnone, hlook⟩
    · rw [hlook]
      refine iff_of_true (Option.some_ne_none _) ?_
      exact (client.bucket_value s sample hmem route bound hbucket).1
    · rw [hlook]
      refine iff_of_false (not_not.mpr rfl) ?_
      intro hbound
      obtain ⟨sample, hmem, hbucket⟩ := client.bucket_listed s route hobserved bound hbound
      exact hnone sample hmem hbucket

end Scrapes

/-! ## The target -/

/-! ## The window -/

/-- The buckets have, for each bound, the moves of a window that are not above it. -/
structure Counts (deltas : Dict Level ℚ) (moves : List Level) : Prop where
  count : ∀ bound ∈ levels, (deltas.get? bound).getD 0 = atMost moves bound
  keys : moves ≠ [] → ∀ bound, bound ∈ deltas.keys ↔ bound ∈ levels

/-- **What two scrapes differ by is what was recorded in between.** -/
theorem counts_since (client : MetricsClient) (log window : List Recording) :
    ∃ startBuckets endBuckets, routeBuckets (client.scrape (client.after log)) = some startBuckets ∧
      routeBuckets (client.scrape (client.after (log ++ window))) = some endBuckets ∧
      ∀ route, Counts (((endBuckets.get? route).getD .empty).since
        ((startBuckets.get? route).getD .empty)) (observations window route) := by
  obtain ⟨startBuckets, hstart, hstartCounts⟩ := routeBuckets_scrape (client.after log)
  obtain ⟨endBuckets, hend, hendCounts⟩ := routeBuckets_scrape (client.after (log ++ window))
  refine ⟨startBuckets, endBuckets, hstart, hend, ?_⟩
  intro route
  obtain ⟨hstartCount, -⟩ := hstartCounts route
  obtain ⟨hendCount, hendKeys⟩ := hendCounts route
  have happend : observations (log ++ window) route =
      observations log route ++ observations window route := List.filterMap_append
  rw [(MetricsClient.counted_after log route).2] at hstartCount
  rw [(MetricsClient.counted_after (log ++ window) route).2, happend] at hendCount hendKeys
  unfold bucketAt at hstartCount hendCount hendKeys
  refine ⟨?_, ?_⟩
  · intro bound hbound
    have hbefore := hstartCount bound hbound
    have hafter := hendCount bound hbound
    rw [atMost_append, Nat.cast_add] at hafter
    dsimp only at hbefore hafter
    rw [Dict.get?_since]
    cases hget : ((endBuckets.get? route).getD .empty).get? bound with
    | none =>
        rw [hget] at hafter
        have hnone : (0 : ℚ) = atMost (observations log route) bound +
            atMost (observations window route) bound := hafter
        have hfirst : (0 : ℚ) ≤ atMost (observations log route) bound := Nat.cast_nonneg _
        have hsecond : (0 : ℚ) ≤ atMost (observations window route) bound := Nat.cast_nonneg _
        show (0 : ℚ) = _
        linarith
    | some count =>
        rw [hget] at hafter
        show count - _ = _
        have hcount : count = atMost (observations log route) bound +
            atMost (observations window route) bound := hafter
        rw [hbefore, hcount, add_sub_cancel_left]
  · intro hmoves bound
    rw [Dict.keys_since, Dict.mem_keys_iff, Option.isSome_iff_ne_none]
    exact hendKeys (List.append_ne_nil_of_right_ne_nil _ hmoves) bound

/-- The valid evaluations in between. -/
theorem evaluations_since (client : MetricsClient) (log window : List Recording) (route : String) :
    ((routeCounters (client.scrape (client.after (log ++ window)))).get? route).getD 0 -
        ((routeCounters (client.scrape (client.after log))).get? route).getD 0 =
      evaluations window route := by
  rw [routeCounters_scrape, routeCounters_scrape, (MetricsClient.counted_after log route).1,
    (MetricsClient.counted_after (log ++ window) route).1]
  unfold evaluations
  rw [List.countP_append, Nat.cast_add, add_sub_cancel_left]

/-! ## The percentile -/

/-- 95 percent of the moves are not above a bound. -/
def Holds95 (moves : List Level) (bound : ℚ) : Prop :=
  19 * moves.length ≤ 20 * atMost moves (bound : Level)

/-- The least bound of the histogram, from the floor on, that 95 percent of the moves are not
above. -/
structure IsPercentile (moves : List Level) (bound : ℚ) : Prop where
  bucket : bound ∈ calibrationBuckets
  holds : Holds95 moves bound
  least : ∀ other ∈ calibrationBuckets, smallestBucket ≤ other → other < bound →
    ¬ Holds95 moves other

theorem smallestBucket_mem : smallestBucket ∈ calibrationBuckets :=
  List.mem_cons_of_mem _ List.mem_cons_self

theorem mem_levels_iff {bound : ℚ} : (bound : Level) ∈ levels ↔ bound ∈ calibrationBuckets := by
  unfold levels
  rw [List.mem_append, List.mem_singleton, List.mem_map]
  constructor
  · rintro (⟨other, hmem, hsame⟩ | htop)
    · rw [← WithTop.coe_injective hsame]
      exact hmem
    · exact absurd htop (WithTop.coe_ne_top)
  · exact fun hmem => .inl ⟨bound, hmem, rfl⟩

theorem top_mem_levels : (⊤ : Level) ∈ levels :=
  List.mem_append_right _ (List.mem_singleton_self _)

/-- A bound is taken where 95 percent of the moves are not above it. -/
theorem reaches_iff {deltas : Dict Level ℚ} {moves : List Level} (h : Counts deltas moves)
    {bound : ℚ} (hbound : bound ∈ calibrationBuckets) :
    reaches deltas moves.length (bound : Level) = true ↔ Holds95 moves bound := by
  unfold reaches Holds95
  rw [h.count _ (mem_levels_iff.mpr hbound), Bool.and_eq_true, decide_eq_true_eq,
    decide_eq_true_eq, and_iff_right (WithTop.coe_ne_top)]
  have hcast : ((19 * moves.length : ℕ) : ℚ) ≤ ((20 * atMost moves (bound : Level) : ℕ) : ℚ) ↔
      19 * moves.length ≤ 20 * atMost moves (bound : Level) := Nat.cast_le
  rw [← hcast]
  push_cast
  constructor
  · intro hle
    linarith
  · intro hle
    linarith

/-- **The percentile that is found is the least bound that holds 95 percent.** -/
theorem isPercentile_of_percentile {deltas : Dict Level ℚ} {moves : List Level}
    (h : Counts deltas moves) {p : ℚ} (hp : percentile deltas = some p) : IsPercentile moves p := by
  have hcount : (deltas.get? ⊤).getD 0 = moves.length := by
    rw [h.count ⊤ top_mem_levels, atMost_top]
  unfold percentile at hp
  dsimp only at hp
  rw [hcount] at hp
  split at hp
  · next hpos =>
      have hmoves : moves ≠ [] := by
        rintro rfl
        exact absurd hpos (lt_irrefl _)
      obtain ⟨bound, hfirst, rfl⟩ := Option.map_eq_some_iff.mp hp
      obtain ⟨hkey, hreaches, hothers⟩ := firstBound_eq_some hfirst
      have hne : bound ≠ ⊤ := by
        unfold reaches at hreaches
        rw [Bool.and_eq_true, decide_eq_true_eq] at hreaches
        exact hreaches.1
      obtain ⟨b, rfl⟩ := WithTop.ne_top_iff_exists.mp hne
      have hbucket := mem_levels_iff.mp ((h.keys hmoves _).mp hkey)
      have hholds := (reaches_iff h hbucket).mp hreaches
      rw [WithTop.untopD_coe]
      refine ⟨?_, ?_, ?_⟩
      · rcases max_choice smallestBucket b with hmax | hmax
        · rw [hmax]
          exact smallestBucket_mem
        · rw [hmax]
          exact hbucket
      · calc 19 * moves.length ≤ 20 * atMost moves (b : Level) := hholds
          _ ≤ 20 * atMost moves ((max smallestBucket b : ℚ) : Level) :=
            Nat.mul_le_mul_left _ (atMost_mono _ (WithTop.coe_le_coe.mpr (le_max_right _ _)))
      · intro other hother hfloor hlt hholds'
        have hb : other < b := by
          rcases lt_max_iff.mp hlt with hsmall | hb
          · exact absurd hsmall (not_lt.mpr hfloor)
          · exact hb
        have hfails := hothers (other : Level)
          ((h.keys hmoves _).mpr (mem_levels_iff.mpr hother)) (WithTop.coe_lt_coe.mpr hb)
        rw [(reaches_iff h hother).mpr hholds'] at hfails
        exact Bool.noConfusion hfails
  · cases hp

/-- A route passes only with a percentile and with enough evaluations. -/
theorem passed_routeResult {startCount endCount : ℚ} {startBuckets endBuckets : Dict Level ℚ}
    {minimum : ℤ}
    (h : (routeResult startCount endCount startBuckets endBuckets minimum).passed = true) :
    (minimum : ℚ) ≤ endCount - startCount ∧
      ∃ p, (routeResult startCount endCount startBuckets endBuckets minimum).adverseMoveP95Pct =
          some p ∧ percentile (endBuckets.since startBuckets) = some p := by
  unfold RouteResult.passed routeResult at h
  simp only [List.isEmpty_iff, List.append_eq_nil_iff, ite_eq_right_iff, List.cons_ne_nil,
    imp_false] at h
  obtain ⟨⟨⟨hvalid, -⟩, hp⟩, -⟩ := h
  refine ⟨not_lt.mp hvalid, ?_⟩
  obtain ⟨p, hsome⟩ := Option.ne_none_iff_exists'.mp hp
  exact ⟨p, hsome, hsome⟩

/-- Every route has its own result. -/
theorem get?_results (resultOf : String → RouteResult) (routes : List String)
    (result : CalibrationResult) (route : String) :
    ((routes.foldl (fun result route =>
      { passed := result.passed && (resultOf route).passed,
        routes := result.routes.set route (resultOf route) }) result).routes.get? route) =
      if route ∈ routes then some (resultOf route) else result.routes.get? route := by
  induction routes generalizing result with
  | nil => rfl
  | cons other rest ih =>
      rw [List.foldl_cons, ih]
      by_cases hrest : route ∈ rest
      · rw [if_pos hrest, if_pos (List.mem_cons_of_mem _ hrest)]
      · rw [if_neg hrest, Dict.get?_set]
        by_cases hsame : route = other
        · rw [if_pos hsame, if_pos (hsame ▸ List.mem_cons_self), hsame]
        · have hother : route ∉ other :: rest := by
            rw [List.mem_cons, not_or]
            exact ⟨hsame, hrest⟩
          rw [if_neg hsame, if_neg hother]

/-- **The calibration finds a true upper percentile**: of the moves that were recorded between the
scrapes 95 percent are not above it, no smaller bound from the floor on has that property, and the
route was evaluated often enough in between. -/
theorem calibration_percentile (client : MetricsClient) (log window : List Recording)
    (routes : List String) (minimum : ℤ) :
    ∃ result, calibrationResult routes (client.scrape (client.after log))
        (client.scrape (client.after (log ++ window))) minimum = some result ∧
      ∀ route ∈ routes, ∃ details, result.routes.get? route = some details ∧
        (details.passed = true → ∃ p, details.adverseMoveP95Pct = some p ∧
          IsPercentile (observations window route) p ∧
          minimum ≤ evaluations window route) := by
  obtain ⟨startBuckets, endBuckets, hstart, hend, hcounts⟩ := counts_since client log window
  unfold calibrationResult
  dsimp only
  rw [hstart, hend]
  refine ⟨_, rfl, ?_⟩
  intro route hroute
  refine ⟨_, (get?_results _ routes _ route).trans (if_pos hroute), ?_⟩
  intro hpassed
  obtain ⟨hminimum, p, hp, hpercentile⟩ := passed_routeResult hpassed
  rw [evaluations_since] at hminimum
  refine ⟨p, hp, isPercentile_of_percentile (hcounts route) hpercentile, ?_⟩
  exact_mod_cast hminimum

namespace CalibrationExamples

/-- The labels of the buckets. -/
def boundTexts : List (String × Level) :=
  ["0.0", "0.0001", "0.00025", "0.0005", "0.001", "0.0025", "0.005", "0.01", "0.02", "0.05", "0.1",
    "+Inf"].zip levels

theorem boundOf_boundTexts : ∀ e ∈ boundTexts, boundOf e.1 = some e.2 := by decide +kernel

theorem mem_levels_iff_boundTexts (bound : Level) :
    bound ∈ levels ↔ ∃ text, (text, bound) ∈ boundTexts := by
  have hlevels : levels = boundTexts.map Prod.snd := by decide +kernel
  rw [hlevels, List.mem_map]
  exact ⟨fun ⟨e, he, hsame⟩ => ⟨e.1, hsame ▸ he⟩, fun ⟨text, h⟩ => ⟨_, h, rfl⟩⟩

def counterLine (route : String) (count : ℕ) : Sample where
  name := "arbitrage_calibration_valid_evaluations_total"
  labels := Dict.empty.set "route" route
  value := count

def bucketLine (route text : String) (count : ℕ) : Sample where
  name := "arbitrage_calibration_adverse_move_pct_bucket"
  labels := (Dict.empty.set "le" text).set "route" route
  value := count

theorem counterName_ne : "arbitrage_calibration_valid_evaluations_total" ≠
    "arbitrage_calibration_adverse_move_pct_bucket" := by decide

theorem isCounter_counterLine_iff {route other : String} {count : ℕ} :
    (counterLine route count).IsCounter other ↔ route = other := by
  unfold Sample.IsCounter counterLine
  rw [Dict.get?_set_self, Option.some.injEq]
  exact and_iff_right rfl

theorem isBucket_bucketLine_iff {route other text : String} {bound level : Level} {count : ℕ}
    (hbound : boundOf text = some bound) :
    (bucketLine route text count).IsBucket other level ↔ route = other ∧ bound = level := by
  have hle : (bucketLine route text count).labels.get? "le" = some text := by
    unfold bucketLine
    rw [Dict.get?_set_of_ne _ (by decide), Dict.get?_set_self]
  unfold Sample.IsBucket
  rw [hle]
  simp [bucketLine, hbound]

/-- A client that keeps everything it is told. -/
def listingClient : MetricsClient where
  State := List String × List (String × Level)
  new := ([], [])
  inc := fun s route => (s.1 ++ [route], s.2)
  observe := fun s route move => (s.1, s.2 ++ [(route, move)])
  count := fun s route => s.1.count route
  observed := fun s route => s.2.filterMap fun e => if e.1 = route then some e.2 else none
  scrape := fun s =>
    (s.1.dedup.map fun route => counterLine route (s.1.count route)) ++
      (s.2.map Prod.fst).dedup.flatMap fun route => boundTexts.map fun e =>
        bucketLine route e.1
          (atMost (s.2.filterMap fun m => if m.1 = route then some m.2 else none) e.2)
  count_new := fun route => rfl
  observed_new := fun route => rfl
  count_inc := fun s route other => by
    rw [List.count_append, List.count_singleton]
    simp only [beq_iff_eq]
  observed_inc := fun s route other => rfl
  count_observe := fun s route move other => rfl
  observed_observe := fun s route move other => by
    rw [List.filterMap_append]
    split
    · next h => simp [h]
    · next h => simp [h]
  counter_value := by
    intro s sample hmem route hcounter
    rcases List.mem_append.mp hmem with hmem | hmem
    · obtain ⟨other, -, rfl⟩ := List.mem_map.mp hmem
      rw [← isCounter_counterLine_iff.mp hcounter]
      rfl
    · obtain ⟨other, -, hmem⟩ := List.mem_flatMap.mp hmem
      obtain ⟨e, -, rfl⟩ := List.mem_map.mp hmem
      exact absurd hcounter.1 counterName_ne.symm
  counter_listed := by
    intro s route hcount
    refine ⟨_, List.mem_append_left _ (List.mem_map_of_mem (List.mem_dedup.mpr
      (List.count_pos_iff.mp hcount))), isCounter_counterLine_iff.mpr rfl⟩
  bucket_labelled := by
    intro s sample hmem hname
    rcases List.mem_append.mp hmem with hmem | hmem
    · obtain ⟨other, -, rfl⟩ := List.mem_map.mp hmem
      exact absurd hname counterName_ne
    · obtain ⟨other, -, hmem⟩ := List.mem_flatMap.mp hmem
      obtain ⟨e, he, rfl⟩ := List.mem_map.mp hmem
      exact ⟨other, e.2, (isBucket_bucketLine_iff (boundOf_boundTexts e he)).mpr ⟨rfl, rfl⟩⟩
  bucket_value := by
    intro s sample hmem route bound hbucket
    rcases List.mem_append.mp hmem with hmem | hmem
    · obtain ⟨other, -, rfl⟩ := List.mem_map.mp hmem
      exact absurd hbucket.1 counterName_ne
    · obtain ⟨other, -, hmem⟩ := List.mem_flatMap.mp hmem
      obtain ⟨e, he, rfl⟩ := List.mem_map.mp hmem
      obtain ⟨rfl, rfl⟩ := (isBucket_bucketLine_iff (boundOf_boundTexts e he)).mp hbucket
      exact ⟨(mem_levels_iff_boundTexts _).mpr ⟨e.1, he⟩, rfl⟩
  bucket_listed := by
    intro s route hobserved bound hbound
    obtain ⟨text, htext⟩ := (mem_levels_iff_boundTexts bound).mp hbound
    obtain ⟨move, hmove⟩ := List.exists_mem_of_ne_nil _ hobserved
    obtain ⟨e, he, hsome⟩ := List.mem_filterMap.mp hmove
    have hroute : e.1 = route := by
      by_contra hne
      rw [if_neg hne] at hsome
      cases hsome
    refine ⟨_, List.mem_append_right _ (List.mem_flatMap.mpr ⟨route, List.mem_dedup.mpr
      (List.mem_map.mpr ⟨e, he, hroute⟩), List.mem_map_of_mem htext⟩), ?_⟩
    exact (isBucket_bucketLine_iff (boundOf_boundTexts _ htext)).mpr ⟨rfl, rfl⟩

/-- An earlier move, then two of the window. -/
def earlier : List Recording := [⟨"polymarket_sx", some ⊤⟩]

def window : List Recording :=
  [⟨"polymarket_sx", some ((1 / 1000 : ℚ) : Level)⟩, ⟨"polymarket_sx", none⟩,
    ⟨"polymarket_sx", some ((1 / 500 : ℚ) : Level)⟩]

/-- The percentile of two moves is the bound above the greater one. -/
theorem window_percentile :
    (∃ result, calibrationResult ["polymarket_sx"]
        (listingClient.scrape (listingClient.after earlier))
        (listingClient.scrape (listingClient.after (earlier ++ window))) 3 = some result ∧
      ∀ route ∈ ["polymarket_sx"], ∃ details, result.routes.get? route = some details ∧
        (details.passed = true → ∃ p, details.adverseMoveP95Pct = some p ∧
          IsPercentile (observations window route) p ∧ 3 ≤ evaluations window route)) ∧
    ((calibrationResult ["polymarket_sx"] (listingClient.scrape (listingClient.after earlier))
        (listingClient.scrape (listingClient.after (earlier ++ window))) 3).bind fun result =>
      (result.routes.get? "polymarket_sx").map fun details =>
        (details.passed, details.adverseMoveP95Pct)) = some (true, some (float64 0.0025)) := by
  refine ⟨?_, by decide +kernel⟩
  exact_mod_cast calibration_percentile listingClient earlier window ["polymarket_sx"] 3

end CalibrationExamples

end ArbitrageEngine.ShadowCalibration
