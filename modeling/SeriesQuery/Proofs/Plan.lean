import SeriesQuery.Plan
import SeriesQuery.Proofs.Grid
import SeriesQuery.Proofs.Results
/-!
Which requests make a plan, and what the plan is then. A request over another range of time makes
the same plan but for its grid and the start of its fetch.
-/
namespace SeriesQuery

theorem Failure.isClientError_iff {failure : Failure} :
    failure.isClientError = true ↔
      (∃ fault, failure = .query fault) ∨ ∃ fault, failure = .filter fault := by
  cases failure <;> simp [isClientError]

/-- Whether a result fails only by what its caller asked for. -/
def ClientOnly {α : Type} (result : Except Failure α) : Prop :=
  ∀ failure, result = .error failure → failure.isClientError = true

theorem ClientOnly.bind {α β : Type} {result : Except Failure α} {next : α → Except Failure β}
    (first : ClientOnly result) (rest : ∀ middle, ClientOnly (next middle)) :
    ClientOnly (result >>= next) := by
  intro failure failed
  cases result with
  | error fault =>
      cases failed
      exact first failure rfl
  | ok middle => exact rest middle failure failed

theorem ClientOnly.mapError {ε α : Type} {change : ε → Failure}
    (client : ∀ fault, (change fault).isClientError = true) (result : Except ε α) :
    ClientOnly (result.mapError change) := by
  intro failure failed
  rcases mapError_eq_error_iff.mp failed with ⟨cause, -, rfl⟩
  exact client cause

variable {V : Type}

/-- The same request over another range of time. -/
def Request.during (request : Request V) (start stop : Int) : Request V :=
  { request with start := start, stop := stop }

namespace Plan

theorem cover_of_gridWithin {limit : Nat} {start stop step : Int} {grid : Grid}
    (within : gridWithin limit start stop step = .ok grid) :
    Grid.cover start stop step = .ok grid := by
  rw [gridWithin] at within
  rcases bind_eq_ok_iff.mp within with ⟨covered, found, rest⟩
  split at rest
  · cases rest
  · cases rest
    exact found

theorem stepOfSeconds_eq_ok {seconds step : Int} (read : stepOfSeconds seconds = .ok step) :
    step = seconds * 1000 ∧ step ≤ Instant.greatest := by
  rw [stepOfSeconds] at read
  split at read
  · cases read
  · split at read
    · cases read
    · have := Except.ok.inj read
      omega

/-- The same plan over another grid, with the start of its fetch. -/
def during (plan : Plan V) (grid : Grid) (fetchStart : Int) : Plan V :=
  { plan with grid := grid, fetchStart := fetchStart }

section During

variable (plan : Plan V) (grid : Grid) (fetchStart : Int)

@[simp] theorem during_grid : (plan.during grid fetchStart).grid = grid := rfl

@[simp] theorem during_timeReducer :
    (plan.during grid fetchStart).timeReducer = plan.timeReducer := rfl

@[simp] theorem during_spaceReducer :
    (plan.during grid fetchStart).spaceReducer = plan.spaceReducer := rfl

@[simp] theorem during_lookback : (plan.during grid fetchStart).lookback = plan.lookback := rfl

@[simp] theorem during_groupBy : (plan.during grid fetchStart).groupBy = plan.groupBy := rfl

@[simp] theorem during_metric : (plan.during grid fetchStart).metric = plan.metric := rfl

@[simp] theorem during_filter : (plan.during grid fetchStart).filter = plan.filter := rfl

end During

/--
Whether a plan stays within 64 bits: the instants that it starts from, and every distance that is
measured on its grid.
-/
structure Fits (plan : Plan V) : Prop where
  step : plan.grid.step ≤ Instant.greatest
  lookback : plan.lookback ≤ Instant.greatest
  fetchStart : Instant.least ≤ plan.fetchStart
  start : Instant.least ≤ plan.grid.start
  distance : ∀ instant, plan.grid.start ≤ instant → instant < plan.grid.stop →
    instant - plan.grid.start ≤ Instant.greatest
  boundary : ∀ instant boundary, plan.grid.stepOf? instant = some boundary →
    Instant.least ≤ boundary ∧ boundary ≤ instant

variable [Scalar V]

@[simp] theorem bucketQuery?_during (plan : Plan V) (grid : Grid) (fetchStart : Int) :
    (plan.during grid fetchStart).bucketQuery? = plan.bucketQuery? := rfl

@[simp] theorem checkType_during (plan : Plan V) (grid : Grid) (fetchStart : Int)
    (type : MetricType) : (plan.during grid fetchStart).checkType type = plan.checkType type := rfl

/-- Everything that is checked of a request, with what the plan takes from it. -/
structure Checked (patterns : PatternEngine) (request : Request V) (settings : EngineSettings)
    (plan : Plan V) : Prop where
  named : Text.trim request.metric ≠ ""
  metric : plan.metric = Text.trim request.metric
  step : stepOfSeconds request.stepSeconds = .ok plan.grid.step
  grid : gridWithin settings.maxPoints request.start request.stop plan.grid.step = .ok plan.grid
  timeReducer : TimeReducer.read request.timeReducer = .ok plan.timeReducer
  spaceReducer : SpaceReducer.read request.spaceReducer = .ok plan.spaceReducer
  threshold :
    request.threshold.mapM (checkThreshold · plan.spaceReducer) = .ok plan.threshold
  groupBy : groupNames request.groupBy = .ok plan.groupBy
  filter : Filter.ofText patterns request.filter = .ok plan.filter
  lookback : plan.lookback = lookbackOf settings plan.grid.step
  fetchStart : fetchStartOf request plan.grid plan.lookback = .ok plan.fetchStart
  timeout : plan.timeout = (request.timeout.map .ofMilliseconds).getD settings.queryTimeout

theorem ofRequest_eq_ok_iff {patterns : PatternEngine} {request : Request V}
    {settings : EngineSettings} {plan : Plan V} :
    ofRequest patterns request settings = .ok plan ↔ Checked patterns request settings plan := by
  by_cases missing : Text.trim request.metric = ""
  · constructor
    · intro planned
      simp only [ofRequest, if_pos missing] at planned
      cases planned
    · intro checked
      exact absurd missing checked.named
  simp only [ofRequest, if_neg missing, bind_eq_ok_iff, mapError_eq_ok_iff]
  constructor
  · rintro ⟨step, seconds, grid, within, timeReducer, time, spaceReducer, space, threshold, against,
      groupBy, names, filter, reads, fetchStart, room, whole⟩
    cases whole
    obtain rfl : grid.step = step := (Grid.cover_eq_ok (cover_of_gridWithin within)).1.2.2
    exact ⟨missing, rfl, seconds, within, time, space, against, names, reads, rfl, room, rfl⟩
  · intro checked
    refine ⟨_, checked.step, _, checked.grid, _, checked.timeReducer, _, checked.spaceReducer, _,
      checked.threshold, _, checked.groupBy, _, checked.filter, plan.fetchStart, ?_, ?_⟩
    · exact checked.lookback ▸ checked.fetchStart
    · rw [← checked.lookback, ← checked.metric, ← checked.timeout]
      rfl

/-- Requests that make no plan are at fault themselves. -/
theorem clientOnly_ofRequest (patterns : PatternEngine) (request : Request V)
    (settings : EngineSettings) : ClientOnly (ofRequest patterns request settings) := by
  have asked {α : Type} (result : Except QueryFault α) :
      ClientOnly (result.mapError Failure.query) := .mapError (fun _ => rfl) result
  by_cases missing : Text.trim request.metric = ""
  · simp only [ofRequest, if_pos missing]
    intro failure failed
    cases failed
    rfl
  · simp only [ofRequest, if_neg missing]
    refine .bind (asked _) fun step => .bind (asked _) fun grid => .bind (asked _) fun time =>
      .bind (asked _) fun space => .bind (asked _) fun threshold => .bind (asked _) fun groupBy =>
      .bind (.mapError (fun _ => rfl) _) fun filter => .bind (asked _) fun fetchStart => ?_
    intro failure failed
    cases failed

namespace Checked

variable {patterns : PatternEngine} {request : Request V} {settings : EngineSettings}
  {plan : Plan V}

theorem cover (checked : Checked patterns request settings plan) :
    plan.grid.start = Grid.align request.start plan.grid.step ∧ plan.grid.stop = request.stop :=
  have covered := (Grid.cover_eq_ok (cover_of_gridWithin checked.grid)).1
  ⟨covered.1, covered.2.1⟩

theorem fetchStart_eq (checked : Checked patterns request settings plan) :
    plan.fetchStart = plan.grid.start - plan.lookback := by
  have room := checked.fetchStart
  rw [fetchStartOf] at room
  split at room
  · cases room
  · exact (Except.ok.inj room).symm

theorem lookback_pos (checked : Checked patterns request settings plan) : 0 < plan.lookback := by
  have positive := plan.grid.step_pos
  have lookback := checked.lookback
  unfold lookbackOf at lookback
  omega

theorem step_eq (checked : Checked patterns request settings plan) :
    plan.grid.step = request.stepSeconds * 1000 :=
  (stepOfSeconds_eq_ok checked.step).1

theorem fits (checked : Checked patterns request settings plan) : plan.Fits := by
  have ⟨early, wide⟩ := (Grid.cover_eq_ok (cover_of_gridWithin checked.grid)).2
  have step := (stepOfSeconds_eq_ok checked.step).2
  have room := checked.fetchStart
  have lookback := checked.lookback
  rw [fetchStartOf] at room
  unfold lookbackOf at lookback
  refine ⟨step, by omega, ?_, early, fun instant _ before => by omega, ?_⟩
  · split at room
    · cases room
    · have := Except.ok.inj room
      omega
  · intro instant boundary found
    rcases plan.grid.stepOf?_eq_some_iff.mp found with ⟨step, inside, -⟩
    have after := (plan.grid.mem_boundaries.mp step).2.1
    have := of_decide_eq_true inside
    omega

/-- Plans of one request over two ranges differ in the grid and the start of the fetch only. -/
theorem during {start stop : Int} {other : Plan V}
    (checked : Checked patterns request settings plan)
    (moved : Checked patterns (request.during start stop) settings other) :
    other.grid.step = plan.grid.step ∧
      other = plan.during other.grid other.fetchStart := by
  have step := moved.step_eq.trans checked.step_eq.symm
  have timeReducer := Except.ok.inj (moved.timeReducer.symm.trans checked.timeReducer)
  have spaceReducer := Except.ok.inj (moved.spaceReducer.symm.trans checked.spaceReducer)
  have threshold := moved.threshold
  have filter := Except.ok.inj (moved.filter.symm.trans checked.filter)
  have groupBy := Except.ok.inj (moved.groupBy.symm.trans checked.groupBy)
  have metric := moved.metric.trans checked.metric.symm
  have lookback := moved.lookback
  have timeout := moved.timeout.trans checked.timeout.symm
  rw [step, ← checked.lookback] at lookback
  rw [spaceReducer] at threshold
  have threshold := Except.ok.inj (threshold.symm.trans checked.threshold)
  refine ⟨step, ?_⟩
  cases other
  cases timeReducer
  cases spaceReducer
  cases threshold
  cases filter
  cases groupBy
  cases metric
  cases lookback
  cases timeout
  rfl

end Checked

end Plan

end SeriesQuery
