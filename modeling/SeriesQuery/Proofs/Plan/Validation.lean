import Mathlib.Data.List.Basic
import Mathlib.Data.List.Induction
import Mathlib.Data.List.Nodup
import SeriesQuery.Pattern.Reader
import SeriesQuery.Proofs.Filter.Composition
import SeriesQuery.Proofs.Plan.Words
/-!
The checks of a request. Main statement: a request makes a plan just when it passes each check by
itself, nothing overflows while it is checked, and whatever is refused is a fault of the request.
-/
namespace SeriesQuery

/-- Whether names are the different ones of a list, each of them where it stands first. -/
structure FirstOf (listed names : List String) : Prop where
  distinct : names.Nodup
  mem_iff : ∀ name, name ∈ names ↔ name ∈ listed
  ordered : names.Pairwise fun a b => listed.idxOf a < listed.idxOf b

theorem FirstOf.append_old {listed names : List String} {name : String}
    (first : FirstOf listed names) (old : name ∈ listed) : FirstOf (listed ++ [name]) names where
  distinct := first.distinct
  mem_iff other := by
    rw [first.mem_iff, List.mem_append, List.mem_singleton]
    constructor
    · exact .inl
    · rintro (held | rfl)
      · exact held
      · exact old
  ordered := by
    refine first.ordered.imp_of_mem fun {a b} held held' less => ?_
    rwa [List.idxOf_append_of_mem ((first.mem_iff a).mp held),
      List.idxOf_append_of_mem ((first.mem_iff b).mp held')]

theorem FirstOf.append_new {listed names : List String} {name : String}
    (first : FirstOf listed names) (new : name ∉ listed) :
    FirstOf (listed ++ [name]) (names ++ [name]) where
  distinct := by
    refine List.nodup_append.mpr ⟨first.distinct, List.nodup_singleton _, ?_⟩
    rintro held member _ single rfl
    rw [List.mem_singleton] at single
    exact new (single ▸ (first.mem_iff _).mp member)
  mem_iff other := by
    rw [List.mem_append, List.mem_append, first.mem_iff]
  ordered := by
    refine List.pairwise_append.mpr ⟨?_, List.pairwise_singleton _ _, ?_⟩
    · refine first.ordered.imp_of_mem fun {a b} held held' less => ?_
      rwa [List.idxOf_append_of_mem ((first.mem_iff a).mp held),
        List.idxOf_append_of_mem ((first.mem_iff b).mp held')]
    · intro held member last single
      rw [List.mem_singleton] at single
      rw [single, List.idxOf_append_of_mem ((first.mem_iff held).mp member),
        List.idxOf_append_of_notMem new, List.idxOf_cons_self]
      exact List.idxOf_lt_length_of_mem ((first.mem_iff held).mp member)

/-- The names that come up again are the ones that are erased. -/
theorem firstOf_eraseDups (listed : List String) : FirstOf listed listed.eraseDups := by
  induction listed using List.reverseRecOn with
  | nil => exact ⟨List.nodup_nil, fun _ => Iff.rfl, List.Pairwise.nil⟩
  | append_singleton listed name ih =>
      rw [List.eraseDups_append]
      by_cases old : name ∈ listed
      · have nothing : [name].removeAll listed = [] := by simp [List.removeAll, old]
        rw [nothing, List.eraseDups_nil, List.append_nil]
        exact ih.append_old old
      · have single : [name].removeAll listed = [name] := by simp [List.removeAll, old]
        rw [single]
        exact ih.append_new old

namespace Plan

theorem groupNames_eq_ok_iff {listed names : List String} :
    groupNames listed = .ok names ↔
      (∀ name ∈ listed, Text.trim name ≠ "") ∧ names = (listed.map Text.trim).eraseDups := by
  rw [groupNames]
  split
  · rename_i empty
    rcases List.mem_map.mp empty with ⟨name, held, same⟩
    constructor
    · intro impossible
      cases impossible
    · rintro ⟨filled, -⟩
      exact absurd same (filled name held)
  · rename_i filled
    have all : ∀ name ∈ listed, Text.trim name ≠ "" := fun name held same =>
      filled (same ▸ List.mem_map_of_mem held)
    exact ⟨fun read => ⟨all, (Except.ok.inj read).symm⟩, fun ⟨_, same⟩ => congrArg _ same.symm⟩

theorem stepOfSeconds_eq_ok_iff {seconds step : Int} :
    stepOfSeconds seconds = .ok step ↔
      (0 < seconds ∧ Word.Fits (seconds * 1000)) ∧ step = seconds * 1000 := by
  have least := Word.fits_zero.1
  unfold stepOfSeconds Word.Fits
  split
  · simp
    omega
  · split
    · simp
      omega
    · simp
      omega

theorem gridWithin_eq_ok_iff {limit : Nat} {start stop step : Int} {grid : Grid} :
    gridWithin limit start stop step = .ok grid ↔
      Grid.cover start stop step = .ok grid ∧ grid.size ≤ limit := by
  rw [gridWithin, bind_eq_ok_iff]
  constructor
  · rintro ⟨covered, found, rest⟩
    split at rest
    · cases rest
    · rename_i few
      cases rest
      exact ⟨found, Nat.not_lt.mp few⟩
  · rintro ⟨found, few⟩
    refine ⟨grid, found, ?_⟩
    rw [if_neg (Nat.not_lt.mpr few)]
    rfl

theorem fetchStartOf_eq_ok_iff {V : Type} {request : Request V} {grid : Grid}
    {lookback fetchStart : Int} :
    fetchStartOf request grid lookback = .ok fetchStart ↔
      Instant.least ≤ grid.start - lookback ∧ fetchStart = grid.start - lookback := by
  rw [fetchStartOf]
  split
  · rename_i early
    constructor
    · intro made
      cases made
    · rintro ⟨late, -⟩
      exact absurd early (Int.not_lt.mpr late)
  · rename_i late
    simp [Int.not_lt.mp late, eq_comm]

variable {V : Type}

/-- How far before its grid a request looks, in milliseconds. -/
def reach (request : Request V) (settings : EngineSettings) : Int :=
  max (request.stepSeconds * 1000) (min settings.lookback.milliseconds Instant.greatest)

theorem lookbackOf_eq (request : Request V) (settings : EngineSettings) :
    lookbackOf settings (request.stepSeconds * 1000) = reach request settings :=
  Int.max_comm _ _

variable [Scalar V]

/-- Whether a threshold can be counted against, with a reducer that adds counts up. -/
def Counts (reducer : SpaceReducer) (threshold : ThresholdRequest V) : Prop :=
  Scalar.isFinite threshold.bound = true ∧ (reducer = .sum ∨ reducer = .count) ∧
    ∃ comparison, Comparison.read threshold.comparison = .ok comparison

theorem adds_iff {reducer : SpaceReducer} :
    ¬ (reducer ≠ .sum ∧ reducer ≠ .count) ↔ reducer = .sum ∨ reducer = .count := by
  tauto

theorem checkThreshold_isOk_iff {request : ThresholdRequest V} {reducer : SpaceReducer} :
    (∃ threshold, checkThreshold request reducer = .ok threshold) ↔ Counts reducer request := by
  unfold Counts
  constructor
  · rintro ⟨threshold, passed⟩
    rw [checkThreshold] at passed
    split at passed
    · cases passed
    · rename_i finite
      split at passed
      · cases passed
      · rename_i adds
        rcases bind_eq_ok_iff.mp passed with ⟨comparison, read, -⟩
        exact ⟨by simpa using finite, adds_iff.mp adds, comparison, read⟩
  · rintro ⟨finite, adds, comparison, read⟩
    refine ⟨⟨request.bound, comparison⟩, ?_⟩
    rw [checkThreshold, finite, if_neg (adds_iff.mpr adds), read]
    rfl

theorem mapM_checkThreshold_isOk_iff {asked : Option (ThresholdRequest V)}
    {reducer : SpaceReducer} :
    (∃ threshold, asked.mapM (checkThreshold · reducer) = .ok threshold) ↔
      ∀ threshold ∈ asked, Counts reducer threshold := by
  cases asked with
  | none => exact ⟨fun _ _ => nofun, fun _ => ⟨none, rfl⟩⟩
  | some request =>
      constructor
      · rintro ⟨_, passed⟩ other held
        obtain rfl := Option.mem_some.mp held
        rcases bind_eq_ok_iff.mp passed with ⟨threshold, checked, -⟩
        exact checkThreshold_isOk_iff.mp ⟨threshold, checked⟩
      · intro counts
        obtain ⟨threshold, checked⟩ := checkThreshold_isOk_iff.mpr (counts request rfl)
        refine ⟨some threshold, ?_⟩
        rw [Option.mapM_some, checked]
        rfl

/-- The checks of a request, each by itself. -/
structure Passes (patterns : PatternEngine) (request : Request V) (settings : EngineSettings) :
    Prop where
  named : Text.trim request.metric ≠ ""
  step : 0 < request.stepSeconds ∧ Word.Fits (request.stepSeconds * 1000)
  /-- There is a grid that is not too long, with room before it. -/
  grid : ∃ grid, Grid.cover request.start request.stop (request.stepSeconds * 1000) = .ok grid ∧
    grid.size ≤ settings.maxPoints ∧ Word.Fits (grid.start - reach request settings)
  timeReducer : ∃ reducer, TimeReducer.read request.timeReducer = .ok reducer
  spaceReducer : ∃ reducer, SpaceReducer.read request.spaceReducer = .ok reducer ∧
    ∀ threshold ∈ request.threshold, Counts reducer threshold
  groupBy : ∀ name ∈ request.groupBy, Text.trim name ≠ ""
  filter : ∃ expr predicate, Filter.readExpr request.filter = .ok expr ∧
    Filter.compile patterns expr = .ok predicate

/-- What a plan is known to be. -/
structure Answers (request : Request V) (settings : EngineSettings) (plan : Plan V) : Prop where
  fetchStart : plan.fetchStart + plan.lookback = plan.grid.start
  step : plan.grid.step = request.stepSeconds * 1000
  lookback : plan.lookback = reach request settings
  step_le_lookback : plan.grid.step ≤ plan.lookback
  groupBy : FirstOf (request.groupBy.map Text.trim) plan.groupBy

variable {patterns : PatternEngine} {request : Request V} {settings : EngineSettings}
  {plan : Plan V}

theorem Checked.answers (checked : Checked patterns request settings plan) :
    Answers request settings plan where
  fetchStart := by
    rw [checked.fetchStart_eq]
    omega
  step := checked.step_eq
  lookback := by
    rw [checked.lookback, checked.step_eq, lookbackOf_eq]
  step_le_lookback := by
    rw [checked.lookback]
    exact Int.le_max_right _ _
  groupBy := by
    rw [(groupNames_eq_ok_iff.mp checked.groupBy).2]
    exact firstOf_eraseDups _

theorem Checked.passes (words : request.InWords)
    (checked : Checked patterns request settings plan) :
    Passes patterns request settings where
  named := checked.named
  step := (stepOfSeconds_eq_ok_iff.mp checked.step).1
  grid := by
    obtain ⟨covered, few⟩ := gridWithin_eq_ok_iff.mp checked.grid
    have room := (fetchStartOf_eq_ok_iff.mp checked.fetchStart).1
    have early : plan.grid.start - plan.lookback ≤ Instant.greatest := by
      have aligned := Grid.align_le plan.grid.step_pos request.start
      have positive := checked.lookback_pos
      have last := words.start.2
      rw [checked.cover.1]
      omega
    rw [checked.step_eq] at covered
    exact ⟨plan.grid, covered, few, checked.answers.lookback ▸ ⟨room, early⟩⟩
  timeReducer := ⟨_, checked.timeReducer⟩
  spaceReducer := ⟨_, checked.spaceReducer, mapM_checkThreshold_isOk_iff.mp ⟨_, checked.threshold⟩⟩
  groupBy := (groupNames_eq_ok_iff.mp checked.groupBy).1
  filter := by
    obtain ⟨expr, read, compiled, -⟩ := Filter.ofText_eq_ok_iff.mp checked.filter
    exact ⟨expr, _, read, compiled⟩

theorem Passes.checked (passes : Passes patterns request settings) :
    ∃ plan, Checked patterns request settings plan := by
  obtain ⟨grid, covered, few, room⟩ := passes.grid
  obtain ⟨timeReducer, time⟩ := passes.timeReducer
  obtain ⟨spaceReducer, space, counts⟩ := passes.spaceReducer
  obtain ⟨threshold, against⟩ := mapM_checkThreshold_isOk_iff.mpr counts
  obtain ⟨expr, predicate, read, compiled⟩ := passes.filter
  have step : grid.step = request.stepSeconds * 1000 := (Grid.cover_eq_ok covered).1.2.2
  refine ⟨{ metric := Text.trim request.metric, grid, lookback := reach request settings
            fetchStart := grid.start - reach request settings, timeReducer, spaceReducer
            filter := ⟨predicate, Text.trim request.filter⟩
            groupBy := (request.groupBy.map Text.trim).eraseDups, threshold
            timeout := (request.timeout.map .ofMilliseconds).getD settings.queryTimeout }, ?_⟩
  constructor
  case named => exact passes.named
  case metric => rfl
  case step => exact stepOfSeconds_eq_ok_iff.mpr ⟨passes.step, step⟩
  case grid => exact gridWithin_eq_ok_iff.mpr ⟨step ▸ covered, few⟩
  case timeReducer => exact time
  case spaceReducer => exact space
  case threshold => exact against
  case groupBy => exact groupNames_eq_ok_iff.mpr ⟨passes.groupBy, rfl⟩
  case filter => exact Filter.ofText_eq_ok_iff.mpr ⟨expr, read, compiled, rfl⟩
  case lookback => exact (step ▸ lookbackOf_eq request settings).symm
  case fetchStart => exact fetchStartOf_eq_ok_iff.mpr ⟨room.1, rfl⟩
  case timeout => rfl

/-- Requests make a plan just when they pass, and nothing overflows on the way. -/
theorem ofRequest_exact (words : request.InWords) (lookback : settings.lookback.InWords) :
    Word.Reaches (ofRequestInWords patterns request settings) measures
        (ofRequest patterns request settings) ∧
      (∀ failure, ofRequest patterns request settings = .error failure →
        (∃ fault, failure = .query fault) ∨ ∃ fault, failure = .filter fault) ∧
      ((∃ plan, ofRequest patterns request settings = .ok plan) ↔
        Passes patterns request settings) ∧
      ∀ plan, ofRequest patterns request settings = .ok plan → Answers request settings plan := by
  refine ⟨reaches_ofRequest patterns words lookback, fun failure failed => ?_,
    ⟨?_, fun passes => ?_⟩, fun plan made => (ofRequest_eq_ok_iff.mp made).answers⟩
  · exact Failure.isClientError_iff.mp
      (clientOnly_ofRequest patterns request settings failure failed)
  · rintro ⟨plan, made⟩
    exact (ofRequest_eq_ok_iff.mp made).passes words
  · obtain ⟨plan, checked⟩ := passes.checked
    exact ⟨plan, ofRequest_eq_ok_iff.mpr checked⟩

/-- A filter, a threshold, and names that come up again with blanks around them. -/
def farBack : Request Float where
  metric := " latency "
  start := 90500
  stop := 600000
  stepSeconds := 45
  timeReducer := "Rate"
  spaceReducer := " SUM "
  filter := "job = 'a'"
  groupBy := [" zone ", "job", "zone", " job"]
  threshold := some ⟨2, " <= "⟩
  timeout := none

/-- The longest lookback there is. -/
def longest : EngineSettings := { lookback := ⟨2 ^ 64 * 1000000000 - 1⟩ }

def farBackPlan : Plan Float where
  metric := "latency"
  grid := ⟨90000, 600000, 45000, by decide, by decide⟩
  lookback := Instant.greatest
  fetchStart := Instant.least + 90001
  timeReducer := .rate
  spaceReducer := .sum
  filter := ⟨.equals "job" (.word "a") false, "job = 'a'"⟩
  groupBy := ["zone", "job"]
  threshold := some ⟨2, .atMost⟩
  timeout := .ofSeconds 30

theorem ofRequest_exact_farBack :
    farBack.InWords ∧ longest.lookback.InWords ∧
      (ofRequestInWords Pattern.engine farBack longest).run =
        some (.ok ⟨45000, 90000, 12, Instant.greatest, Instant.least + 90001⟩) ∧
      Passes Pattern.engine farBack longest ∧
      ofRequest Pattern.engine farBack longest = .ok farBackPlan ∧
      Answers farBack longest farBackPlan := by
  have words : farBack.InWords := ⟨by decide, by decide, by decide⟩
  have lookback : longest.lookback.InWords := by
    unfold Duration.InWords
    decide
  have filter : Filter.ofText Pattern.engine "job = 'a'" = .ok farBackPlan.filter :=
    Filter.ofText_eq_ok_iff.mpr
      ⟨.comparison "job" .equal (.word "a"), by cbv, rfl, by decide⟩
  have planned : ofRequest Pattern.engine farBack longest = .ok farBackPlan :=
    ofRequest_eq_ok_iff.mpr
      { named := by decide
        metric := by decide
        step := by decide
        grid := by rfl
        timeReducer := by decide
        spaceReducer := by decide
        threshold := by rfl
        groupBy := by decide
        filter := filter
        lookback := by decide
        fetchStart := by decide
        timeout := rfl }
  obtain ⟨reached, -, passes, answers⟩ := ofRequest_exact words lookback
  rw [Word.Reaches, planned] at reached
  exact ⟨words, lookback, reached, passes.mp ⟨_, planned⟩, planned, answers _ planned⟩

end Plan

end SeriesQuery
