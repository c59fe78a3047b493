import Mathlib.Algebra.GroupWithZero.Nat
import SeriesQuery.Proofs.Grid.Words
import SeriesQuery.Proofs.Plan
/-!
Requests checked in 64 bits. Some steps of the reckoning are checked themselves and refuse the
request where they overflow; all the others stay within 64 bits, or within 128 where the lookback is
counted out. Main statement: the reckoning overflows nowhere and comes to the same plan.
-/
namespace SeriesQuery

namespace Word

/-- The remainder that is not negative, wherever there is a quotient. -/
def modulo? (value divisor : Int) : Option Int :=
  (quotient? value divisor).map fun _ => value % divisor

theorem modulo?_eq {value divisor : Int} (fits : Fits value) (positive : 0 < divisor) :
    modulo? value divisor = some (value % divisor) := by
  have fits' : Fits (value.tdiv divisor) := by
    rcases Int.le_total 0 value with nonneg | nonpos
    · exact fits_zero.between fits (Int.tdiv_nonneg nonneg (Int.le_of_lt positive))
        (Int.tdiv_le_self divisor nonneg)
    · have size := Int.tdiv_nonneg (Int.neg_nonneg_of_nonpos nonpos) (Int.le_of_lt positive)
      have small := Int.tdiv_le_self divisor (Int.neg_nonneg_of_nonpos nonpos)
      rw [Int.neg_tdiv] at size small
      exact fits.between fits_zero (by omega) (by omega)
  rw [modulo?, quotient?, if_neg (Int.ne_of_gt positive), result?_eq fits']
  rfl

/-- A result in 128 bits without a sign, unless it overflows. -/
def wide? (value : Nat) : Option Nat := if value < 2 ^ 128 then some value else none

/--
A result reckoned in 64 bits. It may be refused on the way; where a step that is not checked
overflows, there is none at all.
-/
abbrev Reckoning (ε α : Type) := ExceptT ε Option α

/-- A step of its own that refuses what overflows. -/
def checked {ε : Type} (value : Int) (fault : ε) : Reckoning ε Int :=
  match result? value with
  | some value => return value
  | none => throw fault

/-- A step that reckons nothing. -/
def given {ε α : Type} (result : Except ε α) : Reckoning ε α := ExceptT.mk (some result)

theorem some_bind {ε α β : Type} (value : α) (next : α → Reckoning ε β) :
    (liftM (some value) : Reckoning ε α) >>= next = next value := rfl

/-- Whether a reckoning overflows nowhere and comes to what is seen of a result. -/
def Reaches {ε α β : Type} (reckoning : Reckoning ε α) (view : β → α) (result : Except ε β) :
    Prop :=
  reckoning.run = some (result.map view)

namespace Reaches

variable {ε φ α β γ δ : Type}

theorem given (result : Except ε α) : Reaches (given result) id result := by
  cases result <;> rfl

theorem bind {reckoning : Reckoning ε α} {view : β → α} {result : Except ε β}
    {next : α → Reckoning ε γ} {view' : δ → γ} {rest : β → Except ε δ}
    (first : Reaches reckoning view result)
    (second : ∀ value, result = .ok value → Reaches (next (view value)) view' (rest value)) :
    Reaches (reckoning >>= next) view' (result >>= rest) := by
  cases result with
  | error fault =>
      rw [Reaches, ExceptT.run_bind, first]
      rfl
  | ok value =>
      rw [Reaches, ExceptT.run_bind, first]
      exact second value rfl

theorem adapt {reckoning : Reckoning ε α} {view : β → α} {result : Except ε β} (change : ε → φ)
    (reached : Reaches reckoning view result) :
    Reaches (ExceptT.adapt change reckoning) view (result.mapError change) := by
  have settled : reckoning = ExceptT.mk (some (result.map view)) := reached
  subst settled
  cases result <;> rfl

end Reaches

theorem checked_of_fits {ε : Type} {value : Int} (fits : Fits value) (fault : ε) :
    checked value fault = pure value := by
  rw [checked, result?_eq fits]

theorem checked_of_not_fits {ε : Type} {value : Int} (fails : ¬ Fits value) (fault : ε) :
    checked value fault = throw fault := by
  rw [checked, result?, if_neg fails]

theorem reaches_checked {ε : Type} (value : Int) (fault : ε) :
    Reaches (checked value fault) id (if Fits value then .ok value else .error fault) := by
  by_cases fits : Fits value
  · rw [checked_of_fits fits, if_pos fits]
    rfl
  · rw [checked_of_not_fits fits, if_neg fits]
    rfl

end Word

namespace Grid

/-- The number of steps of a length of time: the whole ones, and one more for what they leave. -/
def stepsInWords? (span step : Int) : Option Int := do
  let whole ← Word.quotient? span step
  let left ← Word.remainder? span step
  Word.result? (whole + if left = 0 then 0 else 1)

/-- The start of the grid of a range, and its number of steps. -/
def coverInWords (start stop step : Int) : Word.Reckoning QueryFault (Int × Int) :=
  if step ≤ 0 then throw (.stepNotPositive step)
  else if stop ≤ start then throw (.endNotAfterStart start stop)
  else do
    let past ← Word.modulo? start step
    let first ← Word.checked (start - past) (.rangeTooWide start stop)
    let span ← Word.checked (stop - first) (.rangeTooWide start stop)
    let steps ← stepsInWords? span step
    if steps < 0 then throw (.rangeTooWide start stop) else return (first, steps)

/-- What is reckoned of a grid. -/
def measured (grid : Grid) : Int × Int := (grid.start, grid.size)

theorem InWords.stepsInWords?_eq {grid : Grid} (words : grid.InWords) :
    stepsInWords? (grid.stop - grid.start) grid.step = some (grid.size : Int) := by
  have size := words.sizeInWords?_eq
  rwa [sizeInWords?, Word.result?_eq words.span] at size

theorem reaches_cover {start stop step : Int} (fitsStart : Word.Fits start)
    (fitsStop : Word.Fits stop) :
    Word.Reaches (coverInWords start stop step) measured (cover start stop step) := by
  rw [coverInWords, cover]
  split
  · rename_i low
    rw [dif_neg (Int.not_lt.mpr low)]
    rfl
  · rename_i positive
    have positive := Int.not_le.mp positive
    rw [dif_pos positive]
    split
    · rename_i early
      rw [dif_neg (Int.not_lt.mpr early)]
      rfl
    · rename_i later
      have later := Int.not_le.mp later
      have aligned := align_le positive start
      rw [dif_pos later, Word.modulo?_eq fitsStart positive, Word.some_bind,
        show start - start % step = align start step from rfl]
      by_cases low : align start step < Instant.least
      · rw [if_pos (.inl low), Word.checked_of_not_fits fun fits => Int.not_lt.mpr fits.1 low]
        rfl
      · have fitsFirst : Word.Fits (align start step) :=
          ⟨Int.not_lt.mp low, Int.le_trans aligned fitsStart.2⟩
        rw [Word.checked_of_fits fitsFirst, pure_bind]
        by_cases wide : Instant.greatest < stop - align start step
        · rw [if_pos (.inr wide), Word.checked_of_not_fits fun fits => Int.not_lt.mpr fits.2 wide]
          rfl
        · have fitsSpan : Word.Fits (stop - align start step) :=
            ⟨Int.le_trans Word.fits_zero.1 (by omega), Int.not_lt.mp wide⟩
          have words : InWords ⟨align start step, stop, step, positive,
              Int.lt_of_le_of_lt aligned later⟩ := ⟨fitsFirst, fitsStop, fitsSpan⟩
          rw [if_neg (by omega), Word.checked_of_fits fitsSpan, pure_bind, words.stepsInWords?_eq,
            Word.some_bind, if_neg (Int.not_lt.mpr (Int.natCast_nonneg _))]
          rfl

end Grid

/-- Whole milliseconds, counted out in 128 bits. -/
def Duration.millisecondsInWords? (duration : Duration) : Option Nat := do
  let whole ← Word.wide? (duration.seconds * 1000)
  Word.wide? (whole + duration.subsecond / 1000000)

/-- Whether the seconds of a duration have a value in 64 bits. -/
def Duration.InWords (duration : Duration) : Prop := duration.seconds < 2 ^ 64

theorem Duration.millisecondsInWords?_eq {duration : Duration} (words : duration.InWords) :
    duration.millisecondsInWords? = some duration.milliseconds := by
  unfold InWords at words
  have split : duration.seconds * 1000 + duration.subsecond / 1000000 = duration.milliseconds := by
    unfold seconds subsecond milliseconds
    omega
  have small : duration.subsecond < 1000000000 := Nat.mod_lt _ (by decide)
  have whole : Word.wide? (duration.seconds * 1000) = some (duration.seconds * 1000) :=
    if_pos (by omega)
  have sum : Word.wide? (duration.seconds * 1000 + duration.subsecond / 1000000) =
      some (duration.seconds * 1000 + duration.subsecond / 1000000) := if_pos (by omega)
  rw [millisecondsInWords?, whole, Option.bind_eq_bind, Option.bind_some, sum, split]

/-- Whether the instants of a request and its step have values in 64 bits. -/
structure Request.InWords {V : Type} (request : Request V) : Prop where
  start : Word.Fits request.start
  stop : Word.Fits request.stop
  stepSeconds : Word.Fits request.stepSeconds

namespace Plan

/-- Everything that is reckoned of a plan. -/
structure Measures where
  step : Int
  start : Int
  steps : Int
  lookback : Int
  fetchStart : Int

section Reckoning

variable {V : Type}

def measures (plan : Plan V) : Measures :=
  ⟨plan.grid.step, plan.grid.start, plan.grid.size, plan.lookback, plan.fetchStart⟩

def stepInWords (seconds : Int) : Word.Reckoning QueryFault Int :=
  if seconds ≤ 0 then throw (.secondsNotPositive seconds)
  else Word.checked (seconds * 1000) .secondsTooMany

def gridInWords (limit : Nat) (start stop step : Int) : Word.Reckoning QueryFault (Int × Int) := do
  let (first, steps) ← Grid.coverInWords start stop step
  if limit < steps then throw (.tooManySteps steps.toNat limit) else return (first, steps)

/-- The lookback, or the greatest number in its place where it does not fit. -/
def lookbackInWords? (settings : EngineSettings) (step : Int) : Option Int := do
  let milliseconds ← settings.lookback.millisecondsInWords?
  return max ((Word.result? milliseconds).getD Instant.greatest) step

def fetchStartInWords (request : Request V) (start lookback : Int) :
    Word.Reckoning QueryFault Int :=
  Word.checked (start - lookback) (.lookbackTooLong request.start lookback)

variable [Scalar V]

/-- The checks of a request in their order, each with its reckoning. -/
def ofRequestInWords (patterns : PatternEngine) (request : Request V)
    (settings : EngineSettings) : Word.Reckoning Failure Measures :=
  let asked {α : Type} : Word.Reckoning QueryFault α → Word.Reckoning Failure α :=
    ExceptT.adapt .query
  if Text.trim request.metric = "" then throw (.query .metricMissing)
  else do
    let step ← asked (stepInWords request.stepSeconds)
    let (start, steps) ← asked (gridInWords settings.maxPoints request.start request.stop step)
    let _ ← asked (Word.given (TimeReducer.read request.timeReducer))
    let spaceReducer ← asked (Word.given (SpaceReducer.read request.spaceReducer))
    let _ ← asked (Word.given (request.threshold.mapM (checkThreshold · spaceReducer)))
    let _ ← asked (Word.given (groupNames request.groupBy))
    let _ ← Word.given ((Filter.ofText patterns request.filter).mapError Failure.filter)
    let lookback ← lookbackInWords? settings step
    let fetchStart ← asked (fetchStartInWords request start lookback)
    return ⟨step, start, steps, lookback, fetchStart⟩

end Reckoning

theorem reaches_step {seconds : Int} :
    Word.Reaches (stepInWords seconds) id (stepOfSeconds seconds) := by
  rw [stepInWords, stepOfSeconds]
  split
  · rfl
  · rename_i positive
    have reached := Word.reaches_checked (seconds * 1000) QueryFault.secondsTooMany
    by_cases many : Instant.greatest < seconds * 1000
    · rw [if_neg fun fits => Int.not_lt.mpr fits.2 many] at reached
      rwa [if_pos many]
    · rw [if_pos ⟨Int.le_trans Word.fits_zero.1 (by omega), Int.not_lt.mp many⟩] at reached
      rwa [if_neg many]

theorem reaches_grid {limit : Nat} {start stop step : Int} (fitsStart : Word.Fits start)
    (fitsStop : Word.Fits stop) :
    Word.Reaches (gridInWords limit start stop step) Grid.measured
      (gridWithin limit start stop step) := by
  refine (Grid.reaches_cover fitsStart fitsStop).bind fun grid _ => ?_
  by_cases many : limit < grid.size
  · rw [if_pos many]
    change Word.Reaches (if (limit : Int) < grid.size then _ else _) _ _
    rw [if_pos (Int.ofNat_lt.mpr many)]
    rfl
  · rw [if_neg many]
    change Word.Reaches (if (limit : Int) < grid.size then _ else _) _ _
    rw [if_neg (mt Int.ofNat_lt.mp many)]
    rfl

theorem lookbackInWords?_eq {settings : EngineSettings} (words : settings.lookback.InWords)
    (step : Int) : lookbackInWords? settings step = some (lookbackOf settings step) := by
  have capped : (Word.result? settings.lookback.milliseconds).getD Instant.greatest =
      min (settings.lookback.milliseconds : Int) Instant.greatest := by
    have nonneg := Int.le_trans Word.fits_zero.1 (Int.natCast_nonneg settings.lookback.milliseconds)
    by_cases small : (settings.lookback.milliseconds : Int) ≤ Instant.greatest
    · rw [Word.result?_eq ⟨nonneg, small⟩, Int.min_eq_left small]
      rfl
    · rw [Word.result?, if_neg fun fits => small fits.2, Int.min_eq_right (by omega)]
      rfl
  rw [lookbackInWords?, Duration.millisecondsInWords?_eq words, Option.bind_eq_bind,
    Option.bind_some, capped]
  rfl

variable {V : Type}

theorem reaches_fetchStart {request : Request V} {grid : Grid} {lookback : Int}
    (fits : Word.Fits grid.start) (positive : 0 ≤ lookback) :
    Word.Reaches (fetchStartInWords request grid.start lookback) id
      (fetchStartOf request grid lookback) := by
  have reached := Word.reaches_checked (grid.start - lookback)
    (QueryFault.lookbackTooLong request.start lookback)
  rw [fetchStartOf]
  by_cases early : grid.start - lookback < Instant.least
  · rw [if_neg fun fits => Int.not_lt.mpr fits.1 early] at reached
    rwa [if_pos early]
  · have late : grid.start - lookback ≤ Instant.greatest := by
      have := fits.2
      omega
    rw [if_pos ⟨Int.not_lt.mp early, late⟩] at reached
    rwa [if_neg early]

variable [Scalar V]

theorem reaches_ofRequest (patterns : PatternEngine) {request : Request V}
    {settings : EngineSettings} (words : request.InWords) (lookback : settings.lookback.InWords) :
    Word.Reaches (ofRequestInWords patterns request settings) measures
      (ofRequest patterns request settings) := by
  by_cases missing : Text.trim request.metric = ""
  · simp only [ofRequestInWords, ofRequest, if_pos missing]
    rfl
  · simp only [ofRequestInWords, ofRequest, if_neg missing]
    refine (reaches_step.adapt _).bind fun step seconds => ?_
    refine ((reaches_grid words.start words.stop).adapt _).bind fun grid within => ?_
    refine ((Word.Reaches.given _).adapt _).bind fun timeReducer _ => ?_
    refine ((Word.Reaches.given _).adapt _).bind fun spaceReducer _ => ?_
    refine ((Word.Reaches.given _).adapt _).bind fun threshold _ => ?_
    refine ((Word.Reaches.given _).adapt _).bind fun groupBy _ => ?_
    refine (Word.Reaches.given _).bind fun filter _ => ?_
    have covered := Grid.cover_eq_ok (cover_of_gridWithin (mapError_eq_ok_iff.mp within))
    obtain rfl : grid.step = step := covered.1.2.2
    have fits : Word.Fits grid.start := by
      refine ⟨covered.2.1, Int.le_trans ?_ words.start.2⟩
      rw [covered.1.1]
      exact Grid.align_le grid.step_pos _
    have positive : 0 ≤ lookbackOf settings grid.step :=
      Int.le_trans (Int.le_of_lt grid.step_pos) (Int.le_max_right _ _)
    simp only [id]
    rw [lookbackInWords?_eq lookback, Word.some_bind]
    exact ((reaches_fetchStart fits positive).adapt _).bind fun fetchStart _ => rfl

end Plan

end SeriesQuery
