/-! Results of steps that may fail: what the steps of a successful one have given. -/
namespace SeriesQuery

theorem bind_eq_ok_iff {ε α β : Type} {result : Except ε α} {next : α → Except ε β} {value : β} :
    result >>= next = .ok value ↔ ∃ middle, result = .ok middle ∧ next middle = .ok value := by
  cases result with
  | error fault => simp [bind, Except.bind]
  | ok middle => simp [bind, Except.bind]

theorem mapError_eq_ok_iff {ε φ α : Type} {result : Except ε α} {change : ε → φ} {value : α} :
    result.mapError change = .ok value ↔ result = .ok value := by
  cases result with
  | error fault =>
      constructor
      · intro impossible
        cases impossible
      · intro impossible
        cases impossible
  | ok found => exact ⟨fun same => by cases same; rfl, fun same => by cases same; rfl⟩

theorem mapError_eq_error_iff {ε φ α : Type} {result : Except ε α} {change : ε → φ} {fault : φ} :
    result.mapError change = .error fault ↔
      ∃ cause, result = .error cause ∧ fault = change cause := by
  constructor
  · intro failed
    cases result with
    | error cause =>
        cases failed
        exact ⟨cause, rfl, rfl⟩
    | ok found => cases failed
  · rintro ⟨cause, rfl, rfl⟩
    rfl

theorem map_eq_ok_iff {ε α β : Type} {result : Except ε α} {change : α → β} {value : β} :
    result.map change = .ok value ↔ ∃ found, result = .ok found ∧ value = change found := by
  cases result with
  | error fault => simp [Except.map]
  | ok found => simp [Except.map, eq_comm]

theorem map_eq_error_iff {ε α β : Type} {result : Except ε α} {change : α → β} {fault : ε} :
    result.map change = .error fault ↔ result = .error fault := by
  cases result with
  | error cause => simp [Except.map]
  | ok found => simp [Except.map]

end SeriesQuery
