import SeriesQuery.Http.Server
import SeriesQuery.Proofs.Engine.Outcome
/-!
Whose fault it is when a query has no answer. Main statement: the engine refuses a request only for
what the request asks, whatever is stored, and over HTTP such a request is answered as a bad one and
never as a failure of the server.
-/
namespace SeriesQuery

/-- A query fails only by what its caller asked for. -/
theorem Engine.clientOnly_query {V : Type} [Scalar V] (engine : Engine V) (request : Request V)
    (schedule : Schedule) : ClientOnly (engine.query request schedule).2 := by
  intro failure failed
  rcases query_eq_error_iff.mp failed with unplanned | ⟨plan, -, fault, rfl, -⟩
  · exact Plan.clientOnly_ofRequest engine.patterns request engine.settings failure unplanned
  · rfl

namespace Http

theorem Problem.status_of_isClientError {problem : Problem}
    (client : problem.isClientError = true) : problem.status = 400 := by
  cases problem with
  | body fault => rfl
  | refused failure =>
      cases failure <;> first | rfl | cases client

namespace Server

variable {server : Server} {request : Request} {schedule : Schedule}

theorem status_of_query_eq_error {asked : SeriesQuery.Request Float}
    (read : readBody server.settings request = .ok asked) {failure : Failure}
    (failed : (server.engine.query asked schedule).2 = .error failure) :
    (server.query request schedule).2.status = 400 := by
  have client := server.engine.clientOnly_query asked schedule failure failed
  rw [query, read]
  dsimp only
  rw [failed]
  exact Problem.status_of_isClientError (show (Problem.refused failure).isClientError from client)

theorem status_of_query_eq_ok {asked : SeriesQuery.Request Float}
    (read : readBody server.settings request = .ok asked) {curves : List (Curve Float)}
    (answered : (server.engine.query asked schedule).2 = .ok curves) :
    (server.query request schedule).2.status = 200 := by
  rw [query, read]
  dsimp only
  rw [answered]
  rfl

theorem status_query : (server.query request schedule).2.status = 200 ∨
    (server.query request schedule).2.status = 400 := by
  cases read : readBody server.settings request with
  | error fault =>
      rw [query, read]
      exact .inr rfl
  | ok asked =>
      cases result : (server.engine.query asked schedule).2 with
      | ok curves => exact .inl (status_of_query_eq_ok read result)
      | error failure => exact .inr (status_of_query_eq_error read result)

theorem query_refuses_iff (server : Server) (asked : SeriesQuery.Request Float)
    (schedule : Schedule) :
    ((∃ failure, (server.engine.query asked schedule).2 = .error failure) ↔
      (∃ failure, server.engine.plan asked = .error failure) ∨
      ∃ plan, server.engine.plan asked = .ok plan ∧
        ((∃ a ∈ plan.select server.engine.store, ∃ b ∈ plan.select server.engine.store,
          a.type ≠ b.type) ∨
        ∃ type, plan.select server.engine.store ≠ [] ∧
          (∀ series ∈ plan.select server.engine.store, series.type = type) ∧
          ∃ fault, plan.checkType type = .error fault)) ∧
    (∀ failure, (server.engine.query asked schedule).2 = .error failure →
      ((∃ fault, failure = .query fault) ∨ ∃ fault, failure = .filter fault) ∧
      failure.isClientError = true ∧
      ∀ request, readBody server.settings request = .ok asked →
        (server.query request schedule).2.status = 400) ∧
    (∀ curves, (server.engine.query asked schedule).2 = .ok curves →
      ∀ request, readBody server.settings request = .ok asked →
        (server.query request schedule).2.status = 200) ∧
    (∀ plan, server.engine.plan asked = .ok plan →
      plan.Fits ∧
      plan.fetch server.engine.store = .ok (plan.select server.engine.store) ∧
      (plan.select server.engine.store = [] →
        (server.engine.query asked schedule).2 = .ok [])) ∧
    ∀ request, (server.query request schedule).2.status = 200 ∨
      (server.query request schedule).2.status = 400 := by
  refine ⟨Engine.refused_iff, ?_, ?_, ?_, fun request => status_query⟩
  · intro failure failed
    have client := server.engine.clientOnly_query asked schedule failure failed
    exact ⟨Failure.isClientError_iff.mp client, client,
      fun request read => status_of_query_eq_error read failed⟩
  · intro curves answered request read
    exact status_of_query_eq_ok read answered
  · intro plan planned
    have checked := Plan.ofRequest_eq_ok_iff.mp planned
    exact ⟨checked.fits, plan.fetch_eq_select _, Engine.query_eq_nil planned⟩

end Server

end Http

end SeriesQuery
